import FileProfile.Text.Lower

/-!
# Media types

The media type of a file is looked up by its extension, in a table that the caller may replace.
Where the table has no entry, text is `text/plain` and all else `application/octet-stream`.
-/

namespace FileProfile

/-- A table of media types by extension. -/
structure MediaTable where
  /-- The media type of an extension, given without its dot. -/
  lookup : String → Option String

namespace MediaTable

/-- The media types of the standard table, by extension in lower case. -/
def standardTypes : List (String × String) := [
  -- source code
  ("rb", "application/x-ruby"), ("py", "text/x-python"), ("pl", "application/x-perl"),
  ("pm", "application/x-perl"), ("sh", "application/x-sh"), ("js", "application/javascript"),
  ("ts", "application/typescript"), ("c", "text/x-c"), ("h", "text/x-c"),
  ("cpp", "text/x-c++src"), ("hpp", "text/x-c++hdr"), ("m", "text/x-objcsrc"),
  ("java", "text/x-java"), ("go", "text/x-go"), ("rs", "text/x-rust"),
  ("php", "application/x-httpd-php"), ("tcl", "application/x-tcl"), ("sql", "application/sql"),
  -- markup and data
  ("html", "text/html"), ("htm", "text/html"), ("css", "text/css"), ("xml", "application/xml"),
  ("json", "application/json"), ("yml", "text/yaml"), ("yaml", "text/yaml"), ("csv", "text/csv"),
  ("md", "text/markdown"), ("txt", "text/plain"), ("diff", "text/x-diff"),
  ("patch", "text/x-diff"), ("svg", "image/svg+xml"),
  -- images
  ("png", "image/png"), ("jpg", "image/jpeg"), ("jpeg", "image/jpeg"), ("gif", "image/gif"),
  ("bmp", "image/bmp"), ("webp", "image/webp"), ("psd", "image/vnd.adobe.photoshop"),
  -- archives and documents
  ("pdf", "application/pdf"), ("zip", "application/zip"), ("gz", "application/gzip"),
  ("tar", "application/x-tar"), ("jar", "application/java-archive"),
  ("deb", "application/vnd.debian.binary-package"), ("exe", "application/x-msdownload")]

/-- The standard table. It knows an extension in any case. -/
def standard : MediaTable := ⟨fun extension => standardTypes.lookup (Text.lower extension)⟩

/-- The table of the given pairs. It knows an extension only as written. -/
def ofPairs (pairs : List (String × String)) : MediaTable :=
  ⟨fun extension => pairs.lookup extension⟩

/-- The media type of text that the table does not know. -/
def plainText : String := "text/plain"

/-- The media type of binary content that the table does not know. -/
def octetStream : String := "application/octet-stream"

/-- The media type of a file with this extension, if it has one. -/
def typeOf (table : MediaTable) (extension : Option String) (binary : Bool) : String :=
  (extension.bind table.lookup).getD (if binary then octetStream else plainText)

end MediaTable

end FileProfile
