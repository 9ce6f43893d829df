import FileProfile.Language.Basic

/-!
# The languages

The languages that are known, each a constant, and the list of all of them. Their order matters:
where several languages claim a file and its content does not decide, the first in the list has it.
-/

namespace FileProfile.Language

def text : Language where
  name := "Text"
  kind := .prose
  lexer := plainTextLexer
  extensions := ["txt"]
  ignoreCase := true

def c : Language where
  name := "C"
  extensions := ["c", "h", "w"]

def cPlusPlus : Language where
  name := "C++"
  extensions := ["cpp", "cc", "cxx", "c++", "hpp", "hh", "hxx", "h++", "h", "tcc", "inl"]

def objectiveC : Language where
  name := "Objective-C"
  extensions := ["m", "h"]

def matlab : Language where
  name := "Matlab"
  extensions := ["m"]

def cSharp : Language where
  name := "C#"
  extensions := ["cs", "csx"]

def ruby : Language where
  name := "Ruby"
  extensions := ["rb", "rake", "gemspec", "rbx", "ru", "builder", "podspec", "thor", "rabl",
    "jbuilder"]
  filenames := ["Capfile", "Rakefile", "Gemfile", "Guardfile", "Podfile", "Vagrantfile",
    "Thorfile", "Berksfile", ".irbrc", ".pryrc"]
  interpreters := ["ruby", "macruby", "rake", "jruby", "rbx"]

def perl : Language where
  name := "Perl"
  extensions := ["pl", "pm", "t", "pod", "perl", "psgi"]
  interpreters := ["perl"]

def prolog : Language where
  name := "Prolog"
  extensions := ["pl", "pro", "prolog"]
  interpreters := ["swipl"]

def python : Language where
  name := "Python"
  extensions := ["py", "pyw", "pyi", "wsgi", "gyp"]
  filenames := ["SConstruct", "SConscript", "wscript"]
  interpreters := ["python"]

def javaScript : Language where
  name := "JavaScript"
  extensions := ["js", "mjs", "cjs", "jake", "jsm"]
  filenames := ["Jakefile"]
  interpreters := ["node", "nodejs"]

def typeScript : Language where
  name := "TypeScript"
  extensions := ["ts", "mts", "cts"]

def coffeeScript : Language where
  name := "CoffeeScript"
  extensions := ["coffee", "cake"]
  filenames := ["Cakefile"]
  interpreters := ["coffee"]

def shell : Language where
  name := "Shell"
  lexer := "Bash"
  extensions := ["sh", "bash", "zsh", "ksh", "csh", "tcsh", "command", "bats"]
  filenames := [".bashrc", ".bash_profile", ".bash_logout", ".profile", ".zshrc", ".zshenv",
    ".zlogin", ".zlogout", ".zprofile", ".cshrc", ".login", ".kshrc"]
  interpreters := ["sh", "bash", "zsh", "ksh", "csh", "tcsh", "dash", "ash"]

def vimL : Language where
  name := "VimL"
  extensions := ["vim"]
  filenames := [".vimrc", ".gvimrc", "vimrc", "gvimrc", "_vimrc", "_gvimrc"]

def ini : Language where
  name := "INI"
  kind := .data
  extensions := ["ini", "cfg", "prefs", "properties"]
  filenames := [".gitconfig", ".editorconfig", ".npmrc"]

def yaml : Language where
  name := "YAML"
  kind := .data
  extensions := ["yml", "yaml"]
  filenames := [".gemrc"]

def json : Language where
  name := "JSON"
  kind := .data
  extensions := ["json", "geojson"]
  filenames := [".jshintrc", ".babelrc"]

def xml : Language where
  name := "XML"
  kind := .markup
  extensions := ["xml", "xsd", "xsl", "xslt", "rss", "atom", "plist", "xib", "ts", "kml",
    "wsdl"]

def html : Language where
  name := "HTML"
  kind := .markup
  extensions := ["html", "htm", "xhtml"]
  ignoreCase := true

def css : Language where
  name := "CSS"
  kind := .markup
  extensions := ["css"]

def markdown : Language where
  name := "Markdown"
  kind := .prose
  extensions := ["md", "markdown", "mkd", "mkdn", "mdown"]

def diff : Language where
  name := "Diff"
  kind := .data
  extensions := ["diff", "patch"]

def emacsLisp : Language where
  name := "Emacs Lisp"
  lexer := "Scheme"
  extensions := ["el", "emacs"]
  filenames := [".emacs"]

def commonLisp : Language where
  name := "Common Lisp"
  extensions := ["lisp", "lsp", "cl", "asd"]
  interpreters := ["sbcl", "clisp"]

def scheme : Language where
  name := "Scheme"
  extensions := ["scm", "ss", "sls", "sps"]
  interpreters := ["guile", "racket"]

def nu : Language where
  name := "Nu"
  lexer := "Scheme"
  extensions := ["nu"]
  filenames := ["Nukefile"]
  interpreters := ["nush"]

def groovy : Language where
  name := "Groovy"
  extensions := ["groovy", "gradle", "gvy", "grt"]
  interpreters := ["groovy"]

def java : Language where
  name := "Java"
  extensions := ["java"]

def scala : Language where
  name := "Scala"
  extensions := ["scala", "sbt"]
  interpreters := ["scala"]

def go : Language where
  name := "Go"
  extensions := ["go"]

def rust : Language where
  name := "Rust"
  extensions := ["rs"]

def haskell : Language where
  name := "Haskell"
  extensions := ["hs", "lhs", "hsc"]
  interpreters := ["runhaskell", "runghc"]

def erlang : Language where
  name := "Erlang"
  extensions := ["erl", "hrl", "escript"]
  interpreters := ["escript"]

def ocaml : Language where
  name := "OCaml"
  extensions := ["ml", "mli", "mll", "mly"]
  interpreters := ["ocaml", "ocamlrun"]

def lua : Language where
  name := "Lua"
  extensions := ["lua"]
  interpreters := ["lua"]

def php : Language where
  name := "PHP"
  extensions := ["php", "phtml", "php3", "php4", "php5", "phpt"]
  interpreters := ["php"]

def tcl : Language where
  name := "Tcl"
  extensions := ["tcl", "tm"]
  interpreters := ["tclsh", "wish"]

def awk : Language where
  name := "Awk"
  extensions := ["awk"]
  interpreters := ["awk", "gawk", "mawk", "nawk"]

def r : Language where
  name := "R"
  lexer := "S"
  extensions := ["r"]
  filenames := [".Rprofile"]
  interpreters := ["Rscript"]
  ignoreCase := true

def rebol : Language where
  name := "Rebol"
  lexer := "REBOL"
  extensions := ["r", "reb", "rebol"]
  interpreters := ["rebol"]
  ignoreCase := true

def verilog : Language where
  name := "Verilog"
  lexer := "verilog"
  extensions := ["v"]

def coq : Language where
  name := "Coq"
  extensions := ["v"]

def gas : Language where
  name := "GAS"
  extensions := ["s"]
  ignoreCase := true

def makefile : Language where
  name := "Makefile"
  extensions := ["mak", "mk"]
  filenames := ["Makefile", "GNUmakefile", "makefile"]
  interpreters := ["make"]

def cMake : Language where
  name := "CMake"
  extensions := ["cmake"]
  filenames := ["CMakeLists.txt"]

def dockerfile : Language where
  name := "Dockerfile"
  lexer := "Docker"
  extensions := ["dockerfile"]
  filenames := ["Dockerfile"]

def sql : Language where
  name := "SQL"
  kind := .data
  extensions := ["sql"]
  searchable := false

def gettextCatalog : Language where
  name := "Gettext Catalog"
  kind := .prose
  lexer := plainTextLexer
  extensions := ["po", "pot"]
  searchable := false

/-- The languages, in the order in which they are declared. -/
def all : List Language := [
  text, c, cPlusPlus, objectiveC, matlab, cSharp, ruby, perl, prolog, python, javaScript,
  typeScript, coffeeScript, shell, vimL, ini, yaml, json, xml, html, css, markdown, diff,
  emacsLisp, commonLisp, scheme, nu, groovy, java, scala, go, rust, haskell, erlang, ocaml,
  lua, php, tcl, awk, r, rebol, verilog, coq, gas, makefile, cMake, dockerfile, sql,
  gettextCatalog]

/-- The place of a language in the list, by its name; behind the end for one that is not in it. -/
def index (language : Language) : Nat := all.findIdx (·.name == language.name)

end FileProfile.Language
