/-!
# Text in markup

Five characters have a meaning in markup and are written as entities.
-/

namespace FileProfile.Markup

/-- The written form of a character. -/
def escapeChar : Char → List Char
  | '&' => "&amp;".toList
  | '<' => "&lt;".toList
  | '>' => "&gt;".toList
  | '"' => "&quot;".toList
  | '\'' => "&#39;".toList
  | c => [c]

/-- The written form of a text. -/
def escape (text : String) : String := String.ofList (text.toList.flatMap escapeChar)

end FileProfile.Markup
