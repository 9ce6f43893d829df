import FileProfile.Error
import FileProfile.Markup.Escape

/-!
# Highlighters

Highlighting is left to a highlighter, which turns a text and the name of a lexer into markup or
refuses. Most highlighters give bare markup and leave the container to the library; one may bring
its own.
-/

namespace FileProfile

/-- A highlighter. -/
structure Highlighter where
  /-- The markup of a text under a lexer, without a container. -/
  bare : (text lexer : String) → Except Error String
  /-- The markup of a text under a lexer, in its container. -/
  contained : (text lexer : String) → Except Error String

namespace Highlighter

/-- Markup in the usual container. -/
def container (markup : String) : String :=
  "<div class=\"highlight\"><pre>" ++ markup ++ "</pre>\n</div>\n"

/-- The highlighter that puts this markup in the usual container. -/
def ofBare (bare : String → String → Except Error String) : Highlighter :=
  ⟨bare, fun text lexer => (bare text lexer).map container⟩

/-- The highlighter that marks nothing, whatever the lexer, and only escapes. -/
def plain : Highlighter := ofBare fun text _ => .ok (Markup.escape text)

end Highlighter

end FileProfile
