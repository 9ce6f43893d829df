import FileProfile.Json.Basic
import FileProfile.Text.Hexadecimal

/-!
# The text of JSON values

The compact text of a value is that of its tokens with nothing between them. The indented text
starts a line for every item and field, two spaces deeper than the container, and has a space behind
the colon; an empty container stays closed up.

In strings, quotes, backslashes and control characters are escaped, and nothing else.
-/

namespace FileProfile.Json

/-- A character as it stands in a string. -/
def escapeChar (c : Char) : List Char :=
  match c with
  | '"' => ['\\', '"']
  | '\\' => ['\\', '\\']
  | '\x08' => ['\\', 'b']
  | '\x0c' => ['\\', 'f']
  | '\n' => ['\\', 'n']
  | '\r' => ['\\', 'r']
  | '\t' => ['\\', 't']
  | c =>
    if c.toNat < 32 then
      ['\\', 'u', '0', '0', Text.hexDigit 'a' (c.toNat / 16), Text.hexDigit 'a' (c.toNat % 16)]
    else [c]

/-- A string in quotes. -/
def quote (s : String) : List Char := '"' :: s.toList.flatMap escapeChar ++ ['"']

/-- The text of an integer. -/
def writeInt : Int → List Char
  | .ofNat n => Text.toDigits n
  | .negSucc n => '-' :: Text.toDigits (n + 1)

/-- The text of a scalar. -/
def writeScalar : Scalar → List Char
  | .null => "null".toList
  | .bool b => (if b then "true" else "false").toList
  | .int n => writeInt n
  | .decimal written => written
  | .string s => quote s

/-- The text of a token. -/
def Token.write : Token → List Char
  | openArray => ['[']
  | closeArray => [']']
  | openObject => ['\x7b']
  | closeObject => ['\x7d']
  | comma => [',']
  | colon => [':']
  | scalar s => writeScalar s

/-- The compact text of a value. -/
def compact (value : Json) : String := String.ofList (value.tokens.flatMap Token.write)

/-- A place in an indented text: how many containers are open there, and whether nothing follows the
opening of the innermost one yet. -/
structure Place where
  depth : Nat := 0
  opened : Bool := false

/-- A new line at a depth. -/
def newLine (depth : Nat) : List Char := '\n' :: List.replicate (2 * depth) ' '

/-- The text of a token at a place, with the white space around it, and the place behind it. -/
def Token.writeAt (place : Place) (token : Token) : Place × List Char :=
  -- the first part of a container starts a line
  let start := if place.opened then newLine place.depth else []
  match token with
  | openArray | openObject => (⟨place.depth + 1, true⟩, start ++ token.write)
  | closeArray | closeObject =>
    (⟨place.depth - 1, false⟩,
      (if place.opened then [] else newLine (place.depth - 1)) ++ token.write)
  | comma => (⟨place.depth, false⟩, token.write ++ newLine place.depth)
  | colon => (⟨place.depth, false⟩, token.write ++ [' '])
  | scalar _ => (⟨place.depth, false⟩, start ++ token.write)

/-- The place behind a further token, and the pieces of the text with its own, last first. -/
def addPiece (laid : Place × List (List Char)) (token : Token) : Place × List (List Char) :=
  let (place, piece) := token.writeAt laid.1
  (place, piece :: laid.2)

/-- The pieces of an indented text, last first. -/
def indentedPieces (tokens : List Token) : List (List Char) := (tokens.foldl addPiece ({}, [])).2

/-- The indented text of a value. -/
def indented (value : Json) : String :=
  String.ofList (indentedPieces value.tokens).reverse.flatten

end FileProfile.Json
