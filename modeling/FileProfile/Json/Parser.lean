import FileProfile.Json.Lexer

/-!
# Reading JSON

The tokens of a text are read from left to right. The containers that are open are kept on a stack;
a value that is complete goes into the innermost of them, and what may come next depends on that
container and on how far it has got.
-/

namespace FileProfile.Json

/-- A container that is open, with what it holds so far, last first. -/
inductive Open where
  | array (items : List Json)
  | object (fields : List (String × Json))
  /-- An object whose last field has a name, and no value yet. -/
  | member (fields : List (String × Json)) (name : String)

/-- What has to come next. -/
inductive Stage where
  | value
  /-- The first part of a container, or its end. -/
  | firstOrEnd
  /-- A further field, behind a comma. -/
  | name
  | colon
  | commaOrEnd
  /-- Nothing: the whole value is complete. -/
  | nothing (whole : Json)

/-- The open containers, innermost first, and what has to come next. -/
structure Parser where
  around : List Open := []
  stage : Stage := .value

namespace Parser

/-- The state behind a complete value. -/
def complete? (value : Json) : List Open → Option Parser
  | [] => some ⟨[], .nothing value⟩
  | .array items :: around => some ⟨.array (value :: items) :: around, .commaOrEnd⟩
  | .member fields name :: around => some ⟨.object ((name, value) :: fields) :: around, .commaOrEnd⟩
  | .object _ :: _ => none

/-- The state behind a token that begins a value. -/
def begin? (around : List Open) : Token → Option Parser
  | .openArray => some ⟨.array [] :: around, .firstOrEnd⟩
  | .openObject => some ⟨.object [] :: around, .firstOrEnd⟩
  | .scalar s => complete? (scalar s) around
  | _ => none

/-- The state behind one more token. -/
def step? (parser : Parser) (token : Token) : Option Parser :=
  match parser.stage, parser.around, token with
  | .value, around, token => begin? around token
  | .firstOrEnd, .array items :: around, .closeArray => complete? (array items.reverse) around
  | .firstOrEnd, .array items :: around, token => begin? (.array items :: around) token
  | .firstOrEnd, .object fields :: around, .closeObject => complete? (object fields.reverse) around
  | .firstOrEnd, .object fields :: around, .scalar (.string name)
  | .name, .object fields :: around, .scalar (.string name) =>
    some ⟨.member fields name :: around, .colon⟩
  | .colon, around, .colon => some ⟨around, .value⟩
  | .commaOrEnd, .array items :: around, .comma => some ⟨.array items :: around, .value⟩
  | .commaOrEnd, .array items :: around, .closeArray => complete? (array items.reverse) around
  | .commaOrEnd, .object fields :: around, .comma => some ⟨.object fields :: around, .name⟩
  | .commaOrEnd, .object fields :: around, .closeObject => complete? (object fields.reverse) around
  | _, _, _ => none

end Parser

/-- The value that a list of tokens writes, if it writes one. -/
def ofTokens? (tokens : List Token) : Option Json := do
  match (← tokens.foldlM Parser.step? {}).stage with
  | .nothing whole => return whole
  | _ => none

/-- The value that a text writes, if it writes one. -/
def ofText? (text : String) : Option Json := do ofTokens? (← lex? text.toList)

end FileProfile.Json
