import FileProfile.Json.Basic
import FileProfile.Text.Hexadecimal

/-!
# The tokens of a JSON text

A text is cut into tokens character by character: a mark of punctuation is a token of its own, a
quote opens a string, and any other run of characters is a word, which is a number or one of the
three names that JSON has.
-/

namespace FileProfile.Json

/-- Whether a text consists of digits, and of one at least. -/
def isDigits (cs : List Char) : Bool := !cs.isEmpty && cs.all Char.isDigit

/-- Whether a text is an exponent, or empty. -/
def isExponent : List Char → Bool
  | [] => true
  | 'e' :: '+' :: ds | 'e' :: '-' :: ds | 'E' :: '+' :: ds | 'E' :: '-' :: ds => isDigits ds
  | 'e' :: ds | 'E' :: ds => isDigits ds
  | _ => false

/-- Whether a text is a fraction and an exponent, either of which may be missing. -/
def isFractionAndExponent : List Char → Bool
  | '.' :: rest =>
    isDigits (rest.takeWhile Char.isDigit) && isExponent (rest.dropWhile Char.isDigit)
  | rest => isExponent rest

/-- The number that a word writes. -/
def number? (word : List Char) : Option Scalar :=
  let negative := word.head? == some '-'
  let unsigned := if negative then word.drop 1 else word
  let whole := unsigned.takeWhile Char.isDigit
  let rest := unsigned.dropWhile Char.isDigit
  let isWhole := !whole.isEmpty && (whole.head? != some '0' || whole.length == 1)
  let n := Text.ofDigits whole
  if !isWhole then none
  else if !rest.isEmpty then
    if isFractionAndExponent rest then some (.decimal word) else none
  else if negative then
    if n = 0 then some (.decimal word) else some (.int (-n))
  else some (.int n)

/-- The scalar that a word writes. -/
def scalar? (word : List Char) : Option Scalar :=
  if word = "null".toList then some .null
  else if word = "true".toList then some (.bool true)
  else if word = "false".toList then some (.bool false)
  else number? word

/-- What an escaped character in a string stands for, codes apart. -/
def unescape? : Char → Option Char
  | '"' => some '"'
  | '\\' => some '\\'
  | '/' => some '/'
  | 'b' => some '\x08'
  | 'f' => some '\x0c'
  | 'n' => some '\n'
  | 'r' => some '\r'
  | 't' => some '\t'
  | _ => none

/-- What the lexer is in the middle of. The characters of a word or string are kept last first. -/
inductive Lexing where
  | outside
  | word (cs : List Char)
  | string (cs : List Char)
  /-- Behind a backslash. -/
  | escape (cs : List Char)
  /-- In a code with `left` digits to come, behind the first half of a character, if there is
  one. -/
  | code (cs : List Char) (leading : Option Nat) (left value : Nat)
  /-- Behind the first half of a character, before (`true`) or behind the backslash of the
  second. -/
  | half (cs : List Char) (leading : Nat) (beforeSlash : Bool)

/-- The tokens read so far, last first, and what the lexer is in the middle of. -/
structure Lexer where
  tokens : List Token := []
  lexing : Lexing := .outside

namespace Lexer

/-- The tokens with the word that has just ended. -/
def endWord? (tokens : List Token) (cs : List Char) : Option (List Token) :=
  (scalar? cs.reverse).map (.scalar · :: tokens)

/-- The character of a complete code, or the first half of one, behind the characters `cs`. -/
def endCode? (cs : List Char) (leading : Option Nat) (code : Nat) : Option Lexing :=
  match leading with
  | some high =>
    if 0xDC00 ≤ code && code < 0xE000 then
      some (.string (Char.ofNat (0x10000 + (high - 0xD800) * 0x400 + (code - 0xDC00)) :: cs))
    else none
  | none =>
    if 0xD800 ≤ code && code < 0xDC00 then some (.half cs code true)
    else if 0xDC00 ≤ code && code < 0xE000 then none
    else some (.string (Char.ofNat code :: cs))

/-- Whether JSON takes a character for white space. -/
def isSpace (c : Char) : Bool := c == ' ' || c == '\n' || c == '\r' || c == '\t'

/-- The token of a mark of punctuation. -/
def mark? : Char → Option Token
  | '[' => some .openArray
  | ']' => some .closeArray
  | '\x7b' => some .openObject
  | '\x7d' => some .closeObject
  | ',' => some .comma
  | ':' => some .colon
  | _ => none

/-- Reads a character where no token is begun. -/
def begin (tokens : List Token) (c : Char) : Lexer :=
  match mark? c with
  | some token => ⟨token :: tokens, .outside⟩
  | none =>
    if isSpace c then ⟨tokens, .outside⟩
    else if c = '"' then ⟨tokens, .string []⟩
    else ⟨tokens, .word [c]⟩

/-- Whether a character ends a word. -/
def endsWord (c : Char) : Bool := (mark? c).isSome || isSpace c || c == '"'

/-- Reads a character. -/
def step? (lexer : Lexer) (c : Char) : Option Lexer :=
  let tokens := lexer.tokens
  match lexer.lexing with
  | .outside => some (begin tokens c)
  | .word cs =>
    if endsWord c then (endWord? tokens cs).map (begin · c) else some ⟨tokens, .word (c :: cs)⟩
  | .string cs =>
    if c = '"' then some ⟨.scalar (.string (String.ofList cs.reverse)) :: tokens, .outside⟩
    else if c = '\\' then some ⟨tokens, .escape cs⟩
    else if c.toNat < 32 then none
    else some ⟨tokens, .string (c :: cs)⟩
  | .escape cs =>
    if c = 'u' then some ⟨tokens, .code cs none 4 0⟩
    else (unescape? c).map fun c => ⟨tokens, .string (c :: cs)⟩
  | .code cs leading left value => do
    let value := value * 16 + (← Text.hexValue? c)
    if left ≤ 1 then return ⟨tokens, ← endCode? cs leading value⟩
    else return ⟨tokens, .code cs leading (left - 1) value⟩
  | .half cs leading beforeSlash =>
    if beforeSlash then if c = '\\' then some ⟨tokens, .half cs leading false⟩ else none
    else if c = 'u' then some ⟨tokens, .code cs (some leading) 4 0⟩
    else none

/-- All tokens, at the end of a text. -/
def finish? (lexer : Lexer) : Option (List Token) :=
  match lexer.lexing with
  | .outside => some lexer.tokens.reverse
  | .word cs => (endWord? lexer.tokens cs).map List.reverse
  | _ => none

end Lexer

/-- The tokens of a text. -/
def lex? (cs : List Char) : Option (List Token) := do (← cs.foldlM Lexer.step? {}).finish?

end FileProfile.Json
