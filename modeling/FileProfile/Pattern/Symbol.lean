import FileProfile.Pattern.Basic
import FileProfile.Text.Hexadecimal

/-!
# Symbols of a written pattern

A pattern is written with backslash escapes. The first step of reading one resolves them, so that
afterwards each symbol is either a character as it stands, which may have a meaning, or an escape,
which has the one meaning given here.

An escape is a punctuation character that stands for itself, a control character, a code in
hexadecimal digits, a class of characters, or an edge, which may have its name behind it in braces.
Every other escape is refused, back-references among them.
-/

namespace FileProfile.Pattern

/-- A character of a written pattern, or an escape. -/
inductive Symbol where
  | plain (c : Char)
  | literal (c : Char)
  | set (s : CharSet)
  | edge (e : Edge)
  deriving DecidableEq, Repr

namespace Symbol

/-- What an escaped letter stands for, the letters that introduce a code apart. -/
def ofLetter? : Char → Option Symbol
  | 'd' => some (set .digit)
  | 'D' => some (set (.compl .digit))
  | 's' => some (set .blank)
  | 'S' => some (set (.compl .blank))
  | 'w' => some (set .word)
  | 'W' => some (set (.compl .word))
  | 'b' => some (edge .wordEdge)
  | 'B' => some (edge .noWordEdge)
  | 'A' => some (edge .textStart)
  | 'z' => some (edge .textEnd)
  | '<' => some (edge .wordStart)
  | '>' => some (edge .wordEnd)
  | 'a' => some (literal '\x07')
  | 'f' => some (literal '\x0c')
  | 'n' => some (literal '\n')
  | 'r' => some (literal '\r')
  | 't' => some (literal '\t')
  | 'v' => some (literal '\x0b')
  | c => if c.toNat < 128 && !c.isAlphanum then some (literal c) else none

/-- How many hexadecimal digits the letter of a code takes where no braces follow it. -/
def codeLength? : Char → Option Nat
  | 'x' => some 2
  | 'u' => some 4
  | 'U' => some 8
  | _ => none

/-- The character with a given code, if there is one. -/
def ofCode? (code : Nat) : Option Symbol :=
  if h : code.isValidChar then some (literal (Char.ofNatAux code h)) else none

/-- The edge of a name in braces behind `\b`. -/
def edgeNamed? (name : List Char) : Option Edge :=
  match String.ofList name with
  | "start" => some .wordStart
  | "end" => some .wordEnd
  | "start-half" => some .noWordBefore
  | "end-half" => some .noWordAfter
  | _ => none

/-- Whether a name may stand in braces with this character in it. -/
def isNameChar (c : Char) : Bool := c.isAlpha || c == '-'

/-- Whether a name in braces begins here, and not a count. -/
def namesEdge : List Char → Bool
  | '\x7b' :: c :: _ => isNameChar c
  | _ => false

/-- How far the reading of an escape has come. -/
inductive Progress where
  /-- Outside an escape. -/
  | outside
  /-- Behind a backslash. -/
  | backslash
  /-- In front of the brace of an edge with a name. -/
  | edgeBrace
  /-- In the name of an edge; its characters so far, last first. -/
  | edgeName (name : List Char)
  /-- Behind the letter of a code that takes `digits` digits without braces. -/
  | code (digits : Nat)
  /-- Inside such a code, with `left` digits to come; the digits before them make up `value`. -/
  | digits (left value : Nat)
  /-- Inside a code in braces; its digits so far, if any, make up `value`. -/
  | braces (value : Option Nat)

/-- The symbols of a written pattern, given how far the current escape has come. -/
def read : Progress → List Char → Option (List Symbol)
  | .outside, [] => some []
  | _, [] => none
  | .outside, c :: cs =>
    if c = '\\' then read .backslash cs else (read .outside cs).map (plain c :: ·)
  | .backslash, c :: cs =>
    match codeLength? c with
    | some digits => read (.code digits) cs
    | none =>
      if c = 'b' && namesEdge cs then read .edgeBrace cs
      else do
        let symbol ← ofLetter? c
        let rest ← read .outside cs
        return symbol :: rest
  | .edgeBrace, _ :: cs => read (.edgeName []) cs
  | .edgeName name, c :: cs =>
    if c = '\x7d' then do
      let e ← edgeNamed? name.reverse
      let rest ← read .outside cs
      return edge e :: rest
    else if isNameChar c then read (.edgeName (c :: name)) cs
    else none
  | .code digits, c :: cs =>
    if c = '\x7b' then read (.braces none) cs
    else do read (.digits (digits - 1) (← Text.hexValue? c)) cs
  | .digits left value, c :: cs => do
    let value := value * 16 + (← Text.hexValue? c)
    if left ≤ 1 then
      let symbol ← ofCode? value
      let rest ← read .outside cs
      return symbol :: rest
    else read (.digits (left - 1) value) cs
  | .braces value, c :: cs =>
    if c = '\x7d' then do
      let symbol ← ofCode? (← value)
      let rest ← read .outside cs
      return symbol :: rest
    else do read (.braces (some (value.getD 0 * 16 + (← Text.hexValue? c)))) cs

/-- The symbols of a written pattern. -/
def ofText? (cs : List Char) : Option (List Symbol) := read .outside cs

end Symbol

end FileProfile.Pattern
