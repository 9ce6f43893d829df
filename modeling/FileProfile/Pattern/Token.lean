import FileProfile.Pattern.Part
import FileProfile.Pattern.Symbol
import FileProfile.Text.Alphanumeric
import FileProfile.Text.Decimal

/-!
# Tokens of a written pattern

The second step of reading a pattern groups its symbols into tokens: a set of characters in
brackets, a count in braces, the head of a group are one token each. What a token describes may
depend on flags that the pattern sets on its way, so a token is a function of them.

Inside brackets, sets nest and combine: `&&` keeps what is in both, `--` takes away, `~~` keeps what
is in one alone, all grouping to the left. Where case is ignored, a set is closed under change of
case before it is negated, be it a named class or the whole bracket, and so are both sides of such a
combination.
-/

namespace FileProfile.Pattern

/-- The ways of reading that a pattern can switch on and off. -/
structure Flags where
  /-- Letters stand for either case. -/
  anyCase : Bool := false
  /-- `^` and `$` stand for the edges of lines. -/
  byLine : Bool := false
  /-- A dot stands for a line feed too. -/
  dotAll : Bool := false

namespace Flags

/-- A set, closed under change of case where case is ignored. -/
def close (flags : Flags) (s : CharSet) : CharSet := if flags.anyCase then .caseless s else s

/-- The flags with the one of this letter switched. -/
def switch (on : Bool) (flags : Flags) : Char → Flags
  | 'i' => { flags with anyCase := on }
  | 'm' => { flags with byLine := on }
  | 's' => { flags with dotAll := on }
  | _ => flags

/-- The change that a list of flag letters asks for: those behind a minus sign are switched off.
No letter may stand twice, and the minus sign not last. The letters `U` and `u` change nothing that
decides whether a pattern is found, and `u` cannot be switched off. -/
def change? (letters : List Char) : Option (Flags → Flags) :=
  let (on, off) := (letters.takeWhile (· != '-'), letters.dropWhile (· != '-'))
  if letters.all ("imsUu-".toList.contains ·) && letters.Nodup
      && letters.getLast? != some '-' && !off.contains 'u' then
    some fun flags => (off.drop 1).foldl (switch false) (on.foldl (switch true) flags)
  else none

end Flags

/-- What is kept of the stretch that a group describes. -/
inductive Capture where
  | nothing
  | unnamed
  | named (name : List Char)

/-- The smallest unit of a written pattern that has a meaning. -/
inductive Token where
  /-- Something that a count behind it repeats. -/
  | item (part : Flags → Part)
  | bar
  | openGroup (capture : Capture) (change : Flags → Flags)
  | closeGroup
  | setFlags (change : Flags → Flags)
  | count (least : Nat) (most : Option Nat)

/-! ### Sets in brackets -/

/-- A set as it is written, which may depend on whether case is ignored. -/
structure WrittenSet where
  set : Flags → CharSet
  /-- How many levels lie inside one another. -/
  depth : Nat := 0

namespace WrittenSet

/-- A set that does not depend on flags. -/
def fixed (s : CharSet) : WrittenSet := { set := fun _ => s }

/-- The set closed under change of case where case is ignored, and then negated if it is. -/
def closed (s : WrittenSet) (negated : Bool) : WrittenSet :=
  { s with set := fun flags =>
      let set := flags.close (s.set flags)
      if negated then .compl set else set }

/-- All characters of several sets. -/
def unions (sets : List WrittenSet) : WrittenSet where
  set flags := CharSet.unions (sets.map (·.set flags))
  depth := Part.depthOf (sets.map (·.depth))

/-- Two sets combined. -/
def combined (op : CharSet → CharSet → CharSet) (s t : WrittenSet) : WrittenSet where
  set flags := op (flags.close (s.set flags)) (flags.close (t.set flags))
  depth := max s.depth t.depth + 1

end WrittenSet

/-- A bracket that is open: what stands in it so far. -/
structure Bracket where
  negated : Bool
  /-- The left side of a combination, and how it combines with what follows. -/
  left : Option (WrittenSet × (CharSet → CharSet → CharSet)) := none
  /-- What stands in the bracket behind the left side. -/
  items : List WrittenSet := []

namespace Bracket

/-- The brackets with one more item. -/
def add (b : Bracket) (s : WrittenSet) : Bracket := { b with items := s :: b.items }

/-- All that stands in the bracket, combined. -/
def content (b : Bracket) : WrittenSet :=
  let right := WrittenSet.unions b.items
  match b.left with
  | none => right
  | some (left, op) => .combined op left right

/-- The bracket with its content as the left side of a combination. -/
def combine (b : Bracket) (op : CharSet → CharSet → CharSet) : Bracket :=
  { b with left := some (b.content, op), items := [] }

/-- The set that the bracket stands for once it is closed. -/
def set (b : Bracket) : WrittenSet :=
  let s := b.content.closed b.negated
  { s with depth := s.depth + 1 }

/-- The part that the bracket stands for once it is closed. -/
def part (b : Bracket) (flags : Flags) : Part :=
  { Part.ofSet (b.set.set flags) with depth := b.set.depth }

/-- A bracket that opens in front of these symbols, and how many of them belong to its opening: a
sign of negation, and then either any number of minus signs or one closing bracket, all of which
stand for themselves. -/
def opening (symbols : List Symbol) : Bracket × Nat :=
  let negated := symbols.head? = some (.plain '^')
  let symbols := if negated then symbols.drop 1 else symbols
  let signs := if negated then 1 else 0
  let dashes := (symbols.takeWhile (· = .plain '-')).length
  if dashes > 0 then
    (⟨negated, none, List.replicate dashes (.fixed (.single '-'))⟩, signs + dashes)
  else if symbols.head? = some (.plain ']') then
    (⟨negated, none, [.fixed (.single ']')]⟩, signs + 1)
  else (⟨negated, none, []⟩, signs)

end Bracket

/-- The named classes of ASCII characters. -/
def namedSet? (name : String) : Option CharSet :=
  let decimal := CharSet.between '0' '9'
  let lower := CharSet.between 'a' 'z'
  let upper := CharSet.between 'A' 'Z'
  let alpha := CharSet.union lower upper
  let alnum := CharSet.union decimal alpha
  let graph := CharSet.between '!' '~'
  match name with
  | "alnum" => some alnum
  | "alpha" => some alpha
  | "ascii" => some (.between '\x00' '\x7f')
  | "blank" => some (.ofChars "\t ")
  | "cntrl" => some (.union (.between '\x00' '\x1f') (.single '\x7f'))
  | "digit" => some decimal
  | "graph" => some graph
  | "lower" => some lower
  | "print" => some (.between ' ' '~')
  | "punct" => some (.diff graph alnum)
  | "space" => some (.union (.between '\t' '\r') (.single ' '))
  | "upper" => some upper
  | "word" => some (.union alnum (.single '_'))
  | "xdigit" => some (.unions [decimal, .between 'a' 'f', .between 'A' 'F'])
  | _ => none

/-- The characters of symbols that all stand as they are. -/
def plainText? (symbols : List Symbol) : Option (List Char) :=
  symbols.mapM fun
    | .plain c => some c
    | _ => none

/-- The named class that starts at a colon behind an opening bracket, and how many symbols it
takes. -/
def namedSetAt? : List Symbol → Option (WrittenSet × Nat)
  | .plain ':' :: rest => do
    let negated := rest.head? = some (.plain '^')
    let signs := if negated then 1 else 0
    let name := (rest.drop signs).takeWhile (· ≠ .plain ':')
    let behind := rest.drop (signs + name.length)
    if behind.take 2 = [.plain ':', .plain ']'] then
      let set ← namedSet? (String.ofList (← plainText? name))
      return ((WrittenSet.fixed set).closed negated, signs + name.length + 3)
    else none
  | _ => none

/-- The character that a symbol stands for inside brackets, if it stands for one. -/
def Symbol.char? : Symbol → Option Char
  | .plain c | .literal c => some c
  | _ => none

/-- The set that a symbol stands for inside brackets; edges have no place there. -/
def Symbol.set? : Symbol → Option CharSet
  | .plain c | .literal c => some (.single c)
  | .set s => some s
  | .edge _ => none

/-! ### Counts and the heads of groups -/

/-- A number in decimal digits, with any white space around it; at most 32 bits. -/
def decimal? (cs : List Char) : Option Nat :=
  let digits := ((cs.dropWhile Text.isBlank).reverse.dropWhile Text.isBlank).reverse
  let value := Text.ofDigits digits
  if !digits.isEmpty && digits.all Char.isDigit && value < 0x100000000 then some value else none

/-- The count that the text between braces gives: a number, a number and a comma at the very end, or
two numbers of which the second is no smaller. -/
def countToken? (cs : List Char) : Option Token := do
  let least ← decimal? (cs.takeWhile (· != ','))
  match cs.dropWhile (· != ',') with
  | [] => return .count least (some least)
  | _ :: rest =>
    if rest.isEmpty then return .count least none
    else
      let most ← decimal? rest
      if least ≤ most then return .count least (some most) else none

/-- Whether a text can name a group. -/
def isGroupName : List Char → Bool
  | [] => false
  | c :: cs =>
    (c == '_' || Text.isAlphabetic c) &&
      cs.all fun c => "_.[]".toList.contains c || Text.isAlphanumeric c

/-- The head of a group whose name, or a piece of whose flags, stands in front of these symbols: the
token, and how many symbols belong to it. -/
def groupHead? (symbols : List Symbol) : Option (Token × Nat) :=
  let named (skip : Nat) : Option (Token × Nat) := do
    let name := (symbols.drop skip).takeWhile (· ≠ .plain '>')
    let chars ← plainText? name
    if isGroupName chars && (symbols.drop (skip + name.length)).head? = some (.plain '>') then
      return (.openGroup (.named chars) id, skip + name.length + 1)
    else none
  match symbols with
  | .plain '?' :: .plain 'P' :: .plain '<' :: _ => named 3
  | .plain '?' :: .plain '<' :: _ => named 2
  | .plain '?' :: rest => do
    let letters := rest.takeWhile fun s => s ≠ .plain ':' ∧ s ≠ .plain ')'
    let change ← Flags.change? (← plainText? letters)
    match rest.drop letters.length with
    | .plain ':' :: _ => return (.openGroup .nothing change, letters.length + 2)
    | .plain ')' :: _ =>
      if letters.isEmpty then none else return (.setFlags change, letters.length + 2)
    | _ => none
  | _ => return (.openGroup .unnamed id, 0)

/-! ### The tokens -/

/-- How many of these symbols, behind a count, are the mark that asks for short matches. -/
def shortMark (symbols : List Symbol) : Nat := if symbols.head? = some (.plain '?') then 1 else 0

/-- The tokens of a list of symbols, given the brackets that are open, innermost first. -/
def Token.read (brackets : List Bracket) (symbols : List Symbol) : Option (List Token) :=
  match brackets, symbols with
  | [], [] => some []
  | _ :: _, [] => none
  | [], .plain '[' :: rest =>
    let (bracket, n) := Bracket.opening rest
    Token.read [bracket] (rest.drop n)
  | [], .plain '(' :: rest => do
    let (token, n) ← groupHead? rest
    let tokens ← Token.read [] (rest.drop n)
    return token :: tokens
  | [], .plain '\x7b' :: rest => do
    let inner := rest.takeWhile (· ≠ .plain '\x7d')
    let behind := rest.drop inner.length
    if behind.isEmpty then none
    else
      let token ← countToken? (← plainText? inner)
      let n := inner.length + 1
      let tokens ← Token.read [] (rest.drop (n + shortMark (rest.drop n)))
      return token :: tokens
  | [], .plain c :: rest =>
    let add (token : Token) := (Token.read [] rest).map (token :: ·)
    let count (least : Nat) (most : Option Nat) :=
      (Token.read [] (rest.drop (shortMark rest))).map (.count least most :: ·)
    match c with
    | '*' => count 0 none
    | '+' => count 1 none
    | '?' => count 0 (some 1)
    | '|' => add .bar
    | ')' => add .closeGroup
    | '.' => add (.item fun flags => .ofSet (if flags.dotAll then .all else .compl (.single '\n')))
    | '^' => add (.item fun flags => .ofEdge (if flags.byLine then .lineStart else .textStart))
    | '$' => add (.item fun flags => .ofEdge (if flags.byLine then .lineEnd else .textEnd))
    | c => add (.item fun flags => .ofChar flags.anyCase c)
  | [], .literal c :: rest =>
    (Token.read [] rest).map (.item (fun flags => .ofChar flags.anyCase c) :: ·)
  | [], .set s :: rest => (Token.read [] rest).map (.item (fun _ => .ofSet s) :: ·)
  | [], .edge e :: rest => (Token.read [] rest).map (.item (fun _ => .ofEdge e) :: ·)
  | bracket :: outer, .plain '[' :: rest =>
    match namedSetAt? rest with
    | some (s, n) => Token.read (bracket.add s :: outer) (rest.drop n)
    | none =>
      let (inner, n) := Bracket.opening rest
      Token.read (inner :: bracket :: outer) (rest.drop n)
  | bracket :: outer, .plain ']' :: rest =>
    match outer with
    | [] => (Token.read [] rest).map (.item bracket.part :: ·)
    | around :: outer => Token.read (around.add bracket.set :: outer) rest
  | bracket :: outer, .plain '&' :: .plain '&' :: rest =>
    Token.read (bracket.combine .inter :: outer) rest
  | bracket :: outer, .plain '-' :: .plain '-' :: rest =>
    Token.read (bracket.combine .diff :: outer) rest
  | bracket :: outer, .plain '~' :: .plain '~' :: rest =>
    Token.read (bracket.combine .symmDiff :: outer) rest
  | bracket :: outer, first :: .plain '-' :: last :: rest =>
    if last = .plain ']' ∨ last = .plain '-' then do
      let s ← first.set?
      Token.read (bracket.add (.fixed s) :: outer) (.plain '-' :: last :: rest)
    else do
      let first ← first.char?
      let last ← last.char?
      if first ≤ last then
        Token.read (bracket.add (.fixed (.between first last)) :: outer) rest
      else none
  | bracket :: outer, symbol :: rest => do
    let s ← symbol.set?
    Token.read (bracket.add (.fixed s) :: outer) rest
termination_by symbols.length
decreasing_by all_goals (simp [List.length_drop]; try omega)

end FileProfile.Pattern
