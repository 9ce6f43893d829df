import FileProfile.Pattern.Token

/-!
# Reading a written pattern

The last step of reading takes the tokens from left to right and keeps the groups that are open. A
flag holds from where it is set to the end of its group. A count repeats the item in front of it; a
count with nothing in front of it, a group that is not closed or not opened, and two groups of one
name are refused. So is a whole that is too deep or takes too much room.

Some ways of writing patterns are left out: classes of characters by a property, such as
`\p{Greek}`, and the flags `x`, by which blanks and comments mean nothing, `R`, by which a carriage
return ends lines too, and `u` switched off. A text that uses one of them is refused here, although
it may write a pattern.
-/

namespace FileProfile.Pattern

/-- A group that is open: its flags, and what stands in it so far. -/
structure Group where
  capture : Capture := .nothing
  flags : Flags := {}
  /-- The alternatives in front of the last bar, last first. -/
  alternatives : List Part := []
  /-- What stands behind the last bar, last item first; `none` is a change of flags, which cannot be
  repeated. -/
  items : List (Option Part) := []

namespace Group

/-- What stands behind the last bar. -/
def last (g : Group) : Part := Part.inOrder g.items.reverse

/-- All that stands in the group. -/
def content (g : Group) : Part := Part.oneOf (g.last :: g.alternatives).reverse

/-- The group as a part of another. -/
def part (g : Group) : Part :=
  g.content.enclosed <|
    match g.capture with
    | .nothing => false
    | .unnamed | .named _ => true

/-- The group with one more item, that a count may still repeat. -/
def add (g : Group) (part : Part) : Group := { g with items := some part :: g.items }

end Group

/-- The groups that are open, innermost first and apart from the whole, and the names used so
far. -/
structure Reading where
  innermost : Group := {}
  around : List Group := []
  names : List (List Char) := []

namespace Reading

/-- The reading with a group opened. -/
def opened (r : Reading) (capture : Capture) (change : Flags → Flags) : Reading :=
  { r with
    innermost := { capture, flags := change r.innermost.flags }
    around := r.innermost :: r.around }

/-- A reading with one more token. -/
def next? (r : Reading) : Token → Option Reading
  | .item part => some { r with innermost := r.innermost.add (part r.innermost.flags) }
  | .bar =>
    some { r with innermost := { r.innermost with
      alternatives := r.innermost.last :: r.innermost.alternatives, items := [] } }
  | .setFlags change =>
    some { r with innermost := { r.innermost with
      flags := change r.innermost.flags, items := none :: r.innermost.items } }
  | .openGroup (.named name) change =>
    if r.names.contains name then none
    else some { r.opened (.named name) change with names := name :: r.names }
  | .openGroup capture change => some (r.opened capture change)
  | .closeGroup =>
    match r.around with
    | [] => none
    | g :: around => some { r with innermost := g.add r.innermost.part, around }
  | .count least most =>
    match r.innermost.items with
    | some part :: items =>
      some { r with innermost :=
        { r.innermost with items := some (part.repeated least most) :: items } }
    | _ => none

end Reading

/-- The pattern that a text writes, if it writes one in the ways that are read here. -/
def ofText? (text : String) : Option Pattern := do
  let symbols ← Symbol.ofText? text.toList
  let tokens ← Token.read [] symbols
  let r ← tokens.foldlM Reading.next? {}
  let whole := r.innermost.content
  if r.around.isEmpty && whole.isWithinBounds then return whole.pattern else none

end FileProfile.Pattern
