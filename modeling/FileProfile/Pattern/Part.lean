import FileProfile.Pattern.Basic

/-!
# Parts of a written pattern

A written pattern may be refused for its extent, although each piece of it is well-formed. Two
things are measured: how deep its parts lie inside one another, and how much room an automaton takes
that is written out for it, in which every repetition is a copy. A part is a pattern with both
measures; they are kept as the pattern is put together, so that a pattern too large to write out is
never written out.

Brackets, groups, repetitions, rows of several parts and choices are one level each. The room is
counted in bytes.
-/

namespace FileProfile

/-! ### Room -/

namespace CharSet

/-- The room for a state of an automaton. -/
def stateRoom : Nat := 32

/-- The room for the name of a state where others lead to it. -/
def branchRoom : Nat := 4

/-- The room for a range of characters that leads from one state to another. -/
def rangeRoom : Nat := 8

/-- The room for the characters of a set, between the two states at its ends. A range in ASCII fits
into a state; of any other character each byte has a state of its own. The Unicode classes and what
is left outside a set share many of these states, and their room is given as a whole. -/
def innerRoom : CharSet → Nat
  | all => 900
  | between _ last =>
    if last.toNat < 128 then rangeRoom else branchRoom + stateRoom * last.utf8Size
  | blank => 616
  | digit => 5052
  | word => 49868
  | union s t => s.innerRoom + t.innerRoom
  | inter s t => max s.innerRoom t.innerRoom
  | compl blank => 1860
  | compl digit => 12720
  | compl word => 46516
  | compl s => s.innerRoom + 928
  | caseless s => 2 * s.innerRoom

/-- The room for a set. A single character has a state for each of its bytes. -/
def room : CharSet → Nat
  | between first last =>
    if first = last then stateRoom * first.utf8Size
    else 2 * stateRoom + (between first last).innerRoom
  | s => 2 * stateRoom + s.innerRoom

end CharSet

namespace Pattern

open CharSet (stateRoom branchRoom)

/-- Whether a pattern describes empty stretches only. -/
def isHollow : Pattern → Bool
  | empty | edge _ => true
  | one _ => false
  | seq p q | alt p q => p.isHollow && q.isHollow
  | repeated p _ most => p.isHollow || most = some 0

/-- Whether a pattern describes no empty stretch. -/
def isSolid : Pattern → Bool
  | empty | edge _ => false
  | one _ => true
  | seq p q => p.isSolid || q.isSolid
  | alt p q => p.isSolid && q.isSolid
  | repeated p least _ => 0 < least && p.isSolid

/-- The room for a repetition of a part that takes `room` by itself: its copies, and the states in
which the automaton decides whether to go on. -/
def repeatedRoom (p : Pattern) (room least : Nat) (most : Option Nat) : Nat :=
  -- empty stretches are not worth repeating
  let least := if p.isHollow then min least 1 else least
  let most := if p.isHollow then some (min (most.getD 1) 1) else most
  match least, most with
  | 0, none =>
    if p.isSolid then room + stateRoom + 2 * branchRoom
    else room + 3 * stateRoom + 4 * branchRoom
  | least, none => least * room + stateRoom + branchRoom
  | 0, some 0 => stateRoom
  | 0, some 1 => room + 2 * stateRoom + 2 * branchRoom
  | least, some most =>
    let start := if least = 0 then stateRoom else least * room
    if least = most then start
    else start + stateRoom + (most - least) * (room + stateRoom + 2 * branchRoom)

/-- A part of a written pattern. -/
structure Part where
  pattern : Pattern
  /-- How many levels lie inside one another. -/
  depth : Nat := 0
  /-- The room for an automaton. -/
  room : Nat

namespace Part

/-- The depth of several parts in a row or in a choice, which is a level more if they are
several. -/
def depthOf : List Nat → Nat
  | [] => 0
  | [depth] => depth
  | depths => depths.foldl max 0 + 1

/-- A character from a set. -/
def ofSet (s : CharSet) : Part := { pattern := one s, room := s.room }

/-- A character, in either case if case is ignored. -/
def ofChar (caseless : Bool) (c : Char) : Part :=
  if caseless then
    let variants := (Text.caseVariants c).eraseDups
    { pattern := one (.caseless (.single c))
      room := if variants = [c] then (CharSet.single c).room
        else (CharSet.unions (variants.map .single)).room }
  else ofSet (.single c)

/-- An edge. -/
def ofEdge (e : Edge) : Part := { pattern := edge e, room := stateRoom }

/-- Parts one after the other; `none` is a change of flags, which describes nothing. -/
def inOrder (parts : List (Option Part)) : Part where
  pattern := Pattern.inOrder (parts.filterMap fun part => part.map (·.pattern))
  depth := depthOf (parts.map fun part => (part.map (·.depth)).getD 0)
  room :=
    match parts.filterMap id with
    | [] => stateRoom
    | parts => parts.foldl (fun n part => n + part.room) 0

/-- One of several parts, of which there is at least one. -/
def oneOf (parts : List Part) : Part where
  pattern := Pattern.oneOf (parts.map (·.pattern))
  depth := depthOf (parts.map (·.depth))
  room :=
    match parts with
    | [part] => part.room
    | parts => parts.foldl (fun n part => n + (part.room + branchRoom)) (2 * stateRoom)

/-- A part inside brackets or a group, which may keep what it describes. -/
def enclosed (part : Part) (kept : Bool) : Part :=
  { part with
    depth := part.depth + 1
    room := if kept then part.room + 2 * stateRoom else part.room }

/-- A part repeated. -/
def repeated (part : Part) (least : Nat) (most : Option Nat) : Part where
  pattern := part.pattern.repeated least most
  depth := part.depth + 1
  room := part.pattern.repeatedRoom part.room least most

/-- How deep a pattern may be. -/
def greatestDepth : Nat := 250

/-- How much room a pattern may take: ten mebibytes. -/
def greatestRoom : Nat := 10 * 1024 * 1024

/-- The room for what every search has around its pattern. -/
def frameRoom : Nat := 208

/-- Whether a part is within the bounds for a whole pattern. -/
def isWithinBounds (part : Part) : Bool :=
  part.depth ≤ greatestDepth && part.room + frameRoom ≤ greatestRoom

end Part

end Pattern

end FileProfile
