import FileProfile.Text.Lines
import FileProfile.Text.Occurrence

/-!
# Scripts compiled from CoffeeScript

The CoffeeScript compiler wraps its output in a closure. Newer versions put a banner in front of it.
Without the banner the output is told by the names of its temporary variables and helper functions,
where they are declared. An empty closure does not count, banner or not.
-/

namespace FileProfile.Provenance

/-- How the banner of the compiler begins. -/
def banner : String := "// Generated by CoffeeScript"

/-- The first line of a closure. -/
def closureHead : String := "(function() \x7b"

/-- The last line but one of a closure; the last is empty. -/
def closureFoot : String := "\x7d).call(this);"

/-- Names of temporary variables. -/
def temporaries : List (List Char) := ["_fn", "_i", "_len", "_ref", "_results"].map String.toList

/-- Names of helper functions. -/
def helpers : List (List Char) :=
  ["__bind", "__extends", "__hasProp", "__indexOf", "__slice"].map String.toList

/-- The lines inside a closure, if the lines are one. -/
def closureBody? : List String → Option (List String)
  | head :: rest =>
    match rest.reverse with
    | last :: foot :: body =>
      if head = closureHead ∧ foot = closureFoot ∧ last = "" then some body.reverse else none
    | _ => none
  | [] => none

/-- The score of a line: one for each temporary and three for each helper, where the line declares
variables. -/
def lineScore (line : String) : Nat :=
  let cs := line.toList
  if Text.occurs "var ".toList cs then
    Text.countFound temporaries cs + 3 * Text.countFound helpers cs
  else 0

/-- The score from which the body of a closure counts as compiled. -/
def leastScore : Nat := 3

/-- Whether lines are output of the CoffeeScript compiler. -/
def isCompiledCoffeeScript : List String → Bool
  | [] => false
  | first :: rest =>
    if banner.toList.isPrefixOf first.toList then
      ((closureBody? rest).getD rest).any Text.isInked
    else
      (closureBody? (first :: rest)).any fun body =>
        body.foldl (fun n line => n + lineScore line) 0 ≥ leastScore

end FileProfile.Provenance
