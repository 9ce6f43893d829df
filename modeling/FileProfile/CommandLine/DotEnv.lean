import FileProfile.Bytes.Encoding
import FileProfile.Text.Alphanumeric
import FileProfile.Text.Blank

/-!
# Environment files

An environment file assigns values to variables, one assignment a line. Values may be quoted,
strongly in single or weakly in double quotes, and a quoted value may span lines; a backslash takes
the meaning from the character behind it. Outside strong quotes a dollar sign stands for the value
of a variable, whose name is either in braces or as many letters and digits as follow. A number sign
begins a comment at the start of a line or behind white space.

Reading has two steps. Physical lines are put together to logical lines, which end where no quote is
open; and each logical line is read as an assignment. Reading stops at the first line that is none,
and what was read before it counts. The values are worked out only when the file is loaded into an
environment, where a variable that is already set keeps its value.
-/

namespace FileProfile

/-- The variables of an environment, with their values. -/
structure Environment where
  bindings : List (String × String) := []
  deriving DecidableEq, Repr

namespace Environment

/-- The value of a variable, if it is set. -/
def get? (environment : Environment) (name : String) : Option String :=
  environment.bindings.lookup name

/-- Sets a variable that is not set. -/
def setIfMissing (environment : Environment) (name value : String) : Environment :=
  if (environment.get? name).isSome then environment
  else ⟨environment.bindings ++ [(name, value)]⟩

end Environment

namespace DotEnv

/-- A piece of a value: characters as they stand, or the value of a variable. -/
inductive Piece where
  | char (c : Char)
  | variable (name : String)
  deriving DecidableEq, Repr

/-- An assignment of a value to a variable. -/
structure Assignment where
  name : String
  value : List Piece
  deriving DecidableEq, Repr

/-! ### Logical lines -/

/-- What a place in a line is inside of. -/
inductive Context where
  | plain
  | escape
  | strong
  | strongEscape
  | weak
  | weakEscape
  | blank
  | comment
  deriving DecidableEq, Repr

/-- The context behind a character outside quotes. -/
def Context.behindPlain (c : Char) : Context :=
  if c = '\\' then .escape else if c = '"' then .weak else if c = '\'' then .strong else .plain

/-- The context behind a character. -/
def Context.step : Context → Char → Context
  | .blank, c => if c = '#' then .comment else behindPlain c
  | .escape, _ => .plain
  | .plain, c => if Text.isBlank c && c != '\n' && c != '\r' then .blank else behindPlain c
  | .weak, c => if c = '\\' then .weakEscape else if c = '"' then .plain else .weak
  | .weakEscape, _ => .weak
  | .strong, c => if c = '\\' then .strongEscape else if c = '\'' then .plain else .strong
  | .strongEscape, _ => .strong
  | .comment, _ => .comment

/-- The context at the end of a physical line, and the line up to a comment in it. -/
def scan (context : Context) (kept : List Char) : List Char → Context × List Char
  | [] => (context, kept.reverse)
  | c :: cs =>
    match context.step c with
    | .comment => (.comment, kept.reverse)
    | next => scan next (c :: kept) cs

/-- A line without the line feed that ends it and the carriage return in front of that. -/
def dropEnd (line : List Char) : List Char :=
  match line.reverse with
  | '\n' :: '\r' :: rest => rest.reverse
  | '\n' :: rest => rest.reverse
  | _ => line

/-- The logical lines of a list of physical lines, given the open context and what of the line that
is being put together stands in front of them. `none` at the end stands for a line that is not
complete, or that has bytes that mean nothing. -/
def logicalLines (context : Context) (pending : List Char) :
    List (List (Option Char)) → List (Option (List Char))
  | [] => if context = .plain then [] else [none]
  | line :: rest =>
    match line.mapM id with
    | none => [none]
    | some line =>
      if ((pending ++ line).dropWhile Text.isBlank).head? = some '#' then
        logicalLines .plain [] rest
      else
        match scan context [] line with
        | (.plain, line) => some (dropEnd (pending ++ line)) :: logicalLines .plain [] rest
        | (.comment, line) => some (pending ++ line) :: logicalLines .plain [] rest
        | (context, line) => logicalLines context (pending ++ line) rest

/-- The physical lines of a file, each with the line feed that ends it. -/
def physicalLines (items : List (Option Char)) : List (List (Option Char)) :=
  items.foldr (fun c lines =>
    if c = some '\n' then [c] :: lines
    else match lines with
      | [] => [[c]]
      | line :: rest => (c :: line) :: rest) []

/-! ### Values -/

/-- How far the name of a variable has been read. -/
inductive Naming where
  | none
  /-- Behind a dollar sign; letters and digits, last first. -/
  | open (name : List Char)
  /-- In braces; characters, last first. -/
  | braced (name : List Char)
  deriving DecidableEq, Repr

/-- A value that is being read; pieces are kept last first. -/
structure Value where
  pieces : List Piece := []
  strong : Bool := false
  weak : Bool := false
  escaped : Bool := false
  /-- Behind white space: only more of it, or a comment, may follow. -/
  ended : Bool := false
  /-- In a comment. -/
  closed : Bool := false
  naming : Naming := .none

namespace Value

/-- The value with one more character. -/
def add (v : Value) (c : Char) : Value := { v with pieces := .char c :: v.pieces }

/-- The value with a name that has been read. -/
def addVariable (v : Value) (name : List Char) : Value :=
  { v with pieces := .variable (String.ofList name.reverse) :: v.pieces, naming := .none }

/-- The value with one more character, if it may stand there. -/
def step? (v : Value) (c : Char) : Option Value :=
  if v.closed then some v
  else if v.ended then
    if c = ' ' ∨ c = '\t' then some v
    else if c = '#' then some { v with closed := true }
    else none
  else if v.escaped then
    let v := { v with escaped := false }
    if ['\\', '\'', '"', '$', ' '].contains c then some (v.add c)
    else if c = 'n' then some (v.add '\n')
    else none
  else if v.strong then some (if c = '\'' then { v with strong := false } else v.add c)
  else
    match v.naming with
    | .open name =>
      if Text.isAlphanumeric c then some { v with naming := .open (c :: name) }
      else if c = '\x7b' ∧ name = [] then some { v with naming := .braced [] }
      else
        let v := v.addVariable name
        some (if c = '$' then { v with naming := .open [] } else v.add c)
    | .braced name =>
      some (if c = '\x7d' then v.addVariable name else { v with naming := .braced (c :: name) })
    | .none =>
      some <|
        if c = '$' then { v with naming := .open [] }
        else if c = '\\' then { v with escaped := true }
        else if v.weak then if c = '"' then { v with weak := false } else v.add c
        else if c = '\'' then { v with strong := true }
        else if c = '"' then { v with weak := true }
        else if c = ' ' ∨ c = '\t' then { v with ended := true }
        else v.add c

/-- The pieces of the value, if it may end here. -/
def finish? (v : Value) : Option (List Piece) :=
  if v.strong || v.weak then none
  else
    match v.naming with
    | .none => some v.pieces.reverse
    | .open name => some (v.addVariable name).pieces.reverse
    | .braced _ => none

end Value

/-- The pieces of a written value, if it is one. -/
def value? (cs : List Char) : Option (List Piece) := do (← cs.foldlM Value.step? {}).finish?

/-! ### Assignments -/

/-- The name at the start of a line, and what stands behind it. -/
def name? (line : List Char) : Option (List Char × List Char) :=
  let isStart (c : Char) : Bool := c.isAlpha || c == '_'
  let isInner (c : Char) : Bool := c.isAlphanum || c == '_' || c == '.'
  if line.head?.any isStart then some (line.takeWhile isInner, line.dropWhile isInner) else none

/-- What stands behind an equals sign at the start of a line. -/
def behindEquals? : List Char → Option (List Char)
  | '=' :: rest => some rest
  | _ => none

/-- The assignment on a line; `some none` if the line is empty or a comment, and `none` if it is
neither. The word `export` in front of a name says nothing, but can be a name itself. -/
def assignment? (line : List Char) : Option (Option Assignment) := do
  let skip (cs : List Char) := cs.dropWhile Text.isBlank
  let isOver (cs : List Char) : Bool := cs.isEmpty || cs.head? == some '#'
  let line := skip (line.reverse.dropWhile Text.isBlank).reverse
  if isOver line then return none
  let (name, rest) ← name? line
  let rest := skip rest
  let (name, rest) ←
    match behindEquals? rest with
    | some rest => some (name, rest)
    | none =>
      if name = "export".toList then do
        let (name, rest) ← name? rest
        some (name, ← behindEquals? (skip rest))
      else none
  let rest := skip rest
  let value ← if isOver rest then some [] else value? rest
  return some ⟨String.ofList name, value⟩

/-- The assignments on the lines in front of the first that is incomplete or makes no sense. -/
def assignmentsOf : List (Option (List Char)) → List Assignment
  | [] => []
  | line :: rest =>
    match line.bind assignment? with
    | none => []
    | some none => assignmentsOf rest
    | some (some assignment) => assignment :: assignmentsOf rest

/-- The assignments of a file, up to the first line that makes no sense. A byte-order mark in front
of them is ignored. -/
def assignments (bytes : List UInt8) : List Assignment :=
  let items := Bytes.Utf8.read (Encoding.dropUtf8Mark bytes)
  assignmentsOf (logicalLines .plain [] (physicalLines items))

/-- The names of all variables that assignments set or use. -/
def names (assignments : List Assignment) : List String :=
  assignments.flatMap fun a => a.name :: a.value.filterMap fun
    | .variable name => some name
    | .char _ => none

end DotEnv

namespace Environment

/-- The text of a value in an environment. Variables that are not set are empty. -/
def evaluate (environment : Environment) (value : List DotEnv.Piece) : String :=
  value.foldl (fun text piece =>
    match piece with
    | .char c => text.push c
    | .variable name => text ++ (environment.get? name).getD "") ""

/-- The environment with assignments made in order, as far as they set variables that are not
set. -/
def load (environment : Environment) (assignments : List DotEnv.Assignment) : Environment :=
  assignments.foldl (fun environment a =>
    environment.setIfMissing a.name (environment.evaluate a.value)) environment

end Environment

end FileProfile
