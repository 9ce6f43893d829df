import FileProfile.Json.Basic

/-!
# Records in JSON

A record is written as an object with its fields by name, and may also be read from an array that
holds exactly its fields, in order. Fields that the record does not have are ignored. A field that
may be missing may also be null.
-/

namespace FileProfile.Json

/-- The object of a record with fields of these names. -/
def record? (names : List String) : Json → Option Json
  | array items => if items.length = names.length then some (object (names.zip items)) else none
  | object fields => some (object fields)
  | _ => none

/-- The value of a field that has to be there. -/
def required? {α : Type} (record : Json) (name : String) (read? : Json → Option α) : Option α := do
  read? (← record.field? name)

/-- The value of a field that may be missing. -/
def optional? {α : Type} (record : Json) (name : String) (read? : Json → Option α) :
    Option (Option α) :=
  match record.field? name with
  | none | some null => some none
  | some value => (read? value).map some

/-- A truth value. -/
def bool? : Json → Option Bool
  | bool b => some b
  | _ => none

/-- A text. -/
def string? : Json → Option String
  | string s => some s
  | _ => none

/-- A number that is not negative and has at most 64 bits. -/
def size? : Json → Option Nat
  | scalar (.int (.ofNat n)) => if n < 0x10000000000000000 then some n else none
  | _ => none

/-- The name of one of several alternatives: a text, or an object with that name as its only field
and null as its value. -/
def alternative? : Json → Option String
  | string s => some s
  | object [(s, null)] => some s
  | _ => none

end FileProfile.Json
