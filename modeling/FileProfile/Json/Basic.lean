import FileProfile.Text.Decimal

/-!
# JSON values and their tokens

A JSON value is a scalar, an array or an object; an object keeps its fields in the order in which
they were written. A number without fraction and exponent is an integer; any other is kept as
written.

The text of a value is the text of its tokens, `Json.tokens`. Both layouts of a value have the same
tokens and differ only in the white space between them.
-/

namespace FileProfile

/-- A JSON value without parts. -/
inductive Scalar where
  | null
  | bool (b : Bool)
  | int (n : Int)
  /-- A number with a fraction or an exponent, or minus zero, as written. -/
  | decimal (written : List Char)
  | string (s : String)
  deriving DecidableEq, Repr

/-- A JSON value. -/
inductive Json where
  | scalar (s : Scalar)
  | array (items : List Json)
  | object (fields : List (String × Json))

namespace Json

instance : Inhabited Json := ⟨scalar .null⟩

/-- The null value. -/
@[match_pattern] def null : Json := scalar .null

/-- A truth value. -/
@[match_pattern] def bool (b : Bool) : Json := scalar (.bool b)

/-- A text. -/
@[match_pattern] def string (s : String) : Json := scalar (.string s)

/-- A natural number. -/
def nat (n : Nat) : Json := scalar (.int n)

/-- A text, or null for none. -/
def stringOrNull (s : Option String) : Json := (s.map string).getD null

/-- The value of a field, the last of its name, if the value is an object that has it. -/
def field? (name : String) : Json → Option Json
  | object fields => (fields.reverse.find? (·.1 == name)).map (·.2)
  | _ => none

/-- The smallest parts of the text of a value. -/
inductive Token where
  | openArray
  | closeArray
  | openObject
  | closeObject
  | comma
  | colon
  | scalar (s : Scalar)
  deriving DecidableEq, Repr

mutual

/-- The tokens of a value, last first, in front of `done`. -/
def addTokens (done : List Token) : Json → List Token
  | scalar s => .scalar s :: done
  | array items => .closeArray :: addItems (.openArray :: done) items
  | object fields => .closeObject :: addFields (.openObject :: done) fields

/-- The tokens of the items of an array, last first, in front of `done`. -/
def addItems (done : List Token) : List Json → List Token
  | [] => done
  | [item] => addTokens done item
  | item :: rest => addItems (.comma :: addTokens done item) rest

/-- The tokens of the fields of an object, last first, in front of `done`. -/
def addFields (done : List Token) : List (String × Json) → List Token
  | [] => done
  | [(name, value)] => addTokens (.colon :: .scalar (.string name) :: done) value
  | (name, value) :: rest =>
    addFields (.comma :: addTokens (.colon :: .scalar (.string name) :: done) value) rest

end

/-- The tokens of a value. -/
def tokens (value : Json) : List Token := (addTokens [] value).reverse

end Json

end FileProfile
