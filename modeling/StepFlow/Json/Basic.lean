import StepFlow.Number.Binary

/-! # JSON values

Objects are lists of named values in the order in which they are written; rule sets depend on that
order. No name occurs twice in an object that was read: the last value given to a name counts, at the
place where the name stood first. Whole numbers are kept apart from numbers with a fraction part.
-/

namespace StepFlow

/-- A JSON value. -/
inductive Json where
  | null
  | bool (value : Bool)
  | int (value : Int)
  | real (negative : Bool) (magnitude : Binary)
  | str (text : String)
  | arr (items : List Json)
  | obj (fields : List (String × Json))
  deriving Repr, BEq, Inhabited

namespace Json

/-- Gives a name a value: in its place if the name is there, else at the end. -/
def put (name : String) (value : Json) : List (String × Json) → List (String × Json)
  | [] => [(name, value)]
  | (other, old) :: rest =>
    if other = name then (name, value) :: rest else (other, old) :: put name value rest

/-- Gives several names their values, one after another. -/
def putAll (fields : List (String × Json)) (more : List (String × Json)) : List (String × Json) :=
  more.foldl (fun fields field => put field.1 field.2 fields) fields

/-- The fields without a name. -/
def drop (name : String) (fields : List (String × Json)) : List (String × Json) :=
  fields.filter (·.1 ≠ name)

/-- The value of a name in an object; other values have none. -/
def get? (json : Json) (name : String) : Option Json :=
  match json with
  | .obj fields => fields.lookup name
  | _ => none

/-- A list of texts. -/
def strings (texts : List String) : Json := .arr (texts.map .str)

/-- A value, or null. -/
def ofOption {α : Type} (encode : α → Json) : Option α → Json
  | none => .null
  | some a => encode a

/-- A natural number. -/
def nat (n : Nat) : Json := .int n

/-- Whether a value counts as given: null, false, zero and everything empty do not. -/
def isGiven : Json → Bool
  | .null => false
  | .bool value => value
  | .int value => value != 0
  | .real _ magnitude => magnitude.mantissa != 0
  | .str text => !text.isEmpty
  | .arr items => !items.isEmpty
  | .obj fields => !fields.isEmpty

end Json

end StepFlow
