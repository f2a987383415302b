import StepFlow.Json.Reader

/-! # Reading values of a given shape

A record is read from a JSON object field by field. Reading is lenient where no meaning is lost: a
whole number may be written with a fraction of zero or as a text, a truth value as one of a few words.
All fields are looked at, so that every fault is listed, in the order of the fields; a fault is the
path to a value and what is wrong with it.
-/

namespace StepFlow

namespace Schema

/-- One step of a path into a value. -/
inductive Key where
  | field (name : String)
  | index (position : Nat)
  deriving Repr, DecidableEq

/-- What is wrong with a value. -/
inductive Cause where
  | missing
  | notText
  | notInteger
  | unreadableInteger
  | oversizedInteger
  | fractionalInteger
  | notTruth
  | unreadableTruth
  | notList
  | notTuple
  | notSet
  | notMap
  | notRecord
  | unknownChoice
  | unknownLiteral
  | tooSmall
  | untagged
  | unknownTag
  | notTagged
  | malformed
  /-- The value breaks a rule of its record, with the wording of that rule. -/
  | rejected (reason : String)
  deriving Repr, DecidableEq

/-- A value at the end of a path that is wrong. -/
structure Fault where
  path : List Key
  cause : Cause
  deriving Repr, DecidableEq

end Schema

/-- A value that was read, or all its faults. -/
inductive Checked (α : Type) where
  | valid (value : α)
  | faulty (faults : List Schema.Fault)
  deriving Repr, DecidableEq

namespace Checked

variable {α β : Type}

/-- Applies a function inside. -/
def map (f : α → β) : Checked α → Checked β
  | .valid a => .valid (f a)
  | .faulty faults => .faulty faults

/-- Applies a function that was read to a value that was read; faults of both are listed. -/
def seq (f : Checked (α → β)) (a : Checked α) : Checked β :=
  match f, a with
  | .valid f, .valid a => .valid (f a)
  | .valid _, .faulty faults => .faulty faults
  | .faulty faults, .valid _ => .faulty faults
  | .faulty faults, .faulty more => .faulty (faults ++ more)

/-- Goes on with a valid value. -/
def andThen (a : Checked α) (f : α → Checked β) : Checked β :=
  match a with
  | .valid a => f a
  | .faulty faults => .faulty faults

/-- A single fault at the value itself. -/
def fail (cause : Schema.Cause) : Checked α := .faulty [⟨[], cause⟩]

/-- Faults one step deeper in a path. -/
def under (key : Schema.Key) : Checked α → Checked α
  | .valid a => .valid a
  | .faulty faults => .faulty (faults.map fun fault => { fault with path := key :: fault.path })

/-- The value, or its faults. -/
def toExcept : Checked α → Except (List Schema.Fault) α
  | .valid a => .ok a
  | .faulty faults => .error faults

instance : Functor Checked where
  map := map

instance : Applicative Checked where
  pure := .valid
  seq f a := seq f (a ())

@[simp] theorem map_valid (f : α → β) (a : α) : f <$> valid a = valid (f a) := rfl

@[simp] theorem seq_valid (f : α → β) (a : α) : valid f <*> valid a = valid (f a) := rfl

@[simp] theorem under_valid (key : Schema.Key) (a : α) : under key (valid a) = valid a := rfl

@[simp] theorem andThen_valid (a : α) (f : α → Checked β) : andThen (valid a) f = f a := rfl

end Checked

namespace Schema

open Checked

variable {α : Type}

/-- A text. -/
def text : Json → Checked String
  | .str s => .valid s
  | _ => fail .notText

/-- The integer that a text spells: a sign, digits with single underscores between them, and perhaps
a point with zeros only. -/
def integerText? (chars : List Char) : Option Int :=
  let (negative, digits) := match chars with
    | '-' :: rest => (true, rest)
    | '+' :: rest => (false, rest)
    | rest => (false, rest)
  let whole := digits.takeWhile (· != '.')
  let fraction := digits.dropWhile (· != '.')
  let groups := Text.splitAt '_' whole
  if groups.all (fun group => !group.isEmpty && group.all Char.isDigit) &&
      (fraction.drop 1).all (· == '0') then
    let value : Int := Json.digitsValue groups.flatten
    some (if negative then -value else value)
  else none

/-- Blanks that may surround a number in a text. -/
def isNumberBlank (c : Char) : Bool := Text.isBlank c && !(28 ≤ c.toNat && c.toNat ≤ 31)

/-- A text without blanks around it. -/
def trimNumber (chars : List Char) : List Char :=
  ((chars.dropWhile isNumberBlank).reverse.dropWhile isNumberBlank).reverse

/-- The greatest length of a number written as a text. -/
def maxIntegerText : Nat := 4300

/-- An integer. -/
def integer : Json → Checked Int
  | .int n => .valid n
  | .bool b => .valid (if b then 1 else 0)
  | .real negative magnitude =>
    match magnitude.toNat? with
    | none => fail .fractionalInteger
    | some n =>
      if n < Nat.pow 2 63 then .valid (if negative then -(n : Int) else n) else fail .oversizedInteger
  | .str s =>
    let chars := trimNumber s.toList
    if chars.length > maxIntegerText then fail .oversizedInteger
    else match integerText? chars with
      | some n => .valid n
      | none => fail .unreadableInteger
  | _ => fail .notInteger

/-- An integer that is not negative. -/
def natural (json : Json) : Checked Nat :=
  (integer json).andThen fun n => if n < 0 then fail .tooSmall else .valid n.toNat

/-- An integer that is at least one. -/
def positive (json : Json) : Checked Nat :=
  (integer json).andThen fun n => if n < 1 then fail .tooSmall else .valid n.toNat

/-- Texts that mean no. -/
def falseWords : List String := ["0", "off", "f", "false", "n", "no"]

/-- Texts that mean yes. -/
def trueWords : List String := ["1", "on", "t", "true", "y", "yes"]

/-- A truth value. -/
def truth : Json → Checked Bool
  | .bool b => .valid b
  | .int n => if n = 0 then .valid false else if n = 1 then .valid true else fail .unreadableTruth
  | .real negative magnitude =>
    match magnitude.toNat? with
    | some 0 => .valid false
    | some 1 => if negative then fail .unreadableTruth else .valid true
    | _ => fail .unreadableTruth
  | .str s =>
    let word := String.ofList (s.toList.map Char.toLower)
    if trueWords.contains word then .valid true
    else if falseWords.contains word then .valid false
    else fail .unreadableTruth
  | _ => fail .notTruth

/-- Null, or a value. -/
def nullable (read : Json → Checked α) : Json → Checked (Option α)
  | .null => .valid none
  | json => some <$> read json

/-- The values of a list from a position on. -/
def itemsFrom (read : Json → Checked α) : Nat → List Json → Checked (List α)
  | _, [] => .valid []
  | position, item :: rest =>
    List.cons <$> (read item).under (.index position) <*> itemsFrom read (position + 1) rest

/-- A list; anything else has the given cause. -/
def listOr (cause : Cause) (read : Json → Checked α) : Json → Checked (List α)
  | .arr items => itemsFrom read 0 items
  | _ => fail cause

/-- A list. -/
def list (read : Json → Checked α) (json : Json) : Checked (List α) := listOr .notList read json

/-- A list of texts. -/
def texts (json : Json) : Checked (List String) := list text json

/-- The named values of a map. -/
def entriesOf (read : Json → Checked α) : List (String × Json) → Checked (List (String × α))
  | [] => .valid []
  | (name, value) :: rest =>
    List.cons <$> ((name, ·) <$> (read value).under (.field name)) <*> entriesOf read rest

/-- A map from names to values, in order. -/
def map (read : Json → Checked α) : Json → Checked (List (String × α))
  | .obj fields => entriesOf read fields
  | _ => fail .notMap

/-- One of several words. -/
def choice (cause : Cause) (find? : String → Option α) : Json → Checked α
  | .str s => match find? s with
    | some a => .valid a
    | none => fail cause
  | _ => fail cause

/-- The fields of a record. -/
def record (read : List (String × Json) → Checked α) : Json → Checked α
  | .obj fields => read fields
  | _ => fail .notRecord

/-- A field that has to be there. -/
def required (name : String) (read : Json → Checked α) (fields : List (String × Json)) : Checked α :=
  match fields.lookup name with
  | none => .faulty [⟨[.field name], .missing⟩]
  | some json => (read json).under (.field name)

/-- A field that has a value of its own if it is left out. -/
def optional (name : String) (read : Json → Checked α) (default : α)
    (fields : List (String × Json)) : Checked α :=
  match fields.lookup name with
  | none => .valid default
  | some json => (read json).under (.field name)

/-- A record that a tag tells apart from others. -/
def tagged (find? : String → Option (List (String × Json) → Checked α)) : Json → Checked α
  | .obj fields =>
    match fields.lookup "kind" with
    | none => fail .untagged
    | some (.str tag) =>
      match find? tag with
      | none => fail .unknownTag
      | some read => (read fields).under (.field tag)
    | some _ => fail .unknownTag
  | _ => fail .notTagged

/-- A value written as a JSON text. -/
def ofText (read : Json → Checked α) (source : String) : Checked α :=
  match Json.read? source with
  | none => fail .malformed
  | some json => read json

end Schema

end StepFlow
