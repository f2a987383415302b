import StepFlow.Json.Schema

/-! # Conditions

A condition line says what must hold before a step starts or ends. Its text may hold a comparison, a
reference to steps of another program, a time, or the name of something outside.
-/

namespace StepFlow

open Schema

/-- How a condition or a group joins what stands before it. -/
inductive Connective where
  | and
  | or
  deriving Repr, DecidableEq

/-- The relations of comparisons, in the order in which they are sought. -/
inductive Relation where
  | equal
  | unequal
  | different
  | atLeast
  | atMost
  | greater
  | less
  deriving Repr, DecidableEq

/-- A comparison in a condition. -/
structure Comparison where
  subject : String
  relation : Relation
  value : String
  deriving Repr, DecidableEq

/-- How long a step must have been active. -/
structure TimerSpec where
  value : Int
  unit : String
  deriving Repr, DecidableEq

/-- A reference to steps of another program. At least one step is named, and none twice. -/
structure CrossReference where
  program : String
  steps : List Int
  description : String
  line : Option Int
  named : steps ≠ []
  distinct : steps.Nodup
  deriving Repr, DecidableEq

/-- A condition of a step, a transition or a variable. -/
structure Condition where
  text : String
  negated : Bool := false
  connective : Connective := .and
  comparison : Option Comparison := none
  crossReference : Option CrossReference := none
  timer : Option TimerSpec := none
  external : Option String := none
  line : Option Int := none
  deriving Repr, DecidableEq

/-- Conditions that hold together. -/
structure ConditionGroup where
  connective : Connective := .and
  conditions : List Condition := []
  deriving Repr, DecidableEq

namespace Connective

/-- The word for a connective. -/
def word : Connective → String
  | .and => "AND"
  | .or => "OR"

/-- The connective that a word names. -/
def ofWord? (word : String) : Option Connective := [Connective.and, .or].find? (·.word == word)

end Connective

namespace Relation

/-- The sign of a relation. -/
def sign : Relation → String
  | .equal => "=="
  | .unequal => "!="
  | .different => "<>"
  | .atLeast => ">="
  | .atMost => "<="
  | .greater => ">"
  | .less => "<"

/-- All relations; a sign that starts with another one comes before it. -/
def all : List Relation := [equal, unequal, different, atLeast, atMost, greater, less]

/-- The relation of a sign. -/
def ofSign? (sign : String) : Option Relation := all.find? (·.sign == sign)

end Relation

namespace Comparison

/-- Reads a comparison. -/
def ofJson : Json → Checked Comparison := record fun fields =>
  Comparison.mk
    <$> required "variable" text fields
    <*> required "operator" (choice .unknownLiteral Relation.ofSign?) fields
    <*> required "value" text fields

/-- Writes a comparison. -/
def toJson (comparison : Comparison) : Json :=
  .obj [("variable", .str comparison.subject), ("operator", .str comparison.relation.sign),
    ("value", .str comparison.value)]

end Comparison

namespace TimerSpec

/-- Reads a time. -/
def ofJson : Json → Checked TimerSpec := record fun fields =>
  TimerSpec.mk <$> required "value" integer fields <*> required "unit" text fields

/-- Writes a time. -/
def toJson (timer : TimerSpec) : Json :=
  .obj [("value", .int timer.value), ("unit", .str timer.unit)]

end TimerSpec

/-- The numbers of a list without those seen before, each once, at its first place. -/
def firstUses (seen : List Int) : List Int → List Int
  | [] => []
  | n :: rest => if n ∈ seen then firstUses seen rest else n :: firstUses (n :: seen) rest

theorem not_mem_firstUses {seen : List Int} {n : Int} (used : n ∈ seen) (numbers : List Int) :
    n ∉ firstUses seen numbers := by
  induction numbers generalizing seen with
  | nil => simp [firstUses]
  | cons m rest ih =>
    by_cases repeated : m ∈ seen
    · simpa [firstUses, repeated] using ih used
    · have differs : n ≠ m := fun same => repeated (same ▸ used)
      simpa [firstUses, repeated, differs] using ih (List.mem_cons_of_mem m used)

theorem nodup_firstUses (seen numbers : List Int) : (firstUses seen numbers).Nodup := by
  induction numbers generalizing seen with
  | nil => simp [firstUses]
  | cons m rest ih =>
    by_cases repeated : m ∈ seen
    · simpa [firstUses, repeated] using ih seen
    · simpa [firstUses, repeated] using
        ⟨not_mem_firstUses List.mem_cons_self rest, ih (m :: seen)⟩

theorem firstUses_ne_nil {numbers : List Int} (given : numbers ≠ []) : firstUses [] numbers ≠ [] := by
  cases numbers with
  | nil => exact absurd rfl given
  | cons m rest => simp [firstUses]

namespace CrossReference

/-- A reference to the given steps, each taken once. There is none to no step. -/
def ofNumbers? (program : String) (numbers : List Int) (description : String) (line : Option Int) :
    Option CrossReference :=
  if given : numbers ≠ [] then
    some
      { program, description, line
        steps := firstUses [] numbers
        named := firstUses_ne_nil given
        distinct := nodup_firstUses [] numbers }
  else none

/-- The fault of a reference to no step. -/
def noSteps : Cause := .rejected "step_numbers must not be empty"

/-- Step numbers of a reference: at least one. -/
def stepNumbers (json : Json) : Checked (List Int) :=
  (list integer json).andThen fun numbers =>
    if numbers.isEmpty then .fail noSteps else .valid numbers

/-- Reads a reference. -/
def ofJson : Json → Checked CrossReference := record fun fields =>
  ((fun program numbers description line => ofNumbers? program numbers description line)
    <$> required "program_name" text fields
    <*> required "step_numbers" stepNumbers fields
    <*> optional "description" text "" fields
    <*> optional "line_number" (nullable integer) none fields).andThen fun
      | some reference => .valid reference
      | none => .fail noSteps

/-- Writes a reference. -/
def toJson (reference : CrossReference) : Json :=
  .obj [("program_name", .str reference.program), ("step_numbers", .arr (reference.steps.map .int)),
    ("description", .str reference.description), ("line_number", .ofOption .int reference.line)]

end CrossReference

/-- The special forms that a condition can have. -/
inductive ConditionForm where
  | crossReference
  | timer
  | comparison
  deriving Repr, DecidableEq

/-- The word for a form. -/
def ConditionForm.word : ConditionForm → String
  | .crossReference => "cross_reference"
  | .timer => "timer"
  | .comparison => "comparison"

namespace Condition

/-- The special forms that were found in a condition. -/
def forms (condition : Condition) : List ConditionForm :=
  (if condition.crossReference.isSome then [.crossReference] else []) ++
    (if condition.timer.isSome then [.timer] else []) ++
    (if condition.comparison.isSome then [.comparison] else [])

/-- Reads a condition. -/
def ofJson : Json → Checked Condition := record fun fields =>
  Condition.mk
    <$> required "text" Schema.text fields
    <*> optional "negated" truth false fields
    <*> optional "operator" (choice .unknownChoice Connective.ofWord?) .and fields
    <*> optional "comparison" (nullable Comparison.ofJson) none fields
    <*> optional "cross_reference" (nullable CrossReference.ofJson) none fields
    <*> optional "timer" (nullable TimerSpec.ofJson) none fields
    <*> optional "external_reference" (nullable Schema.text) none fields
    <*> optional "line_number" (nullable integer) none fields

/-- Writes a condition. -/
def toJson (condition : Condition) : Json :=
  .obj [("text", .str condition.text), ("negated", .bool condition.negated),
    ("operator", .str condition.connective.word),
    ("comparison", .ofOption Comparison.toJson condition.comparison),
    ("cross_reference", .ofOption CrossReference.toJson condition.crossReference),
    ("timer", .ofOption TimerSpec.toJson condition.timer),
    ("external_reference", .ofOption .str condition.external),
    ("line_number", .ofOption .int condition.line)]

end Condition

namespace ConditionGroup

/-- Reads a group. -/
def ofJson : Json → Checked ConditionGroup := record fun fields =>
  ConditionGroup.mk
    <$> optional "operator" (choice .unknownChoice Connective.ofWord?) .and fields
    <*> optional "conditions" (list Condition.ofJson) [] fields

/-- Writes a group. -/
def toJson (group : ConditionGroup) : Json :=
  .obj [("operator", .str group.connective.word),
    ("conditions", .arr (group.conditions.map Condition.toJson))]

end ConditionGroup

/-- The sum of counts. -/
def sumCounts (counts : List Nat) : Nat := counts.foldr (· + ·) 0

/-- The number of conditions in groups. -/
def countConditions (groups : List ConditionGroup) : Nat :=
  sumCounts (groups.map fun group => group.conditions.length)

end StepFlow
