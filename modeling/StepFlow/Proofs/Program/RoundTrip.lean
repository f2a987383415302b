import StepFlow.Program.Json

/-! # Programs read back from JSON

What is written for a program is read back as that program. A field is found under its own name, whatever stands before
it, so a record is read back if its fields are. Lists and optional values are read back if their parts are; null stands
for no value, so nothing else may be written as null. Reading a reference takes each step number once, which changes
nothing, as no reference names a step twice.
-/

namespace StepFlow

namespace Schema

variable {α : Type} {read : Json → Checked α} {write : α → Json} {name other : String} {json : Json}
  {fields : List (String × Json)}

@[simp] theorem record_obj (readFields : List (String × Json) → Checked α) :
    record readFields (.obj fields) = readFields fields := rfl

@[simp] theorem required_cons_self :
    required name read ((name, json) :: fields) = (read json).under (.field name) := by
  rw [required, List.lookup_cons_self]

@[simp] theorem required_cons_of_ne (differs : name ≠ other) :
    required name read ((other, json) :: fields) = required name read fields := by
  rw [required, required, List.lookup_cons, beq_false_of_ne differs]

@[simp] theorem optional_cons_self (default : α) :
    optional name read default ((name, json) :: fields) = (read json).under (.field name) := by
  rw [optional, List.lookup_cons_self]

@[simp] theorem optional_cons_of_ne (differs : name ≠ other) (default : α) :
    optional name read default ((other, json) :: fields) = optional name read default fields := by
  rw [optional, optional, List.lookup_cons, beq_false_of_ne differs]

@[simp] theorem text_str (s : String) : text (.str s) = .valid s := rfl

@[simp] theorem integer_int (n : Int) : integer (.int n) = .valid n := rfl

@[simp] theorem truth_bool (b : Bool) : truth (.bool b) = .valid b := rfl

@[simp] theorem natural_nat (n : Nat) : natural (.nat n) = .valid n := by
  have positive : ¬(n : Int) < 0 := by omega
  simp [natural, Json.nat, positive]

theorem tagged_obj {find? : String → Option (List (String × Json) → Checked α)} {tag : String}
    {readFields : List (String × Json) → Checked α} (found : fields.lookup "kind" = some (.str tag))
    (known : find? tag = some readFields) : tagged find? (.obj fields) = (readFields fields).under (.field tag) := by
  simp only [tagged, found, known]

theorem choice_str {cause : Cause} {find? : String → Option α} {word : String} {value : α}
    (known : find? word = some value) : choice cause find? (.str word) = .valid value := by
  rw [choice, known]

theorem itemsFrom_map (law : ∀ value, read (write value) = .valid value) (position : Nat) (values : List α) :
    itemsFrom read position (values.map write) = .valid values := by
  induction values generalizing position with
  | nil => rfl
  | cons value rest ih => simp [itemsFrom, law value, ih]

@[simp] theorem list_map (law : ∀ value, read (write value) = .valid value) (values : List α) :
    list read (.arr (values.map write)) = .valid values :=
  itemsFrom_map law 0 values

@[simp] theorem texts_strings (values : List String) : texts (.strings values) = .valid values :=
  list_map text_str values

theorem nullable_ofOption (law : ∀ value, read (write value) = .valid value) (given : ∀ value, write value ≠ .null)
    (value : Option α) : nullable read (.ofOption write value) = .valid value := by
  cases value with
  | none => rfl
  | some value =>
    rw [Json.ofOption, nullable, law value]
    · rfl
    · exact given value

@[simp] theorem nullable_text (value : Option String) : nullable text (.ofOption .str value) = .valid value :=
  nullable_ofOption text_str (by simp) value

@[simp] theorem nullable_integer (value : Option Int) : nullable integer (.ofOption .int value) = .valid value :=
  nullable_ofOption integer_int (by simp) value

end Schema

open Schema

/-! ## Words -/

theorem Relation.ofSign?_sign (relation : Relation) : ofSign? relation.sign = some relation := by
  cases relation <;> decide

theorem Connective.ofWord?_word (connective : Connective) : ofWord? connective.word = some connective := by
  cases connective <;> decide

theorem BlockType.ofLetters?_letters (type : BlockType) : ofLetters? type.letters = some type := by
  cases type <;> decide

theorem Severity.ofWord?_word (severity : Severity) : ofWord? severity.word = some severity := by
  cases severity <;> decide

theorem DiagnosticCode.ofWord?_word (code : DiagnosticCode) : ofWord? code.word = some code := by
  cases code <;> decide

/-! ## Conditions -/

@[simp] theorem Comparison.ofJson_toJson (comparison : Comparison) : ofJson comparison.toJson = .valid comparison := by
  simp [ofJson, toJson, choice_str comparison.relation.ofSign?_sign]

@[simp] theorem TimerSpec.ofJson_toJson (timer : TimerSpec) : ofJson timer.toJson = .valid timer := by
  simp [ofJson, toJson]

/-- Numbers that are all different and have not been seen are all taken. -/
theorem firstUses_of_nodup {seen numbers : List Int} (distinct : numbers.Nodup) (fresh : ∀ n ∈ numbers, n ∉ seen) :
    firstUses seen numbers = numbers := by
  induction numbers generalizing seen with
  | nil => rfl
  | cons n rest ih =>
    obtain ⟨unrepeated, distinct⟩ := List.nodup_cons.mp distinct
    obtain ⟨unseen, fresh⟩ := List.forall_mem_cons.mp fresh
    rw [firstUses, if_neg unseen, ih distinct]
    intro m later known
    rcases List.mem_cons.mp known with rfl | known
    · exact unrepeated later
    · exact fresh m later known

namespace CrossReference

theorem ofNumbers?_steps (reference : CrossReference) :
    ofNumbers? reference.program reference.steps reference.description reference.line = some reference := by
  have same : firstUses [] reference.steps = reference.steps :=
    firstUses_of_nodup reference.distinct fun _ _ => List.not_mem_nil
  simp only [ofNumbers?, reference.named, ne_eq, not_false_eq_true, dite_true, same]

theorem stepNumbers_steps (reference : CrossReference) :
    stepNumbers (.arr (reference.steps.map .int)) = .valid reference.steps := by
  rw [stepNumbers, list_map integer_int]
  simp [reference.named]

@[simp] theorem ofJson_toJson (reference : CrossReference) : ofJson reference.toJson = .valid reference := by
  simp [ofJson, toJson, stepNumbers_steps, ofNumbers?_steps]

end CrossReference

@[simp] theorem Condition.ofJson_toJson (condition : Condition) : ofJson condition.toJson = .valid condition := by
  have compared : nullable Comparison.ofJson (.ofOption Comparison.toJson condition.comparison) =
      .valid condition.comparison :=
    nullable_ofOption Comparison.ofJson_toJson (by simp [Comparison.toJson]) _
  have referred : nullable CrossReference.ofJson (.ofOption CrossReference.toJson condition.crossReference) =
      .valid condition.crossReference :=
    nullable_ofOption CrossReference.ofJson_toJson (by simp [CrossReference.toJson]) _
  have timed : nullable TimerSpec.ofJson (.ofOption TimerSpec.toJson condition.timer) = .valid condition.timer :=
    nullable_ofOption TimerSpec.ofJson_toJson (by simp [TimerSpec.toJson]) _
  simp [ofJson, toJson, choice_str condition.connective.ofWord?_word, compared, referred, timed]

@[simp] theorem ConditionGroup.ofJson_toJson (group : ConditionGroup) : ofJson group.toJson = .valid group := by
  simp [ofJson, toJson, choice_str group.connective.ofWord?_word]

/-! ## Steps -/

@[simp] theorem Transition.ofJson_toJson (transition : Transition) : ofJson transition.toJson = .valid transition := by
  simp [ofJson, toJson]

@[simp] theorem Assignment.ofJson_toJson (assignment : Assignment) : ofJson assignment.toJson = .valid assignment := by
  simp [ofJson, toJson]

namespace Step

/-- The fields that all steps share are read back, whatever the kind is read from. -/
theorem ofFields_toJson (step : Step) {kind : List (String × Json) → Checked StepKind}
    {fields : List (String × Json)} (written : step.toJson = .obj fields) (known : kind fields = .valid step.kind) :
    ofFields kind fields = .valid step := by
  cases written
  simp [ofFields, known]

/-- The kind of a step is its tag, and decides how its number is read. -/
@[simp] theorem ofJson_toJson (step : Step) : ofJson step.toJson = .valid step := by
  obtain ⟨fields, written, tag, numbered⟩ : ∃ fields, step.toJson = .obj fields ∧
      fields.lookup "kind" = some (.str step.kind.word) ∧ fields.lookup "number" = some (.nat step.number) :=
    ⟨_, rfl, rfl, rfl⟩
  rw [ofJson, written]
  cases kind : step.kind with
  | rest =>
    rw [kind] at tag
    rw [tagged_obj tag rfl, step.ofFields_toJson written]
    · rfl
    · simp [Schema.optional, numbered, number, kind, StepKind.number, restNumber, Json.nat]
  | sequential number =>
    rw [kind] at tag
    rw [tagged_obj tag rfl, step.ofFields_toJson written]
    · rfl
    · simp [required, numbered, Step.number, kind, StepKind.number]

end Step

/-! ## Programs -/

@[simp] theorem Variable.ofJson_toJson (var : Variable) : ofJson var.toJson = .valid var := by
  simp [ofJson, toJson]

@[simp] theorem BlockTag.ofJson_toJson (tag : BlockTag) : ofJson tag.toJson = .valid tag := by
  simp [ofJson, ofFields, toJson, choice_str tag.type.ofLetters?_letters]

@[simp] theorem Statistics.ofJson_toJson (statistics : Statistics) : ofJson statistics.toJson = .valid statistics := by
  simp [ofJson, toJson]

@[simp] theorem Diagnostic.ofJson_toJson (diagnostic : Diagnostic) : ofJson diagnostic.toJson = .valid diagnostic := by
  simp [ofJson, toJson, choice_str diagnostic.code.ofWord?_word, choice_str diagnostic.severity.ofWord?_word]

@[simp] theorem Program.anyFields_obj (fields : List (String × Json)) : anyFields (.obj fields) = .valid fields := rfl

end StepFlow
