import Mathlib.Data.List.Forall2
import StepFlow.CheckRules
import StepFlow.Proofs.Checking.Groups
import StepFlow.Proofs.Json.Objects
import StepFlow.Proofs.Program.RoundTrip

/-! # Rule sets read back from JSON

The texts of patterns are checked when a rule set is read, so exactly the rule sets whose texts spell patterns are read
back from what is written for them. What is read depends on the value found under each name only, not on the order of
the fields or on fields of other names; the groups of a rule set are the exception, which are read one by one and keep
their order.
-/

namespace StepFlow

/-! ## Values without faults -/

namespace Checked

variable {α β : Type}

theorem map_eq_valid_iff {f : α → β} {checked : Checked α} {b : β} :
    f <$> checked = valid b ↔ ∃ a, checked = valid a ∧ f a = b := by
  constructor
  · intro success
    cases checked with
    | valid a => exact ⟨a, rfl, valid.inj success⟩
    | faulty faults => cases success
  · rintro ⟨a, rfl, rfl⟩
    rfl

theorem seq_eq_valid_iff {f : Checked (α → β)} {checked : Checked α} {b : β} :
    f <*> checked = valid b ↔ ∃ g a, f = valid g ∧ checked = valid a ∧ g a = b := by
  constructor
  · intro success
    cases f with
    | faulty faults => cases checked <;> cases success
    | valid g =>
      cases checked with
      | valid a => exact ⟨g, a, rfl, rfl, valid.inj success⟩
      | faulty faults => cases success
  · rintro ⟨g, a, rfl, rfl, rfl⟩
    rfl

theorem under_eq_valid_iff {key : Schema.Key} {checked : Checked α} {a : α} :
    checked.under key = valid a ↔ checked = valid a := by
  cases checked with
  | valid b => exact Iff.rfl
  | faulty faults => simp [under]

theorem andThen_eq_valid_iff {checked : Checked α} {f : α → Checked β} {b : β} :
    checked.andThen f = valid b ↔ ∃ a, checked = valid a ∧ f a = valid b := by
  constructor
  · intro success
    cases checked with
    | valid a => exact ⟨a, rfl, success⟩
    | faulty faults => cases success
  · rintro ⟨a, rfl, success⟩
    exact success

end Checked

namespace Schema

open Checked

variable {α : Type} {read : Json → Checked α}

theorem optional_congr {name : String} {fields fields' : List (String × Json)}
    (same : fields.lookup name = fields'.lookup name) (read : Json → Checked α) (default : α) :
    optional name read default fields = optional name read default fields' := by
  rw [optional, optional, same]

theorem optional_of_lookup {name : String} {fields : List (String × Json)} {json : Json}
    (found : fields.lookup name = some json) (read : Json → Checked α) (default : α) :
    optional name read default fields = (read json).under (.field name) := by
  rw [optional, found]

theorem optional_eq_valid_iff {name : String} {fields : List (String × Json)} {json : Json} {default value : α}
    (found : fields.lookup name = some json) :
    optional name read default fields = valid value ↔ read json = valid value := by
  rw [optional_of_lookup found]
  exact under_eq_valid_iff

theorem record_eq_valid_iff {readFields : List (String × Json) → Checked α} {json : Json} {value : α} :
    record readFields json = valid value ↔ ∃ fields, json = .obj fields ∧ readFields fields = valid value := by
  constructor
  · intro success
    cases json with
    | obj fields => exact ⟨fields, rfl, success⟩
    | _ => cases success
  · rintro ⟨fields, rfl, success⟩
    exact success

/-- The named values of a map are read one by one. -/
theorem entriesOf_eq_valid_iff {fields : List (String × Json)} {values : List (String × α)} :
    entriesOf read fields = valid values ↔
      List.Forall₂ (fun field value => field.1 = value.1 ∧ read field.2 = valid value.2) fields values := by
  induction fields generalizing values with
  | nil =>
    rw [List.forall₂_nil_left_iff, entriesOf, valid.injEq]
    exact eq_comm
  | cons field fields ih =>
    obtain ⟨name, json⟩ := field
    simp only [entriesOf, seq_eq_valid_iff, map_eq_valid_iff, under_eq_valid_iff, ih, List.forall₂_cons_left_iff]
    constructor
    · rintro ⟨_, rest, ⟨_, ⟨value, success, rfl⟩, rfl⟩, later, rfl⟩
      exact ⟨_, rest, ⟨rfl, success⟩, later, rfl⟩
    · rintro ⟨⟨_, value⟩, rest, ⟨rfl, success⟩, later, rfl⟩
      exact ⟨_, rest, ⟨_, ⟨value, success, rfl⟩, rfl⟩, later, rfl⟩

theorem names_of_entriesOf {fields : List (String × Json)} {values : List (String × α)}
    (isRead : entriesOf read fields = valid values) : values.map Prod.fst = Json.names fields := by
  rw [entriesOf_eq_valid_iff] at isRead
  induction isRead with
  | nil => rfl
  | cons first _ ih => rw [List.map_cons, ih, ← first.1, Json.names, Json.names, List.map_cons]

theorem exists_of_mem_entries {fields : List (String × Json)} {values : List (String × α)}
    (isRead : entriesOf read fields = valid values) : ∀ value ∈ values, ∃ json, read json = valid value.2 := by
  rw [entriesOf_eq_valid_iff] at isRead
  induction isRead with
  | nil => exact List.forall_mem_nil _
  | cons first _ ih => exact List.forall_mem_cons.mpr ⟨⟨_, first.2⟩, ih⟩

/-- What a name finds in a map that was read is what was read from the value of that name. -/
theorem lookup_of_entriesOf {fields : List (String × Json)} {values : List (String × α)}
    (isRead : entriesOf read fields = valid values) (name : String) :
    (values.lookup name).map valid = (fields.lookup name).map read := by
  rw [entriesOf_eq_valid_iff] at isRead
  induction isRead with
  | nil => rfl
  | @cons field value _ _ first _ ih =>
    rw [List.lookup_cons, List.lookup_cons, first.1]
    cases name == value.1 with
    | true => exact congrArg some first.2.symm
    | false => exact ih

/-- Maps whose values are read in the same way under the same names are read in the same way. -/
theorem entriesOf_congr {fields fields' : List (String × Json)}
    (related : List.Forall₂ (fun field field' => field.1 = field'.1 ∧ read field.2 = read field'.2) fields fields') :
    entriesOf read fields = entriesOf read fields' := by
  induction related with
  | nil => rfl
  | cons first _ ih => rw [entriesOf, entriesOf, first.1, first.2, ih]

end Schema

open Schema

/-! ## Patterns of groups -/

/-- A text spells a pattern. -/
def Pattern.Spelled (text : String) : Prop := ∃ pattern, Pattern.read text = .ok pattern

instance (text : String) : Decidable (Pattern.Spelled text) :=
  decidable_of_iff ((Pattern.read text).toOption.isSome = true) (by
    rw [Pattern.Spelled]
    cases Pattern.read text <;> simp [Except.toOption])

namespace GroupRule

/-- A group whose texts all spell patterns. -/
def Valid (rule : GroupRule) : Prop := ∀ text ∈ rule.patterns ++ rule.excluded, Pattern.Spelled text

instance (rule : GroupRule) : Decidable rule.Valid := inferInstanceAs (Decidable (∀ text ∈ _, _))

theorem patternTexts_eq_valid_iff {json : Json} {patterns : List String} :
    patternTexts json = .valid patterns ↔ texts json = .valid patterns ∧ ∀ text ∈ patterns, Pattern.Spelled text := by
  rw [patternTexts, Checked.andThen_eq_valid_iff]
  constructor
  · rintro ⟨found, isList, success⟩
    split at success
    · cases success
    · rename_i faultless
      cases success
      refine ⟨isList, fun text member => ?_⟩
      have spelled := List.findSome?_eq_none_iff.mp faultless text member
      split at spelled
      · rename_i pattern read
        exact ⟨pattern, read⟩
      · cases spelled
  · rintro ⟨isList, spelled⟩
    refine ⟨patterns, isList, ?_⟩
    split
    · rename_i reason faulty
      obtain ⟨text, member, fault⟩ := List.exists_of_findSome?_eq_some faulty
      obtain ⟨pattern, read⟩ := spelled text member
      rw [read] at fault
      cases fault
    · rfl

theorem ofJson_toJson {rule : GroupRule} (valid : rule.Valid) : ofJson rule.toJson = .valid rule := by
  have patterns : patternTexts (.strings rule.patterns) = .valid rule.patterns :=
    patternTexts_eq_valid_iff.mpr ⟨texts_strings _, fun text member => valid text (List.mem_append_left _ member)⟩
  have excluded : patternTexts (.strings rule.excluded) = .valid rule.excluded :=
    patternTexts_eq_valid_iff.mpr ⟨texts_strings _, fun text member => valid text (List.mem_append_right _ member)⟩
  simp [ofJson, toJson, patterns, excluded]

theorem spelled_of_optional {name : String} {fields : List (String × Json)} {patterns : List String}
    (read : optional name patternTexts [] fields = .valid patterns) : ∀ text ∈ patterns, Pattern.Spelled text := by
  cases found : fields.lookup name with
  | none =>
    rw [Schema.optional, found] at read
    cases read
    exact List.forall_mem_nil _
  | some json => exact (patternTexts_eq_valid_iff.mp ((optional_eq_valid_iff found).mp read)).2

theorem valid_of_ofJson {json : Json} {rule : GroupRule} (read : ofJson json = .valid rule) : rule.Valid := by
  rw [ofJson, record_eq_valid_iff] at read
  obtain ⟨fields, rfl, read⟩ := read
  obtain ⟨_, arrayName, read₇, -, rfl⟩ := Checked.seq_eq_valid_iff.mp read
  obtain ⟨_, dataType, read₆, -, rfl⟩ := Checked.seq_eq_valid_iff.mp read₇
  obtain ⟨_, maxConditions, read₅, -, rfl⟩ := Checked.seq_eq_valid_iff.mp read₆
  obtain ⟨_, needsConditions, read₄, -, rfl⟩ := Checked.seq_eq_valid_iff.mp read₅
  obtain ⟨_, excluded, read₃, areExcluded, rfl⟩ := Checked.seq_eq_valid_iff.mp read₄
  obtain ⟨_, patterns, read₂, arePatterns, rfl⟩ := Checked.seq_eq_valid_iff.mp read₃
  obtain ⟨_, description, read₁, -, rfl⟩ := Checked.seq_eq_valid_iff.mp read₂
  obtain ⟨name, -, rfl⟩ := Checked.map_eq_valid_iff.mp read₁
  intro text member
  rcases List.mem_append.mp member with isPattern | isExcluded
  · exact spelled_of_optional arePatterns text isPattern
  · exact spelled_of_optional areExcluded text isExcluded

end GroupRule

/-! ## Steps, timers and references -/

@[simp] theorem StepLimits.ofJson_toJson (limits : StepLimits) : ofJson limits.toJson = .valid limits := by
  simp [ofJson, toJson]

@[simp] theorem StepRules.ofJson_toJson (rules : StepRules) : ofJson rules.toJson = .valid rules := by
  simp [ofJson, toJson]

@[simp] theorem TimerRules.ofJson_toJson (rules : TimerRules) : ofJson rules.toJson = .valid rules := by
  simp [ofJson, toJson]

theorem ReferenceMode.ofWord?_word (mode : ReferenceMode) : ofWord? mode.word = some mode := by
  cases mode <;> decide

@[simp] theorem ReferenceRules.ofJson_toJson (rules : ReferenceRules) : ofJson rules.toJson = .valid rules := by
  simp [ofJson, toJson, choice_str rules.mode.ofWord?_word]

/-! ## Rule sets -/

namespace CheckRules

/-- What is read from fields, one by one. -/
structure ReadFrom (fields : List (String × Json)) (rules : CheckRules) : Prop where
  version : optional "version" text ({} : CheckRules).version fields = .valid rules.version
  groups : optional "groups" (Schema.map GroupRule.ofJson) defaultGroups fields = .valid rules.groups
  defaultGroup : optional "default_group" text ({} : CheckRules).defaultGroup fields = .valid rules.defaultGroup
  steps : optional "steps" StepRules.ofJson {} fields = .valid rules.steps
  timer : optional "timer" TimerRules.ofJson {} fields = .valid rules.timer
  references : optional "cross_references" ReferenceRules.ofJson {} fields = .valid rules.references

theorem ofJson_obj_eq_valid_iff {fields : List (String × Json)} {rules : CheckRules} :
    ofJson (.obj fields) = .valid rules ↔ ReadFrom fields rules := by
  constructor
  · intro read
    obtain ⟨_, references, read₅, areReferences, rfl⟩ := Checked.seq_eq_valid_iff.mp read
    obtain ⟨_, timer, read₄, isTimer, rfl⟩ := Checked.seq_eq_valid_iff.mp read₅
    obtain ⟨_, steps, read₃, areSteps, rfl⟩ := Checked.seq_eq_valid_iff.mp read₄
    obtain ⟨_, defaultGroup, read₂, isDefault, rfl⟩ := Checked.seq_eq_valid_iff.mp read₃
    obtain ⟨_, groups, read₁, areGroups, rfl⟩ := Checked.seq_eq_valid_iff.mp read₂
    obtain ⟨version, isVersion, rfl⟩ := Checked.map_eq_valid_iff.mp read₁
    exact ⟨isVersion, areGroups, isDefault, areSteps, isTimer, areReferences⟩
  · intro read
    simp [ofJson, read.version, read.groups, read.defaultGroup, read.steps, read.timer, read.references]

/-- Fields from which the same is read, value by value. -/
structure ReadAlike (fields fields' : List (String × Json)) : Prop where
  version : optional "version" text ({} : CheckRules).version fields =
    optional "version" text ({} : CheckRules).version fields'
  groups : optional "groups" (Schema.map GroupRule.ofJson) defaultGroups fields =
    optional "groups" (Schema.map GroupRule.ofJson) defaultGroups fields'
  defaultGroup : optional "default_group" text ({} : CheckRules).defaultGroup fields =
    optional "default_group" text ({} : CheckRules).defaultGroup fields'
  steps : optional "steps" StepRules.ofJson {} fields = optional "steps" StepRules.ofJson {} fields'
  timer : optional "timer" TimerRules.ofJson {} fields = optional "timer" TimerRules.ofJson {} fields'
  references : optional "cross_references" ReferenceRules.ofJson {} fields =
    optional "cross_references" ReferenceRules.ofJson {} fields'

theorem ReadAlike.ofJson_eq {fields fields' : List (String × Json)} (alike : ReadAlike fields fields') :
    ofJson (.obj fields) = ofJson (.obj fields') := by
  rw [ofJson, record_obj, record_obj, alike.version, alike.groups, alike.defaultGroup, alike.steps, alike.timer,
    alike.references]

theorem readAlike_of_lookup {fields fields' : List (String × Json)}
    (same : ∀ name, fields.lookup name = fields'.lookup name) : ReadAlike fields fields' where
  version := optional_congr (same _) ..
  groups := optional_congr (same _) ..
  defaultGroup := optional_congr (same _) ..
  steps := optional_congr (same _) ..
  timer := optional_congr (same _) ..
  references := optional_congr (same _) ..

/-- A rule set with one group for each key, whose texts all spell patterns. -/
structure Valid (rules : CheckRules) : Prop where
  distinct : rules.keys.Nodup
  groups : ∀ group ∈ rules.groups, group.2.Valid

theorem valid_default : ({} : CheckRules).Valid where
  distinct := by decide
  groups := by decide +kernel

/-- A rule set that was read is valid, if no name occurs twice in the map of its groups. -/
theorem ReadFrom.valid {fields : List (String × Json)} {rules : CheckRules} (isRead : ReadFrom fields rules)
    (distinct : ∀ groups, fields.lookup "groups" = some (.obj groups) → (Json.names groups).Nodup) : rules.Valid := by
  have areGroups := isRead.groups
  cases found : fields.lookup "groups" with
  | none =>
    rw [Schema.optional, found] at areGroups
    have same : defaultGroups = rules.groups := Checked.valid.inj areGroups
    exact ⟨by rw [keys, ← same]; exact valid_default.distinct, same ▸ valid_default.groups⟩
  | some json =>
    rw [optional_eq_valid_iff found] at areGroups
    cases json with
    | obj groups =>
      refine ⟨?_, fun group member => ?_⟩
      · rw [keys, names_of_entriesOf areGroups]
        exact distinct groups found
      · obtain ⟨json, isRule⟩ := exists_of_mem_entries areGroups group member
        exact GroupRule.valid_of_ofJson isRule
    | _ => cases areGroups

/-- The fields of the groups. -/
def groupFields (rules : CheckRules) : List (String × Json) :=
  rules.groups.map fun group => (group.1, group.2.toJson)

theorem names_groupFields (rules : CheckRules) : Json.names rules.groupFields = rules.keys := by
  rw [Json.names, groupFields, List.map_map]
  rfl

theorem lookup_toFields_groups (rules : CheckRules) :
    rules.toFields.lookup "groups" = some (.obj rules.groupFields) := rfl

theorem Valid.readFrom_toFields {rules : CheckRules} (valid : rules.Valid) : ReadFrom rules.toFields rules where
  version := by simp [toFields]
  groups := by
    rw [optional_eq_valid_iff rules.lookup_toFields_groups, Schema.map, entriesOf_eq_valid_iff, groupFields,
      List.forall₂_map_left_iff, List.forall₂_same]
    exact fun group member => ⟨rfl, GroupRule.ofJson_toJson (valid.groups group member)⟩
  defaultGroup := by simp [toFields]
  steps := by simp [toFields]
  timer := by simp [toFields]
  references := by simp [toFields]

end CheckRules

end StepFlow
