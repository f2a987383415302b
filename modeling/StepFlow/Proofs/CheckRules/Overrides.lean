import StepFlow.Proofs.CheckRules.RoundTrip

/-! # Changes to rule sets

A rule set is changed by writing it as JSON, putting the changes over its fields and reading the result. Changes made one
after another are the changes made at once, if those of groups and of kinds of steps are first united. For the values put
over a field are associative, and reading in between changes nothing: each value is read from what is written for it as
it was read before.
-/

namespace StepFlow.CheckRules

open Schema

/-! ## Changes -/

/-- Changes as an object gives them: no name occurs twice, nor within an object that is given for a name. -/
structure IsChangeSet (changes : List (String × Json)) : Prop where
  distinct : (Json.names changes).Nodup
  inner : ∀ change ∈ changes, (Json.names change.2.fields).Nodup

instance (changes : List (String × Json)) : Decidable (IsChangeSet changes) :=
  decidable_of_iff ((Json.names changes).Nodup ∧ ∀ change ∈ changes, (Json.names change.2.fields).Nodup)
    ⟨fun given => ⟨given.1, given.2⟩, fun given => ⟨given.distinct, given.inner⟩⟩

theorem IsChangeSet.nodup_of_lookup {changes : List (String × Json)} (given : IsChangeSet changes) {name : String}
    {json : Json} (changed : changes.lookup name = some json) : (Json.names json.fields).Nodup := by
  obtain ⟨front, back, split, -⟩ := List.lookup_eq_some_iff.mp changed
  exact given.inner (name, json) (split ▸ List.mem_append_right _ (.head _))

/-- The fields whose maps are united. -/
def IsUnited (name : String) : Prop := name = "groups" ∨ name = "steps"

instance (name : String) : Decidable (IsUnited name) := inferInstanceAs (Decidable (_ ∨ _))

/-- A later value for a name over an earlier one. Of two maps of groups or of kinds of steps the union is taken. -/
def united (name : String) (earlier : Option Json) (later : Json) : Json :=
  match earlier, later with
  | some (.obj fields), .obj more => if IsUnited name then .obj (Json.putAll fields more) else later
  | _, _ => later

/-- Changes followed by others, as changes that are made at once. -/
def followedBy (first second : List (String × Json)) : List (String × Json) :=
  Json.putAll first (second.map fun change => (change.1, united change.1 (first.lookup change.1) change.2))

/-- The changes within a field. -/
def changesWithin (name : String) (changes : List (String × Json)) : List (String × Json) :=
  match changes.lookup name with
  | some json => json.fields
  | none => []

/-! ## What is found under a name -/

/-- What is found under a name after a change, if there is one. -/
def after (name : String) (earlier later : Option Json) : Option Json :=
  (later.map (united name earlier)).or earlier

section Lookup

variable {name : String} {changes first second fields : List (String × Json)}

theorem after_none (name : String) (earlier : Option Json) : after name earlier none = earlier := rfl

theorem after_some (name : String) (earlier : Option Json) (later : Json) :
    after name earlier (some later) = some (united name earlier later) := rfl

theorem united_of_not (plain : ¬IsUnited name) (earlier : Option Json) (later : Json) :
    united name earlier later = later := by
  unfold united
  split
  · exact if_neg plain
  · rfl

theorem united_obj (isUnited : IsUnited name) (fields more : List (String × Json)) :
    united name (some (.obj fields)) (.obj more) = .obj (Json.putAll fields more) :=
  if_pos isUnited

theorem united_of_not_obj {later : Json} (other : ∀ fields, later ≠ .obj fields) (name : String)
    (earlier : Option Json) : united name earlier later = later := by
  unfold united
  split
  · exact absurd rfl (other _)
  · rfl

theorem override_eq (fields : List (String × Json)) (change : String × Json) :
    override fields change = Json.put change.1 (united change.1 (fields.lookup change.1) change.2) fields := by
  unfold override united
  rfl

theorem lookup_foldl_override (distinct : (Json.names changes).Nodup) (fields : List (String × Json)) (name : String) :
    (changes.foldl override fields).lookup name = after name (fields.lookup name) (changes.lookup name) := by
  induction changes generalizing fields with
  | nil => rfl
  | cons change changes ih =>
    obtain ⟨changed, value⟩ := change
    obtain ⟨fresh, distinct⟩ := List.nodup_cons.mp distinct
    rw [List.foldl_cons, ih distinct, override_eq, Json.lookup_put, Json.lookup_cons]
    by_cases same : name = changed
    · subst same
      rw [if_pos rfl, if_pos rfl, Json.lookup_eq_none_of_not_mem_names fresh]
      rfl
    · rw [if_neg same, if_neg same]

theorem lookup_map (adjust : String → Json → Json) (fields : List (String × Json)) (name : String) :
    (fields.map fun field => (field.1, adjust field.1 field.2)).lookup name =
      (fields.lookup name).map (adjust name) := by
  induction fields with
  | nil => rfl
  | cons field fields ih =>
    obtain ⟨first, value⟩ := field
    rw [List.map_cons, Json.lookup_cons, Json.lookup_cons, ih]
    by_cases same : name = first
    · rw [if_pos same, if_pos same, same]
      rfl
    · rw [if_neg same, if_neg same]

theorem lookup_followedBy (distinct : (Json.names second).Nodup) (first : List (String × Json)) (name : String) :
    (followedBy first second).lookup name = after name (first.lookup name) (second.lookup name) := by
  have sameNames : Json.names (second.map fun change =>
      (change.1, united change.1 (first.lookup change.1) change.2)) = Json.names second := by
    rw [Json.names, List.map_map]
    rfl
  rw [followedBy, Json.lookup_putAll (sameNames ▸ distinct), lookup_map fun name => united name (first.lookup name)]
  rfl

/-- What is put over a field is associative, where both are maps that are united. -/
theorem after_after {earlier between : Option Json} (isMap : IsUnited name → ∃ fields, earlier = some (.obj fields))
    (areMaps : IsUnited name → ∀ json ∈ between, ∃ fields, json = .obj fields ∧ (Json.names fields).Nodup)
    (later : Option Json) :
    after name (after name earlier between) later = after name earlier (after name between later) := by
  cases later with
  | none => rfl
  | some value =>
    rw [after_some, after_some, after_some]
    congr 1
    by_cases isUnited : IsUnited name
    · obtain ⟨fields, rfl⟩ := isMap isUnited
      by_cases isMap' : ∃ more, value = .obj more
      · obtain ⟨more, rfl⟩ := isMap'
        cases between with
        | none => rfl
        | some json =>
          obtain ⟨others, rfl, distinct⟩ := areMaps isUnited _ rfl
          rw [after_some, united_obj isUnited, united_obj isUnited, united_obj isUnited, united_obj isUnited,
            Json.putAll_putAll distinct]
      · have other := not_exists.mp isMap'
        rw [united_of_not_obj other, united_of_not_obj other, united_of_not_obj other]
    · rw [united_of_not isUnited, united_of_not isUnited, united_of_not isUnited]

end Lookup

/-! ## Reading after changes -/

section Reading

variable {α : Type} {read : Json → Checked α} {name : String} {fields fields' changes : List (String × Json)}
  {rules once : CheckRules}

/-- A field that is read alike is read alike after changes, unless it holds a map that is united. -/
theorem optional_override_congr (plain : ¬IsUnited name) (distinct : (Json.names changes).Nodup) {default : α}
    (alike : optional name read default fields = optional name read default fields') :
    optional name read default (changes.foldl override fields) =
      optional name read default (changes.foldl override fields') := by
  have found (fields : List (String × Json)) := lookup_foldl_override distinct fields name
  cases changed : changes.lookup name with
  | none =>
    have unchanged (fields : List (String × Json)) : (changes.foldl override fields).lookup name = fields.lookup name := by
      rw [found, changed, after_none]
    rw [optional_congr (unchanged fields), optional_congr (unchanged fields'), alike]
  | some value =>
    apply optional_congr
    rw [found, found, changed, after_some, after_some, united_of_not plain, united_of_not plain]

/-- Maps that are read alike with the same fields put over both are read alike after changes. -/
theorem optional_override_congr_obj (isUnited : IsUnited name) (given : IsChangeSet changes) {default : α}
    {old old' : List (String × Json)} (isOld : fields.lookup name = some (.obj old))
    (isOld' : fields'.lookup name = some (.obj old'))
    (alike : ∀ more, (Json.names more).Nodup → read (.obj (Json.putAll old more)) = read (.obj (Json.putAll old' more))) :
    optional name read default (changes.foldl override fields) =
      optional name read default (changes.foldl override fields') := by
  have found := lookup_foldl_override given.distinct fields name
  have found' := lookup_foldl_override given.distinct fields' name
  rw [isOld] at found
  rw [isOld'] at found'
  cases changed : changes.lookup name with
  | none =>
    rw [changed, after_none] at found found'
    rw [optional_of_lookup found, optional_of_lookup found', ← Json.putAll_nil old, ← Json.putAll_nil old',
      alike [] List.nodup_nil]
  | some value =>
    rw [changed, after_some] at found found'
    by_cases isMap : ∃ more, value = .obj more
    · obtain ⟨more, rfl⟩ := isMap
      rw [united_obj isUnited] at found found'
      rw [optional_of_lookup found, optional_of_lookup found', alike more (given.nodup_of_lookup changed)]
    · have other := not_exists.mp isMap
      rw [united_of_not_obj other] at found found'
      rw [optional_congr (found.trans found'.symm)]

/-- Maps of groups that are read alike are read alike with the same groups put over both. -/
theorem entriesOf_putAll_congr {values : List (String × α)} (isRead : entriesOf read fields = .valid values)
    (isRead' : entriesOf read fields' = .valid values) (more : List (String × Json)) :
    entriesOf read (Json.putAll fields more) = entriesOf read (Json.putAll fields' more) := by
  rw [entriesOf_eq_valid_iff] at isRead isRead'
  have alike : List.Forall₂ (fun field field' => field.1 = field'.1 ∧ read field.2 = read field'.2) fields fields' := by
    induction isRead generalizing fields' with
    | nil => rw [List.forall₂_nil_right_iff.mp isRead']; exact .nil
    | cons first _ ih =>
      obtain ⟨field', rest', first', later, rfl⟩ := List.forall₂_cons_right_iff.mp isRead'
      exact .cons ⟨first.1.trans first'.1.symm, first.2.trans first'.2.symm⟩ (ih later)
  exact entriesOf_congr (Json.forall₂_putAll alike more)

theorem optional_putAll_congr {default : α} {more : List (String × Json)}
    (alike : optional name read default fields = optional name read default fields')
    (distinct : (Json.names more).Nodup) :
    optional name read default (Json.putAll fields more) = optional name read default (Json.putAll fields' more) := by
  cases changed : more.lookup name with
  | none =>
    have unchanged (fields : List (String × Json)) : (Json.putAll fields more).lookup name = fields.lookup name := by
      rw [Json.lookup_putAll distinct, changed, Option.none_or]
    rw [optional_congr (unchanged fields), optional_congr (unchanged fields'), alike]
  | some value =>
    apply optional_congr
    rw [Json.lookup_putAll distinct, Json.lookup_putAll distinct, changed, Option.some_or, Option.some_or]

theorem stepRules_eq_valid_iff {steps : StepRules} : StepRules.ofJson (.obj fields) = .valid steps ↔
    optional "rest" StepLimits.ofJson ({} : StepRules).rest fields = .valid steps.rest ∧
      optional "sequential" StepLimits.ofJson ({} : StepRules).sequential fields = .valid steps.sequential := by
  constructor
  · intro isRead
    obtain ⟨_, sequential, isRead', isSequential, rfl⟩ := Checked.seq_eq_valid_iff.mp isRead
    obtain ⟨rest, isRest, rfl⟩ := Checked.map_eq_valid_iff.mp isRead'
    exact ⟨isRest, isSequential⟩
  · rintro ⟨isRest, isSequential⟩
    rw [StepRules.ofJson, record_obj, isRest, isSequential]
    rfl

/-- Rules of steps that are read alike are read alike with the same kinds put over both. -/
theorem stepRules_putAll_congr {steps : StepRules} (isRead : StepRules.ofJson (.obj fields) = .valid steps)
    (isRead' : StepRules.ofJson (.obj fields') = .valid steps) {more : List (String × Json)}
    (distinct : (Json.names more).Nodup) :
    StepRules.ofJson (.obj (Json.putAll fields more)) = StepRules.ofJson (.obj (Json.putAll fields' more)) := by
  rw [stepRules_eq_valid_iff] at isRead isRead'
  rw [StepRules.ofJson, record_obj, record_obj,
    optional_putAll_congr (isRead.1.trans isRead'.1.symm) distinct,
    optional_putAll_congr (isRead.2.trans isRead'.2.symm) distinct]

/-- Reading a map gives a value for objects only. -/
theorem exists_obj_of_readFrom (isRead : ReadFrom fields rules) (isUnited : IsUnited name) {json : Json}
    (found : fields.lookup name = some json) : ∃ inner, json = .obj inner := by
  rcases isUnited with rfl | rfl
  · have success := (optional_eq_valid_iff found).mp isRead.groups
    cases json with
    | obj inner => exact ⟨inner, rfl⟩
    | _ => cases success
  · have success := (optional_eq_valid_iff found).mp isRead.steps
    cases json with
    | obj inner => exact ⟨inner, rfl⟩
    | _ => cases success

/-- Further changes can be made to the fields from which a rule set was read, or to those that are written for it. -/
theorem readAlike_override (isRead : ReadFrom fields rules) (valid : rules.Valid)
    (areMaps : ∀ name, IsUnited name → ∃ inner, fields.lookup name = some (.obj inner)) (given : IsChangeSet changes) :
    ReadAlike (changes.foldl override fields) (changes.foldl override rules.toFields) := by
  have isRead' := valid.readFrom_toFields
  obtain ⟨groups, areGroups⟩ := areMaps "groups" (.inl rfl)
  obtain ⟨steps, areSteps⟩ := areMaps "steps" (.inr rfl)
  have plain {name : String} (other : name ≠ "groups" ∧ name ≠ "steps") : ¬IsUnited name := not_or.mpr other
  exact {
    version := optional_override_congr (plain (by decide)) given.distinct (isRead.version.trans isRead'.version.symm)
    groups := optional_override_congr_obj (.inl rfl) given areGroups rules.lookup_toFields_groups
      fun more _ => entriesOf_putAll_congr ((optional_eq_valid_iff areGroups).mp isRead.groups)
        ((optional_eq_valid_iff rules.lookup_toFields_groups).mp isRead'.groups) more
    defaultGroup := optional_override_congr (plain (by decide)) given.distinct
      (isRead.defaultGroup.trans isRead'.defaultGroup.symm)
    steps := optional_override_congr_obj (.inr rfl) given areSteps rfl
      fun more distinct => stepRules_putAll_congr ((optional_eq_valid_iff areSteps).mp isRead.steps)
        rules.steps.ofJson_toJson distinct
    timer := optional_override_congr (plain (by decide)) given.distinct (isRead.timer.trans isRead'.timer.symm)
    references := optional_override_congr (plain (by decide)) given.distinct
      (isRead.references.trans isRead'.references.symm) }

end Reading

/-! ## Changing rule sets -/

section Merged

variable {rules once : CheckRules} {first second : List (String × Json)}

theorem readFrom_of_merged (merges : rules.merged first = .valid once) :
    ReadFrom (first.foldl override rules.toFields) once :=
  ofJson_obj_eq_valid_iff.mp merges

theorem exists_lookup_toFields (rules : CheckRules) {name : String} (isUnited : IsUnited name) :
    ∃ fields, rules.toFields.lookup name = some (.obj fields) := by
  rcases isUnited with rfl | rfl
  · exact ⟨_, rules.lookup_toFields_groups⟩
  · exact ⟨_, rfl⟩

section Given

variable (given : IsChangeSet first) (merges : rules.merged first = .valid once)
include given merges

/-- Changes that give a rule set have maps for the fields whose maps are united. -/
theorem exists_obj_of_merged {name : String} (isUnited : IsUnited name) :
    ∀ json ∈ first.lookup name, ∃ fields, json = .obj fields ∧ (Json.names fields).Nodup := by
  intro json changed
  have found := lookup_foldl_override given.distinct rules.toFields name
  by_cases isMap : ∃ fields, json = .obj fields
  · obtain ⟨fields, rfl⟩ := isMap
    exact ⟨fields, rfl, given.nodup_of_lookup changed⟩
  · rw [Option.mem_def.mp changed, after_some, united_of_not_obj (not_exists.mp isMap)] at found
    exact absurd (exists_obj_of_readFrom (readFrom_of_merged merges) isUnited found) isMap

/-- Where maps are united, the changes within a field are put over what was written for it. -/
theorem lookup_of_merged {name : String} (isUnited : IsUnited name) {fields : List (String × Json)}
    (isMap : rules.toFields.lookup name = some (.obj fields)) :
    (first.foldl override rules.toFields).lookup name =
      some (.obj (Json.putAll fields (changesWithin name first))) := by
  rw [lookup_foldl_override given.distinct, isMap, changesWithin]
  cases changed : first.lookup name with
  | none => rfl
  | some json =>
    obtain ⟨more, rfl, -⟩ := exists_obj_of_merged given merges isUnited json changed
    exact congrArg some (united_obj isUnited fields more)

theorem entriesOf_of_merged :
    entriesOf GroupRule.ofJson (Json.putAll rules.groupFields (changesWithin "groups" first)) = .valid once.groups :=
  (optional_eq_valid_iff (lookup_of_merged given merges (.inl rfl) rules.lookup_toFields_groups)).mp
    (readFrom_of_merged merges).groups

omit merges in
theorem nodup_changesWithin (name : String) : (Json.names (changesWithin name first)).Nodup := by
  rw [changesWithin]
  cases changed : first.lookup name with
  | none => exact List.nodup_nil
  | some json => exact given.nodup_of_lookup changed

/-- A group that is changed keeps its place, and new groups come last. -/
theorem keys_of_merged :
    once.keys = rules.keys ++ (Json.names (changesWithin "groups" first)).filter (· ∉ rules.keys) := by
  rw [keys, names_of_entriesOf (entriesOf_of_merged given merges),
    Json.names_putAll (nodup_changesWithin given "groups"), names_groupFields]

/-- A rule set that was changed is valid. -/
theorem Valid.of_merged (valid : rules.Valid) : once.Valid := by
  have found := lookup_of_merged given merges (.inl rfl) rules.lookup_toFields_groups
  refine (readFrom_of_merged merges).valid fun groups isMap => ?_
  cases found.symm.trans isMap
  exact Json.nodup_names_putAll (rules.names_groupFields ▸ valid.distinct) _

/-- A group is what the changes give for its key, or what it was before. -/
theorem lookup_groups_of_merged (valid : rules.Valid) (key : String) : (once.groups.lookup key).map Checked.valid =
    (((changesWithin "groups" first).lookup key).map GroupRule.ofJson).or
      ((rules.groups.lookup key).map Checked.valid) := by
  have unchanged := (optional_eq_valid_iff rules.lookup_toFields_groups).mp valid.readFrom_toFields.groups
  rw [lookup_of_entriesOf (entriesOf_of_merged given merges), Json.lookup_putAll (nodup_changesWithin given "groups"),
    Option.map_or, lookup_of_entriesOf unchanged]

/-- Changes made one after another are the changes made at once. -/
theorem merged_of_merged (valid : rules.Valid) (given' : IsChangeSet second) :
    once.merged second = rules.merged (followedBy first second) := by
  have distinct : (Json.names (followedBy first second)).Nodup := Json.nodup_names_putAll given.distinct _
  have atOnce : ReadAlike ((followedBy first second).foldl override rules.toFields)
      (second.foldl override (first.foldl override rules.toFields)) := by
    apply readAlike_of_lookup
    intro name
    rw [lookup_foldl_override distinct, lookup_foldl_override given'.distinct, lookup_foldl_override given.distinct,
      lookup_followedBy given'.distinct]
    exact (after_after rules.exists_lookup_toFields (exists_obj_of_merged given merges) _).symm
  have areMaps : ∀ name, IsUnited name →
      ∃ inner, (first.foldl override rules.toFields).lookup name = some (.obj inner) := by
    intro name isUnited
    obtain ⟨fields, isMap⟩ := rules.exists_lookup_toFields isUnited
    exact ⟨_, lookup_of_merged given merges isUnited isMap⟩
  calc once.merged second
    _ = ofJson (.obj (second.foldl override (first.foldl override rules.toFields))) :=
      (readAlike_override (readFrom_of_merged merges) (valid.of_merged given merges) areMaps given').ofJson_eq.symm
    _ = rules.merged (followedBy first second) := atOnce.ofJson_eq.symm

end Given

/-- No changes leave a rule set as it is. After changes it is a valid rule set again; a group that is changed keeps its
place and new groups come last; each group is what the changes give for its key or what it was; and further changes to
it are the same as all changes made at once. -/
theorem merged_composes {rules : CheckRules} (valid : rules.Valid) :
    rules.merged [] = .valid rules ∧
      ∀ first once, IsChangeSet first → rules.merged first = .valid once →
        once.Valid ∧
          once.keys = rules.keys ++ (Json.names (changesWithin "groups" first)).filter (· ∉ rules.keys) ∧
          (∀ key, (once.groups.lookup key).map Checked.valid =
            (((changesWithin "groups" first).lookup key).map GroupRule.ofJson).or
              ((rules.groups.lookup key).map Checked.valid)) ∧
          ∀ second, IsChangeSet second → once.merged second = rules.merged (followedBy first second) := by
  refine ⟨ofJson_obj_eq_valid_iff.mpr valid.readFrom_toFields, fun first once given merges => ?_⟩
  exact ⟨valid.of_merged given merges, keys_of_merged given merges, lookup_groups_of_merged given merges valid,
    fun second given' => merged_of_merged given merges valid given'⟩

/-- Rules with two groups. -/
def twoGroups : CheckRules where
  groups := [("general", { name := "Hulp", patterns := ["="] }), ("fault", { name := "Storing", patterns := ["^STORING"] })]

/-- A new group, a change to an old one, and fewer conditions for rest steps. -/
def earlierChanges : List (String × Json) :=
  [("groups", .obj [("counter", .obj [("name", .str "Teller"), ("patterns", .strings ["^Teller"])]),
      ("general", .obj [("name", .str "Merker")])]),
    ("steps", .obj [("rest", .obj [("max_conditions", .int 3)])])]

/-- A further new group, a change to the last one, and fewer transitions for numbered steps. -/
def laterChanges : List (String × Json) :=
  [("steps", .obj [("sequential", .obj [("max_transitions", .str " 2 ")])]),
    ("groups", .obj [("timer", .obj [("name", .str "Tijd")]), ("counter", .obj [("name", .str "Zähler")])])]

theorem merged_composes_twoGroups :
    twoGroups.Valid ∧ IsChangeSet earlierChanges ∧ IsChangeSet laterChanges ∧
      ∃ once, twoGroups.merged earlierChanges = .valid once ∧ once.keys = ["general", "fault", "counter"] ∧
        once.merged laterChanges = twoGroups.merged (followedBy earlierChanges laterChanges) := by
  have valid : twoGroups.Valid := ⟨by decide, by decide +kernel⟩
  have given : IsChangeSet earlierChanges := by decide
  have given' : IsChangeSet laterChanges := by decide
  have merges : twoGroups.merged earlierChanges = .valid
      { groups := [("general", { name := "Merker" }), ("fault", { name := "Storing", patterns := ["^STORING"] }),
          ("counter", { name := "Teller", patterns := ["^Teller"] })]
        steps := { rest := { maxConditions := some 3 } } } := by
    decide +kernel
  obtain ⟨-, ordered, -, composes⟩ := (merged_composes valid).2 earlierChanges _ given merges
  exact ⟨valid, given, given', _, merges, ordered, composes laterChanges given'⟩

end Merged

end StepFlow.CheckRules
