import StepFlow.Proofs.Reading.Runs

/-! # Where conditions are filed

A condition of a step stands between the line of the step and that of the next step. The entry conditions of a numbered
step are a block of lines without a blank line in between; a blank line after them opens the exit conditions. A rest
step has exit conditions only. Conditions are kept in the order of their lines, and a plus mark, but for the first
condition, opens a new group. The tables of a step have every name once.
-/

namespace StepFlow

open Text LineRule

/-! ## Groups -/

/-- Groups as marks divide them: the first one is joined by and, all others by or, and a condition after the very first
one has a plus mark just if it opens a group. -/
structure Grouped (groups : List ConditionGroup) : Prop where
  nonempty : ∀ group ∈ groups, group.conditions ≠ []
  first : ∀ group ∈ groups.head?, group.connective = .and
  later : ∀ group ∈ groups.tail, group.connective = .or
  opens : ∀ group ∈ groups.tail, ∀ condition ∈ group.conditions.head?, condition.connective = .or
  joins : ∀ group ∈ groups, ∀ condition ∈ group.conditions.tail, condition.connective = .and

namespace Grouped

theorem nil : Grouped [] := ⟨nofun, nofun, nofun, nofun, nofun⟩

theorem singleton (condition : Condition) : Grouped [⟨.and, [condition]⟩] := by
  constructor <;> simp

/-- A condition with a plus mark opens a group after others. -/
theorem append_or {groups : List ConditionGroup} (grouped : Grouped groups) (given : groups ≠ [])
    {condition : Condition} (marked : condition.connective = .or) :
    Grouped (groups ++ [⟨.or, [condition]⟩]) := by
  obtain ⟨head, rest, rfl⟩ := List.exists_cons_of_ne_nil given
  obtain ⟨nonempty, first, later, opens, joins⟩ := grouped
  simp only [List.head?_cons, Option.mem_some_iff, forall_eq', List.tail_cons] at first later opens
  refine ⟨?_, ?_, ?_, ?_, ?_⟩
  · exact List.forall_mem_append.mpr ⟨nonempty, by simp⟩
  · simpa using first
  · exact List.forall_mem_append.mpr ⟨later, by simp⟩
  · exact List.forall_mem_append.mpr ⟨opens, by simp [marked]⟩
  · exact List.forall_mem_append.mpr ⟨joins, by simp⟩

/-- A condition without plus mark joins the last group. -/
theorem extend_last {before : List ConditionGroup} {last : ConditionGroup} (grouped : Grouped (before ++ [last]))
    {condition : Condition} (plain : condition.connective = .and) :
    Grouped (before ++ [{ last with conditions := last.conditions ++ [condition] }]) := by
  obtain ⟨nonempty, first, later, opens, joins⟩ := grouped
  have given : last.conditions ≠ [] := nonempty last (by simp)
  obtain ⟨head, rest, conditions⟩ := List.exists_cons_of_ne_nil given
  have joined : ∀ other ∈ (last.conditions ++ [condition]).tail, other.connective = .and := by
    have old := joins last (by simp)
    simp only [conditions, List.tail_cons] at old
    simp only [conditions, List.cons_append, List.tail_cons]
    exact List.forall_mem_append.mpr ⟨old, by simp [plain]⟩
  have start : ∀ other ∈ (last.conditions ++ [condition]).head?, other ∈ last.conditions.head? := by
    simp [conditions]
  cases before with
  | nil =>
    have alone : last.connective = .and := by simpa using first
    exact ⟨by simp, by simpa using alone, nofun, nofun, by simpa using joined⟩
  | cons initial middle =>
    simp only [List.cons_append, List.head?_cons, List.tail_cons] at first later opens
    have ⟨laterOthers, laterLast⟩ := List.forall_mem_append.mp later
    have ⟨opensOthers, opensLast⟩ := List.forall_mem_append.mp opens
    refine ⟨?_, by simpa using first, ?_, ?_, ?_⟩
    · exact List.forall_mem_append.mpr ⟨(List.forall_mem_append.mp nonempty).1, by simp⟩
    · exact List.forall_mem_append.mpr ⟨laterOthers, by simpa using laterLast⟩
    · refine List.forall_mem_append.mpr ⟨opensOthers, ?_⟩
      rw [List.forall_mem_singleton] at opensLast ⊢
      exact fun other opening => opensLast other (start other opening)
    · exact List.forall_mem_append.mpr ⟨(List.forall_mem_append.mp joins).1, by simpa using joined⟩

/-- Adding a condition keeps groups as marks divide them. -/
theorem addToGroups {groups : List ConditionGroup} (grouped : Grouped groups) (condition : Condition) :
    Grouped (addToGroups condition groups) := by
  unfold StepFlow.addToGroups
  cases found : groups.getLast? with
  | none => exact singleton condition
  | some last =>
    obtain ⟨before, rfl⟩ := List.getLast?_eq_some_iff.mp found
    cases connective : condition.connective with
    | or => exact grouped.append_or (by simp) connective
    | and =>
      simp only [List.dropLast_concat]
      exact grouped.extend_last connective

theorem conditions_eq_nil_iff {groups : List ConditionGroup} (grouped : Grouped groups) :
    groups.flatMap ConditionGroup.conditions = [] ↔ groups = [] := by
  constructor
  · intro none
    by_contra given
    obtain ⟨group, member⟩ := List.exists_mem_of_ne_nil groups given
    exact grouped.nonempty group member (List.flatMap_eq_nil_iff.mp none group member)
  · rintro rfl
    rfl

end Grouped

/-! ## Steps -/

namespace Step

/-- The entry conditions, in the order of the groups. -/
def entryConditions (step : Step) : List Condition := step.entry.flatMap ConditionGroup.conditions

/-- The exit conditions, in the order of the groups. -/
def exitConditions (step : Step) : List Condition := step.exit.flatMap ConditionGroup.conditions

/-- The mark of a step, then those of its entry conditions, then those of its exit conditions. -/
def lineOrder (step : Step) : List (Option Int) := step.line :: step.conditions.map Condition.line

theorem conditions_eq (step : Step) : step.conditions = step.entryConditions ++ step.exitConditions :=
  List.flatMap_append ..

/-- A blank line stands between the entry conditions of a step and its exit conditions. -/
def DividedAt (step : Step) (blank : Nat) : Prop :=
  (∀ condition ∈ step.entryConditions, Precedes condition.line (some (blank : Int))) ∧
    ∀ condition ∈ step.exitConditions, Precedes (some (blank : Int)) condition.line

/-- The conditions of a step are filed by the blank lines of the text, grouped by their marks, and listed by name in
tables without repetitions. -/
structure Filed (isBlank : Nat → Prop) (step : Step) : Prop where
  resting : step.isRest = true → step.entryConditions = []
  leaving : step.isRest = false → step.exitConditions ≠ [] →
    step.entryConditions ≠ [] ∧ ∃ blank, isBlank blank ∧ step.DividedAt blank
  entering : ∀ blank, isBlank blank →
    (∀ condition ∈ step.entryConditions, Precedes condition.line (some (blank : Int))) ∨
      ∀ condition ∈ step.entryConditions, Precedes (some (blank : Int)) condition.line
  grouped : Grouped step.entry ∧ Grouped step.exit
  tables : step.timers.Nodup ∧ step.markers.Nodup ∧ step.faults.Nodup

/-- What is known of the open step before the line of the given number: as long as it is not being left, it has no exit
conditions unless it is a rest step, and no blank line follows its first entry condition. -/
structure OpenBefore (isBlank : Nat → Prop) (number : Nat) (leaving : Bool) (step : Step) : Prop where
  enters : leaving = false → (step.isRest = false → step.exitConditions = []) ∧
    ∀ blank < number, isBlank blank →
      ∀ condition ∈ step.entryConditions, Precedes (some (blank : Int)) condition.line
  leaves : leaving = true → step.isRest = false ∧ step.entryConditions ≠ [] ∧
    ∃ blank < number, isBlank blank ∧ step.DividedAt blank

section Adding

variable {isBlank : Nat → Prop} {number : Nat} {leaving : Bool} {condition : Condition} {step : Step}

theorem addCondition_eq_exit (goesOut : (step.isRest || leaving) = true) :
    addCondition leaving condition step = { step with exit := addToGroups condition step.exit } := if_pos goesOut

theorem addCondition_eq_entry (goesIn : (step.isRest || leaving) = false) :
    addCondition leaving condition step = { step with entry := addToGroups condition step.entry } :=
  if_neg (Bool.eq_false_iff.mp goesIn)

theorem nodup_addName {name : String} {table : List String} (distinct : table.Nodup) : (addName name table).Nodup := by
  unfold addName
  split
  · exact distinct
  · rename_i absent
    refine List.nodup_append.mpr ⟨distinct, List.nodup_singleton name, ?_⟩
    intro other listed last present same
    rw [List.mem_singleton.mp present] at same
    simp [same ▸ listed] at absent

/-- Names are recorded beside the conditions. -/
theorem Filed.recordNames (filed : step.Filed isBlank) (words : TableWords) (condition : Condition) :
    (recordNames words condition step).Filed isBlank := by
  obtain ⟨timers, markers, faults⟩ := filed.tables
  refine ⟨filed.resting, filed.leaving, filed.entering, filed.grouped, ?_, ?_, ?_⟩
  all_goals
    simp only [LineRule.recordNames]
    split
  · exact nodup_addName timers
  · exact timers
  · exact nodup_addName markers
  · exact markers
  · exact nodup_addName faults
  · exact faults

theorem DividedAt.addExit {blank : Nat} (divided : step.DividedAt blank)
    (after : Precedes (some (blank : Int)) condition.line) :
    { step with exit := addToGroups condition step.exit }.DividedAt blank := by
  refine ⟨divided.1, ?_⟩
  rw [exitConditions, conditions_addToGroups]
  exact List.forall_mem_append.mpr ⟨divided.2, List.forall_mem_singleton.mpr after⟩

/-- An exit condition is added to a rest step, or to a step that is being left since a blank line before. -/
theorem Filed.addExit (filed : step.Filed isBlank) (isOpen : step.OpenBefore isBlank number leaving)
    (here : condition.line = some (number : Int)) (goesOut : (step.isRest || leaving) = true) :
    { step with exit := addToGroups condition step.exit }.Filed isBlank ∧
      { step with exit := addToGroups condition step.exit }.OpenBefore isBlank (number + 1) leaving := by
  have grouped := And.intro filed.grouped.1 (filed.grouped.2.addToGroups condition)
  cases resting : step.isRest with
  | true =>
    have none := filed.resting resting
    have numbered {goal : Prop} (other : step.isRest = false) : goal := by
      rw [resting] at other
      cases other
    refine ⟨⟨fun _ => none, numbered, filed.entering, grouped, filed.tables⟩, fun _ => ⟨numbered, ?_⟩, fun left => ?_⟩
    · intro blank _ _ other member
      exact absurd (none ▸ member) List.not_mem_nil
    · exact numbered (isOpen.leaves left).1
  | false =>
    have left : leaving = true := by simpa [resting] using goesOut
    obtain ⟨-, given, blank, before, isBlankHere, divided⟩ := isOpen.leaves left
    have dividedAfter := divided.addExit (here ▸ Precedes.some_iff.mpr before)
    have filedAfter : { step with exit := addToGroups condition step.exit }.Filed isBlank :=
      ⟨filed.resting, fun _ _ => ⟨given, blank, isBlankHere, dividedAfter⟩, filed.entering, grouped, filed.tables⟩
    refine ⟨filedAfter, fun enters => ?_, fun _ => ?_⟩
    · rw [left] at enters
      cases enters
    · exact ⟨resting, given, blank, Nat.lt_succ_of_lt before, isBlankHere, dividedAfter⟩

/-- An entry condition is added to a numbered step as long as no blank line follows the ones before it. -/
theorem Filed.addEntry (filed : step.Filed isBlank) (isOpen : step.OpenBefore isBlank number leaving)
    (solid : ¬isBlank number) (earlier : ∀ other ∈ step.entryConditions, Precedes other.line (some (number : Int)))
    (here : condition.line = some (number : Int)) (goesIn : (step.isRest || leaving) = false) :
    { step with entry := addToGroups condition step.entry }.Filed isBlank ∧
      { step with entry := addToGroups condition step.entry }.OpenBefore isBlank (number + 1) leaving ∧
      step.exitConditions = [] := by
  obtain ⟨numbered, enters⟩ := Bool.or_eq_false_iff.mp goesIn
  obtain ⟨noExit, after⟩ := isOpen.enters enters
  have none := noExit numbered
  have entry : { step with entry := addToGroups condition step.entry }.entryConditions =
      step.entryConditions ++ [condition] := conditions_addToGroups ..
  -- The new line is not blank, so a blank line comes either before it or after it.
  have following (blank : Nat) (before : blank < number + 1) (isBlankHere : isBlank blank) :
      ∀ other ∈ step.entryConditions ++ [condition], Precedes (some (blank : Int)) other.line := by
    have smaller : blank < number := by
      have differs : blank ≠ number := fun same => solid (same ▸ isBlankHere)
      omega
    refine List.forall_mem_append.mpr ⟨after blank smaller isBlankHere, List.forall_mem_singleton.mpr ?_⟩
    rw [here]
    exact Precedes.some_iff.mpr smaller
  refine ⟨⟨?_, fun _ given => absurd none given, ?_, ?_, filed.tables⟩, ⟨fun _ => ⟨fun _ => none, ?_⟩, ?_⟩, none⟩
  · intro resting
    rw [show step.isRest = true from resting] at numbered
    cases numbered
  · intro blank isBlankHere
    rw [entry]
    by_cases before : blank < number + 1
    · exact .inr (following blank before isBlankHere)
    · have later : Precedes (some (number : Int)) (some (blank : Int)) := Precedes.some_iff.mpr (by omega)
      refine .inl (List.forall_mem_append.mpr ⟨fun other member => (earlier other member).trans later, ?_⟩)
      exact List.forall_mem_singleton.mpr (here ▸ later)
  · exact ⟨filed.grouped.1.addToGroups condition, filed.grouped.2⟩
  · rw [entry]
    exact following
  · intro left
    rw [enters] at left
    cases left

theorem lineOrder_addExit (step : Step) (condition : Condition) :
    { step with exit := addToGroups condition step.exit }.lineOrder = step.lineOrder ++ [condition.line] := by
  simp [lineOrder, Step.conditions, conditions_addToGroups]

theorem lineOrder_addEntry (none : step.exitConditions = []) :
    { step with entry := addToGroups condition step.entry }.lineOrder = step.lineOrder ++ [condition.line] := by
  rw [exitConditions] at none
  simp [lineOrder, Step.conditions, conditions_addToGroups, none]

theorem mem_lineOrder_of_entry (member : condition ∈ step.entryConditions) : condition.line ∈ step.lineOrder := by
  refine List.mem_cons_of_mem _ (List.mem_map_of_mem ?_)
  rw [conditions_eq]
  exact List.mem_append_left _ member

/-- A condition on the next line is filed in the open step. -/
theorem Filed.addCondition (filed : step.Filed isBlank) (isOpen : step.OpenBefore isBlank number leaving)
    (solid : ¬isBlank number) (earlier : ∀ mark ∈ step.lineOrder, Precedes mark (some (number : Int)))
    (here : condition.line = some (number : Int)) :
    (addCondition leaving condition step).Filed isBlank ∧
      (addCondition leaving condition step).OpenBefore isBlank (number + 1) leaving ∧
      (addCondition leaving condition step).lineOrder = step.lineOrder ++ [some (number : Int)] := by
  cases side : step.isRest || leaving with
  | true =>
    obtain ⟨filedAfter, openAfter⟩ := filed.addExit isOpen here side
    rw [addCondition_eq_exit side, ← here]
    exact ⟨filedAfter, openAfter, lineOrder_addExit step condition⟩
  | false =>
    have entries : ∀ other ∈ step.entryConditions, Precedes other.line (some (number : Int)) := by
      intro other member
      exact earlier other.line (mem_lineOrder_of_entry member)
    obtain ⟨filedAfter, openAfter, none⟩ := filed.addEntry isOpen solid entries here side
    rw [addCondition_eq_entry side, ← here]
    exact ⟨filedAfter, openAfter, lineOrder_addEntry none⟩

/-- Another line changes nothing of what is known of the open step. -/
theorem OpenBefore.solidLine (isOpen : step.OpenBefore isBlank number leaving) (solid : ¬isBlank number) :
    step.OpenBefore isBlank (number + 1) leaving := by
  refine ⟨fun enters => ⟨(isOpen.enters enters).1, fun blank before isBlankThere => ?_⟩, fun leaves => ?_⟩
  · have differs : blank ≠ number := fun same => solid (same ▸ isBlankThere)
    exact (isOpen.enters enters).2 blank (by omega) isBlankThere
  · obtain ⟨numbered, entries, blank, before, isBlankThere, divided⟩ := isOpen.leaves leaves
    exact ⟨numbered, entries, blank, Nat.lt_succ_of_lt before, isBlankThere, divided⟩

/-- A blank line lets a step be left once it has entry conditions. -/
theorem OpenBefore.blankLine (isOpen : step.OpenBefore isBlank number leaving) (filed : step.Filed isBlank)
    (isBlankHere : isBlank number) (earlier : ∀ mark ∈ step.lineOrder, Precedes mark (some (number : Int))) :
    step.OpenBefore isBlank (number + 1) (leaving || !step.entry.isEmpty) := by
  have given : step.entryConditions = [] ↔ step.entry = [] := filed.grouped.1.conditions_eq_nil_iff
  cases leaving with
  | true =>
    obtain ⟨numbered, entries, blank, before, isBlankThere, divided⟩ := isOpen.leaves rfl
    exact ⟨nofun, fun _ => ⟨numbered, entries, blank, Nat.lt_succ_of_lt before, isBlankThere, divided⟩⟩
  | false =>
    obtain ⟨noExit, -⟩ := isOpen.enters rfl
    cases entry : step.entry.isEmpty with
    | true =>
      have none := given.mpr (List.isEmpty_iff.mp entry)
      refine ⟨fun _ => ⟨noExit, fun blank _ _ other member => ?_⟩, nofun⟩
      exact absurd (none ▸ member) List.not_mem_nil
    | false =>
      have some : step.entryConditions ≠ [] := mt given.mp (List.isEmpty_eq_false_iff.mp entry)
      have numbered : step.isRest = false := by
        cases resting : step.isRest with
        | true => exact absurd (filed.resting resting) some
        | false => rfl
      refine ⟨nofun, fun _ => ⟨numbered, some, number, Nat.lt_succ_self number, isBlankHere, ?_, ?_⟩⟩
      · exact fun other member => earlier other.line (mem_lineOrder_of_entry member)
      · exact fun other member => absurd (noExit numbered ▸ member) List.not_mem_nil

end Adding

end Step

/-! ## Runs -/

/-- What holds before the line of the given number: the steps so far, each followed by its conditions, stand in the
order of their lines, and the conditions of each are filed. -/
structure ReadState.Files (isBlank : Nat → Prop) (number : Nat) (state : ReadState) : Prop where
  ordered : (state.allSteps.flatMap Step.lineOrder).Pairwise Precedes
  earlier : ∀ mark ∈ state.allSteps.flatMap Step.lineOrder, Precedes mark (some (number : Int))
  filed : ∀ step ∈ state.allSteps, step.Filed isBlank
  isOpen : ∀ step leaving, state.focus = .step step leaving → step.OpenBefore isBlank number leaving

namespace ReadState.Files

variable {isBlank : Nat → Prop} {number : Nat} {state next : ReadState}

theorem start (isBlank : Nat → Prop) : ReadState.Files isBlank 1 {} := ⟨.nil, nofun, nofun, nofun⟩

/-- A line adds its own mark at the end of the order, or no mark at all. -/
theorem extend (files : state.Files isBlank number) {marks : List (Option Int)}
    (own : marks = [] ∨ marks = [some (number : Int)])
    (order : next.allSteps.flatMap Step.lineOrder = state.allSteps.flatMap Step.lineOrder ++ marks)
    (filed : ∀ step ∈ next.allSteps, step.Filed isBlank)
    (isOpen : ∀ step leaving, next.focus = .step step leaving → step.OpenBefore isBlank (number + 1) leaving) :
    next.Files isBlank (number + 1) := by
  have ownMarks : ∀ mark ∈ marks, mark = some (number : Int) := by
    rcases own with rfl | rfl <;> simp
  refine ⟨?_, ?_, filed, isOpen⟩
  · rw [order]
    refine List.pairwise_append.mpr ⟨files.ordered, ?_, fun mark member last isLast => ?_⟩
    · rcases own with rfl | rfl <;> simp
    · rw [ownMarks last isLast]
      exact files.earlier mark member
  · rw [order]
    refine List.forall_mem_append.mpr ⟨fun mark member => (files.earlier mark member).succ, fun mark isLast => ?_⟩
    rw [ownMarks mark isLast]
    exact Precedes.some_iff.mpr (Nat.lt_succ_self number)

/-- A line that leaves the steps alone. -/
theorem keep (files : state.Files isBlank number) (solid : ¬isBlank number) (steps : next.allSteps = state.allSteps)
    (focus : ∀ step leaving, next.focus = .step step leaving → state.focus = .step step leaving) :
    next.Files isBlank (number + 1) := by
  refine files.extend (.inl rfl) (by rw [steps, List.append_nil]) (steps ▸ files.filed) ?_
  intro step leaving focused
  exact (files.isOpen step leaving (focus step leaving focused)).solidLine solid

/-- The open step is the last one, so it is filed on lines before this one. -/
theorem current (files : state.Files isBlank number) {step : Step} {leaving : Bool}
    (focused : state.focus = .step step leaving) :
    step.Filed isBlank ∧ step.OpenBefore isBlank number leaving ∧
      ∀ mark ∈ step.lineOrder, Precedes mark (some (number : Int)) := by
  have last : step ∈ state.allSteps := by simp [allSteps, focused]
  refine ⟨files.filed step last, files.isOpen step leaving focused, fun mark member => ?_⟩
  exact files.earlier mark (List.mem_flatMap.mpr ⟨step, last, member⟩)

/-- A line that changes the open step, by adding its own mark at the end or no mark at all. -/
theorem change (files : state.Files isBlank number) {current other : Step} {leaving leaving' : Bool}
    (focused : state.focus = .step current leaving) {marks : List (Option Int)}
    (own : marks = [] ∨ marks = [some (number : Int)]) (added : other.lineOrder = current.lineOrder ++ marks)
    (filed : other.Filed isBlank) (isOpen : other.OpenBefore isBlank (number + 1) leaving') :
    ReadState.Files isBlank (number + 1) { state with focus := .step other leaving' } := by
  have before : state.allSteps = state.steps ++ [current] := by rw [allSteps, focused]
  have after : { state with focus := .step other leaving' }.allSteps = state.steps ++ [other] := rfl
  refine files.extend own ?_ ?_ ?_
  · rw [after, before]
    simp [added]
  · have others := files.filed
    rw [before] at others
    rw [after]
    exact List.forall_mem_append.mpr ⟨(List.forall_mem_append.mp others).1, List.forall_mem_singleton.mpr filed⟩
  · rintro step left same
    cases same
    exact isOpen

/-- A line that closes what is open and declares a step. -/
theorem openStep (files : state.Files isBlank number) {step : Step} (line : step.line = some (number : Int))
    (entry : step.entry = []) (exit : step.exit = [])
    (tables : step.timers = [] ∧ step.markers = [] ∧ step.faults = []) :
    (state.openStep step).Files isBlank (number + 1) := by
  have noEntry : step.entryConditions = [] := by rw [Step.entryConditions, entry]; rfl
  have noExit : step.exitConditions = [] := by rw [Step.exitConditions, exit]; rfl
  refine files.extend (.inr rfl) ?_ ?_ ?_
  · rw [allSteps_openStep, List.flatMap_append]
    simp [Step.lineOrder, Step.conditions, entry, exit, line]
  · rw [allSteps_openStep]
    refine List.forall_mem_append.mpr ⟨files.filed, List.forall_mem_singleton.mpr ?_⟩
    refine ⟨fun _ => noEntry, fun _ given => absurd noExit given, fun blank _ => .inl ?_, ?_, ?_⟩
    · exact fun other member => absurd (noEntry ▸ member) List.not_mem_nil
    · exact ⟨entry ▸ .nil, exit ▸ .nil⟩
    · exact ⟨tables.1 ▸ .nil, tables.2.1 ▸ .nil, tables.2.2 ▸ .nil⟩
  · rintro other leaving same
    cases same
    refine ⟨fun _ => ⟨fun _ => noExit, fun blank _ _ other member => ?_⟩, fun isLeaving => absurd isLeaving (by decide)⟩
    exact absurd (noEntry ▸ member) List.not_mem_nil

/-- A condition goes to a waiting transition or to the open variable, or is filed in the open step. -/
theorem file (files : state.Files isBlank number) (solid : ¬isBlank number) (dialect : Dialect) {condition : Condition}
    (here : condition.line = some (number : Int)) : (file dialect condition state).Files isBlank (number + 1) := by
  unfold LineRule.file
  split
  · exact files.keep solid rfl fun _ _ same => same
  · split
    · exact files.keep solid rfl fun _ _ same => same
    · rename_i current focused
      exact files.keep solid (by simp [allSteps, focused]) nofun
    · rename_i current leaving focused
      obtain ⟨filedBefore, openBefore, earlier⟩ := files.current focused
      obtain ⟨filed, isOpen, added⟩ := filedBefore.addCondition openBefore solid earlier here
      exact files.change focused (.inr rfl) added (filed.recordNames dialect.tables condition)
        ⟨isOpen.enters, isOpen.leaves⟩

theorem blankLine (files : state.Files isBlank number) (isBlankHere : isBlank number) :
    state.blankLine.Files isBlank (number + 1) := by
  unfold ReadState.blankLine
  split
  · refine files.extend (.inl rfl) (List.append_nil _).symm files.filed ?_
    rintro step leaving ⟨⟩
  · rename_i current leaving focused
    obtain ⟨filed, isOpen, earlier⟩ := files.current focused
    exact files.change focused (.inl rfl) (List.append_nil _).symm filed (isOpen.blankLine filed isBlankHere earlier)
  · rename_i focused
    refine files.extend (.inl rfl) (List.append_nil _).symm files.filed ?_
    rw [focused]
    rintro step leaving ⟨⟩

theorem accepted {dialect : Dialect} {line : Line} {lineClass : LineClass} (files : state.Files isBlank line.number)
    (solid : ¬isBlank line.number) (done : Accepted dialect line state lineClass next) :
    next.Files isBlank (line.number + 1) := by
  cases done with
  | ending => exact files.keep solid rfl fun _ _ focused => by cases focused
  | step goesOn matched known => exact files.openStep rfl rfl rfl ⟨rfl, rfl, rfl⟩
  | transition =>
    refine files.keep solid (congrArg Program.steps state.program_closeVariable) ?_
    intro step leaving focused
    unfold ReadState.closeVariable at focused
    split at focused
    · cases focused
    · exact focused
  | @setting unindented found current leaving matched named focused =>
    obtain ⟨filed, isOpen, -⟩ := files.current focused
    have openAfter := isOpen.solidLine solid
    exact files.change focused (.inl rfl) (List.append_nil _).symm
      ⟨filed.resting, filed.leaving, filed.entering, filed.grouped, filed.tables⟩ ⟨openAfter.enters, openAfter.leaves⟩
  | declaring => exact files.keep solid rfl fun _ _ focused => by cases focused
  | condition taken signed extracted =>
    have here := (ConditionLine.extract_marks extracted).1
    rw [ReadState.reportAll_eq]
    refine Files.file ?_ solid dialect here
    exact ⟨files.ordered, files.earlier, files.filed, files.isOpen⟩
  | _ => exact files.keep solid rfl fun _ _ same => same

end ReadState.Files

/-- The steps of a program that was read, each followed by its entry conditions and then by its exit conditions, stand
in the order of their lines. So the conditions of a step come after its line and before that of the next step. The
conditions of each step are filed by the blank lines of the text. -/
theorem readProgram_files_conditions {dialect : Dialect} {text : String} {metadata : Metadata} {reading : Reading}
    (read : readProgram dialect text metadata = .ok reading) :
    (reading.program.steps.flatMap Step.lineOrder).Pairwise Precedes ∧
      ∀ step ∈ reading.program.steps, step.Filed (BlankAt (lines text.toList)) := by
  obtain ⟨state, ran, -, steps, -⟩ := readProgram_eq_ok read
  have files : state.Files (BlankAt (lines text.toList)) ((lines text.toList).length + 1) :=
    readLines_keeps (.start _) (fun isBlank files => files.blankLine isBlank)
      (fun present accepted files =>
        let after := files.accepted (not_blankAt_of_mem present) accepted
        ⟨after.ordered, after.earlier, after.filed, after.isOpen⟩) ran
  rw [steps]
  exact ⟨files.ordered, files.filed⟩

/-- A rest step with a condition, and a step with two groups of entry conditions, a blank line and exit conditions. -/
def dividedText : String :=
  "RUST: wacht\n- start\nSTAP 1: vullen\n\n- klep open\n- tijd 5 sec\n+ vol\n\n+ leeg\n\n+ tijd 9 sec\nEND\nx = 1"

theorem readProgram_files_conditions_dividedText :
    ∃ reading, readProgram {} dividedText {} = .ok reading ∧
      reading.program.steps.map Step.lineOrder =
        [[some 1, some 2], [some 3, some 5, some 6, some 7, some 9, some 11]] ∧
      reading.program.steps.map
          (fun step => (step.entry.map (·.conditions.length), step.exit.map (·.conditions.length))) =
        [([], [1]), ([2, 1], [1, 1])] ∧
      (reading.program.steps.flatMap Step.lineOrder).Pairwise Precedes ∧
      ∀ step ∈ reading.program.steps, step.Filed (BlankAt (lines dividedText.toList)) := by
  have evaluated : (readProgram {} dividedText {}).toOption.map (fun reading =>
      (reading.program.steps.map Step.lineOrder,
        reading.program.steps.map fun step =>
          (step.entry.map (·.conditions.length), step.exit.map (·.conditions.length)))) =
      some ([[some 1, some 2], [some 3, some 5, some 6, some 7, some 9, some 11]],
        [([], [1]), ([2, 1], [1, 1])]) := by
    decide +kernel
  obtain ⟨reading, done, found⟩ := Option.map_eq_some_iff.mp evaluated
  obtain ⟨order, groups⟩ := Prod.mk.inj found
  have read := eq_ok_of_toOption_eq_some done
  exact ⟨reading, read, order, groups, readProgram_files_conditions read⟩

end StepFlow
