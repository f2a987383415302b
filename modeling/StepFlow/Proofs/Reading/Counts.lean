import StepFlow.Proofs.Program.Conditions
import StepFlow.Proofs.Reading.Runs

/-! # Counts of a reading and counts of its program

While a text is read, names of something outside are counted line by line, wherever the condition of the line is put.
The count that is taken from a program alone goes through the entry and exit conditions of its steps. The two agree
exactly if all such names stand there: none in a condition of a transition or of a variable, and none in a condition
that is lost because no step took its transition.
-/

namespace StepFlow

open Text LineRule

/-- A line says a condition. -/
def Line.Says (dialect : Dialect) (line : Line) (condition : Condition) : Prop :=
  ∃ found, ConditionLine.extract dialect line.text (some line.number) = .ok found ∧ found.condition = condition

theorem Line.Says.mark {dialect : Dialect} {line : Line} {condition : Condition} (said : line.Says dialect condition) :
    condition.line = some (line.number : Int) := by
  obtain ⟨found, extracted, rfl⟩ := said
  exact (ConditionLine.extract_marks extracted).1

theorem Line.Says.unique {dialect : Dialect} {line : Line} {condition other : Condition}
    (said : line.Says dialect condition) (saidToo : line.Says dialect other) : condition = other := by
  obtain ⟨found, extracted, rfl⟩ := said
  obtain ⟨same, again, rfl⟩ := saidToo
  rw [extracted] at again
  cases again
  rfl

/-- A condition of the text is lost: it was filed under a transition that no step took. -/
def Reading.Loses (dialect : Dialect) (text : String) (reading : Reading) (condition : Condition) : Prop :=
  ∃ line ∈ solidLines 1 (lines text.toList), line.Says dialect condition ∧
    ∃ entry ∈ reading.trace, entry.line = line.number ∧ reading.Orphans entry

namespace ReadState

/-- The conditions of the program so far and those of the transitions that wait for a step. -/
def filed (state : ReadState) : List Condition :=
  state.program.allConditions ++ state.pending.flatMap Transition.conditions

theorem count_filed (condition : Condition) (state : ReadState) :
    state.filed.count condition =
      (state.allSteps.flatMap Step.conditions).count condition +
        (state.allSteps.flatMap fun step => step.transitions.flatMap Transition.conditions).count condition +
        (state.allVariables.flatMap Variable.conditions).count condition +
        (state.pending.flatMap Transition.conditions).count condition := by
  simp only [filed, Program.allConditions, Program.entryAndExitConditions, Program.otherConditions, program,
    List.count_append]
  omega

theorem count_conditions_addCondition (words : TableWords) (leaving : Bool) (condition other : Condition)
    (step : Step) :
    (recordNames words condition (addCondition leaving condition step)).conditions.count other =
      step.conditions.count other + [condition].count other := by
  unfold addCondition
  split <;>
  · simp only [recordNames, Step.conditions, List.flatMap_append, conditions_addToGroups, List.count_append]
    omega

theorem transitions_addCondition (words : TableWords) (leaving : Bool) (condition : Condition) (step : Step) :
    (recordNames words condition (addCondition leaving condition step)).transitions = step.transitions := by
  unfold addCondition
  split <;> rfl

/-- A condition is filed in one place, where something can take it. -/
theorem perm_filed_file (dialect : Dialect) {condition : Condition} {state : ReadState}
    (taken : takesConditions state = true) : (file dialect condition state).filed.Perm (condition :: state.filed) := by
  apply List.perm_iff_count.mpr
  intro other
  rw [← List.singleton_append, List.count_append, count_filed, count_filed]
  unfold file
  cases last : state.pending.getLast? with
  | some transition =>
    obtain ⟨before, waiting⟩ := List.getLast?_eq_some_iff.mp last
    simp only [waiting, List.dropLast_concat, List.flatMap_append, List.flatMap_cons, List.flatMap_nil,
      List.append_nil, List.count_append, allSteps, allVariables]
    omega
  | none =>
    rcases focused : state.focus with _ | ⟨current, leaving⟩ | current
    · rw [List.getLast?_eq_none_iff] at last
      simp [takesConditions, focused, last] at taken
    · have added := count_conditions_addCondition dialect.tables leaving condition other current
      simp only [allSteps, allVariables, focused, List.flatMap_append, List.flatMap_cons, List.flatMap_nil,
        List.append_nil, List.count_append, added, transitions_addCondition]
      omega
    · simp only [allSteps, allVariables, focused, List.flatMap_append, List.flatMap_cons, List.flatMap_nil,
        List.append_nil, List.count_append]
      omega

/-- What is counted and filed after lines of a text: names of something outside and lines that no rule accepted are
counted, and each condition is said by a line. -/
structure Counts (dialect : Dialect) (text : List (List Char)) (state : ReadState) : Prop where
  external : state.external = state.filed.countP fun condition => condition.external.isSome
  unrecognized : state.unrecognized = state.trace.countP fun entry => entry.lineClass == .unrecognized
  said : ∀ condition ∈ state.filed, ∃ line ∈ solidLines 1 text, line.Says dialect condition

end ReadState

variable {dialect : Dialect} {line : Line} {state next : ReadState} {lineClass : LineClass}

namespace Accepted

/-- A line files the conditions that it says, and counts the names of something outside in them. -/
theorem filed (accepted : Accepted dialect line state lineClass next) :
    ∃ new : List Condition, next.filed.Perm (new ++ state.filed) ∧
      next.external = state.external + new.countP (fun condition => condition.external.isSome) ∧
      ∀ condition ∈ new, line.Says dialect condition := by
  -- All lines but conditions leave the filed conditions alone.
  have nothing (same : next.filed.Perm state.filed) (uncounted : next.external = state.external) :
      ∃ new : List Condition, next.filed.Perm (new ++ state.filed) ∧
        next.external = state.external + new.countP (fun condition => condition.external.isSome) ∧
        ∀ condition ∈ new, line.Says dialect condition :=
    ⟨[], same, uncounted, fun _ => List.not_mem_nil.elim⟩
  cases accepted with
  | comment | header | instanceName | ending | unnamed | unrecognized => exact nothing (.refl _) rfl
  | step =>
    refine nothing (List.perm_iff_count.mpr fun condition => ?_) rfl
    simp only [ReadState.count_filed]
    simp [ReadState.allSteps, ReadState.allVariables, ReadState.turnTo, Step.conditions]
    omega
  | transition =>
    refine nothing ?_ ?_
    · simp only [ReadState.filed, ReadState.program_withPending, ReadState.program_closeVariable, List.flatMap_append,
        List.flatMap_cons, List.flatMap_nil, List.append_nil, List.Perm.refl]
    · obtain ⟨_, _, _, closed⟩ := state.closeVariable_eq
      rw [closed]
  | setting unindented matched named focused =>
    refine nothing (List.perm_iff_count.mpr fun condition => ?_) rfl
    simp only [ReadState.count_filed]
    simp [ReadState.allSteps, ReadState.allVariables, focused, Step.conditions]
  | declaring =>
    refine nothing (List.perm_iff_count.mpr fun condition => ?_) rfl
    simp only [ReadState.count_filed]
    simp [ReadState.allSteps, ReadState.allVariables, ReadState.turnTo]
  | @condition taken signed found extracted =>
    refine ⟨[found.condition], ?_, ?_, ?_⟩
    · rw [ReadState.reportAll_eq]
      exact ReadState.perm_filed_file dialect taken
    · obtain ⟨_, _, filed⟩ := file_eq dialect found.condition _
      rw [filed, ReadState.reportAll_eq]
      cases named : found.condition.external <;> simp [named]
    · intro condition member
      exact ⟨found, extracted, (List.mem_singleton.mp member).symm⟩

theorem unrecognized_eq (accepted : Accepted dialect line state lineClass next) :
    next.unrecognized = state.unrecognized + if lineClass == .unrecognized then 1 else 0 := by
  cases accepted with
  | transition =>
    obtain ⟨_, _, _, closed⟩ := state.closeVariable_eq
    rw [closed]
    rfl
  | condition =>
    obtain ⟨_, _, filed⟩ := file_eq dialect _ _
    rw [filed, ReadState.reportAll_eq]
    rfl
  | _ => rfl

end Accepted

namespace ReadState.Counts

variable {text : List (List Char)}

theorem start (dialect : Dialect) (text : List (List Char)) : ReadState.Counts dialect text {} :=
  ⟨rfl, rfl, fun _ => List.not_mem_nil.elim⟩

theorem blankLine (counts : state.Counts dialect text) : state.blankLine.Counts dialect text := by
  have program := state.program_blankLine
  obtain ⟨_, _, _, same⟩ := state.blankLine_eq
  rw [same] at program ⊢
  refine ⟨?_, counts.unrecognized, ?_⟩
  · rw [filed, program]
    exact counts.external
  · rw [filed, program]
    exact counts.said

theorem accepted (counts : state.Counts dialect text) (present : line ∈ solidLines 1 text)
    (done : Accepted dialect line state lineClass next) : (next.classify line lineClass).Counts dialect text := by
  obtain ⟨new, filed, external, said⟩ := done.filed
  refine ⟨?_, ?_, ?_⟩
  · refine external.trans ?_
    rw [counts.external]
    have total := (show (next.classify line lineClass).filed.Perm (new ++ state.filed) from filed).countP_eq
      (fun condition => condition.external.isSome)
    rw [List.countP_append] at total
    omega
  · refine done.unrecognized_eq.trans ?_
    simp only [classify, done.trace_eq, List.countP_append, List.countP_singleton, counts.unrecognized]
  · intro condition member
    rcases List.mem_append.mp (filed.mem_iff.mp member) with here | before
    · exact ⟨line, present, said condition here⟩
    · exact counts.said condition before

end ReadState.Counts

theorem counts_of_readLines {text : List (List Char)}
    (read : readLines dialect LineClass.standard 1 {} text = .ok state) : state.Counts dialect text :=
  @readLines_keeps dialect text (fun _ between => between.Counts dialect text) (.start dialect text)
    (fun _ counts => counts.blankLine) (fun present done counts => counts.accepted present done) state read

/-- The counts of a program that was read are those of its reading. -/
theorem statistics_of_readProgram {text : String} {metadata : Metadata} {reading : Reading}
    (read : readProgram dialect text metadata = .ok reading)
    (ran : readLines dialect LineClass.standard 1 {} (lines text.toList) = .ok state) :
    reading.program.statistics =
      reading.program.computeStatistics (some ⟨state.external, state.unrecognized⟩) := by
  unfold readProgram readWith at read
  rw [ran] at read
  dsimp only [bind, Except.bind] at read
  split at read
  · cases read
  · cases read
    rw [ReadState.reportAll_eq]
    rfl

/-- Counts from a program alone are those of its reading exactly if the numbers are the same. -/
theorem computeStatistics_none_eq_iff (program : Program) (external unrecognized : Nat) :
    program.computeStatistics none = program.computeStatistics (some ⟨external, unrecognized⟩) ↔
      program.externalTotal = external ∧ unrecognized = 0 := by
  constructor
  · intro same
    have externals := congrArg Statistics.externalReferences same
    have others := congrArg Statistics.unrecognizedLines same
    simp only [Program.computeStatistics] at externals others
    omega
  · rintro ⟨rfl, rfl⟩
    rfl

theorem countP_external_eq_zero_iff {conditions : List Condition} :
    conditions.countP (fun condition => condition.external.isSome) = 0 ↔
      ∀ condition ∈ conditions, condition.external = none := by
  simp only [List.countP_eq_zero, Option.isSome_iff_ne_none, ne_eq, not_not]

theorem eq_of_number_eq {number : Nat} {rest : List (List Char)} {other : Line}
    (listed : line ∈ solidLines number rest) (present : other ∈ solidLines number rest)
    (same : line.number = other.number) : line = other := by
  have distinct : ((solidLines number rest).map Line.number).Nodup :=
    List.pairwise_map.mpr ((pairwise_solidLines number rest).imp fun smaller => Nat.ne_of_lt smaller)
  exact List.inj_on_of_nodup_map distinct listed present same

/-- The lost conditions are those of the transitions that still wait. -/
theorem loses_iff {text : String} {reading : Reading}
    (accounts : state.Accounts dialect (solidLines 1 (lines text.toList)))
    (counts : state.Counts dialect (lines text.toList)) (trace : reading.trace = state.trace)
    (warnings : reading.program.warnings = state.warnings ++ state.pending.map orphanWarning)
    (condition : Condition) :
    reading.Loses dialect text condition ↔ condition ∈ state.pending.flatMap Transition.conditions := by
  have sorted := accounts.sorted (pairwise_solidLines 1 _)
  have marks : (ClassifiedLine.waiting state.trace).flatMap Prod.snd =
      (state.pending.flatMap Transition.conditions).map Condition.line := by
    rw [← accounts.waits, List.flatMap_map, List.map_flatMap]
    rfl
  constructor
  · rintro ⟨line, listed, said, entry, member, number, lost⟩
    rw [orphans_iff accounts sorted trace warnings (trace ▸ member), marks] at lost
    obtain ⟨other, waits, same⟩ := List.mem_map.mp lost
    obtain ⟨source, present, saidToo⟩ := counts.said other (List.mem_append_right _ waits)
    have numbers := saidToo.mark.symm.trans same
    simp only [ClassifiedLine.mark, number, Option.some.injEq, Int.natCast_inj] at numbers
    obtain rfl := eq_of_number_eq present listed numbers
    rwa [said.unique saidToo]
  · intro waits
    obtain ⟨line, listed, said⟩ := counts.said condition (List.mem_append_right _ waits)
    obtain ⟨entry, member, traced⟩ := accounts.exists_entry listed
    refine ⟨line, listed, said, entry, trace ▸ member, traced.number, ?_⟩
    rw [orphans_iff accounts sorted trace warnings member, marks]
    refine List.mem_map.mpr ⟨condition, waits, ?_⟩
    rw [said.mark, ClassifiedLine.mark, traced.number]

/-- The counts from the program alone are those of the reading exactly if every line was recognized and no name of
something outside stands in a condition of a transition or of a variable, or in a condition that is lost. -/
theorem computeStatistics_eq_statistics_iff {text : String} {metadata : Metadata} {reading : Reading}
    (read : readProgram dialect text metadata = .ok reading) :
    reading.program.computeStatistics none = reading.program.statistics ↔
      (∀ entry ∈ reading.trace, entry.lineClass ≠ .unrecognized) ∧
      (∀ condition ∈ reading.program.otherConditions, condition.external = none) ∧
      ∀ condition, reading.Loses dialect text condition → condition.external = none := by
  obtain ⟨state, ran, trace, steps, vars, -, warnings⟩ := readProgram_eq_ok read
  have accounts := (ReadState.Accounts.start dialect).readLines ran
  rw [List.nil_append] at accounts
  have counts := counts_of_readLines ran
  have external : state.external = reading.program.externalTotal +
      reading.program.otherConditions.countP (fun condition => condition.external.isSome) +
      (state.pending.flatMap Transition.conditions).countP (fun condition => condition.external.isSome) := by
    rw [counts.external, ReadState.filed, Program.allConditions, List.countP_append, List.countP_append,
      Program.externalTotal_eq, Program.entryAndExitConditions, Program.entryAndExitConditions, Program.otherConditions,
      Program.otherConditions, steps, vars]
    rfl
  have unrecognized : state.unrecognized = 0 ↔ ∀ entry ∈ reading.trace, entry.lineClass ≠ .unrecognized := by
    rw [counts.unrecognized, List.countP_eq_zero, trace]
    simp only [beq_iff_eq, ne_eq]
  have lost : (∀ condition, reading.Loses dialect text condition → condition.external = none) ↔
      (state.pending.flatMap Transition.conditions).countP (fun condition => condition.external.isSome) = 0 := by
    rw [countP_external_eq_zero_iff]
    exact forall_congr' fun condition => imp_congr_left (loses_iff accounts counts trace warnings condition)
  rw [statistics_of_readProgram read ran, computeStatistics_none_eq_iff, ← unrecognized, lost,
    ← countP_external_eq_zero_iff, external]
  omega

/-- Names of something outside, all in entry and exit conditions of steps; a transition and a variable have conditions
without such a name, and so has a transition that no step takes. -/
def ownNamesText : String :=
  "Pump FB7\nSTAP 1: fill\n- *level*\n\n+ *stop*\nEND\nVON STAP 1\n- full\nRUST: wait\n- *late*\nEND\n" ++
    "X =\n- a\nVON STAP 1\n- b"

theorem computeStatistics_eq_statistics_iff_ownNamesText :
    ∃ reading, readProgram {} ownNamesText {} = .ok reading ∧
      reading.program.statistics.externalReferences = 3 ∧
      reading.program.computeStatistics none = reading.program.statistics ∧
      (∀ entry ∈ reading.trace, entry.lineClass ≠ .unrecognized) ∧
      (∀ condition ∈ reading.program.otherConditions, condition.external = none) ∧
      ∀ condition, reading.Loses {} ownNamesText condition → condition.external = none := by
  have evaluated : (readProgram {} ownNamesText {}).toOption.map (fun reading =>
      (reading.program.statistics.externalReferences,
        decide (reading.program.computeStatistics none = reading.program.statistics))) = some (3, true) := by
    decide +kernel
  obtain ⟨reading, done, found⟩ := Option.map_eq_some_iff.mp evaluated
  obtain ⟨external, same⟩ := Prod.mk.inj found
  have read := eq_ok_of_toOption_eq_some done
  have agree := of_decide_eq_true same
  exact ⟨reading, read, external, agree, (computeStatistics_eq_statistics_iff read).mp agree⟩

/-- A transition from the first step to the second one, with a name of something outside in its condition. -/
def transitionNameText : String := "STAP 1: a\nVON STAP 1\n- *x*\nSTAP 2: b"

/-- A name of something outside in a condition of a transition is counted by the reader, but not from the program. -/
theorem computeStatistics_misses_transition_name :
    ∃ reading, readProgram {} transitionNameText {} = .ok reading ∧
      (∀ entry ∈ reading.trace, entry.lineClass ≠ .unrecognized) ∧
      reading.program.statistics.externalReferences = 1 ∧
      (reading.program.computeStatistics none).externalReferences = 0 ∧
      reading.program.computeStatistics none ≠ reading.program.statistics := by
  have evaluated : (readProgram {} transitionNameText {}).toOption.map (fun reading =>
      (reading.trace.map ClassifiedLine.lineClass, reading.program.statistics.externalReferences,
        (reading.program.computeStatistics none).externalReferences)) =
      some ([.declaration, .transition, .condition, .declaration], 1, 0) := by
    decide +kernel
  obtain ⟨reading, done, found⟩ := Option.map_eq_some_iff.mp evaluated
  obtain ⟨classes, found⟩ := Prod.mk.inj found
  obtain ⟨counted, recounted⟩ := Prod.mk.inj found
  refine ⟨reading, eq_ok_of_toOption_eq_some done, ?_, counted, recounted, ?_⟩
  · intro entry member unrecognized
    have listed := List.mem_map_of_mem (f := ClassifiedLine.lineClass) member
    rw [classes, unrecognized] at listed
    revert listed
    decide
  · intro same
    rw [same, counted] at recounted
    cases recounted

end StepFlow
