import StepFlow.Checking.Program

/-! # What each check can find

A finding of a check stands at the line of something that the program has, and its code is one of those that belong to
the check. Each check has one lemma that says both. What follows about all findings of a program, about the places that
they point to and about those of one kind, rests on these lemmas and not on the checks themselves.
-/

namespace StepFlow.Check

variable {finding : Finding} {program : Program}

theorem of_mem_findIf {holds : Bool} {cause : FindingCause} {line : Option Int}
    (member : finding ∈ findIf holds cause line) : finding = ⟨cause, line⟩ := by
  unfold findIf at member
  split at member
  · exact List.mem_singleton.mp member
  · exact absurd member List.not_mem_nil

theorem of_mem_findAbove {count : Nat} {limit : Option Int} {cause : Int → FindingCause} {line : Option Int}
    (member : finding ∈ findAbove count limit cause line) : ∃ most, finding = ⟨cause most, line⟩ := by
  unfold findAbove at member
  split at member
  · exact absurd member List.not_mem_nil
  · exact ⟨_, of_mem_findIf member⟩

/-! ## Checks of the whole program -/

theorem of_mem_stepNumbers {seen : List Nat} {restSeen : Bool} {steps : List Step}
    (member : finding ∈ stepNumbers seen restSeen steps) :
    ∃ step ∈ steps, finding.line = step.line ∧
      finding.cause.code ∈ [DiagnosticCode.duplicateStep, .duplicateRest] := by
  induction steps generalizing seen restSeen with
  | nil => exact absurd member List.not_mem_nil
  | cons step rest ih =>
    have later {seen : List Nat} {restSeen : Bool} (found : finding ∈ stepNumbers seen restSeen rest) :
        ∃ other ∈ step :: rest, finding.line = other.line ∧
          finding.cause.code ∈ [DiagnosticCode.duplicateStep, .duplicateRest] := by
      obtain ⟨other, present, here⟩ := ih found
      exact ⟨other, .tail _ present, here⟩
    rw [stepNumbers] at member
    split at member
    · rcases List.mem_append.mp member with here | found
      · rw [of_mem_findIf here]
        exact ⟨step, .head _, rfl, .tail _ (.head _)⟩
      · exact later found
    · rcases List.mem_cons.mp member with rfl | found
      · exact ⟨step, .head _, rfl, .head _⟩
      · exact later found
    · rcases List.mem_append.mp member with here | found
      · rw [of_mem_findIf here]
        exact ⟨step, .head _, rfl, .head _⟩
      · exact later found

/-- A number in use is that of some step. -/
theorem exists_of_mem_usedNumbers {number : Int} (used : number ∈ usedNumbers program) :
    ∃ step, (stepsNumbered program number).head? = some step ∧ step ∈ program.steps := by
  rw [usedNumbers, mem_ascending] at used
  obtain ⟨step, numbered, rfl⟩ := List.mem_map.mp used
  have sequential : step ∈ program.sequentialSteps := (List.mem_filter.mp numbered).1
  have listed : step ∈ stepsNumbered program step.number := List.mem_filter.mpr ⟨sequential, beq_self_eq_true _⟩
  obtain ⟨first, found⟩ := Option.isSome_iff_exists.mp (List.isSome_head?.mpr (List.ne_nil_of_mem listed))
  have inside : first ∈ program.sequentialSteps := (List.mem_filter.mp (List.mem_of_head? found)).1
  exact ⟨first, found, (List.mem_filter.mp inside).1⟩

theorem of_mem_gaps {numbers : List Int} (used : numbers ⊆ usedNumbers program)
    (member : finding ∈ gaps program numbers) :
    ∃ step ∈ program.steps, finding.line = step.line ∧ finding.cause.code = .missingSequentialStep := by
  fun_induction gaps program numbers with
  | case1 previous current rest ih =>
    rcases List.mem_append.mp member with here | later
    · obtain ⟨step, first, present⟩ := exists_of_mem_usedNumbers (used (.tail _ (.head _)))
      unfold gapBefore at here
      dsimp only at here
      split at here
      · exact absurd here List.not_mem_nil
      · rw [List.mem_singleton.mp here, first]
        exact ⟨step, present, rfl, rfl⟩
    · exact ih (List.cons_subset.mp used).2 later
  | case2 => exact absurd member List.not_mem_nil

theorem of_mem_transitions (member : finding ∈ transitions program) :
    ∃ step ∈ program.steps, ∃ transition ∈ step.transitions,
      finding.line = transition.line ∧ finding.cause.code = .invalidTransition := by
  obtain ⟨step, present, found⟩ := List.mem_flatMap.mp member
  obtain ⟨transition, unknown, rfl⟩ := List.mem_map.mp found
  exact ⟨step, present, transition, (List.mem_filter.mp unknown).1, rfl, rfl⟩

theorem of_mem_references {rules : ReferenceRules} {registry : Registry}
    (member : finding ∈ references rules registry program) :
    ∃ reference ∈ program.crossReferences,
      finding.line = reference.line ∧ finding.cause.code = .unresolvedCrossReference := by
  have found {stepsMustExist : Bool} {severity : Severity}
      (member : finding ∈ unresolved registry stepsMustExist severity program) :
      ∃ reference ∈ program.crossReferences,
        finding.line = reference.line ∧ finding.cause.code = .unresolvedCrossReference := by
    obtain ⟨reference, present, problem⟩ := List.mem_filterMap.mp member
    obtain ⟨_, _, rfl⟩ := Option.map_eq_some_iff.mp problem
    exact ⟨reference, present, rfl, rfl⟩
  unfold references at member
  split at member
  · exact absurd member List.not_mem_nil
  · exact found member
  · exact found member

/-! ## Checks of one step, one variable and one condition -/

theorem of_mem_stepLimits {rules : StepRules} {step : Step} (member : finding ∈ stepLimits rules step) :
    finding.line = step.line ∧
      finding.cause.code ∈ [DiagnosticCode.emptyStepDescription, .invalidEntryConditions, .tooManyConditions,
        .tooManyTransitions] := by
  simp only [stepLimits, List.mem_append] at member
  rcases member with (((described | entry) | exit) | conditions) | transitions
  · simp [of_mem_findIf described, FindingCause.code]
  · simp [of_mem_findIf entry, FindingCause.code]
  · simp [of_mem_findIf exit, FindingCause.code]
  · obtain ⟨most, rfl⟩ := of_mem_findAbove conditions
    simp [FindingCause.code]
  · obtain ⟨most, rfl⟩ := of_mem_findAbove transitions
    simp [FindingCause.code]

theorem of_mem_variableLimits {rules : CheckRules} {var : Variable} (member : finding ∈ variableLimits rules var) :
    finding.line = var.line ∧ finding.cause.code ∈ [DiagnosticCode.missingConditions, .tooManyConditions] := by
  unfold variableLimits at member
  split at member
  · exact absurd member List.not_mem_nil
  · rcases List.mem_append.mp member with required | conditions
    · simp [of_mem_findIf required, FindingCause.code]
    · obtain ⟨most, rfl⟩ := of_mem_findAbove conditions
      simp [FindingCause.code]

theorem of_mem_timer {rules : TimerRules} {condition : Condition} (member : finding ∈ timer rules condition) :
    finding.line = condition.line ∧ finding.cause.code = .timerOutOfRange := by
  unfold timer at member
  split at member
  · exact absurd member List.not_mem_nil
  · rw [of_mem_findIf member]
    exact ⟨rfl, rfl⟩

end StepFlow.Check
