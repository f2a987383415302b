import StepFlow.Proofs.Checking.Findings
import Mathlib.Data.List.Nodup

/-! # Structural errors

Three checks look at the structure of a program alone: whether a numbered step has a bit of its own, whether there is a
second rest step, and whether the steps that others continue from exist. They run in one pass over the steps, which
remembers the numbers it has seen. Here each of them is compared with a description that looks at the whole program:
what is reported are the steps whose number is zero or stands on an earlier step, the rest steps after the first, and
the transitions whose origin no step has. So nothing is reported just for programs in good order.
-/

namespace StepFlow

namespace Check

variable {finding : Finding} {program : Program}

/-! ## Findings of one kind -/

/-- The findings of one kind, in order. -/
def ofCode (code : DiagnosticCode) (findings : List Finding) : List Finding :=
  findings.filter fun finding => finding.cause.code == code

theorem ofCode_append (code : DiagnosticCode) (first second : List Finding) :
    ofCode code (first ++ second) = ofCode code first ++ ofCode code second := List.filter_append ..

theorem ofCode_eq_nil {code : DiagnosticCode} {findings : List Finding}
    (others : ∀ finding ∈ findings, finding.cause.code ≠ code) : ofCode code findings = [] :=
  List.filter_eq_nil_iff.mpr fun finding member same => others finding member (beq_iff_eq.mp same)

theorem ofCode_eq_self {code : DiagnosticCode} {findings : List Finding}
    (all : ∀ finding ∈ findings, finding.cause.code = code) : ofCode code findings = findings :=
  List.filter_eq_self.mpr fun finding member => beq_iff_eq.mpr (all finding member)

/-- The codes of the checks on structure. -/
def structural : List DiagnosticCode := [.duplicateStep, .duplicateRest, .invalidTransition]

/-! ## Step numbers -/

/-- What is found on a step without a bit of its own: zero is the bit of rest steps, any other number is used twice. -/
def clash (step : Step) : Finding :=
  ⟨if step.number = 0 then .restBit step.label else .repeatedNumber step.number, step.line⟩

/-- What is found on a rest step after the first. -/
def surplusRest (step : Step) : Finding := ⟨.secondRest step.label, step.line⟩

end Check

/-- Each step with the steps before it. -/
def withEarlier (steps : List Step) : List (List Step × Step) :=
  steps.mapIdx fun index step => (steps.take index, step)

/-- A step after the given ones has no bit of its own. -/
def Step.Clashes (earlier : List Step) (step : Step) : Prop :=
  step.number = 0 ∨ step.number ∈ earlier.map Step.number

instance (earlier : List Step) (step : Step) : Decidable (step.Clashes earlier) :=
  inferInstanceAs (Decidable (_ ∨ _))

/-- The numbered steps that have no bit of their own, in order. -/
def Program.clashingSteps (program : Program) : List Step :=
  ((withEarlier program.sequentialSteps).filter fun pair => pair.2.Clashes pair.1).map Prod.snd

namespace Check

/-- The clashing steps among numbered ones that come after others. -/
def clashesAfter (earlier steps : List Step) : List Step :=
  ((steps.mapIdx fun index step => (earlier ++ steps.take index, step)).filter
    fun pair => pair.2.Clashes pair.1).map Prod.snd

theorem clashesAfter_cons (earlier : List Step) (step : Step) (rest : List Step) :
    clashesAfter earlier (step :: rest) =
      (if step.Clashes earlier then [step] else []) ++ clashesAfter (earlier ++ [step]) rest := by
  simp only [clashesAfter, List.mapIdx_cons, List.take_zero, List.append_nil, List.take_succ_cons, List.filter_cons,
    List.append_assoc, List.singleton_append]
  split <;> simp_all

/-- No step clashes where all numbers are positive and new. -/
theorem clashesAfter_eq_nil_iff {earlier steps : List Step} :
    clashesAfter earlier steps = [] ↔
      (∀ step ∈ steps, 0 < step.number ∧ step.number ∉ earlier.map Step.number) ∧ (steps.map Step.number).Nodup := by
  induction steps generalizing earlier with
  | nil => simp [clashesAfter]
  | cons step rest ih =>
    have here : (if step.Clashes earlier then [step] else []) = [] ↔
        0 < step.number ∧ step.number ∉ earlier.map Step.number := by
      simp [Step.Clashes, Nat.pos_iff_ne_zero]
    have later (other : Step) : other.number ∉ (earlier ++ [step]).map Step.number ↔
        other.number ∉ earlier.map Step.number ∧ other.number ≠ step.number := by
      rw [List.map_append, List.mem_append, not_or, List.map_singleton, List.mem_singleton]
    have fresh : step.number ∉ rest.map Step.number ↔ ∀ other ∈ rest, other.number ≠ step.number := by simp
    rw [clashesAfter_cons, List.append_eq_nil_iff, ih, here, List.forall_mem_cons, List.map_cons, List.nodup_cons,
      fresh]
    simp only [later, ← and_assoc, forall_and]

/-- What the pass over the steps does at one step. -/
theorem stepNumbers_cons (seen : List Nat) (restSeen : Bool) (step : Step) (rest : List Step) :
    stepNumbers seen restSeen (step :: rest) =
      if step.isRest then (if restSeen then [surplusRest step] else []) ++ stepNumbers seen true rest
      else if step.number = 0 then clash step :: stepNumbers seen restSeen rest
      else (if step.number ∈ seen then [clash step] else []) ++ stepNumbers (step.number :: seen) restSeen rest := by
  rw [stepNumbers]
  cases kind : step.kind with
  | rest => simp [Step.isRest, kind, StepKind.isRest, surplusRest]
  | sequential number =>
    cases number with
    | zero => simp [Step.isRest, Step.number, kind, StepKind.isRest, StepKind.number, clash]
    | succ number => simp [Step.isRest, Step.number, kind, StepKind.isRest, StepKind.number, clash]

theorem code_clash (step : Step) : (clash step).cause.code = .duplicateStep := by
  unfold clash
  split <;> rfl

/-- The numbers seen so far stand for the numbered steps before, those numbered zero apart. -/
theorem ofCode_duplicateStep {seen : List Nat} {restSeen : Bool} {earlier steps : List Step}
    (known : ∀ number, number ≠ 0 → (number ∈ seen ↔ number ∈ earlier.map Step.number)) :
    ofCode .duplicateStep (stepNumbers seen restSeen steps) =
      (clashesAfter earlier (steps.filter fun step => !step.isRest)).map clash := by
  induction steps generalizing seen restSeen earlier with
  | nil => rfl
  | cons step rest ih =>
    rw [stepNumbers_cons]
    by_cases resting : step.isRest = true
    · have other : ofCode .duplicateStep (if restSeen then [surplusRest step] else []) = [] := by
        cases restSeen <;> rfl
      rw [if_pos resting, ofCode_append, other, List.nil_append, ih known,
        List.filter_cons_of_neg (by simpa using resting)]
    · rw [if_neg resting, List.filter_cons_of_pos (by simpa using resting), clashesAfter_cons, List.map_append]
      by_cases zero : step.number = 0
      · have here : step.Clashes earlier := .inl zero
        have grown : ∀ number, number ≠ 0 → (number ∈ seen ↔ number ∈ (earlier ++ [step]).map Step.number) := by
          intro number positive
          simp [known number positive, zero, positive]
        rw [if_pos zero, if_pos here, ← ih grown]
        exact List.filter_cons_of_pos (by simp [code_clash])
      · have here : step.Clashes earlier ↔ step.number ∈ seen := by
          rw [known _ zero, Step.Clashes, or_iff_right zero]
        have grown : ∀ number, number ≠ 0 →
            (number ∈ step.number :: seen ↔ number ∈ (earlier ++ [step]).map Step.number) := by
          intro number positive
          simp [known number positive, or_comm]
        rw [if_neg zero, ofCode_append, ih grown]
        simp only [here]
        congr 1
        split
        · exact ofCode_eq_self (by simp [code_clash])
        · rfl

/-- The rest steps that are reported are those after the first. -/
theorem ofCode_duplicateRest {seen : List Nat} {restSeen : Bool} {steps : List Step} :
    ofCode .duplicateRest (stepNumbers seen restSeen steps) =
      ((steps.filter Step.isRest).drop (if restSeen then 0 else 1)).map surplusRest := by
  induction steps generalizing seen restSeen with
  | nil => simp [stepNumbers, ofCode]
  | cons step rest ih =>
    rw [stepNumbers_cons]
    by_cases resting : step.isRest = true
    · rw [if_pos resting, ofCode_append, ih, List.filter_cons_of_pos resting]
      cases restSeen <;> rfl
    · have numbered : ofCode .duplicateRest [clash step] = [] := ofCode_eq_nil (by simp [code_clash])
      rw [if_neg resting, List.filter_cons_of_neg resting]
      split
      · rw [← List.singleton_append, ofCode_append, numbered, List.nil_append, ih]
      · rw [ofCode_append, ih]
        split
        · rw [numbered, List.nil_append]
        · rfl

theorem code_of_mem_stepNumbers {seen : List Nat} {restSeen : Bool} {steps : List Step}
    (member : finding ∈ stepNumbers seen restSeen steps) :
    finding.cause.code ∈ [DiagnosticCode.duplicateStep, .duplicateRest] := by
  obtain ⟨_, _, _, known⟩ := of_mem_stepNumbers member
  exact known

/-! ## Transitions -/

/-- What is found on a transition of a step that continues from no step of the program. -/
def lostOrigin (step : Step) (transition : Transition) : Finding :=
  ⟨.unknownOrigin step.label transition.origin, transition.line⟩

end Check

/-- A transition continues from a step of the program. -/
def Program.HasOrigin (program : Program) (transition : Transition) : Prop :=
  ∃ step ∈ program.steps, (step.number : Int) = transition.origin

instance (program : Program) (transition : Transition) : Decidable (program.HasOrigin transition) :=
  inferInstanceAs (Decidable (∃ step ∈ program.steps, _))

/-- The transitions that continue from no step, each with its step, in order. -/
def Program.lostTransitions (program : Program) : List (Step × Transition) :=
  program.steps.flatMap fun step =>
    (step.transitions.filter fun transition => ¬program.HasOrigin transition).map (step, ·)

namespace Check

theorem transitions_eq (program : Program) :
    transitions program = program.lostTransitions.map fun pair => lostOrigin pair.1 pair.2 := by
  rw [transitions, Program.lostTransitions, List.map_flatMap]
  refine List.flatMap_congr fun step _ => ?_
  rw [List.map_map]
  congr 1
  refine List.filter_congr fun transition _ => ?_
  have known : program.stepNumbers.contains transition.origin = decide (program.HasOrigin transition) := by
    rw [Bool.eq_iff_iff, decide_eq_true_eq, Program.HasOrigin]
    simp [Program.stepNumbers]
  rw [known, decide_not]

theorem code_of_mem_transitions (member : finding ∈ transitions program) :
    finding.cause.code = .invalidTransition := by
  obtain ⟨_, _, _, _, _, known⟩ := of_mem_transitions member
  exact known

theorem ofCode_transitions_eq_nil {code : DiagnosticCode} (other : .invalidTransition ≠ code) :
    ofCode code (transitions program) = [] :=
  ofCode_eq_nil fun _ member => code_of_mem_transitions member ▸ other

/-! ## Which check reports what -/

/-- Where all findings have one of the given codes, any other code finds nothing. -/
theorem ofCode_eq_ite {codes : List DiagnosticCode} {findings : List Finding}
    (known : ∀ finding ∈ findings, finding.cause.code ∈ codes) (code : DiagnosticCode) :
    ofCode code findings = if code ∈ codes then ofCode code findings else [] := by
  split
  · rfl
  · rename_i other
    exact ofCode_eq_nil fun finding member same => other (same ▸ known finding member)

/-- Where all findings have the given code, this code finds all of them and any other code nothing. -/
theorem ofCode_eq_ite_eq {own : DiagnosticCode} {findings : List Finding}
    (known : ∀ finding ∈ findings, finding.cause.code = own) (code : DiagnosticCode) :
    ofCode code findings = if code = own then findings else [] := by
  split
  · rename_i same
    exact ofCode_eq_self fun finding member => same ▸ known finding member
  · rename_i other
    exact ofCode_eq_nil fun finding member same => other (same ▸ known finding member)

/-- The findings of one kind, check by check. -/
theorem ofCode_findings_parts (code : DiagnosticCode) (rules : CheckRules) (registry : Registry) (program : Program) :
    ofCode code (findings rules registry program) =
      (if code ∈ [DiagnosticCode.duplicateStep, .duplicateRest] then
        ofCode code (stepNumbers [] false program.steps) else []) ++
      (if code = .missingSequentialStep then gaps program (usedNumbers program) else []) ++
      (if code = .invalidTransition then transitions program else []) ++
      (if code ∈ [DiagnosticCode.emptyStepDescription, .invalidEntryConditions, .tooManyConditions,
        .tooManyTransitions] then ofCode code (program.steps.flatMap (stepLimits rules.steps)) else []) ++
      (if code ∈ [DiagnosticCode.missingConditions, .tooManyConditions] then
        ofCode code (program.variables.flatMap (variableLimits rules)) else []) ++
      (if code = .timerOutOfRange then
        program.stepConditions.flatMap fun pair => timer rules.timer pair.2 else []) ++
      (if code = .unresolvedCrossReference then references rules.references registry program else []) := by
  have missing : ∀ finding ∈ gaps program (usedNumbers program), finding.cause.code = .missingSequentialStep := by
    intro finding member
    obtain ⟨_, _, _, known⟩ := of_mem_gaps (List.Subset.refl _) member
    exact known
  have limits : ∀ finding ∈ program.steps.flatMap (stepLimits rules.steps), finding.cause.code ∈
      [DiagnosticCode.emptyStepDescription, .invalidEntryConditions, .tooManyConditions, .tooManyTransitions] := by
    intro finding member
    obtain ⟨step, _, found⟩ := List.mem_flatMap.mp member
    exact (of_mem_stepLimits found).2
  have declared : ∀ finding ∈ program.variables.flatMap (variableLimits rules), finding.cause.code ∈
      [DiagnosticCode.missingConditions, .tooManyConditions] := by
    intro finding member
    obtain ⟨var, _, found⟩ := List.mem_flatMap.mp member
    exact (of_mem_variableLimits found).2
  have timed : ∀ finding ∈ program.stepConditions.flatMap (fun pair => timer rules.timer pair.2),
      finding.cause.code = .timerOutOfRange := by
    intro finding member
    obtain ⟨pair, _, found⟩ := List.mem_flatMap.mp member
    exact (of_mem_timer found).2
  have referred : ∀ finding ∈ references rules.references registry program,
      finding.cause.code = .unresolvedCrossReference := by
    intro finding member
    obtain ⟨_, _, _, known⟩ := of_mem_references member
    exact known
  rw [findings]
  simp only [ofCode_append]
  rw [← ofCode_eq_ite (fun _ => code_of_mem_stepNumbers), ← ofCode_eq_ite_eq missing,
    ← ofCode_eq_ite_eq (fun _ => code_of_mem_transitions), ← ofCode_eq_ite limits, ← ofCode_eq_ite declared,
    ← ofCode_eq_ite_eq timed, ← ofCode_eq_ite_eq referred]

/-- Just the checks on structure report on it. -/
theorem ofCode_findings {code : DiagnosticCode} (isStructural : code ∈ structural) (rules : CheckRules)
    (registry : Registry) (program : Program) :
    ofCode code (findings rules registry program) =
      ofCode code (stepNumbers [] false program.steps) ++ ofCode code (transitions program) := by
  rw [ofCode_findings_parts, ← ofCode_eq_ite (fun _ => code_of_mem_stepNumbers),
    ← ofCode_eq_ite_eq (fun _ => code_of_mem_transitions)]
  simp only [structural, List.mem_cons, List.not_mem_nil, or_false] at isStructural
  rcases isStructural with rfl | rfl | rfl <;> simp

end Check

namespace Program

variable (rules : CheckRules) (registry : Registry) (program : Program)

/-- The structural errors that a check adds are those that the description tells. -/
theorem ofCode_errors {code : DiagnosticCode} (isStructural : code ∈ Check.structural) :
    (program.check rules registry).2.errors.filter (fun diagnostic => diagnostic.code == code) =
      (Check.ofCode code (Check.stepNumbers [] false program.steps) ++
        Check.ofCode code (Check.transitions program)).map Finding.diagnostic := by
  have weighty (finding : Finding) (same : finding.cause.code = code) : finding.cause.severity = .error := by
    rw [← same] at isStructural
    cases cause : finding.cause <;> simp_all [Check.structural, FindingCause.code, FindingCause.severity]
  have classified := Check.ofCode_findings isStructural rules registry
    { program with «variables» := program.variables.map (Check.classify rules) }
  refine Eq.trans ?_ (congrArg (List.map Finding.diagnostic) classified)
  simp only [check, Check.ofCode, List.filter_filter, List.filter_map]
  congr 1
  refine List.filter_congr fun finding _ => ?_
  by_cases same : finding.cause.code = code
  · simp [Finding.diagnostic, same, weighty finding same]
  · simp [Finding.diagnostic, same]

/-- The warnings of a kind that is never an error are the findings of that kind. -/
theorem ofCode_warnings {code : DiagnosticCode}
    (light : ∀ finding : Finding, finding.cause.code = code → finding.cause.severity = .warning) :
    (program.check rules registry).2.warnings.filter (fun diagnostic => diagnostic.code == code) =
      (Check.ofCode code (Check.findings rules registry
        { program with «variables» := program.variables.map (Check.classify rules) })).map Finding.diagnostic := by
  simp only [check, Check.ofCode, List.filter_filter, List.filter_map]
  congr 1
  refine List.filter_congr fun finding _ => ?_
  by_cases same : finding.cause.code = code
  · simp [Finding.diagnostic, same, light finding same]
  · simp [Finding.diagnostic, same]

theorem code_of_mem_warnings {diagnostic : Diagnostic}
    (member : diagnostic ∈ (program.check rules registry).2.warnings) : diagnostic.code ∉ Check.structural := by
  obtain ⟨found, light⟩ := List.mem_filter.mp member
  obtain ⟨finding, _, rfl⟩ := List.mem_map.mp found
  cases cause : finding.cause <;>
    simp_all [Finding.diagnostic, Check.structural, FindingCause.code, FindingCause.severity]

theorem clashingSteps_eq : program.clashingSteps = Check.clashesAfter [] program.sequentialSteps := by
  simp only [clashingSteps, withEarlier, Check.clashesAfter, List.nil_append]

theorem filter_duplicateStep :
    (program.check rules registry).2.errors.filter (fun diagnostic => diagnostic.code == .duplicateStep) =
      program.clashingSteps.map fun step => (Check.clash step).diagnostic := by
  have nothingSeen : ∀ number, number ≠ 0 → (number ∈ ([] : List Nat) ↔ number ∈ ([] : List Step).map Step.number) := by
    simp
  rw [ofCode_errors rules registry program (by decide), Check.ofCode_duplicateStep nothingSeen,
    Check.ofCode_transitions_eq_nil (by decide), List.append_nil, List.map_map, clashingSteps_eq]
  rfl

theorem filter_duplicateRest :
    (program.check rules registry).2.errors.filter (fun diagnostic => diagnostic.code == .duplicateRest) =
      ((program.steps.filter Step.isRest).drop 1).map fun step => (Check.surplusRest step).diagnostic := by
  rw [ofCode_errors rules registry program (by decide), Check.ofCode_duplicateRest,
    Check.ofCode_transitions_eq_nil (by decide), List.append_nil, List.map_map]
  rfl

theorem filter_invalidTransition :
    (program.check rules registry).2.errors.filter (fun diagnostic => diagnostic.code == .invalidTransition) =
      program.lostTransitions.map fun pair => (Check.lostOrigin pair.1 pair.2).diagnostic := by
  have others : ∀ finding ∈ Check.stepNumbers [] false program.steps, finding.cause.code ≠ .invalidTransition := by
    intro finding member same
    have known := Check.code_of_mem_stepNumbers member
    rw [same] at known
    exact absurd known (by decide)
  rw [ofCode_errors rules registry program (by decide), Check.ofCode_eq_nil others, List.nil_append,
    Check.ofCode_eq_self fun _ => Check.code_of_mem_transitions, Check.transitions_eq, List.map_map]
  rfl

theorem reports_no_structure_iff :
    (∀ diagnostic ∈ (program.check rules registry).2.errors ++ (program.check rules registry).2.warnings,
        diagnostic.code ∉ Check.structural) ↔
      program.clashingSteps = [] ∧ (program.steps.filter Step.isRest).drop 1 = [] ∧ program.lostTransitions = [] := by
  have empty (code : DiagnosticCode) :
      (program.check rules registry).2.errors.filter (fun diagnostic => diagnostic.code == code) = [] ↔
        ∀ diagnostic ∈ (program.check rules registry).2.errors, diagnostic.code ≠ code := by
    simp [List.filter_eq_nil_iff]
  have steps := empty .duplicateStep
  have rests := empty .duplicateRest
  have origins := empty .invalidTransition
  rw [filter_duplicateStep, List.map_eq_nil_iff] at steps
  rw [filter_duplicateRest, List.map_eq_nil_iff] at rests
  rw [filter_invalidTransition, List.map_eq_nil_iff] at origins
  rw [steps, rests, origins, List.forall_mem_append,
    and_iff_left fun diagnostic member => code_of_mem_warnings rules registry program member]
  simp only [Check.structural, List.mem_cons, List.not_mem_nil, or_false, not_or, forall_and, ne_eq]

end Program

end StepFlow
