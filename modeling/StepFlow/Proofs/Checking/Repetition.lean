import StepFlow.Checking.Program

/-! # Checking a program again

A check reads the steps, the variables and the references of a program. It adds diagnostics at the end and puts every
variable into a group, whatever group the variable was in. Nothing that it writes is read by a later check, so a program
that is checked again and again gets the same report every time.
-/

namespace StepFlow

/-- The variable without its group. -/
def Variable.ungrouped (var : Variable) : Variable := { var with group := "" }

namespace Check

/-- The group that a variable is in has no part in its classification. -/
theorem classify_ungrouped (rules : CheckRules) (var : Variable) :
    classify rules var.ungrouped = classify rules var := rfl

theorem ungrouped_classify (rules : CheckRules) (var : Variable) : (classify rules var).ungrouped = var.ungrouped := rfl

variable {program other : Program} (steps : program.steps = other.steps)
include steps

theorem gaps_congr (numbers : List Int) : gaps program numbers = gaps other numbers := by
  have before (previous current : Int) : gapBefore program previous current = gapBefore other previous current := by
    rw [gapBefore, gapBefore, stepsNumbered, stepsNumbered, Program.sequentialSteps, Program.sequentialSteps, steps]
  induction numbers with
  | nil => rfl
  | cons previous rest ih =>
    cases rest with
    | nil => rfl
    | cons current rest => exact (congrArg (· ++ _) (before previous current)).trans (congrArg (_ ++ ·) ih)

/-- The findings in a program depend on its steps, its variables and its references only. -/
theorem findings_congr («variables» : program.variables = other.variables)
    (references : program.crossReferences = other.crossReferences) (rules : CheckRules) (registry : Registry) :
    findings rules registry program = findings rules registry other := by
  simp only [findings, gaps_congr steps, usedNumbers, transitions, Program.stepNumbers, Program.stepConditions,
    Program.sequentialSteps, Check.references, unresolved, steps, «variables», references]

end Check

namespace Program

/-- What a program says by itself: the groups of its variables and the diagnostics left out. -/
def unchecked (program : Program) : Program :=
  { program with «variables» := program.variables.map Variable.ungrouped, errors := [], warnings := [] }

section Check

variable (rules : CheckRules) (registry : Registry) (program : Program)

/-- A check changes nothing of what the program says. -/
theorem unchecked_check : (program.check rules registry).1.unchecked = program.unchecked := by
  simp only [unchecked, check, List.map_map, Function.comp_def, Check.ungrouped_classify]

/-- The program with its variables in their groups. -/
def classified : Program := { program with «variables» := program.variables.map (Check.classify rules) }

theorem report_eq :
    (program.check rules registry).2 =
      let diagnostics := (Check.findings rules registry (program.classified rules)).map Finding.diagnostic
      { errors := diagnostics.filter (·.severity == .error)
        warnings := diagnostics.filter (·.severity == .warning)
        groups := variableGroups rules (program.classified rules).variables } := rfl

theorem variables_classified_unchecked :
    (program.unchecked.classified rules).variables = (program.classified rules).variables := by
  simp only [classified, unchecked, List.map_map, Function.comp_def, Check.classify_ungrouped]

/-- A check looks at nothing but what the program says. -/
theorem report_unchecked : (program.unchecked.check rules registry).2 = (program.check rules registry).2 := by
  have same := variables_classified_unchecked rules program
  have findings : Check.findings rules registry (program.unchecked.classified rules) =
      Check.findings rules registry (program.classified rules) := by
    apply Check.findings_congr
    · rfl
    · exact same
    · rfl
  rw [report_eq, report_eq, findings, same]

theorem report_congr {program other : Program} (same : program.unchecked = other.unchecked) :
    (program.check rules registry).2 = (other.check rules registry).2 := by
  rw [← report_unchecked, same, report_unchecked]

end Check

/-- The program after a number of checks. -/
def checkTimes (rules : CheckRules) (registry : Registry) : Nat → Program → Program
  | 0, program => program
  | times + 1, program => checkTimes rules registry times (program.check rules registry).1

variable (rules : CheckRules) (registry : Registry) (program : Program)

theorem unchecked_checkTimes (times : Nat) :
    (program.checkTimes rules registry times).unchecked = program.unchecked := by
  induction times generalizing program with
  | zero => rfl
  | succ times ih => rw [checkTimes, ih, unchecked_check]

/-- Every check adds the same diagnostics once more. -/
theorem diagnostics_checkTimes (times : Nat) :
    (program.checkTimes rules registry times).errors =
        program.errors ++ (List.replicate times (program.check rules registry).2.errors).flatten ∧
      (program.checkTimes rules registry times).warnings =
        program.warnings ++ (List.replicate times (program.check rules registry).2.warnings).flatten := by
  induction times generalizing program with
  | zero => simp [checkTimes]
  | succ times ih =>
    have again := report_congr rules registry (unchecked_check rules registry program)
    obtain ⟨errors, warnings⟩ := ih (program.check rules registry).1
    rw [checkTimes, errors, warnings, again, List.replicate_succ, List.replicate_succ, List.flatten_cons,
      List.flatten_cons, ← List.append_assoc, ← List.append_assoc]
    exact ⟨rfl, rfl⟩

end Program

end StepFlow
