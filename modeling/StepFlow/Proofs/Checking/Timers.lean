import Mathlib.Data.List.Forall2
import StepFlow.Proofs.Checking.Structure
import StepFlow.Proofs.Program.Conditions

/-! # Times out of range

A condition may say how long a step must have been active. The check of times goes through the entry and exit conditions
of steps only. So the warnings stand one to one for all times out of range exactly in those programs where no transition
and no variable has one.
-/

namespace StepFlow

namespace Condition

/-- The time of a condition is out of range: its unit is none of the allowed ones in any letter case, or its value is
above the greatest one. -/
def OutOfRange (rules : TimerRules) (condition : Condition) : Prop :=
  ∃ timer ∈ condition.timer,
    (∀ unit ∈ rules.units, Text.lower unit ≠ Text.lower timer.unit) ∨ rules.maxValue < timer.value

instance (rules : TimerRules) (condition : Condition) : Decidable (condition.OutOfRange rules) :=
  inferInstanceAs (Decidable (∃ timer ∈ condition.timer, _))

/-- A diagnostic is the warning about the time of a condition. -/
def WarnedBy (rules : TimerRules) (condition : Condition) (diagnostic : Diagnostic) : Prop :=
  ∃ timer ∈ condition.timer,
    diagnostic = (Finding.mk (.timerOutOfRange timer rules.maxValue rules.units) condition.line).diagnostic

end Condition

namespace Program

/-- The warnings about times that a check adds. -/
def timerWarnings (rules : CheckRules) (registry : Registry) (program : Program) : List Diagnostic :=
  (program.check rules registry).2.warnings.filter fun diagnostic => diagnostic.code == .timerOutOfRange

/-- The warnings about times stand one to one for the conditions whose time is out of range. -/
def WarnsOfTimes (rules : CheckRules) (registry : Registry) (program : Program) (conditions : List Condition) : Prop :=
  ∃ listed : List Condition, listed.Perm (conditions.filter (Condition.OutOfRange rules.timer)) ∧
    List.Forall₂ (Condition.WarnedBy rules.timer) listed (program.timerWarnings rules registry)

end Program

namespace Check

variable {rules : TimerRules} {condition : Condition}

theorem timer_of_outOfRange (out : condition.OutOfRange rules) :
    ∃ finding, timer rules condition = [finding] ∧ condition.WarnedBy rules finding.diagnostic := by
  obtain ⟨time, timed, bad⟩ := out
  have timed : condition.timer = some time := timed
  have found : (!rules.allowsUnit time.unit || decide (rules.maxValue < time.value)) = true := by
    simpa [TimerRules.allowsUnit] using bad
  refine ⟨_, ?_, time, timed, rfl⟩
  rw [timer, timed]
  simp only [findIf, found, ↓reduceIte]

theorem timer_of_not_outOfRange (inside : ¬condition.OutOfRange rules) :
    timer rules condition = [] := by
  unfold timer
  split
  · rfl
  · rename_i time timed
    have none : (!rules.allowsUnit time.unit || decide (rules.maxValue < time.value)) = false := by
      rw [Bool.eq_false_iff]
      intro found
      exact inside ⟨time, timed, by simpa [TimerRules.allowsUnit] using found⟩
    simp only [findIf, none, Bool.false_eq_true, ↓reduceIte]

/-- One finding for each time out of range, in order. -/
theorem forall₂_timer (rules : TimerRules) (conditions : List Condition) :
    List.Forall₂ (Condition.WarnedBy rules) (conditions.filter (Condition.OutOfRange rules))
      ((conditions.flatMap (timer rules)).map Finding.diagnostic) := by
  induction conditions with
  | nil => exact .nil
  | cons condition rest ih =>
    by_cases out : condition.OutOfRange rules
    · obtain ⟨finding, found, warned⟩ := timer_of_outOfRange out
      rw [List.filter_cons_of_pos (by simpa using out), List.flatMap_cons, found]
      exact .cons warned ih
    · rw [List.filter_cons_of_neg (by simpa using out), List.flatMap_cons, timer_of_not_outOfRange out]
      exact ih

end Check

namespace Program

variable (rules : CheckRules) (registry : Registry) (program : Program)

theorem timerWarnings_eq :
    program.timerWarnings rules registry =
      (program.entryAndExitConditions.flatMap (Check.timer rules.timer)).map Finding.diagnostic := by
  have light (finding : Finding) (same : finding.cause.code = .timerOutOfRange) :
      finding.cause.severity = .warning := by
    cases cause : finding.cause <;> simp_all [FindingCause.code, FindingCause.severity]
  have steps : program.stepConditions.flatMap (fun pair => Check.timer rules.timer pair.2) =
      program.entryAndExitConditions.flatMap (Check.timer rules.timer) := by
    rw [← map_stepConditions, List.flatMap_map]
  rw [timerWarnings, ofCode_warnings rules registry program light, Check.ofCode_findings_parts]
  simp only [List.mem_cons, reduceCtorEq, List.not_mem_nil, or_self, ↓reduceIte, List.nil_append, List.append_nil]
  rw [← steps]
  rfl

/-- The check warns of each time out of range among the entry and exit conditions, once and in order. It warns of all
times out of range exactly if there is none among the conditions of transitions and variables. -/
theorem check_warns_of_times_iff :
    List.Forall₂ (Condition.WarnedBy rules.timer)
      (program.entryAndExitConditions.filter (Condition.OutOfRange rules.timer))
      (program.timerWarnings rules registry) ∧
    (program.WarnsOfTimes rules registry program.allConditions ↔
      ∀ condition ∈ program.otherConditions, ¬condition.OutOfRange rules.timer) := by
  have reported := Check.forall₂_timer rules.timer program.entryAndExitConditions
  rw [← timerWarnings_eq rules registry] at reported
  refine ⟨reported, ?_⟩
  constructor
  · -- Both lists of conditions are as long as the warnings, so nothing is left for the other places.
    rintro ⟨listed, same, warned⟩
    have length := same.length_eq
    rw [warned.length_eq, ← reported.length_eq, allConditions, List.filter_append, List.length_append] at length
    have empty : program.otherConditions.filter (Condition.OutOfRange rules.timer) = [] :=
      List.length_eq_zero_iff.mp (by omega)
    intro condition member out
    exact absurd (decide_eq_true out) (List.filter_eq_nil_iff.mp empty condition member)
  · intro inside
    refine ⟨_, ?_, reported⟩
    have empty : program.otherConditions.filter (Condition.OutOfRange rules.timer) = [] :=
      List.filter_eq_nil_iff.mpr fun condition member out => inside condition member (of_decide_eq_true out)
    rw [allConditions, List.filter_append, empty, List.append_nil]

/-- A step that continues from another one after more than an hour. -/
def lateProgram : Program :=
  { steps :=
      [{ keyword := "STAP", description := "a", line := some 1, kind := .sequential 1 },
        { keyword := "STAP", description := "b", line := some 4, kind := .sequential 2
          transitions :=
            [{ origin := 1, line := some 2
               conditions := [{ text := "TIJD 5000s", timer := some ⟨5000, "s"⟩, line := some 3 }] }] }] }

/-- The check is silent about a time out of range in a condition of a transition. -/
theorem check_misses_transition_time :
    lateProgram.allConditions.filter (Condition.OutOfRange {}) ≠ [] ∧
      lateProgram.timerWarnings {} [] = [] ∧ ¬lateProgram.WarnsOfTimes {} [] lateProgram.allConditions := by
  have out : (lateProgram.allConditions.filter (Condition.OutOfRange {})).length = 1 := by decide +kernel
  have silent : lateProgram.timerWarnings {} [] = [] := by decide +kernel
  refine ⟨fun none => by simp [none] at out, silent, ?_⟩
  rintro ⟨listed, same, warned⟩
  have length := same.length_eq.trans out
  rw [warned.length_eq, silent] at length
  cases length

end Program

end StepFlow
