import StepFlow.Proofs.Checking.Structure
import Mathlib.Data.List.Perm.Basic

/-! # The numbers of a program without errors

The check of step numbers has nothing to report when every step has a bit of its own: there is at most one
rest step, which owns bit zero, and the numbered steps have different numbers, none of them zero. All that
this check can report are errors, so a checked program without errors has one step for each of its bits.
-/

namespace StepFlow.Program

/-- Positive numbers that differ and one rest step at most leave every step a bit of its own. -/
theorem nodup_number {program : Program} (positive : ∀ step ∈ program.sequentialSteps, 0 < step.number)
    (distinct : (program.sequentialSteps.map Step.number).Nodup)
    (oneRest : (program.steps.filter Step.isRest).length ≤ 1) : (program.steps.map Step.number).Nodup := by
  have split := (List.filter_append_perm Step.isRest program.steps).map Step.number
  rw [List.map_append] at split
  have rests : ((program.steps.filter Step.isRest).map Step.number).Nodup := by
    generalize program.steps.filter Step.isRest = rests at oneRest
    rcases rests with _ | ⟨first, _ | ⟨second, others⟩⟩
    · exact .nil
    · exact List.nodup_singleton _
    · simp at oneRest
  refine split.nodup_iff.mp (rests.append distinct ?_)
  intro number resting numbered
  obtain ⟨first, isRest, rfl⟩ := List.mem_map.mp resting
  obtain ⟨step, sequential, same⟩ := List.mem_map.mp numbered
  rw [Step.number_eq_zero_of_isRest (List.mem_filter.mp isRest).2] at same
  exact absurd same (Nat.pos_iff_ne_zero.mp (positive step sequential))

/-- A checked program without errors has no two steps with the same bit. -/
theorem nodup_number_of_check {rules : CheckRules} {registry : Registry} {program : Program}
    (clean : (program.check rules registry).1.errors = []) : (program.steps.map Step.number).Nodup := by
  have silent : (program.check rules registry).2.errors = [] := (List.append_eq_nil_iff.mp clean).2
  have clashes := filter_duplicateStep rules registry program
  have rests := filter_duplicateRest rules registry program
  rw [silent, List.filter_nil, eq_comm, List.map_eq_nil_iff] at clashes rests
  rw [clashingSteps_eq, Check.clashesAfter_eq_nil_iff] at clashes
  obtain ⟨fresh, distinct⟩ := clashes
  exact nodup_number (fun step member => (fresh step member).1) distinct (List.drop_eq_nil_iff.mp rests)

/-- Where no bit is used twice, the first rest step and the numbered steps are all steps. -/
theorem perm_of_nodup_number {program : Program} (distinct : (program.steps.map Step.number).Nodup) :
    (program.restStep?.toList ++ program.sequentialSteps).Perm program.steps := by
  have oneRest : program.restStep?.toList = program.steps.filter Step.isRest := by
    have distinctRests : ((program.steps.filter Step.isRest).map Step.number).Nodup :=
      (List.filter_sublist.map Step.number).nodup distinct
    have resting : ∀ step ∈ program.steps.filter Step.isRest, step.number = 0 := fun step member =>
      Step.number_eq_zero_of_isRest (List.mem_filter.mp member).2
    rw [restStep?, ← List.head?_filter]
    generalize program.steps.filter Step.isRest = rests at distinctRests resting
    match rests with
    | [] | [_] => rfl
    | first :: second :: _ => simp_all
  rw [oneRest]
  exact List.filter_append_perm Step.isRest program.steps

end StepFlow.Program
