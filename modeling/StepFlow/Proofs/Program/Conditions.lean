import StepFlow.Program.Statistics

/-! # The places of conditions

Conditions stand in four places: they are entry or exit conditions of a step, conditions of a transition that a step has
taken, or conditions of a variable. A walk over the conditions of steps meets those of the first two places only.
-/

namespace StepFlow.Program

/-- The entry and exit conditions of all steps. -/
def entryAndExitConditions (program : Program) : List Condition := program.steps.flatMap Step.conditions

/-- The conditions of transitions, then those of variables. -/
def otherConditions (program : Program) : List Condition :=
  (program.steps.flatMap fun step => step.transitions.flatMap Transition.conditions) ++
    program.variables.flatMap Variable.conditions

/-- All conditions of a program. -/
def allConditions (program : Program) : List Condition := program.entryAndExitConditions ++ program.otherConditions

/-- The walk over the conditions of steps. -/
theorem map_stepConditions (program : Program) :
    program.stepConditions.map Prod.snd = program.entryAndExitConditions := by
  simp only [stepConditions, entryAndExitConditions, List.map_flatMap, List.map_map, Function.comp_def, List.map_id']

theorem externalTotal_eq (program : Program) :
    program.externalTotal = program.entryAndExitConditions.countP fun condition => condition.external.isSome := by
  rw [← map_stepConditions, List.countP_map]
  rfl

end StepFlow.Program
