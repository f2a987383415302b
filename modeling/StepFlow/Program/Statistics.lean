import StepFlow.Program.Basic

/-! # Counts over a program

The score of a program weighs its steps, conditions, variables and outside names. It is computed in
binary floating point from left to right and rounded to an integer, a half going to the even one.
-/

namespace StepFlow

/-- What only the reading of a text can count. -/
structure ReadingCounts where
  external : Nat
  unrecognized : Nat
  deriving Repr, DecidableEq

/-- The weight of a variable, a little less than six fifths. -/
def variableWeight : Binary := ⟨5404319552844595, -52⟩

/-- The weight of a condition, three halves. -/
def conditionWeight : Binary := .ofQuotient 3 2

/-- The score of a program with the given counts. -/
def complexityScore (steps conditions declared external : Nat) : Nat :=
  let total := (Binary.ofNat (steps * 2)).add ((Binary.ofNat conditions).mul conditionWeight)
  let total := total.add ((Binary.ofNat declared).mul variableWeight)
  (total.add (.ofNat (external * 3))).round

namespace Program

/-- The number of conditions of steps and of their transitions. -/
def conditionTotal (program : Program) : Nat :=
  sumCounts (program.steps.map Step.conditionCount) +
    sumCounts (program.steps.map fun step =>
      sumCounts (step.transitions.map fun transition => transition.conditions.length))

/-- The number of entry and exit conditions that name something outside. -/
def externalTotal (program : Program) : Nat :=
  program.stepConditions.countP fun (_, condition) => condition.external.isSome

/-- The counts over a program, with those of its reading or, without them, from the program alone. -/
def computeStatistics (program : Program) (reading : Option ReadingCounts) : Statistics :=
  let external : Nat := match reading with
    | some counts => counts.external
    | none => program.externalTotal
  let unrecognized : Nat := match reading with
    | some counts => counts.unrecognized
    | none => 0
  { totalSteps := program.steps.length
    restSteps := program.steps.countP Step.isRest
    sequentialSteps := program.sequentialSteps.length
    totalConditions := program.conditionTotal
    totalVariables := program.variables.length
    crossReferences := program.crossReferences.length
    externalReferences := external
    nonSequentialTransitions := sumCounts (program.steps.map fun step => step.transitions.length)
    unrecognizedLines := unrecognized
    complexity :=
      complexityScore program.steps.length program.conditionTotal program.variables.length external }

end Program

end StepFlow
