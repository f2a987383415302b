import StepFlow.Analysis

/-! # Working on several programs

A session analyzes texts one after another and keeps the results. References are resolved against a
registry that changes only when it is taken anew from the programs so far and from entries given by
hand.
-/

namespace StepFlow

/-- Counts by name, in the order of first appearance. -/
abbrev Tally := List (String × Nat)

/-- Counts one more of a name. -/
def Tally.count (name : String) : Tally → Tally
  | [] => [(name, 1)]
  | (other, count) :: rest =>
    if other = name then (other, count + 1) :: rest else (other, count) :: Tally.count name rest

/-- Counts names in order. -/
def Tally.ofNames (names : List String) : Tally := names.foldl (fun tally name => tally.count name) []

/-- Counts over several programs. -/
structure Summary where
  programs : Nat
  steps : Int
  conditions : Int
  «variables» : Int
  errors : Nat
  warnings : Nat
  /-- The mean score, with two decimal places at most. -/
  averageComplexity : String
  stepTypes : Tally
  variableGroups : Tally
  diagnosticCodes : Tally
  deriving Repr, DecidableEq

/-- The mean of scores; without scores it is zero. -/
def averageScore (scores : List Int) : String :=
  let total := scores.foldl (· + ·) 0
  (if scores.isEmpty then Binary.ofNat 0 else .ofQuotient total.toNat scores.length).twoPlaces

/-- The counts over programs. -/
def summarize (programs : List Program) : Summary :=
  let total (count : Statistics → Int) := (programs.map fun program => count program.statistics).foldl (· + ·) 0
  { programs := programs.length
    steps := total Statistics.totalSteps
    conditions := total Statistics.totalConditions
    «variables» := total Statistics.totalVariables
    errors := sumCounts (programs.map fun program => program.errors.length)
    warnings := sumCounts (programs.map fun program => program.warnings.length)
    averageComplexity := averageScore (programs.map fun program => program.statistics.complexity)
    stepTypes := .ofNames (programs.flatMap fun program => program.steps.map fun step => step.kind.word)
    variableGroups := .ofNames (programs.flatMap fun program => program.variables.map Variable.group)
    diagnosticCodes := .ofNames (programs.flatMap fun program =>
      (program.errors ++ program.warnings).map fun diagnostic => diagnostic.code.word) }

/-- Results and entries so far, and the registry in use. -/
structure Session where
  programs : List Program := []
  entries : List RegistryEntry := []
  registry : Registry := []

namespace Session

/-- Adds the program of an analysis. -/
def addProgram (program : Program) (session : Session) : Session :=
  { session with programs := session.programs ++ [program] }

/-- Adds an entry for the next snapshot. -/
def addEntry (entry : RegistryEntry) (session : Session) : Session :=
  { session with entries := session.entries ++ [entry] }

/-- Takes the registry from the programs and entries so far. -/
def snapshot (session : Session) : Session :=
  { session with
    registry := .ofEntries (session.programs.map RegistryEntry.ofProgram ++ session.entries) }

/-- Forgets programs and entries, but not the registry. -/
def reset (session : Session) : Session := { registry := session.registry }

end Session

end StepFlow
