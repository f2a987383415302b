import StepFlow.Diagnostic
import StepFlow.Number.Ascending
import StepFlow.Program.Condition
import StepFlow.Text.Trim

/-! # Programs

A program is a list of steps in the order of their declarations: rest steps, which stand for the idle
state and own step bit zero, and numbered steps. Beside them stand the variables declared outside of
steps, the references to other programs, the comments, and what was found wrong.
-/

namespace StepFlow

open Schema

/-- A step that the next one continues from, other than the one before it. -/
structure Transition where
  origin : Int
  isOr : Bool := false
  line : Option Int := none
  conditions : List Condition := []
  deriving Repr, DecidableEq

/-- A name that a step sets. -/
structure Assignment where
  target : String
  value : String := ""
  line : Option Int := none
  deriving Repr, DecidableEq

/-- Rest steps have no number of their own. -/
inductive StepKind where
  | rest
  | sequential (number : Nat)
  deriving Repr, DecidableEq

/-- A step of a program. -/
structure Step where
  keyword : String
  description : String := ""
  entry : List ConditionGroup := []
  exit : List ConditionGroup := []
  transitions : List Transition := []
  assignments : List Assignment := []
  timers : List String := []
  markers : List String := []
  faults : List String := []
  line : Option Int := none
  kind : StepKind
  deriving Repr, DecidableEq

/-- A variable declared outside of steps. -/
structure Variable where
  name : String
  value : String := ""
  group : String := "general"
  source : String := ""
  line : Option Int := none
  conditions : List Condition := []
  deriving Repr, DecidableEq

/-- The two types of blocks that a program can be meant for. -/
inductive BlockType where
  | functionBlock
  | function
  deriving Repr, DecidableEq

/-- The block that a program is meant for. -/
structure BlockTag where
  type : BlockType := .functionBlock
  number : Nat
  deriving Repr, DecidableEq

/-- Counts over a program. -/
structure Statistics where
  totalSteps : Int := 0
  restSteps : Int := 0
  sequentialSteps : Int := 0
  totalConditions : Int := 0
  totalVariables : Int := 0
  crossReferences : Int := 0
  externalReferences : Int := 0
  nonSequentialTransitions : Int := 0
  unrecognizedLines : Int := 0
  complexity : Int := 0
  deriving Repr, DecidableEq

/-- A step program. -/
structure Program where
  name : String := ""
  block : Option BlockTag := none
  instanceName : String := ""
  steps : List Step := []
  «variables» : List Variable := []
  crossReferences : List CrossReference := []
  comments : List String := []
  errors : List Diagnostic := []
  warnings : List Diagnostic := []
  statistics : Statistics := {}
  metadata : List (String × Json) := []
  deriving Repr, BEq

namespace StepKind

/-- Whether the kind is that of rest steps. -/
def isRest : StepKind → Bool
  | .rest => true
  | .sequential _ => false

/-- The word for a kind of step. -/
def word : StepKind → String
  | .rest => "rest"
  | .sequential _ => "sequential"

/-- The number of the step bit. -/
def number : StepKind → Nat
  | .rest => 0
  | .sequential n => n

end StepKind

namespace Step

/-- The number of the step bit; rest steps have bit zero. -/
def number (step : Step) : Nat := step.kind.number

/-- Whether the step is a rest step. -/
def isRest (step : Step) : Bool := step.kind.isRest

theorem number_eq_zero_of_isRest {step : Step} (resting : step.isRest = true) : step.number = 0 := by
  cases kind : step.kind with
  | rest => simp only [number, kind, StepKind.number]
  | sequential number => simp [isRest, kind, StepKind.isRest] at resting

/-- The step as it is shown. -/
def label (step : Step) : String :=
  Text.trimmed <| match step.kind with
    | .rest => s!"{step.keyword}: {step.description}"
    | .sequential number => s!"{step.keyword} {number}: {step.description}"

/-- The number of entry and exit conditions. -/
def conditionCount (step : Step) : Nat := countConditions step.entry + countConditions step.exit

/-- The entry conditions, then the exit conditions. -/
def conditions (step : Step) : List Condition :=
  (step.entry ++ step.exit).flatMap ConditionGroup.conditions

end Step

namespace BlockType

/-- The letters of a type of block. -/
def letters : BlockType → String
  | .functionBlock => "FB"
  | .function => "FC"

/-- The type of block that letters name. -/
def ofLetters? (letters : String) : Option BlockType :=
  [functionBlock, function].find? (·.letters == letters)

end BlockType

/-- A block as it is named. -/
def BlockTag.name (tag : BlockTag) : String := s!"{tag.type.letters}{tag.number}"

namespace Program

/-- The first rest step. -/
def restStep? (program : Program) : Option Step := program.steps.find? Step.isRest

/-- The numbered steps, in order. -/
def sequentialSteps (program : Program) : List Step := program.steps.filter fun step => !step.isRest

/-- The numbers of the step bits in use, in ascending order. -/
def stepNumbers (program : Program) : List Int :=
  ascending (program.steps.map fun step => (step.number : Int))

/-- Adds a variable's name to its group, at the end of the groups if it is new there. -/
def addToGroup (group name : String) : List (String × List String) → List (String × List String)
  | [] => [(group, [name])]
  | (other, names) :: rest =>
    if other = group then (other, names ++ [name]) :: rest
    else (other, names) :: addToGroup group name rest

/-- The names of variables by group, groups in the order of their first variables. -/
def variablesByGroup (program : Program) : List (String × List String) :=
  program.variables.foldl (fun groups var => addToGroup var.group var.name groups) []

/-- Every entry and exit condition, with its step. -/
def stepConditions (program : Program) : List (Step × Condition) :=
  program.steps.flatMap fun step => step.conditions.map (step, ·)

/-- Every diagnostic as a line of text, errors first. -/
def diagnosticLines (program : Program) : List String :=
  (program.errors ++ program.warnings).map Diagnostic.render

end Program

end StepFlow
