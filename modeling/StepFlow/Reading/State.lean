import StepFlow.Program.Basic
import StepFlow.Reading.Line

/-! # The state of reading

While lines are read, at most one step or one variable is open; conditions go to it. The transitions
that wait for the next step come before both. A state also keeps which line was given which class.
-/

namespace StepFlow

/-- What is open while a program is read. -/
inductive Focus where
  | nothing
  /-- A step; `leaving` tells that its entry conditions are complete. -/
  | step (current : Step) (leaving : Bool)
  | variable (current : Variable)
  deriving Repr, DecidableEq

/-- What was read so far. Steps and variables that are closed stand in their lists, the open one in the
focus. -/
structure ReadState where
  name : String := ""
  block : Option BlockTag := none
  instanceName : String := ""
  steps : List Step := []
  «variables» : List Variable := []
  focus : Focus := .nothing
  pending : List Transition := []
  crossReferences : List CrossReference := []
  comments : List String := []
  errors : List Diagnostic := []
  warnings : List Diagnostic := []
  hasContent : Bool := false
  external : Nat := 0
  unrecognized : Nat := 0
  trace : List ClassifiedLine := []
  deriving Repr

/-- Adds a condition to groups: a plus mark opens a new group after the first one. -/
def addToGroups (condition : Condition) (groups : List ConditionGroup) : List ConditionGroup :=
  match groups.getLast? with
  | none => [⟨.and, [condition]⟩]
  | some last =>
    match condition.connective with
    | .or => groups ++ [⟨.or, [condition]⟩]
    | .and => groups.dropLast ++ [{ last with conditions := last.conditions ++ [condition] }]

namespace ReadState

/-- All steps so far. -/
def allSteps (state : ReadState) : List Step :=
  match state.focus with
  | .step current _ => state.steps ++ [current]
  | _ => state.steps

/-- All variables so far. -/
def allVariables (state : ReadState) : List Variable :=
  match state.focus with
  | .variable current => state.variables ++ [current]
  | _ => state.variables

/-- Closes what is open and opens something else. -/
def turnTo (focus : Focus) (state : ReadState) : ReadState :=
  { state with steps := state.allSteps, «variables» := state.allVariables, focus }

/-- Closes what is open. -/
def close (state : ReadState) : ReadState := state.turnTo .nothing

/-- Closes an open variable. -/
def closeVariable (state : ReadState) : ReadState :=
  match state.focus with
  | .variable _ => state.close
  | _ => state

/-- Adds a diagnostic to the errors or to the warnings. -/
def report (diagnostic : Diagnostic) (state : ReadState) : ReadState :=
  match diagnostic.severity with
  | .error => { state with errors := state.errors ++ [diagnostic] }
  | .warning => { state with warnings := state.warnings ++ [diagnostic] }

/-- Adds diagnostics in order. -/
def reportAll (diagnostics : List Diagnostic) (state : ReadState) : ReadState :=
  diagnostics.foldl (fun state diagnostic => state.report diagnostic) state

/-- After a blank line no variable is open, and a step with entry conditions collects exit
conditions. -/
def blankLine (state : ReadState) : ReadState :=
  match state.focus with
  | .variable _ => state.close
  | .step current leaving =>
    { state with focus := .step current (leaving || !current.entry.isEmpty) }
  | .nothing => state

/-- The program that was read, without metadata and counts. -/
def program (state : ReadState) : Program :=
  { name := state.name, block := state.block, instanceName := state.instanceName
    steps := state.allSteps, «variables» := state.allVariables, crossReferences := state.crossReferences
    comments := state.comments, errors := state.errors, warnings := state.warnings }

end ReadState

end StepFlow
