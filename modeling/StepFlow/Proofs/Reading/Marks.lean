import StepFlow.Proofs.Reading.Rules
import Mathlib.Data.List.Perm.Basic

/-! # The lines that a program keeps

Whatever a line leaves in a program carries the number of that line: a step, a transition, an assignment, a
condition, a variable, or a diagnostic that stands for the line. The marks of a program are all these numbers
together. Accepting a line adds its own number to the marks, unless the line only names or comments something
or ends a step; nothing that was there is lost, wherever the reader moves it.
-/

namespace StepFlow

open LineRule

/-- The line of a transition and those of its conditions. -/
def Transition.marks (transition : Transition) : List (Option Int) :=
  transition.line :: transition.conditions.map Condition.line

/-- The line of a step and those of all that belongs to it. -/
def Step.marks (step : Step) : List (Option Int) :=
  step.line :: (step.transitions.flatMap Transition.marks ++ step.assignments.map Assignment.line ++
    step.conditions.map Condition.line)

/-- The line of a variable and those of its conditions. -/
def Variable.marks (var : Variable) : List (Option Int) := var.line :: var.conditions.map Condition.line

namespace Diagnostic

/-- Whether an error stands for an assignment without a name. -/
def isNameless (diagnostic : Diagnostic) : Bool :=
  diagnostic.code == .emptyIdentifier && diagnostic.message == "assignment without a name"

/-- Whether a warning stands for a transition that no step took, or for a line that no rule accepted. -/
def isLeftOver (diagnostic : Diagnostic) : Bool :=
  diagnostic.code == .orphanTransition || diagnostic.code == .unrecognizedLine

end Diagnostic

/-- The lines of all that lines have left in a program. -/
def Program.marks (program : Program) : List (Option Int) :=
  program.steps.flatMap Step.marks ++ program.variables.flatMap Variable.marks ++
    (program.errors.filter Diagnostic.isNameless).map Diagnostic.line ++
    (program.warnings.filter Diagnostic.isLeftOver).map Diagnostic.line

namespace ReadState

/-- The marks of the program so far and those of the transitions that wait for a step. -/
def marks (state : ReadState) : List (Option Int) :=
  state.program.marks ++ state.pending.flatMap Transition.marks

theorem count_marks (mark : Option Int) (state : ReadState) :
    state.marks.count mark =
      (state.allSteps.flatMap Step.marks).count mark + (state.allVariables.flatMap Variable.marks).count mark +
        ((state.errors.filter Diagnostic.isNameless).map Diagnostic.line).count mark +
        ((state.warnings.filter Diagnostic.isLeftOver).map Diagnostic.line).count mark +
        (state.pending.flatMap Transition.marks).count mark := by
  simp only [marks, Program.marks, program, List.count_append]

theorem program_withPending (state : ReadState) (pending : List Transition) :
    { state with pending }.program = state.program := rfl

theorem program_close (state : ReadState) : state.close.program = state.program := rfl

/-- Closing a variable changes what is open and what is closed, and nothing else. -/
theorem closeVariable_eq (state : ReadState) :
    ∃ steps declared focus, state.closeVariable = { state with steps, «variables» := declared, focus } := by
  unfold closeVariable
  split
  · exact ⟨_, _, _, rfl⟩
  · exact ⟨state.steps, state.variables, state.focus, rfl⟩

/-- So does a blank line. -/
theorem blankLine_eq (state : ReadState) :
    ∃ steps declared focus, state.blankLine = { state with steps, «variables» := declared, focus } := by
  unfold blankLine
  split
  · exact ⟨_, _, _, rfl⟩
  · exact ⟨state.steps, state.variables, _, rfl⟩
  · exact ⟨state.steps, state.variables, state.focus, rfl⟩

theorem program_closeVariable (state : ReadState) : state.closeVariable.program = state.program := by
  unfold closeVariable
  split
  · exact state.program_close
  · rfl

theorem program_blankLine (state : ReadState) : state.blankLine.program = state.program := by
  unfold blankLine
  split
  · exact state.program_close
  · simp only [program, allSteps, allVariables, ‹state.focus = _›]
  · rfl

end ReadState

/-- A condition comes after all conditions of the groups that it is added to. -/
theorem conditions_addToGroups (condition : Condition) (groups : List ConditionGroup) :
    (addToGroups condition groups).flatMap ConditionGroup.conditions =
      groups.flatMap ConditionGroup.conditions ++ [condition] := by
  unfold addToGroups
  cases last : groups.getLast? with
  | none => simp [List.getLast?_eq_none_iff.mp last]
  | some group =>
    obtain ⟨before, rfl⟩ := List.getLast?_eq_some_iff.mp last
    cases condition.connective <;> simp

theorem Step.count_marks_addCondition (words : TableWords) (leaving : Bool) (condition : Condition) (step : Step)
    (mark : Option Int) :
    (recordNames words condition (addCondition leaving condition step)).marks.count mark =
      step.marks.count mark + [condition.line].count mark := by
  have conditions : ∀ entry exit : List ConditionGroup,
      ((entry ++ exit).flatMap ConditionGroup.conditions).map Condition.line =
        (entry.flatMap ConditionGroup.conditions).map Condition.line ++
          (exit.flatMap ConditionGroup.conditions).map Condition.line := by
    intro entry exit
    rw [List.flatMap_append, List.map_append]
  unfold addCondition
  split <;>
  · simp only [recordNames, Step.marks, Step.conditions, conditions, conditions_addToGroups, List.map_append,
      List.map_cons, List.map_nil, List.count_cons, List.count_append, List.count_nil]
    omega

namespace ConditionLine

/-- A reference has the number of its line, and so has the report that its name is missing. -/
theorem of_findReference {dialect : Dialect} {line : String} {number : Option Int} {body : List Char}
    {reference : Option CrossReference} {reported : List Diagnostic}
    (ran : findReference dialect line number body = .ok (reference, reported)) :
    (∀ found ∈ reference, found.line = number) ∧
      ∀ diagnostic ∈ reported,
        diagnostic.line = number ∧ diagnostic.isNameless = false ∧ diagnostic.isLeftOver = false := by
  unfold findReference at ran
  split at ran
  · cases ran
    exact ⟨nofun, nofun⟩
  · dsimp only at ran
    split at ran
    · cases ran
      exact ⟨nofun, List.forall_mem_singleton.mpr ⟨rfl, rfl, rfl⟩⟩
    · obtain ⟨numbers, _, ran⟩ := bind_eq_ok ran
      split at ran
      · cases ran
        rename_i made
        unfold CrossReference.ofNumbers? at made
        split at made
        · cases made
          simp
        · cases made
      · cases ran

theorem of_mem_ambiguity {line : String} {condition : Condition} {diagnostic : Diagnostic}
    (member : diagnostic ∈ ambiguity line condition) :
    diagnostic.line = condition.line ∧ diagnostic.isNameless = false ∧ diagnostic.isLeftOver = false := by
  unfold ambiguity at member
  split at member
  · rw [List.mem_singleton.mp member]
    exact ⟨rfl, rfl, rfl⟩
  · exact absurd member List.not_mem_nil

/-- All that a condition line leaves carries the number of the line, and the reports on it stand for no line. -/
theorem extract_marks {dialect : Dialect} {line : String} {number : Option Int} {found : Extraction}
    (ran : extract dialect line number = .ok found) :
    found.condition.line = number ∧ (∀ reference ∈ found.condition.crossReference, reference.line = number) ∧
      ∀ diagnostic ∈ found.diagnostics,
        diagnostic.line = number ∧ diagnostic.isNameless = false ∧ diagnostic.isLeftOver = false := by
  obtain ⟨⟨reference, reported⟩, referred, ran⟩ := bind_eq_ok ran
  obtain ⟨timer, _, ran⟩ := bind_eq_ok ran
  obtain ⟨comparison, _, ran⟩ := bind_eq_ok ran
  cases ran
  obtain ⟨placed, reports⟩ := of_findReference referred
  refine ⟨rfl, placed, ?_⟩
  intro diagnostic member
  rcases List.mem_append.mp member with referring | ambiguous
  · exact reports diagnostic referring
  · exact of_mem_ambiguity ambiguous

end ConditionLine

namespace ReadState

/-- Reports that stand for no line add no marks. -/
theorem marks_reportAll {diagnostics : List Diagnostic} {state : ReadState}
    (none : ∀ diagnostic ∈ diagnostics, diagnostic.isNameless = false ∧ diagnostic.isLeftOver = false) :
    (state.reportAll diagnostics).marks = state.marks := by
  have errors : (diagnostics.filter (·.severity == .error)).filter Diagnostic.isNameless = [] := by
    apply List.filter_eq_nil_iff.mpr
    intro diagnostic member
    rw [(none diagnostic (List.mem_filter.mp member).1).1]
    decide
  have warnings : (diagnostics.filter (·.severity == .warning)).filter Diagnostic.isLeftOver = [] := by
    apply List.filter_eq_nil_iff.mpr
    intro diagnostic member
    rw [(none diagnostic (List.mem_filter.mp member).1).2]
    decide
  rw [reportAll_eq]
  simp only [marks, Program.marks, program, allSteps, allVariables, List.filter_append, errors, warnings,
    List.append_nil]

/-- A condition is kept where something can take it. -/
theorem count_marks_file (dialect : Dialect) {condition : Condition} {state : ReadState}
    (taken : takesConditions state = true) (mark : Option Int) :
    (file dialect condition state).marks.count mark = state.marks.count mark + [condition.line].count mark := by
  rw [count_marks, count_marks]
  unfold file
  cases last : state.pending.getLast? with
  | some transition =>
    obtain ⟨before, waiting⟩ := List.getLast?_eq_some_iff.mp last
    simp only [waiting, List.dropLast_concat, List.flatMap_append, List.flatMap_cons, List.flatMap_nil,
      Transition.marks, List.map_append, List.map_cons, List.map_nil, List.count_append, List.count_cons,
      List.count_nil, allSteps, allVariables]
    omega
  | none =>
    rcases focused : state.focus with _ | ⟨current, leaving⟩ | current
    · rw [List.getLast?_eq_none_iff] at last
      simp [takesConditions, focused, last] at taken
    · have added := Step.count_marks_addCondition dialect.tables leaving condition current mark
      simp only [allSteps, allVariables, focused, List.flatMap_append, List.flatMap_cons, List.flatMap_nil,
        List.append_nil, List.count_append, added]
      omega
    · simp only [allSteps, allVariables, focused, List.flatMap_append, List.flatMap_cons, List.flatMap_nil,
        List.append_nil, Variable.marks, List.map_append, List.map_cons, List.map_nil, List.count_append,
        List.count_cons, List.count_nil]
      omega

end ReadState

/-- Whether a line leaves something with its number in the program: names, comments and ends of steps do not. -/
def ClassifiedLine.isKept (entry : ClassifiedLine) : Bool :=
  match entry.lineClass with
  | .comment | .header | .instanceName => false
  | .declaration => entry.declared.isSome
  | _ => true

/-- Accepting a line adds its own mark and nothing else. -/
theorem Accepted.count_marks {dialect : Dialect} {line : Line} {state next : ReadState} {lineClass : LineClass}
    (accepted : Accepted dialect line state lineClass next) (mark : Option Int) :
    next.marks.count mark = state.marks.count mark +
      (if ClassifiedLine.isKept ⟨line.number, lineClass, declaredLabel lineClass line next⟩
        then [some (line.number : Int)] else []).count mark := by
  cases accepted with
  | comment => rfl
  | header => rfl
  | instanceName => rfl
  | ending => rfl
  | step goesOn matched known =>
    simp only [ReadState.count_marks]
    simp [ReadState.allSteps, ReadState.allVariables, ReadState.turnTo, Step.marks, Step.conditions,
      ClassifiedLine.isKept, declaredLabel, List.count_cons]
    omega
  | transition matched known =>
    simp only [ReadState.marks, ReadState.program_withPending, ReadState.program_closeVariable,
      List.flatMap_append, List.count_append]
    simp [Transition.marks, ClassifiedLine.isKept, Nat.add_assoc]
  | unnamed =>
    simp only [ReadState.count_marks]
    simp [ReadState.report, ReadState.allSteps, ReadState.allVariables, Diagnostic.isNameless, ClassifiedLine.isKept]
    omega
  | setting unindented matched named focused =>
    simp only [ReadState.count_marks]
    simp [ReadState.allSteps, ReadState.allVariables, focused, Step.marks, Step.conditions, ClassifiedLine.isKept,
      List.count_cons]
    omega
  | declaring =>
    simp only [ReadState.count_marks]
    simp [ReadState.allSteps, ReadState.allVariables, ReadState.turnTo, Variable.marks, ClassifiedLine.isKept]
    omega
  | condition taken signed extracted =>
    obtain ⟨number, -, reports⟩ := ConditionLine.extract_marks extracted
    have none := fun diagnostic member => (reports diagnostic member).2
    have reported : (state.reportAll _).marks = state.marks := ReadState.marks_reportAll none
    rw [ReadState.count_marks_file dialect (by simpa [takesConditions, ReadState.reportAll_eq] using taken), number]
    exact congrArg (fun marks => marks.count mark + [some (line.number : Int)].count mark) reported
  | unrecognized =>
    simp only [ReadState.count_marks]
    simp [ReadState.report, ReadState.allSteps, ReadState.allVariables, Diagnostic.isLeftOver, ClassifiedLine.isKept]
    omega

end StepFlow
