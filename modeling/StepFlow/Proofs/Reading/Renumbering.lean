import StepFlow.Proofs.Success
import StepFlow.Reading.Program

/-! # Reading under other line numbers

No rule looks at the number of its line: the number only goes into what the line leaves behind. So a line that has
another number, read in a state whose line numbers are changed in the same way, gives the same state with changed line
numbers. Neither do rules look at comments and at the classes of earlier lines, so these may differ as well.
-/

namespace StepFlow

open Text LineRule

/-! ## New line numbers -/

section Renumbering

variable (renumbering : Int → Int)

/-- The reference with another line number. -/
def CrossReference.renumber (reference : CrossReference) : CrossReference :=
  { reference with line := reference.line.map renumbering }

/-- The condition and its reference with other line numbers. -/
def Condition.renumber (condition : Condition) : Condition :=
  { condition with
    crossReference := condition.crossReference.map (CrossReference.renumber renumbering)
    line := condition.line.map renumbering }

/-- The group with other line numbers. -/
def ConditionGroup.renumber (group : ConditionGroup) : ConditionGroup :=
  { group with conditions := group.conditions.map (Condition.renumber renumbering) }

/-- The transition and its conditions with other line numbers. -/
def Transition.renumber (transition : Transition) : Transition :=
  { transition with
    line := transition.line.map renumbering
    conditions := transition.conditions.map (Condition.renumber renumbering) }

/-- The assignment with another line number. -/
def Assignment.renumber (assignment : Assignment) : Assignment :=
  { assignment with line := assignment.line.map renumbering }

/-- The step and all that belongs to it with other line numbers. -/
def Step.renumber (step : Step) : Step :=
  { step with
    entry := step.entry.map (ConditionGroup.renumber renumbering)
    exit := step.exit.map (ConditionGroup.renumber renumbering)
    transitions := step.transitions.map (Transition.renumber renumbering)
    assignments := step.assignments.map (Assignment.renumber renumbering)
    line := step.line.map renumbering }

/-- The variable and its conditions with other line numbers. -/
def Variable.renumber (var : Variable) : Variable :=
  { var with
    line := var.line.map renumbering
    conditions := var.conditions.map (Condition.renumber renumbering) }

/-- The diagnostic with another line number. -/
def Diagnostic.renumber (diagnostic : Diagnostic) : Diagnostic :=
  { diagnostic with line := diagnostic.line.map renumbering }

/-- The program with other line numbers. -/
def Program.renumber (program : Program) : Program :=
  { program with
    steps := program.steps.map (Step.renumber renumbering)
    «variables» := program.variables.map (Variable.renumber renumbering)
    crossReferences := program.crossReferences.map (CrossReference.renumber renumbering)
    errors := program.errors.map (Diagnostic.renumber renumbering)
    warnings := program.warnings.map (Diagnostic.renumber renumbering) }

/-- What is open, with other line numbers. -/
def Focus.renumber : Focus → Focus
  | .nothing => .nothing
  | .step current leaving => .step (current.renumber renumbering) leaving
  | .variable current => .variable (current.renumber renumbering)

/-- The state with other line numbers, without comments, and with other classes of earlier lines. -/
def ReadState.renumber (trace : List ClassifiedLine) (state : ReadState) : ReadState :=
  { state with
    steps := state.steps.map (Step.renumber renumbering)
    «variables» := state.variables.map (Variable.renumber renumbering)
    focus := state.focus.renumber renumbering
    pending := state.pending.map (Transition.renumber renumbering)
    crossReferences := state.crossReferences.map (CrossReference.renumber renumbering)
    errors := state.errors.map (Diagnostic.renumber renumbering)
    warnings := state.warnings.map (Diagnostic.renumber renumbering)
    comments := [], trace }

end Renumbering

variable {renumbering : Int → Int} {trace : List ClassifiedLine} {dialect : Dialect}

/-! ## States -/

namespace ReadState

variable (state : ReadState)

theorem focus_renumber : (state.renumber renumbering trace).focus = state.focus.renumber renumbering := rfl

@[simp] theorem allSteps_renumber :
    (state.renumber renumbering trace).allSteps = state.allSteps.map (Step.renumber renumbering) := by
  unfold allSteps
  cases focused : state.focus <;> simp [renumber, focused, Focus.renumber]

@[simp] theorem allVariables_renumber :
    (state.renumber renumbering trace).allVariables = state.allVariables.map (Variable.renumber renumbering) := by
  unfold allVariables
  cases focused : state.focus <;> simp [renumber, focused, Focus.renumber]

theorem renumber_turnTo (focus : Focus) :
    (state.turnTo focus).renumber renumbering trace =
      (state.renumber renumbering trace).turnTo (focus.renumber renumbering) := by
  simp only [turnTo, allSteps_renumber, allVariables_renumber]
  rfl

theorem renumber_close :
    state.close.renumber renumbering trace = (state.renumber renumbering trace).close :=
  state.renumber_turnTo .nothing

theorem renumber_closeVariable :
    state.closeVariable.renumber renumbering trace = (state.renumber renumbering trace).closeVariable := by
  unfold closeVariable
  cases focused : state.focus <;>
    simp only [renumber_close, focus_renumber, focused, Focus.renumber]

theorem renumber_blankLine :
    state.blankLine.renumber renumbering trace = (state.renumber renumbering trace).blankLine := by
  unfold blankLine
  cases focused : state.focus <;>
    simp only [renumber_close, focus_renumber, focused, Focus.renumber]
  simp [renumber, Focus.renumber, Step.renumber]

theorem renumber_report (diagnostic : Diagnostic) :
    (state.report diagnostic).renumber renumbering trace =
      (state.renumber renumbering trace).report (diagnostic.renumber renumbering) := by
  unfold report
  cases weight : diagnostic.severity <;> simp [renumber, Diagnostic.renumber, weight]

theorem renumber_reportAll (diagnostics : List Diagnostic) :
    (state.reportAll diagnostics).renumber renumbering trace =
      (state.renumber renumbering trace).reportAll (diagnostics.map (Diagnostic.renumber renumbering)) := by
  induction diagnostics generalizing state with
  | nil => rfl
  | cons diagnostic rest ih =>
    simp only [reportAll, List.foldl_cons, List.map_cons, ← renumber_report] at ih ⊢
    exact ih _

end ReadState

/-! ## Conditions -/

namespace ConditionLine

/-- A condition line that was read, with other line numbers. -/
def Extraction.renumber (renumbering : Int → Int) (found : Extraction) : Extraction :=
  { found with
    condition := found.condition.renumber renumbering
    diagnostics := found.diagnostics.map (Diagnostic.renumber renumbering) }

theorem ofNumbers?_renumber (program : String) (numbers : List Int) (description : String) (line : Option Int) :
    CrossReference.ofNumbers? program numbers description (line.map renumbering) =
      (CrossReference.ofNumbers? program numbers description line).map (CrossReference.renumber renumbering) := by
  unfold CrossReference.ofNumbers?
  split <;> rfl

theorem findReference_renumber (line : String) (number : Option Int) (body : List Char) :
    findReference dialect line (number.map renumbering) body =
      (findReference dialect line number body).map fun found =>
        (found.1.map (CrossReference.renumber renumbering), found.2.map (Diagnostic.renumber renumbering)) := by
  unfold findReference
  split
  · rfl
  · dsimp only
    split
    · rfl
    · cases (Pattern.numeral.findAll (Match.kept _ 2)).mapM ReadFault.ofNumeral with
      | error fault => rfl
      | ok numbers =>
        simp only [bind, Except.bind, ofNumbers?_renumber]
        cases CrossReference.ofNumbers? _ _ _ number <;> rfl

theorem ambiguity_renumber (line : String) (condition : Condition) :
    ambiguity line (condition.renumber renumbering) =
      (ambiguity line condition).map (Diagnostic.renumber renumbering) := by
  have forms : (condition.renumber renumbering).forms = condition.forms := by
    cases referred : condition.crossReference <;> simp [Condition.forms, Condition.renumber, referred]
  unfold ambiguity
  rw [forms]
  split <;> rfl

theorem extract_renumber (line : String) (number : Option Int) :
    extract dialect line (number.map renumbering) =
      (extract dialect line number).map (Extraction.renumber renumbering) := by
  unfold extract
  dsimp only
  rw [findReference_renumber]
  cases findReference dialect line number _ with
  | error fault => rfl
  | ok found =>
    simp only [Except.map, bind, Except.bind]
    cases findTime dialect _ with
    | error fault => rfl
    | ok timer =>
      cases findComparison _ with
      | error fault => rfl
      | ok comparison =>
        simp only [pure, Except.pure, Extraction.renumber, List.map_append, ← ambiguity_renumber]
        rfl

end ConditionLine

theorem addToGroups_renumber (condition : Condition) (groups : List ConditionGroup) :
    addToGroups (condition.renumber renumbering) (groups.map (ConditionGroup.renumber renumbering)) =
      (addToGroups condition groups).map (ConditionGroup.renumber renumbering) := by
  unfold addToGroups
  rw [List.getLast?_map]
  cases groups.getLast? with
  | none => rfl
  | some last =>
    cases joined : condition.connective <;>
      simp [Condition.renumber, joined, ConditionGroup.renumber, List.map_dropLast]

theorem Step.isRest_renumber (step : Step) : (step.renumber renumbering).isRest = step.isRest := rfl

theorem Step.renumber_addCondition (leaving : Bool) (condition : Condition) (step : Step) :
    (addCondition leaving condition step).renumber renumbering =
      addCondition leaving (condition.renumber renumbering) (step.renumber renumbering) := by
  unfold addCondition
  rw [isRest_renumber]
  split
  · simp only [Step.renumber, addToGroups_renumber]
  · simp only [Step.renumber, addToGroups_renumber]

theorem Step.renumber_recordNames (words : TableWords) (condition : Condition) (step : Step) :
    (recordNames words condition step).renumber renumbering =
      recordNames words (condition.renumber renumbering) (step.renumber renumbering) := rfl

theorem ReadState.renumber_file (condition : Condition) (state : ReadState) :
    (file dialect condition state).renumber renumbering trace =
      file dialect (condition.renumber renumbering) (state.renumber renumbering trace) := by
  unfold file
  have pending : (state.renumber renumbering trace).pending = state.pending.map (Transition.renumber renumbering) := rfl
  rw [pending, List.getLast?_map]
  cases state.pending.getLast? with
  | some last => simp [renumber, Transition.renumber, List.map_dropLast]
  | none =>
    rw [focus_renumber]
    cases state.focus with
    | nothing => rfl
    | «variable» current => simp [renumber, Focus.renumber, Variable.renumber]
    | step current leaving =>
      simp only [Option.map_none, Focus.renumber, ← Step.renumber_addCondition, ← Step.renumber_recordNames]
      rfl

theorem takesConditions_renumber (state : ReadState) :
    takesConditions (state.renumber renumbering trace) = takesConditions state := by
  unfold takesConditions
  cases focused : state.focus <;> simp [ReadState.renumber, focused, Focus.renumber]

/-! ## Lines -/

section Rules

variable {line : Line} {number : Nat} (state : ReadState)

theorem isIndented_moved : Line.isIndented { line with number } = line.isIndented := rfl

theorem hasContent_renumber : (state.renumber renumbering trace).hasContent = state.hasContent := rfl

theorem name_renumber : (state.renumber renumbering trace).name = state.name := rfl

theorem header_renumber :
    header dialect { line with number } (state.renumber renumbering trace) =
      (header dialect line state).map (Option.map (ReadState.renumber renumbering trace)) := by
  cases closed : state.hasContent || line.isIndented || !state.name.isEmpty with
  | true =>
    simp only [header, isIndented_moved, hasContent_renumber, name_renumber, closed, ↓reduceIte]
    rfl
  | false =>
    simp only [header, isIndented_moved, hasContent_renumber, name_renumber, closed, Bool.false_eq_true, ↓reduceIte]
    cases headerPattern.matchStart? line.content with
    | some found =>
      dsimp only
      cases blockOf (found.kept 2) (found.kept 3) <;> rfl
    | none =>
      dsimp only
      cases isBareName dialect line.content <;> rfl

theorem instanceName_renumber :
    instanceName dialect { line with number } (state.renumber renumbering trace) =
      (instanceName dialect line state).map (Option.map (ReadState.renumber renumbering trace)) := by
  unfold instanceName
  cases (instancePattern dialect).matchStart? line.content <;> rfl

variable (moved : renumbering (line.number : Int) = (number : Int))
include moved

theorem declaration_renumber :
    declaration dialect { line with number } (state.renumber renumbering trace) =
      (declaration dialect line state).map (Option.map (ReadState.renumber renumbering trace)) := by
  unfold declaration
  cases endsStep dialect line.content with
  | true => exact congrArg (fun next => Except.ok (some next)) state.renumber_close.symm
  | false =>
    cases (declarationPattern dialect).matchStart? line.content with
    | none => rfl
    | some found =>
      dsimp only
      cases kindOf dialect (String.ofList (upperChars (found.kept 1))) (found.kept 2) with
      | error fault => rfl
      | ok kind =>
        let step : Step :=
          { keyword := String.ofList (upperChars (found.kept 1)), description := String.ofList (trim (found.kept 3))
            transitions := state.pending, line := some line.number, kind }
        have turned : (state.turnTo (.step step false)).renumber renumbering trace = _ := state.renumber_turnTo _
        simp only [Focus.renumber, Step.renumber, step, Option.map_some, moved] at turned
        exact congrArg (fun next : ReadState => Except.ok (some { next with pending := [] })) turned.symm

theorem transition_renumber :
    transition dialect { line with number } (state.renumber renumbering trace) =
      (transition dialect line state).map (Option.map (ReadState.renumber renumbering trace)) := by
  unfold transition
  cases (transitionPattern dialect).matchStart? line.content with
  | none => rfl
  | some found =>
    dsimp only
    cases ReadFault.ofNumeral (found.kept 2) with
    | error fault => rfl
    | ok origin =>
      have waiting (isOr : Bool) : state.pending.map (Transition.renumber renumbering) ++
          [({ origin, isOr, line := some number } : Transition)] =
            (state.pending ++ [({ origin, isOr, line := some line.number } : Transition)]).map
              (Transition.renumber renumbering) := by
        simp [Transition.renumber, moved]
      refine congrArg (fun next => Except.ok (some next)) ?_
      rw [← ReadState.renumber_closeVariable]
      exact congrArg (fun pending => { state.closeVariable.renumber renumbering trace with pending }) (waiting _)

theorem assignment_renumber :
    assignment { line with number } (state.renumber renumbering trace) =
      (assignment line state).map (Option.map (ReadState.renumber renumbering trace)) := by
  unfold assignment
  rw [isIndented_moved]
  cases line.isIndented with
  | true => rfl
  | false =>
    cases assignmentPattern.matchStart? line.content with
    | none => rfl
    | some found =>
      dsimp only
      cases (String.ofList (trim (found.kept 1))).isEmpty with
      | true =>
        simp only [Bool.false_eq_true, ↓reduceIte, Except.map, Option.map_some, ReadState.renumber_report,
          Diagnostic.renumber, moved]
        rfl
      | false =>
        rw [ReadState.focus_renumber]
        cases state.focus with
        | step current leaving =>
          simp [Except.map, Focus.renumber, ReadState.renumber, Step.renumber, Assignment.renumber, moved]
        | _ =>
          simp only [Bool.false_eq_true, ↓reduceIte, Except.map, Option.map_some, Focus.renumber,
            ReadState.renumber_turnTo, Variable.renumber, moved]
          rfl

theorem condition_renumber :
    condition dialect { line with number } (state.renumber renumbering trace) =
      (condition dialect line state).map (Option.map (ReadState.renumber renumbering trace)) := by
  unfold condition
  rw [takesConditions_renumber, isIndented_moved]
  cases takesConditions state with
  | false => rfl
  | true =>
    cases line.isIndented || (ConditionLine.splitMark dialect line.content).isMarked ||
        ConditionLine.looksLikeCondition dialect line.content with
    | false => rfl
    | true =>
      have extracted : ConditionLine.extract dialect line.text ((some (line.number : Int)).map renumbering) = _ :=
        ConditionLine.extract_renumber ..
      have text : Line.text { line with number } = line.text := rfl
      rw [Option.map_some, moved] at extracted
      simp only [Bool.not_true, Bool.false_eq_true, ↓reduceIte]
      rw [text, extracted]
      cases ConditionLine.extract dialect line.text (some line.number) with
      | error fault => rfl
      | ok found =>
        have references (before : List CrossReference) :
            before.map (CrossReference.renumber renumbering) ++
                (found.condition.renumber renumbering).crossReference.toList =
              (before ++ found.condition.crossReference.toList).map (CrossReference.renumber renumbering) := by
          cases referred : found.condition.crossReference <;> simp [Condition.renumber, referred]
        refine congrArg (fun next => Except.ok (some next)) ?_
        rw [ReadState.renumber_file]
        refine congrArg (file dialect (found.condition.renumber renumbering)) ?_
        simp only [ConditionLine.Extraction.renumber, ← ReadState.renumber_reportAll]
        exact congrArg (fun crossReferences =>
          { (state.reportAll found.diagnostics).renumber renumbering trace with
            crossReferences
            external := (state.reportAll found.diagnostics).external + found.condition.external.toList.length })
          (references _)

theorem unrecognized_renumber :
    unrecognized { line with number } (state.renumber renumbering trace) =
      (unrecognized line state).map (Option.map (ReadState.renumber renumbering trace)) := by
  unfold unrecognized
  simp only [Except.map, Option.map_some, ReadState.renumber_report, Diagnostic.renumber, moved]
  rfl

/-- No rule of a line that is not a comment looks at line numbers, comments or earlier classes. -/
theorem rule_renumber (plain : dialect.isComment line.content = false) (lineClass : LineClass) :
    lineClass.rule dialect { line with number } (state.renumber renumbering trace) =
      (lineClass.rule dialect line state).map (Option.map (ReadState.renumber renumbering trace)) := by
  cases lineClass with
  | comment =>
    simp only [LineClass.rule, comment, plain, Bool.false_eq_true, ↓reduceIte]
    rfl
  | header => simp only [LineClass.rule, header_renumber]
  | instanceName => simp only [LineClass.rule, instanceName_renumber]
  | declaration => simp only [LineClass.rule, declaration_renumber state moved]
  | transition => simp only [LineClass.rule, transition_renumber state moved]
  | assignment => simp only [LineClass.rule, assignment_renumber state moved]
  | condition => simp only [LineClass.rule, condition_renumber state moved]
  | unrecognized => simp only [LineClass.rule, unrecognized_renumber state moved]
  | bare => rfl

theorem readLine_renumber (plain : dialect.isComment line.content = false) (trace : List ClassifiedLine)
    (classes : List LineClass) :
    ∃ trace', readLine dialect { line with number } (state.renumber renumbering trace) classes =
      (readLine dialect line state classes).map (ReadState.renumber renumbering trace') := by
  induction classes with
  | nil => exact ⟨trace, rfl⟩
  | cons lineClass rest ih =>
    simp only [readLine, rule_renumber state moved plain]
    cases lineClass.rule dialect line state with
    | error fault => exact ⟨trace, rfl⟩
    | ok verdict =>
      cases verdict with
      | none => exact ih
      | some next => exact ⟨_, rfl⟩

end Rules

/-! ## Programs -/

theorem ReadState.program_renumber (state : ReadState) :
    (state.renumber renumbering trace).program = { state.program.renumber renumbering with comments := [] } := by
  simp only [program, allSteps_renumber, allVariables_renumber]
  rfl

theorem orphanWarning_renumber (transition : Transition) :
    orphanWarning (transition.renumber renumbering) = (orphanWarning transition).renumber renumbering := rfl

theorem Step.transitions_renumber (step : Step) :
    (step.renumber renumbering).transitions = step.transitions.map (Transition.renumber renumbering) := rfl

theorem Step.conditionCount_renumber (step : Step) :
    (step.renumber renumbering).conditionCount = step.conditionCount := by
  have counted (groups : List ConditionGroup) :
      countConditions (groups.map (ConditionGroup.renumber renumbering)) = countConditions groups := by
    simp only [countConditions, List.map_map, Function.comp_def, ConditionGroup.renumber, List.length_map]
  rw [conditionCount, conditionCount, ← counted step.entry, ← counted step.exit]
  rfl

namespace Program

variable (program : Program)

theorem steps_renumber : (program.renumber renumbering).steps = program.steps.map (Step.renumber renumbering) := rfl

theorem conditionTotal_renumber : (program.renumber renumbering).conditionTotal = program.conditionTotal := by
  simp only [conditionTotal, steps_renumber, List.map_map, Function.comp_def, Step.conditionCount_renumber,
    Step.transitions_renumber, Transition.renumber, List.length_map]

theorem length_sequentialSteps_renumber :
    (program.renumber renumbering).sequentialSteps.length = program.sequentialSteps.length := by
  simp only [sequentialSteps, steps_renumber, List.filter_map, List.length_map, Function.comp_def, Step.isRest_renumber]

/-- Counts do not depend on line numbers. -/
theorem computeStatistics_renumber (counts : ReadingCounts) :
    (program.renumber renumbering).computeStatistics (some counts) = program.computeStatistics (some counts) := by
  have declared : (program.renumber renumbering).variables.length = program.variables.length := List.length_map ..
  have referred : (program.renumber renumbering).crossReferences.length = program.crossReferences.length :=
    List.length_map ..
  simp only [computeStatistics, conditionTotal_renumber, length_sequentialSteps_renumber, declared, referred,
    steps_renumber, List.length_map, List.countP_map, List.map_map, Function.comp_def, Step.transitions_renumber]
  rfl

end Program

/-- Metadata fill what is empty, whatever the line numbers and the comments. -/
theorem Metadata.apply_renumber (metadata : Metadata) (program : Program) :
    metadata.apply { program.renumber renumbering with comments := [] } =
      (metadata.apply program).map fun filled => { filled.renumber renumbering with comments := [] } := by
  have block : (program.renumber renumbering).block = program.block := rfl
  simp only [apply, block]
  cases metadata.fillBlock program.block <;> rfl

end StepFlow
