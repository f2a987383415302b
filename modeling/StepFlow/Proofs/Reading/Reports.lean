import StepFlow.Proofs.Checking.Places
import StepFlow.Proofs.Reading.Comments

/-! # Reports are only collected

No rule looks at what was reported before. So a change of the reports so far, made in the middle of a text, is there
after the text as well and is the only difference, if it leaves the reports on the lines to come as they are.
-/

namespace StepFlow

open Text LineRule

section Changes

variable (change : Diagnostic → Diagnostic)

/-- The state with every report changed. -/
def ReadState.mapReports (state : ReadState) : ReadState :=
  { state with errors := state.errors.map change, warnings := state.warnings.map change }

/-- The program with every report changed. -/
def Program.mapReports (program : Program) : Program :=
  { program with errors := program.errors.map change, warnings := program.warnings.map change }

/-- The reading with every report of its program changed. -/
def Reading.mapReports (reading : Reading) : Reading :=
  { reading with program := reading.program.mapReports change }

end Changes

variable {change : Diagnostic → Diagnostic} {dialect : Dialect}

/-! ## States -/

namespace ReadState

variable (state : ReadState)

theorem focus_mapReports : (state.mapReports change).focus = state.focus := rfl

theorem pending_mapReports : (state.mapReports change).pending = state.pending := rfl

/-- A change that leaves all reports as they are leaves the state as it is. -/
theorem mapReports_eq_self {state : ReadState}
    (same : ∀ diagnostic ∈ state.errors ++ state.warnings, change diagnostic = diagnostic) :
    state.mapReports change = state := by
  obtain ⟨errors, warnings⟩ := List.forall_mem_append.mp same
  rw [mapReports, List.map_congr_left errors, List.map_congr_left warnings, List.map_id', List.map_id']

theorem mapReports_closeVariable :
    state.closeVariable.mapReports change = (state.mapReports change).closeVariable := by
  simp only [closeVariable, focus_mapReports]
  cases state.focus <;> rfl

theorem mapReports_blankLine : state.blankLine.mapReports change = (state.mapReports change).blankLine := by
  simp only [blankLine, focus_mapReports]
  cases state.focus <;> rfl

/-- A change that keeps the weight of a report may as well be made before the report. -/
theorem mapReports_report {diagnostic : Diagnostic} (weight : (change diagnostic).severity = diagnostic.severity) :
    (state.report diagnostic).mapReports change = (state.mapReports change).report (change diagnostic) := by
  simp only [report, weight]
  cases diagnostic.severity <;> simp [mapReports]

theorem mapReports_report_of_same {diagnostic : Diagnostic} (same : change diagnostic = diagnostic) :
    (state.report diagnostic).mapReports change = (state.mapReports change).report diagnostic := by
  rw [state.mapReports_report (by rw [same]), same]

theorem mapReports_reportAll {diagnostics : List Diagnostic}
    (weights : ∀ diagnostic ∈ diagnostics, (change diagnostic).severity = diagnostic.severity) :
    (state.reportAll diagnostics).mapReports change =
      (state.mapReports change).reportAll (diagnostics.map change) := by
  induction diagnostics generalizing state with
  | nil => rfl
  | cons diagnostic rest ih =>
    obtain ⟨weight, later⟩ := List.forall_mem_cons.mp weights
    simp only [reportAll, List.foldl_cons, List.map_cons, ← mapReports_report state weight] at ih ⊢
    exact ih _ later

theorem mapReports_reportAll_of_same {diagnostics : List Diagnostic}
    (same : ∀ diagnostic ∈ diagnostics, change diagnostic = diagnostic) :
    (state.reportAll diagnostics).mapReports change = (state.mapReports change).reportAll diagnostics := by
  rw [mapReports_reportAll state fun diagnostic member => by rw [same diagnostic member], List.map_congr_left same,
    List.map_id']

theorem mapReports_file (condition : Condition) :
    (file dialect condition state).mapReports change = file dialect condition (state.mapReports change) := by
  simp only [file, focus_mapReports, pending_mapReports]
  cases state.pending.getLast? with
  | some last => rfl
  | none => cases state.focus <;> rfl

end ReadState

/-! ## Lines -/

section Rules

variable {line : Line} (state : ReadState)

theorem header_mapReports :
    header dialect line (state.mapReports change) =
      (header dialect line state).map (Option.map (ReadState.mapReports change)) := by
  have same : (state.mapReports change).hasContent = state.hasContent ∧ (state.mapReports change).name = state.name :=
    ⟨rfl, rfl⟩
  simp only [header, same]
  split
  · rfl
  · cases headerPattern.matchStart? line.content with
    | some found =>
      dsimp only
      cases blockOf (found.kept 2) (found.kept 3) <;> rfl
    | none =>
      dsimp only
      cases isBareName dialect line.content <;> rfl

theorem declaration_mapReports :
    declaration dialect line (state.mapReports change) =
      (declaration dialect line state).map (Option.map (ReadState.mapReports change)) := by
  simp only [declaration]
  cases endsStep dialect line.content with
  | true => rfl
  | false =>
    cases (declarationPattern dialect).matchStart? line.content with
    | none => rfl
    | some found =>
      dsimp only
      cases kindOf dialect (String.ofList (upperChars (found.kept 1))) (found.kept 2) <;> rfl

theorem transition_mapReports :
    transition dialect line (state.mapReports change) =
      (transition dialect line state).map (Option.map (ReadState.mapReports change)) := by
  simp only [transition]
  cases (transitionPattern dialect).matchStart? line.content with
  | none => rfl
  | some found =>
    dsimp only
    cases ReadFault.ofNumeral (found.kept 2) with
    | error fault => rfl
    | ok origin =>
      rw [← ReadState.mapReports_closeVariable]
      rfl

variable
  (later : ∀ diagnostic : Diagnostic, diagnostic.line = some (line.number : Int) → change diagnostic = diagnostic)
include later

theorem assignment_mapReports :
    assignment line (state.mapReports change) =
      (assignment line state).map (Option.map (ReadState.mapReports change)) := by
  simp only [assignment]
  cases line.isIndented with
  | true => rfl
  | false =>
    cases assignmentPattern.matchStart? line.content with
    | none => rfl
    | some found =>
      dsimp only
      cases (String.ofList (trim (found.kept 1))).isEmpty with
      | true => exact congrArg (fun next => Except.ok (some next)) (state.mapReports_report_of_same (later _ rfl)).symm
      | false =>
        rw [ReadState.focus_mapReports]
        cases state.focus <;> rfl

theorem condition_mapReports :
    condition dialect line (state.mapReports change) =
      (condition dialect line state).map (Option.map (ReadState.mapReports change)) := by
  have same : takesConditions (state.mapReports change) = takesConditions state := rfl
  simp only [condition, same]
  split
  · rfl
  · split
    · rfl
    · cases extracted : ConditionLine.extract dialect line.text (some line.number) with
      | error fault => rfl
      | ok found =>
        have reports := state.mapReports_reportAll_of_same fun diagnostic member =>
          later diagnostic ((ConditionLine.extract_marks extracted).2.2 diagnostic member).1
        refine congrArg (fun next => Except.ok (some next)) ?_
        rw [ReadState.mapReports_file, ← reports]
        rfl

theorem unrecognized_mapReports :
    unrecognized line (state.mapReports change) =
      (unrecognized line state).map (Option.map (ReadState.mapReports change)) := by
  have counted := ReadState.mapReports_report_of_same { state with unrecognized := state.unrecognized + 1 }
    (later { code := .unrecognizedLine, severity := .warning, message := s!"unrecognized line: {line.text}"
             line := some line.number, text := some (String.ofList line.raw) } rfl)
  exact congrArg (fun next => Except.ok (some next)) counted.symm

/-- No rule looks at the reports so far. -/
theorem rule_mapReports (lineClass : LineClass) :
    lineClass.rule dialect line (state.mapReports change) =
      (lineClass.rule dialect line state).map (Option.map (ReadState.mapReports change)) := by
  cases lineClass with
  | comment =>
    simp only [LineClass.rule, comment]
    split <;> rfl
  | header => simp only [LineClass.rule, header_mapReports]
  | instanceName =>
    simp only [LineClass.rule, instanceName]
    cases (instancePattern dialect).matchStart? line.content <;> rfl
  | declaration => simp only [LineClass.rule, declaration_mapReports]
  | transition => simp only [LineClass.rule, transition_mapReports]
  | assignment => simp only [LineClass.rule, assignment_mapReports state later]
  | condition => simp only [LineClass.rule, condition_mapReports state later]
  | unrecognized => simp only [LineClass.rule, unrecognized_mapReports state later]
  | bare => rfl

theorem readLine_mapReports (classes : List LineClass) :
    readLine dialect line (state.mapReports change) classes =
      (readLine dialect line state classes).map (ReadState.mapReports change) := by
  induction classes with
  | nil => rfl
  | cons lineClass rest ih =>
    simp only [readLine, rule_mapReports state later]
    cases lineClass.rule dialect line state with
    | error fault => rfl
    | ok verdict =>
      cases verdict with
      | none => exact ih
      | some next => rfl

end Rules

/-! ## Texts -/

/-- Lines that come after all changed reports are read alike. -/
theorem readLines_mapReports {number : Nat}
    (later : ∀ (diagnostic : Diagnostic) (line : Nat), number ≤ line → diagnostic.line = some (line : Int) →
      change diagnostic = diagnostic) (classes : List LineClass) (state : ReadState) (rest : List (List Char)) :
    readLines dialect classes number (state.mapReports change) rest =
      (readLines dialect classes number state rest).map (ReadState.mapReports change) := by
  induction rest generalizing number state with
  | nil => rfl
  | cons chars rest ih =>
    have goesOn := @ih (number + 1) fun diagnostic line after => later diagnostic line (Nat.le_of_succ_le after)
    rw [readLines, readLines]
    cases solid : Line.ofChars? number chars with
    | none =>
      rw [← ReadState.mapReports_blankLine]
      exact goesOn state.blankLine
    | some line =>
      have here (diagnostic : Diagnostic) := later diagnostic line.number (number_of_ofChars? solid).ge
      simp only [readLine_mapReports state here]
      cases readLine dialect line state classes with
      | error fault => rfl
      | ok next => exact goesOn next

/-- The outcome of reading, given the state after the last line. -/
def ReadState.conclude (metadata : Metadata) (state : ReadState) : Except StoppedReading Reading :=
  match state.finish metadata with
  | .error fault => .error ⟨fault, state.trace⟩
  | .ok program => .ok ⟨program, state.trace⟩

theorem readProgram_eq_bind (text : String) (metadata : Metadata) :
    readProgram dialect text metadata =
      readLines dialect LineClass.standard 1 {} (lines text.toList) >>= ReadState.conclude metadata := by
  unfold readProgram readWith
  cases readLines dialect LineClass.standard 1 {} (lines text.toList) with
  | error stopped => rfl
  | ok state =>
    simp only [bind, Except.bind, ReadState.conclude, ReadState.finish]
    rw [ReadState.reportAll_eq]
    cases metadata.apply _ <;> rfl

theorem Metadata.apply_mapReports (metadata : Metadata) (program : Program) :
    metadata.apply (program.mapReports change) = (metadata.apply program).map (Program.mapReports change) := by
  have block : (program.mapReports change).block = program.block := rfl
  simp only [apply, block]
  cases metadata.fillBlock program.block <;> rfl

theorem ReadState.conclude_mapReports
    (orphans : ∀ transition, change (orphanWarning transition) = orphanWarning transition) (metadata : Metadata)
    (state : ReadState) :
    (state.mapReports change).conclude metadata = (state.conclude metadata).map (Reading.mapReports change) := by
  have waiting : (state.reportAll (state.pending.map orphanWarning)).mapReports change =
      (state.mapReports change).reportAll (state.pending.map orphanWarning) :=
    state.mapReports_reportAll_of_same (List.forall_mem_map.mpr fun transition _ => orphans transition)
  have program (reported : ReadState) : (reported.mapReports change).program = reported.program.mapReports change := rfl
  simp only [conclude, finish, pending_mapReports, ← waiting, program, Metadata.apply_mapReports]
  cases metadata.apply (state.reportAll (state.pending.map orphanWarning)).program <;> rfl

end StepFlow
