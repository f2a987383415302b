import StepFlow.Proofs.Success
import StepFlow.Reading.Program

/-! # What reading can do

The rule of a class either leaves a line alone or accepts it in one of a few ways. Each way is a case of
`Accepted`, with everything that the rule has made sure of and the whole state after the line. Facts about
the reader follow from these cases, and no proof has to open a rule again. After the last line only reports
on transitions and the metadata are added.
-/

namespace StepFlow

open Text LineRule

/-- The ways in which the rule of a class accepts a line, with the state after it. -/
inductive Accepted (dialect : Dialect) (line : Line) (state : ReadState) : LineClass → ReadState → Prop where
  | comment (marked : dialect.isComment line.content = true) (note : String) :
    Accepted dialect line state .comment { state with comments := state.comments ++ [note] }
  | header (first : state.hasContent = false) (unindented : line.isIndented = false)
      (unnamed : state.name.isEmpty = true) (name : String) (block : Option BlockTag) :
    Accepted dialect line state .header { state with name, block }
  | instanceName {found : Match} (matched : (instancePattern dialect).matchStart? line.content = some found) :
    Accepted dialect line state .instanceName { state with instanceName := String.ofList (trim (found.kept 1)) }
  | ending (ends : endsStep dialect line.content = true) : Accepted dialect line state .declaration state.close
  | step (goesOn : endsStep dialect line.content = false) {found : Match} {kind : StepKind}
      (matched : (declarationPattern dialect).matchStart? line.content = some found)
      (known : kindOf dialect (String.ofList (upperChars (found.kept 1))) (found.kept 2) = .ok kind) :
    Accepted dialect line state .declaration
      { state.turnTo (.step
          { keyword := String.ofList (upperChars (found.kept 1))
            description := String.ofList (trim (found.kept 3))
            transitions := state.pending, line := some line.number, kind } false) with pending := [] }
  | transition {found : Match} {origin : Nat}
      (matched : (transitionPattern dialect).matchStart? line.content = some found)
      (known : ReadFault.ofNumeral (found.kept 2) = .ok origin) :
    Accepted dialect line state .transition
      { state.closeVariable with
        pending := state.pending ++
          [{ origin, isOr := !(found.kept 1).isEmpty, line := some line.number }] }
  | unnamed (unindented : line.isIndented = false) {found : Match}
      (matched : assignmentPattern.matchStart? line.content = some found)
      (nameless : (String.ofList (trim (found.kept 1))).isEmpty = true) :
    Accepted dialect line state .assignment
      (state.report
        { code := .emptyIdentifier, severity := .error, message := "assignment without a name"
          line := some line.number, text := some line.text })
  | setting (unindented : line.isIndented = false) {found : Match} {current : Step} {leaving : Bool}
      (matched : assignmentPattern.matchStart? line.content = some found)
      (named : (String.ofList (trim (found.kept 1))).isEmpty = false)
      (focused : state.focus = .step current leaving) :
    Accepted dialect line state .assignment
      { state with
        focus := .step
          { current with
            assignments := current.assignments ++
              [{ target := String.ofList (trim (found.kept 1)), value := String.ofList (trim (found.kept 2))
                 line := some line.number }] } leaving }
  | declaring (unindented : line.isIndented = false) {found : Match}
      (matched : assignmentPattern.matchStart? line.content = some found)
      (named : (String.ofList (trim (found.kept 1))).isEmpty = false)
      (noStep : ∀ current leaving, state.focus ≠ .step current leaving) :
    Accepted dialect line state .assignment
      (state.turnTo (.variable
        { name := String.ofList (trim (found.kept 1)), value := String.ofList (trim (found.kept 2))
          source := line.text, line := some line.number }))
  | condition (taken : takesConditions state = true)
      (signed : (line.isIndented || (ConditionLine.splitMark dialect line.content).isMarked ||
        ConditionLine.looksLikeCondition dialect line.content) = true)
      {found : ConditionLine.Extraction}
      (extracted : ConditionLine.extract dialect line.text (some line.number) = .ok found) :
    Accepted dialect line state .condition
      (file dialect found.condition
        { state.reportAll found.diagnostics with
          crossReferences :=
            (state.reportAll found.diagnostics).crossReferences ++ found.condition.crossReference.toList
          external :=
            (state.reportAll found.diagnostics).external + found.condition.external.toList.length })
  | unrecognized :
    Accepted dialect line state .unrecognized
      ({ state with unrecognized := state.unrecognized + 1 }.report
        { code := .unrecognizedLine, severity := .warning, message := s!"unrecognized line: {line.text}"
          line := some line.number, text := some (String.ofList line.raw) })

namespace LineRule

variable {dialect : Dialect} {line : Line} {state next : ReadState}

theorem accepted_of_comment (ran : comment dialect line state = .ok (some next)) :
    Accepted dialect line state .comment next := by
  unfold comment at ran
  split at ran
  · cases ran
    exact .comment ‹_› _
  · cases ran

theorem accepted_of_header (ran : header dialect line state = .ok (some next)) :
    Accepted dialect line state .header next := by
  unfold header at ran
  split at ran
  · cases ran
  · rename_i open_
    simp only [Bool.or_eq_true, Bool.not_eq_true', not_or, Bool.not_eq_true, Bool.not_eq_false] at open_
    obtain ⟨⟨first, unindented⟩, unnamed⟩ := open_
    split at ran
    · obtain ⟨block, _, ⟨⟩⟩ := bind_eq_ok ran
      exact .header first unindented unnamed _ _
    · split at ran
      · cases ran
        exact .header first unindented unnamed _ _
      · cases ran

theorem accepted_of_instanceName (ran : instanceName dialect line state = .ok (some next)) :
    Accepted dialect line state .instanceName next := by
  unfold instanceName at ran
  split at ran
  · cases ran
    exact .instanceName ‹_›
  · cases ran

theorem accepted_of_declaration (ran : declaration dialect line state = .ok (some next)) :
    Accepted dialect line state .declaration next := by
  unfold declaration at ran
  split at ran
  · cases ran
    exact .ending ‹_›
  · rename_i goesOn
    cases matched : (declarationPattern dialect).matchStart? line.content with
    | none =>
      simp only [matched] at ran
      cases ran
    | some found =>
      simp only [matched] at ran
      obtain ⟨kind, known, ran⟩ := bind_eq_ok ran
      cases ran
      exact .step (Bool.eq_false_iff.mpr goesOn) matched known

theorem accepted_of_transition (ran : transition dialect line state = .ok (some next)) :
    Accepted dialect line state .transition next := by
  unfold transition at ran
  cases matched : (transitionPattern dialect).matchStart? line.content with
  | none =>
    simp only [matched] at ran
    cases ran
  | some found =>
    simp only [matched] at ran
    obtain ⟨origin, known, ran⟩ := bind_eq_ok ran
    cases ran
    exact .transition matched known

theorem accepted_of_assignment (ran : assignment line state = .ok (some next)) :
    Accepted dialect line state .assignment next := by
  unfold assignment at ran
  split at ran
  · cases ran
  · rename_i indented
    have unindented := Bool.eq_false_iff.mpr indented
    cases matched : assignmentPattern.matchStart? line.content with
    | none =>
      simp only [matched] at ran
      cases ran
    | some found =>
      simp only [matched] at ran
      split at ran
      · cases ran
        exact .unnamed unindented matched ‹_›
      · rename_i nameless
        have named := Bool.eq_false_iff.mpr nameless
        rcases focused : state.focus with _ | ⟨current, leaving⟩ | current
        all_goals
          simp only [focused] at ran
          cases ran
        · exact .declaring unindented matched named (by simp [focused])
        · exact .setting unindented matched named focused
        · exact .declaring unindented matched named (by simp [focused])

theorem accepted_of_condition (ran : condition dialect line state = .ok (some next)) :
    Accepted dialect line state .condition next := by
  unfold condition at ran
  split at ran
  · cases ran
  · rename_i closed
    split at ran
    · cases ran
    · rename_i unsigned
      obtain ⟨found, extracted, ran⟩ := bind_eq_ok ran
      cases ran
      have taken := Bool.not_inj (y := true) (Bool.eq_false_iff.mpr closed)
      have signed := Bool.not_inj (y := true) (Bool.eq_false_iff.mpr unsigned)
      exact .condition taken signed extracted

end LineRule

/-- A rule accepts a line in one of the ways of its class. -/
theorem accepted_of_rule {dialect : Dialect} {line : Line} {state next : ReadState} {lineClass : LineClass}
    (ran : lineClass.rule dialect line state = .ok (some next)) : Accepted dialect line state lineClass next := by
  cases lineClass with
  | comment => exact accepted_of_comment ran
  | header => exact accepted_of_header ran
  | instanceName => exact accepted_of_instanceName ran
  | declaration => exact accepted_of_declaration ran
  | transition => exact accepted_of_transition ran
  | assignment => exact accepted_of_assignment ran
  | condition => exact accepted_of_condition ran
  | unrecognized =>
    cases ran
    exact .unrecognized
  | bare => cases ran

/-- A line that was read was accepted by the first class whose rule does not leave it alone, or was left alone
by all of them. -/
theorem readLine_eq_ok {dialect : Dialect} {line : Line} {state next : ReadState} {classes : List LineClass}
    (read : readLine dialect line state classes = .ok next) :
    ((∀ lineClass ∈ classes, lineClass.rule dialect line state = .ok none) ∧ next = state) ∨
      ∃ before lineClass after reached, classes = before ++ lineClass :: after ∧
        (∀ other ∈ before, other.rule dialect line state = .ok none) ∧
        Accepted dialect line state lineClass reached ∧
        next = { reached with
          hasContent := reached.hasContent || lineClass.isContent
          trace := reached.trace ++ [⟨line.number, lineClass, declaredLabel lineClass line reached⟩] } := by
  induction classes with
  | nil =>
    cases read
    exact .inl ⟨nofun, rfl⟩
  | cons lineClass rest ih =>
    obtain ⟨verdict, ran, read⟩ := bind_eq_ok read
    cases verdict with
    | some reached =>
      cases read
      exact .inr ⟨[], lineClass, rest, reached, rfl, nofun, accepted_of_rule ran, rfl⟩
    | none =>
      rcases ih read with ⟨left, same⟩ | ⟨before, other, after, reached, split, left, accepted, same⟩
      · exact .inl ⟨List.forall_mem_cons.mpr ⟨ran, left⟩, same⟩
      · exact .inr ⟨lineClass :: before, other, after, reached, by rw [split]; rfl,
          List.forall_mem_cons.mpr ⟨ran, left⟩, accepted, same⟩

/-- Diagnostics go to the errors or to the warnings, in order, and change nothing else. -/
theorem ReadState.reportAll_eq (diagnostics : List Diagnostic) (state : ReadState) :
    state.reportAll diagnostics = { state with
      errors := state.errors ++ diagnostics.filter (·.severity == .error)
      warnings := state.warnings ++ diagnostics.filter (·.severity == .warning) } := by
  induction diagnostics generalizing state with
  | nil => simp [reportAll]
  | cons diagnostic rest ih =>
    have step : state.reportAll (diagnostic :: rest) = (state.report diagnostic).reportAll rest := rfl
    rw [step, ih]
    cases weight : diagnostic.severity <;> simp [report, weight]

theorem Metadata.apply_eq_ok {metadata : Metadata} {program filled : Program}
    (applied : metadata.apply program = .ok filled) :
    ∃ name instanceName block kept,
      filled = { program with name, instanceName, block, metadata := kept } := by
  obtain ⟨⟨block, kept⟩, _, ⟨⟩⟩ := bind_eq_ok applied
  exact ⟨_, _, _, _, rfl⟩

/-- A program that was read has the steps, the variables and the reports of the state after its lines, and a
report on each transition that still waits. -/
theorem readProgram_eq_ok {dialect : Dialect} {text : String} {metadata : Metadata} {reading : Reading}
    (read : readProgram dialect text metadata = .ok reading) :
    ∃ state, readLines dialect LineClass.standard 1 {} (lines text.toList) = .ok state ∧
      reading.trace = state.trace ∧ reading.program.steps = state.allSteps ∧
      reading.program.variables = state.allVariables ∧ reading.program.errors = state.errors ∧
      reading.program.warnings = state.warnings ++ state.pending.map orphanWarning := by
  obtain ⟨state, ran, read⟩ := bind_eq_ok read
  refine ⟨state, ran, ?_⟩
  have reported : state.reportAll (state.pending.map orphanWarning) =
      { state with warnings := state.warnings ++ state.pending.map orphanWarning } := by
    rw [ReadState.reportAll_eq, List.filter_eq_nil_iff.mpr, List.filter_eq_self.mpr, List.append_nil]
    · simp [orphanWarning]
    · simp [orphanWarning]
  rw [reported] at read
  dsimp only at read
  split at read
  · cases read
  · cases read
    obtain ⟨name, instanceName, block, kept, rfl⟩ := Metadata.apply_eq_ok ‹_›
    exact ⟨rfl, rfl, rfl, rfl, rfl⟩

end StepFlow
