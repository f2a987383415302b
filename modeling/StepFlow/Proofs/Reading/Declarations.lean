import StepFlow.Analysis
import StepFlow.Proofs.Layout.LineForm
import StepFlow.Proofs.Layout.Plain
import StepFlow.Proofs.Reading.Accounting
import StepFlow.Proofs.Reading.LinePatterns

/-! # Steps and the lines that declare them

The steps of a program come from the lines of the form of a declaration, in order, one step from each line. There is one
exception: a name can stand on the first line, and the rule for names is tried before the rule for declarations. So a
declaration that is the first content of a text, is not indented and ends in the name of a block declares no step.
-/

namespace StepFlow

open Text LineRule

/-- What the declaration of a step says, and its line. -/
structure StepHead where
  keyword : String
  description : String
  line : Option Int
  kind : StepKind
  deriving Repr, DecidableEq

/-- What the declaration of a step has said. Nothing later changes it. -/
def Step.head (step : Step) : StepHead := ⟨step.keyword, step.description, step.line, step.kind⟩

/-- A line of the form of a declaration, and what it says. -/
def Line.Declares (dialect : Dialect) (line : Line) (head : StepHead) : Prop :=
  ∃ declaration : Declaration, declaration.IsWritten dialect line.content ∧
    head.keyword = String.ofList (upperChars declaration.word) ∧
    head.description = String.ofList (trim declaration.description) ∧ head.line = some (line.number : Int) ∧
    kindOf dialect head.keyword declaration.digits = .ok head.kind

/-- Whether a line is no comment and has the form of a declaration. -/
def Line.isDeclaration (dialect : Dialect) (line : Line) : Bool :=
  !dialect.isComment line.content && (readDeclaration? dialect line.content).isSome

/-- Whether a line has the form of a header: a name that is not indented, with a block. -/
def Line.isHeader (line : Line) : Bool := !line.isIndented && headerPattern.startsIn line.content

/-! ## Rules on declarations -/

section Rules

variable {dialect : Dialect} {line : Line} {state next : ReadState} {declaration : Declaration}

theorem Declaration.IsWritten.isComment_eq_false (readable : dialect.Readable)
    (written : declaration.IsWritten dialect line.content) : dialect.isComment line.content = false := by
  obtain ⟨gap, gap', whole, isWord, -⟩ := written
  rw [whole]
  exact (Layout.isContent_keyword readable readable.declaring isWord _).no_comment

theorem isDeclaration_iff (readable : dialect.Readable) :
    line.isDeclaration dialect = true ↔ ∃ declaration : Declaration, declaration.IsWritten dialect line.content := by
  simp only [Line.isDeclaration, Bool.and_eq_true, Bool.not_eq_true', Option.isSome_iff_exists,
    readDeclaration?_eq_some_iff readable]
  exact ⟨And.right, fun ⟨declaration, written⟩ => ⟨written.isComment_eq_false readable, declaration, written⟩⟩

/-- A declaration can only be a header if it has the form of one. -/
theorem header_of_written (written : declaration.IsWritten dialect line.content)
    (no : state.hasContent = true ∨ line.isHeader = false) : header dialect line state = .ok none := by
  unfold header
  split
  · rfl
  · rename_i first
    simp only [Bool.or_eq_true, not_or, Bool.not_eq_true] at first
    have unmatched : headerPattern.matchStart? line.content = none := by
      rcases no with started | other
      · rw [started] at first
        cases first.1.1
      · simpa [Line.isHeader, first.1.2, Pattern.startsIn] using other
    rw [unmatched]
    simp [isBareName, written.colon_mem]

/-- The first content is a header if it has the form of one. -/
theorem header_ne_none (first : state.hasContent = false) (unnamed : state.name.isEmpty = true)
    (isHeader : line.isHeader = true) : header dialect line state ≠ .ok none := by
  have ⟨unindented, starts⟩ := Bool.and_eq_true_iff.mp isHeader
  obtain ⟨found, matched⟩ := Option.isSome_iff_exists.mp starts
  have indented : line.isIndented = false := by simpa using unindented
  rw [header, first, unnamed, indented, matched]
  intro left
  obtain ⟨block, -, left⟩ := bind_eq_ok left
  cases left

/-- The step that a declaration on the line of the given number opens. It takes the waiting transitions. -/
def Declaration.step (declaration : Declaration) (number : Nat) (waiting : List Transition) (kind : StepKind) : Step :=
  { keyword := String.ofList (upperChars declaration.word), description := String.ofList (trim declaration.description)
    transitions := waiting, line := some number, kind }

/-- Turns to a new step, which has taken the waiting transitions. -/
def ReadState.openStep (step : Step) (state : ReadState) : ReadState :=
  { state.turnTo (.step step false) with pending := [] }

/-- A declaration opens its step. -/
theorem declaration_of_written (unmistakable : dialect.Unmistakable) (single : '\n' ∉ line.content)
    (written : declaration.IsWritten dialect line.content) :
    LineRule.declaration dialect line state =
      (kindOf dialect (String.ofList (upperChars declaration.word)) declaration.digits).map fun kind =>
        some (state.openStep (declaration.step line.number state.pending kind)) := by
  have read := matchStart?_declarationPattern unmistakable.toReadable single
  rw [(readDeclaration?_eq_some_iff unmistakable.toReadable).mpr written] at read
  obtain ⟨found, matched, kept⟩ := Option.map_eq_some_iff.mp read
  simp only [Prod.mk.injEq] at kept
  obtain ⟨word, digits, description⟩ := kept
  have trimmed : trim (found.kept 3) = trim declaration.description := by
    rw [description, trim, trimStart, List.dropWhile_idempotent]
    rfl
  rw [LineRule.declaration, written.endsStep_eq_false unmistakable, if_neg Bool.false_ne_true, matched]
  simp only [word, digits, trimmed]
  cases kindOf dialect (String.ofList (upperChars declaration.word)) declaration.digits <;> rfl

end Rules

/-! ## States -/

namespace ReadState

/-- What the declarations of the steps so far have said. -/
def heads (state : ReadState) : List StepHead := state.allSteps.map Step.head

theorem allSteps_openStep (step : Step) (state : ReadState) :
    (state.openStep step).allSteps = state.allSteps ++ [step] := rfl

theorem heads_openStep (step : Step) (state : ReadState) :
    (state.openStep step).heads = state.heads ++ [step.head] := by
  rw [heads, allSteps_openStep, List.map_append]
  rfl

theorem heads_close (state : ReadState) : state.close.heads = state.heads := rfl

theorem heads_closeVariable (state : ReadState) : state.closeVariable.heads = state.heads :=
  congrArg (fun program => program.steps.map Step.head) state.program_closeVariable

theorem heads_blankLine (state : ReadState) : state.blankLine.heads = state.heads :=
  congrArg (fun program => program.steps.map Step.head) state.program_blankLine

/-- The open step may be replaced by one with the same declaration. -/
theorem heads_of_focus {state : ReadState} {current : Step} {leaving : Bool}
    (focused : state.focus = .step current leaving) (other : Step) (leaving' : Bool)
    (same : other.head = current.head) :
    { state with focus := .step other leaving' }.heads = state.heads := by
  simp [heads, allSteps, focused, same]

end ReadState

theorem head_addCondition (leaving : Bool) (condition : Condition) (step : Step) :
    (addCondition leaving condition step).head = step.head := by
  unfold addCondition
  split <;> rfl

theorem heads_file (dialect : Dialect) (condition : Condition) (state : ReadState) :
    (file dialect condition state).heads = state.heads := by
  unfold file
  split
  · rfl
  · split
    · rfl
    · rename_i current focused
      simp [ReadState.heads, ReadState.allSteps, focused]
    · rename_i current leaving focused
      exact ReadState.heads_of_focus focused _ leaving (head_addCondition leaving condition current)

section Accepted

variable {dialect : Dialect} {line : Line} {state next : ReadState} {lineClass : LineClass}

/-- A line adds a step or leaves the declarations of the steps as they are. -/
theorem Accepted.heads (accepted : Accepted dialect line state lineClass next) :
    next.heads = state.heads ∨
      ∃ found head, (declarationPattern dialect).matchStart? line.content = some found ∧
        head.keyword = String.ofList (upperChars (found.kept 1)) ∧
        head.description = String.ofList (trim (found.kept 3)) ∧ next.heads = state.heads ++ [head] := by
  cases accepted with
  | step goesOn matched known => exact .inr ⟨_, _, matched, rfl, rfl, state.heads_openStep _⟩
  | ending => exact .inl state.heads_close
  | transition => exact .inl state.heads_closeVariable
  | setting unindented matched named focused => exact .inl (ReadState.heads_of_focus focused _ _ rfl)
  | condition taken signed extracted =>
    refine .inl ((heads_file ..).trans ?_)
    rw [ReadState.reportAll_eq]
    rfl
  | _ => exact .inl rfl

end Accepted

/-! ## Lines -/

section Lines

variable {dialect : Dialect} {line : Line} {state next : ReadState}

theorem rule_comment (plain : dialect.isComment line.content = false) :
    LineClass.comment.rule dialect line state = .ok none := by
  rw [LineClass.rule, comment, plain]
  rfl

theorem readLine_of_none {lineClass : LineClass} {rest : List LineClass}
    (left : lineClass.rule dialect line state = .ok none) :
    readLine dialect line state (lineClass :: rest) = readLine dialect line state rest := by
  rw [readLine, left]
  rfl

/-- A comment leaves the steps alone, and a name can still follow it. -/
theorem readLine_of_comment (marked : dialect.isComment line.content = true)
    (read : readLine dialect line state LineClass.standard = .ok next) :
    next.heads = state.heads ∧ next.hasContent = state.hasContent ∧ next.name = state.name := by
  obtain ⟨verdict, ran, read⟩ := bind_eq_ok read
  rw [LineClass.rule, comment, if_pos marked] at ran
  cases ran
  cases read
  exact ⟨rfl, Bool.or_false _, rfl⟩

/-- A line that the rule for names takes declares no step. -/
theorem readLine_of_header (plain : dialect.isComment line.content = false)
    (taken : header dialect line state ≠ .ok none)
    (read : readLine dialect line state LineClass.standard = .ok next) :
    next.hasContent = true ∧ next.heads = state.heads := by
  rw [LineClass.standard, readLine_of_none (rule_comment plain)] at read
  obtain ⟨verdict, ran, read⟩ := bind_eq_ok read
  cases verdict with
  | none => exact absurd ran taken
  | some reached =>
    cases read
    cases accepted_of_header ran
    exact ⟨Bool.or_true _, rfl⟩

/-- The state after a line that was given a class. -/
def ReadState.classify (line : Line) (lineClass : LineClass) (state : ReadState) : ReadState :=
  { state with
    hasContent := state.hasContent || lineClass.isContent
    trace := state.trace ++ [⟨line.number, lineClass, declaredLabel lineClass line state⟩] }

/-- A declaration that the rule for names leaves alone opens its step. -/
theorem readLine_written (unmistakable : dialect.Unmistakable) {declaration : Declaration}
    (single : '\n' ∉ line.content) (written : declaration.IsWritten dialect line.content)
    (no : state.hasContent = true ∨ line.isHeader = false) :
    readLine dialect line state LineClass.standard =
      (kindOf dialect (String.ofList (upperChars declaration.word)) declaration.digits).map fun kind =>
        (state.openStep (declaration.step line.number state.pending kind)).classify line .declaration := by
  have noComment : LineClass.comment.rule dialect line state = .ok none :=
    rule_comment (written.isComment_eq_false unmistakable.toReadable)
  have noHeader : LineClass.header.rule dialect line state = .ok none := header_of_written written no
  have noInstance : LineClass.instanceName.rule dialect line state = .ok none := by
    rw [LineClass.rule, instanceName, written.matchStart?_instancePattern unmistakable]
  rw [LineClass.standard, readLine_of_none noComment, readLine_of_none noHeader, readLine_of_none noInstance, readLine,
    LineClass.rule, declaration_of_written unmistakable single written]
  cases kindOf dialect (String.ofList (upperChars declaration.word)) declaration.digits <;> rfl

theorem readLine_of_written (unmistakable : dialect.Unmistakable) {declaration : Declaration}
    (single : '\n' ∉ line.content) (written : declaration.IsWritten dialect line.content)
    (no : state.hasContent = true ∨ line.isHeader = false)
    (read : readLine dialect line state LineClass.standard = .ok next) :
    next.hasContent = true ∧ ∃ head, line.Declares dialect head ∧ next.heads = state.heads ++ [head] := by
  rw [readLine_written unmistakable single written no] at read
  cases known : kindOf dialect (String.ofList (upperChars declaration.word)) declaration.digits with
  | error fault =>
    rw [known] at read
    cases read
  | ok kind =>
    rw [known] at read
    cases read
    exact ⟨Bool.or_true _, (declaration.step line.number state.pending kind).head,
      ⟨declaration, written, rfl, rfl, rfl, known⟩, state.heads_openStep _⟩

/-- A line of another form declares no step. -/
theorem readLine_of_not_isDeclaration (readable : dialect.Readable) (single : '\n' ∉ line.content)
    (plain : dialect.isComment line.content = false) (other : line.isDeclaration dialect = false)
    (read : readLine dialect line state LineClass.standard = .ok next) :
    next.hasContent = true ∧ next.heads = state.heads := by
  rcases readLine_eq_ok read with ⟨left, _⟩ | ⟨_, lineClass, _, reached, _, _, accepted, rfl⟩
  · have taken := left .unrecognized (by decide)
    cases taken
  · refine ⟨Bool.or_eq_true_iff.mpr (.inr ?_), ?_⟩
    · cases accepted with
      | comment marked => exact absurd marked (Bool.eq_false_iff.mp plain)
      | _ => rfl
    · rcases accepted.heads with same | ⟨found, -, matched, -⟩
      · exact same
      · have unread := matchStart?_declarationPattern readable single
        rw [Line.isDeclaration, plain, Bool.not_false, Bool.true_and, Option.isSome_eq_false_iff,
          Option.isNone_iff_eq_none] at other
        rw [matched, other] at unread
        cases unread

end Lines

/-! ## Texts -/

/-- The lines that declare steps. Once there is content, no name can follow. -/
def stepLines (dialect : Dialect) : Bool → List Line → List Line
  | _, [] => []
  | hasContent, line :: rest =>
    if dialect.isComment line.content then stepLines dialect hasContent rest
    else if line.isDeclaration dialect && (hasContent || !line.isHeader) then line :: stepLines dialect true rest
    else stepLines dialect true rest

/-- The name of the program is content, too. -/
def ReadState.NamedLate (state : ReadState) : Prop := state.hasContent = false → state.name.isEmpty = true

section Lines

variable {dialect : Dialect} {line : Line} {state next : ReadState}

theorem ReadState.hasContent_blankLine (state : ReadState) : state.blankLine.hasContent = state.hasContent := by
  obtain ⟨_, _, _, same⟩ := state.blankLine_eq
  rw [same]

theorem ReadState.namedLate_blankLine (state : ReadState) (late : state.NamedLate) : state.blankLine.NamedLate := by
  obtain ⟨_, _, _, same⟩ := state.blankLine_eq
  rw [same]
  exact late

theorem content_of_ofChars? {number : Nat} {chars : List Char} (solid : Line.ofChars? number chars = some line) :
    line.content = trim chars := by
  simp only [Line.ofChars?] at solid
  split at solid
  · cases solid
  · cases solid
    rfl

theorem content_subset {number : Nat} {chars : List Char} (solid : Line.ofChars? number chars = some line) :
    line.content ⊆ chars := content_of_ofChars? solid ▸ Layout.trim_subset chars

theorem readLine_heads (unmistakable : dialect.Unmistakable) (single : '\n' ∉ line.content) (late : state.NamedLate)
    (read : readLine dialect line state LineClass.standard = .ok next) :
    next.NamedLate ∧ ∃ heads, next.heads = state.heads ++ heads ∧ ∀ rest later,
      List.Forall₂ (Line.Declares dialect) (stepLines dialect next.hasContent rest) later →
        List.Forall₂ (Line.Declares dialect) (stepLines dialect state.hasContent (line :: rest)) (heads ++ later) := by
  rw [ReadState.NamedLate]
  by_cases marked : dialect.isComment line.content = true
  · obtain ⟨same, content, name⟩ := readLine_of_comment marked read
    refine ⟨by rwa [content, name], [], by rw [same, List.append_nil], fun rest later related => ?_⟩
    rwa [stepLines, if_pos marked, ← content]
  · have plain := Bool.eq_false_iff.mpr marked
    by_cases declares : (line.isDeclaration dialect && (state.hasContent || !line.isHeader)) = true
    · have ⟨isDeclaration, no⟩ := Bool.and_eq_true_iff.mp declares
      rw [Bool.or_eq_true, Bool.not_eq_true'] at no
      obtain ⟨declaration, written⟩ := (isDeclaration_iff unmistakable.toReadable).mp isDeclaration
      obtain ⟨content, head, declared, added⟩ := readLine_of_written unmistakable single written no read
      refine ⟨by simp [content], [head], added, fun rest later related => ?_⟩
      rw [stepLines, if_neg marked, if_pos declares]
      exact .cons declared (content ▸ related)
    · have ⟨content, same⟩ : next.hasContent = true ∧ next.heads = state.heads := by
        cases isDeclaration : line.isDeclaration dialect with
        | false => exact readLine_of_not_isDeclaration unmistakable.toReadable single plain isDeclaration read
        | true =>
          simp only [isDeclaration, Bool.true_and, Bool.or_eq_true, Bool.not_eq_true', not_or, Bool.not_eq_true,
            Bool.not_eq_false] at declares
          exact readLine_of_header plain (header_ne_none declares.1 (late declares.1) declares.2) read
      refine ⟨by simp [content], [], by rw [same, List.append_nil], fun rest later related => ?_⟩
      rwa [stepLines, if_neg marked, if_neg declares, ← content]

/-- Lines declare the steps that their forms tell. -/
theorem readLines_heads (unmistakable : dialect.Unmistakable) {number : Nat} {rest : List (List Char)}
    (single : ∀ chars ∈ rest, '\n' ∉ chars) (late : state.NamedLate)
    (read : readLines dialect LineClass.standard number state rest = .ok next) :
    ∃ heads, next.heads = state.heads ++ heads ∧
      List.Forall₂ (Line.Declares dialect) (stepLines dialect state.hasContent (solidLines number rest)) heads := by
  induction rest generalizing number state with
  | nil =>
    cases read
    exact ⟨[], by simp, .nil⟩
  | cons chars rest ih =>
    have ⟨singleHere, singleLater⟩ := List.forall_mem_cons.mp single
    simp only [readLines] at read
    rw [solidLines]
    cases solid : Line.ofChars? number chars with
    | none =>
      simp only [solid] at read
      obtain ⟨heads, added, related⟩ := ih singleLater (state.namedLate_blankLine late) read
      rw [state.hasContent_blankLine] at related
      exact ⟨heads, by rw [added, state.heads_blankLine], related⟩
    | some line =>
      simp only [solid] at read
      split at read
      · cases read
      · rename_i between here
        have inLine : '\n' ∉ line.content := fun lineFeed => singleHere (content_subset solid lineFeed)
        obtain ⟨lateHere, heads, added, related⟩ := readLine_heads unmistakable inLine late here
        obtain ⟨later, addedLater, relatedLater⟩ := ih singleLater lateHere read
        exact ⟨heads ++ later, by rw [addedLater, added, List.append_assoc], related _ later relatedLater⟩

end Lines

/-! ## Lines that declare no step -/

/-- A declaration that reads as a name with a block. -/
def Line.ReadsAsName (dialect : Dialect) (line : Line) : Prop :=
  line.isDeclaration dialect = true ∧ line.isIndented = false ∧ NamesBlock line.content

/-- Whether the first line that is no comment is a declaration that reads as a name with a block. -/
def NameHidesStep (dialect : Dialect) (lines : List Line) : Prop :=
  ∃ line, lines.find? (!dialect.isComment ·.content) = some line ∧ line.ReadsAsName dialect

section Hidden

variable (dialect : Dialect)

theorem stepLines_true (lines : List Line) :
    stepLines dialect true lines = lines.filter (Line.isDeclaration dialect) := by
  induction lines with
  | nil => rfl
  | cons line rest ih =>
    rw [stepLines, List.filter_cons, ih]
    by_cases marked : dialect.isComment line.content = true
    · simp [marked, Line.isDeclaration]
    · simp [marked]

theorem stepLines_subset (hasContent : Bool) (lines : List Line) : stepLines dialect hasContent lines ⊆ lines := by
  induction lines generalizing hasContent with
  | nil => exact List.nil_subset _
  | cons line rest ih =>
    rw [stepLines]
    split
    · exact List.subset_cons_of_subset line (ih _)
    · split
      · exact List.cons_subset_cons line (ih _)
      · exact List.subset_cons_of_subset line (ih _)

/-- At most the first declaration is hidden. -/
theorem stepLines_false {lines : List Line} (single : ∀ line ∈ lines, '\n' ∉ line.content) :
    (¬NameHidesStep dialect lines ∧ stepLines dialect false lines = lines.filter (Line.isDeclaration dialect)) ∨
      (NameHidesStep dialect lines ∧
        ∃ line, line :: stepLines dialect false lines = lines.filter (Line.isDeclaration dialect)) := by
  induction lines with
  | nil => exact .inl ⟨nofun, rfl⟩
  | cons line rest ih =>
    have ⟨singleHere, singleLater⟩ := List.forall_mem_cons.mp single
    rw [stepLines, List.filter_cons, NameHidesStep, List.find?_cons, stepLines_true]
    by_cases marked : dialect.isComment line.content = true
    · simpa [marked, Line.isDeclaration, NameHidesStep] using ih singleLater
    · have readsAsName : line.ReadsAsName dialect ↔ line.isDeclaration dialect = true ∧ line.isHeader = true := by
        rw [Line.ReadsAsName, ← startsIn_headerPattern singleHere, Line.isHeader, Bool.and_eq_true, Bool.not_eq_true']
      simp only [Bool.eq_false_iff.mpr marked, Bool.not_false, Option.some.injEq, exists_eq_left', readsAsName]
      cases line.isDeclaration dialect <;> cases line.isHeader <;> simp

end Hidden

/-- A line of a text has no line feed. -/
theorem single_of_mem_solidLines {number : Nat} {text : List Char} {line : Line}
    (member : line ∈ solidLines number (lines text)) : '\n' ∉ line.content := by
  intro lineFeed
  obtain ⟨index, chars, present, solid⟩ := mem_solidLines.mp member
  exact (mem_of_mem_splitAt (List.mem_of_getElem? present) (content_subset solid lineFeed)).2 rfl

/-- The steps of an analysis are declared by the lines that declare steps. -/
theorem declares_of_analyze {setup : Setup} {source : SourceKind} {metadata : Metadata} {text : String}
    {analysis : Analysis} (unmistakable : setup.dialect.Unmistakable)
    (analyzed : analyze setup source metadata text = .ok analysis) :
    List.Forall₂ (fun line (step : Step) => line.Declares setup.dialect step.head)
      (stepLines setup.dialect false (solidLines 1 (lines analysis.text.toList))) analysis.program.steps := by
  obtain ⟨reading, read, ⟨⟩⟩ := bind_eq_ok analyzed
  obtain ⟨state, ran, -, steps, -⟩ := readProgram_eq_ok read
  have single : ∀ chars ∈ lines (normalize setup.dialect source text).toList, '\n' ∉ chars :=
    fun chars isLine lineFeed => (mem_of_mem_splitAt isLine lineFeed).2 rfl
  obtain ⟨heads, added, related⟩ := readLines_heads unmistakable single (fun _ => rfl) ran
  rw [← List.forall₂_map_right_iff]
  change List.Forall₂ _ _ (reading.program.steps.map Step.head)
  rw [steps]
  exact (show state.allSteps.map Step.head = heads from added) ▸ related

/-- The lines of a text that have the form of a declaration. -/
def declarationLines (dialect : Dialect) (text : List Char) : List Line :=
  (solidLines 1 (lines text)).filter (Line.isDeclaration dialect)

/-- Every line of the form of a declaration declares a step, in order, unless the first one reads as a name with a
block. In that case it declares none, and all others do. -/
theorem analyze_declares_steps_iff {setup : Setup} {source : SourceKind} {metadata : Metadata} {text : String}
    {analysis : Analysis} (unmistakable : setup.dialect.Unmistakable)
    (analyzed : analyze setup source metadata text = .ok analysis) :
    (List.Forall₂ (fun line (step : Step) => line.Declares setup.dialect step.head)
        (declarationLines setup.dialect analysis.text.toList) analysis.program.steps ↔
      ¬NameHidesStep setup.dialect (solidLines 1 (lines analysis.text.toList))) ∧
    (NameHidesStep setup.dialect (solidLines 1 (lines analysis.text.toList)) →
      List.Forall₂ (fun line (step : Step) => line.Declares setup.dialect step.head)
        (declarationLines setup.dialect analysis.text.toList).tail analysis.program.steps) := by
  have declared := declares_of_analyze unmistakable analyzed
  have single : ∀ line ∈ solidLines 1 (lines analysis.text.toList), '\n' ∉ line.content := fun _ =>
    single_of_mem_solidLines
  rcases stepLines_false setup.dialect single with ⟨shown, all⟩ | ⟨hidden, first, allButFirst⟩
  · rw [all] at declared
    exact ⟨iff_of_true declared shown, fun hidden => absurd hidden shown⟩
  · refine ⟨iff_of_false (fun all => ?_) (not_not.mpr hidden), fun _ => ?_⟩
    · have lengths := all.length_eq.trans declared.length_eq.symm
      rw [declarationLines, ← allButFirst, List.length_cons] at lengths
      omega
    · rw [declarationLines, ← allButFirst]
      exact declared

/-- A comment, a name, and steps one of which ends like a name. -/
def blockMentionText : String := "// pump station\nPomp FB1\nSTAP 1: Vullen FB12\n- niveau\n rust : klaar"

/-- After a name every declaration declares its step. -/
theorem analyze_declares_steps_iff_blockMentionText :
    ∃ analysis, analyze {} .directEntry {} blockMentionText = .ok analysis ∧
      (declarationLines {} analysis.text.toList).map Line.number = [3, 5] ∧
      analysis.program.steps.map Step.label = ["STAP 1: Vullen FB12", "RUST: klaar"] ∧
      List.Forall₂ (fun line (step : Step) => line.Declares {} step.head)
        (declarationLines {} analysis.text.toList) analysis.program.steps := by
  have evaluated : (analyze {} .directEntry {} blockMentionText).toOption.map (fun analysis =>
      ((declarationLines {} analysis.text.toList).map Line.number, analysis.program.steps.map Step.label,
        ((solidLines 1 (lines analysis.text.toList)).find? (!Dialect.isComment {} ·.content)).map
          (Line.isDeclaration {}))) =
        some ([3, 5], ["STAP 1: Vullen FB12", "RUST: klaar"], some false) := by
    decide +kernel
  obtain ⟨analysis, done, found⟩ := Option.map_eq_some_iff.mp evaluated
  simp only [Prod.mk.injEq] at found
  obtain ⟨lines, labels, named⟩ := found
  have analyzed := eq_ok_of_toOption_eq_some done
  have shown : ¬NameHidesStep {} (solidLines 1 (Text.lines analysis.text.toList)) := by
    rintro ⟨line, first, isDeclaration, -⟩
    simp [first, isDeclaration] at named
  exact ⟨analysis, analyzed, lines, labels,
    (analyze_declares_steps_iff Dialect.unmistakable_default analyzed).1.mpr shown⟩

/-- A declaration that starts a text and ends in a block gives the program its name, and no step is declared. -/
theorem analyze_hides_step :
    ∃ analysis, analyze {} .directEntry {} "STAP 1: Vullen FB12" = .ok analysis ∧
      (declarationLines {} analysis.text.toList).map Line.number = [1] ∧ analysis.program.steps = [] ∧
      analysis.program.name = "STAP 1: Vullen" ∧ analysis.program.block = some ⟨.functionBlock, 12⟩ ∧
      ¬List.Forall₂ (fun line (step : Step) => line.Declares {} step.head)
        (declarationLines {} analysis.text.toList) analysis.program.steps := by
  have evaluated : (analyze {} .directEntry {} "STAP 1: Vullen FB12").toOption.map (fun analysis =>
      ((declarationLines {} analysis.text.toList).map Line.number, analysis.program.steps, analysis.program.name,
        analysis.program.block)) = some ([1], [], "STAP 1: Vullen", some ⟨.functionBlock, 12⟩) := by
    decide +kernel
  obtain ⟨analysis, done, found⟩ := Option.map_eq_some_iff.mp evaluated
  simp only [Prod.mk.injEq] at found
  obtain ⟨lines, steps, name, block⟩ := found
  refine ⟨analysis, eq_ok_of_toOption_eq_some done, lines, steps, name, block, fun related => ?_⟩
  have one := congrArg List.length lines
  rw [List.length_map, related.length_eq, steps] at one
  cases one

end StepFlow
