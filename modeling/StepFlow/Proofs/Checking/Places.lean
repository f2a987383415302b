import StepFlow.Proofs.Checking.Findings
import StepFlow.Proofs.Reading.Relabeling
import StepFlow.Proofs.Reading.Runs

/-! # Diagnostics point to lines

Whatever is reported on a program stands at a line of the canonical text. The reader gives its reports, and all that it
keeps, the number of the line that it reads. A check reports on something that the reader has kept, at the line of that.
So every diagnostic has the number of a line that is not blank, and a line that no rule accepted is kept as it stands.
-/

namespace StepFlow

open Text LineRule

variable {dialect : Dialect} {line : Line} {state next : ReadState} {lineClass : LineClass} {seen : List Line}

/-! ## Reading -/

/-- The diagnostic has the number of the line, and has the line itself if no rule accepted it. -/
def Diagnostic.ReportsOn (line : Line) (diagnostic : Diagnostic) : Prop :=
  diagnostic.line = some (line.number : Int) ∧
    (diagnostic.code = .unrecognizedLine → diagnostic.text = some (String.ofList line.raw))

theorem ReadState.mem_reportAll {diagnostics : List Diagnostic} {diagnostic : Diagnostic}
    (member : diagnostic ∈ (state.reportAll diagnostics).errors ++ (state.reportAll diagnostics).warnings) :
    diagnostic ∈ state.errors ++ state.warnings ∨ diagnostic ∈ diagnostics := by
  rw [reportAll_eq] at member
  simp only [List.mem_append, List.mem_filter] at member ⊢
  rcases member with (old | new) | (old | new)
  · exact .inl (.inl old)
  · exact .inr new.1
  · exact .inl (.inr old)
  · exact .inr new.1

theorem ReadState.mem_report {reported diagnostic : Diagnostic}
    (member : diagnostic ∈ (state.report reported).errors ++ (state.report reported).warnings) :
    diagnostic ∈ state.errors ++ state.warnings ∨ diagnostic = reported :=
  (@mem_reportAll state [reported] diagnostic member).imp_right List.mem_singleton.mp

namespace Accepted

theorem mem_marks (accepted : Accepted dialect line state lineClass next) {mark : Option Int}
    (member : mark ∈ next.marks) : mark ∈ state.marks ∨ mark = some (line.number : Int) := by
  have counted := accepted.count_marks mark
  have positive := List.count_pos_iff.mpr member
  by_cases old : mark ∈ state.marks
  · exact .inl old
  · rw [List.count_eq_zero.mpr old, Nat.zero_add] at counted
    rw [counted] at positive
    split at positive
    · exact .inr (List.mem_singleton.mp (List.count_pos_iff.mp positive))
    · exact absurd positive (by simp)

theorem mem_crossReferences (accepted : Accepted dialect line state lineClass next) {reference : CrossReference}
    (member : reference ∈ next.crossReferences) :
    reference ∈ state.crossReferences ∨ reference.line = some (line.number : Int) := by
  cases accepted with
  | transition =>
    obtain ⟨_, _, _, closed⟩ := state.closeVariable_eq
    rw [closed] at member
    exact .inl member
  | unnamed => exact .inl member
  | condition taken signed extracted =>
    obtain ⟨_, _, filed⟩ := file_eq dialect _ _
    rw [filed, ReadState.reportAll_eq] at member
    rcases List.mem_append.mp member with old | new
    · exact .inl old
    · exact .inr ((ConditionLine.extract_marks extracted).2.1 reference (Option.mem_toList.mp new))
  | _ => exact .inl member

theorem mem_diagnostics (accepted : Accepted dialect line state lineClass next) {diagnostic : Diagnostic}
    (member : diagnostic ∈ next.errors ++ next.warnings) :
    diagnostic ∈ state.errors ++ state.warnings ∨ diagnostic.ReportsOn line := by
  cases accepted with
  | transition =>
    obtain ⟨_, _, _, closed⟩ := state.closeVariable_eq
    rw [closed] at member
    exact .inl member
  | unnamed =>
    refine (ReadState.mem_report member).imp_right ?_
    rintro rfl
    exact ⟨rfl, nofun⟩
  | condition taken signed extracted =>
    obtain ⟨_, _, filed⟩ := file_eq dialect _ _
    rw [filed] at member
    refine (ReadState.mem_reportAll member).imp_right ?_
    intro new
    obtain ⟨here, -, other⟩ := (ConditionLine.extract_marks extracted).2.2 diagnostic new
    exact ⟨here, fun same => by simp [Diagnostic.isLeftOver, same] at other⟩
  | unrecognized =>
    refine (ReadState.mem_report member).imp_right ?_
    rintro rfl
    exact ⟨rfl, fun _ => rfl⟩
  | _ => exact .inl member

end Accepted

/-- What the reader keeps and what it reports has the numbers of the given lines. -/
structure ReadState.PlacedIn (seen : List Line) (state : ReadState) : Prop where
  marks : ∀ mark ∈ state.marks, ∃ line ∈ seen, mark = some (line.number : Int)
  references : ∀ reference ∈ state.crossReferences, ∃ line ∈ seen, reference.line = some (line.number : Int)
  reports : ∀ diagnostic ∈ state.errors ++ state.warnings, ∃ line ∈ seen, diagnostic.ReportsOn line

namespace ReadState.PlacedIn

theorem start (seen : List Line) : PlacedIn seen {} := ⟨nofun, nofun, nofun⟩

theorem accepted (placed : state.PlacedIn seen) (present : line ∈ seen)
    (done : Accepted dialect line state lineClass next) : (next.classify line lineClass).PlacedIn seen where
  marks mark member := (done.mem_marks member).elim (placed.marks mark) fun here => ⟨line, present, here⟩
  references reference member :=
    (done.mem_crossReferences member).elim (placed.references reference) fun here => ⟨line, present, here⟩
  reports diagnostic member :=
    (done.mem_diagnostics member).elim (placed.reports diagnostic) fun here => ⟨line, present, here⟩

theorem blankLine (placed : state.PlacedIn seen) : state.blankLine.PlacedIn seen := by
  have program := state.program_blankLine
  obtain ⟨_, _, _, same⟩ := state.blankLine_eq
  rw [same] at program ⊢
  refine ⟨?_, placed.references, placed.reports⟩
  rw [ReadState.marks, program]
  exact placed.marks

end ReadState.PlacedIn

theorem placedIn_of_readLines {text : List (List Char)}
    (read : readLines dialect LineClass.standard 1 {} text = .ok state) : state.PlacedIn (solidLines 1 text) :=
  @readLines_keeps dialect text (fun _ between => between.PlacedIn (solidLines 1 text)) (.start _)
    (fun _ placed => placed.blankLine) (fun present done placed => placed.accepted present done) state read

/-- What a program has and what is reported on it has the numbers of the given lines. -/
structure Program.PlacedIn (seen : List Line) (program : Program) : Prop where
  marks : ∀ mark ∈ program.marks, ∃ line ∈ seen, mark = some (line.number : Int)
  references : ∀ reference ∈ program.crossReferences, ∃ line ∈ seen, reference.line = some (line.number : Int)
  reports : ∀ diagnostic ∈ program.errors ++ program.warnings, ∃ line ∈ seen, diagnostic.ReportsOn line

/-- The references of a program that was read are those of the state after its lines. -/
theorem crossReferences_of_readProgram {text : String} {metadata : Metadata} {reading : Reading}
    (read : readProgram dialect text metadata = .ok reading) {state : ReadState}
    (ran : readLines dialect LineClass.standard 1 {} (lines text.toList) = .ok state) :
    reading.program.crossReferences = state.crossReferences := by
  unfold readProgram readWith at read
  rw [bind_of_eq_ok ran, ReadState.reportAll_eq] at read
  dsimp only at read
  split at read
  · cases read
  · cases read
    obtain ⟨name, instanceName, block, kept, rfl⟩ := Metadata.apply_eq_ok ‹_›
    rfl

theorem placedIn_of_readProgram {text : String} {metadata : Metadata} {reading : Reading}
    (read : readProgram dialect text metadata = .ok reading) :
    reading.program.PlacedIn (solidLines 1 (lines text.toList)) := by
  obtain ⟨state, ran, -, steps, vars, errors, warnings⟩ := readProgram_eq_ok read
  have placed := placedIn_of_readLines ran
  have waiting : ∀ transition ∈ state.pending, transition.line ∈ state.marks := fun transition waits =>
    List.mem_append_right _ (List.mem_flatMap.mpr ⟨transition, waits, .head _⟩)
  refine ⟨?_, crossReferences_of_readProgram read ran ▸ placed.references, ?_⟩
  · intro mark member
    have positive := List.count_pos_iff.mpr member
    rw [count_marks_of_read steps vars errors warnings] at positive
    apply placed.marks mark
    by_cases old : mark ∈ state.program.marks
    · exact List.mem_append_left _ old
    · rw [List.count_eq_zero.mpr old, Nat.zero_add] at positive
      obtain ⟨transition, waits, rfl⟩ := List.mem_map.mp (List.count_pos_iff.mp positive)
      exact waiting transition waits
  · intro diagnostic member
    rw [errors, warnings, ← List.append_assoc] at member
    rcases List.mem_append.mp member with old | new
    · exact placed.reports diagnostic old
    · obtain ⟨transition, waits, rfl⟩ := List.mem_map.mp new
      obtain ⟨line, present, here⟩ := placed.marks transition.line (waiting transition waits)
      exact ⟨line, present, here, nofun⟩

/-! ## Checks -/

theorem Check.code_ne_unrecognizedLine (cause : FindingCause) : cause.code ≠ .unrecognizedLine := by
  cases cause <;> simp [FindingCause.code]

namespace Program

variable {program : Program} {mark : Option Int}

theorem mem_marks_of_step {step : Step} (present : step ∈ program.steps) (member : mark ∈ step.marks) :
    mark ∈ program.marks := by
  simp only [marks, List.mem_append, List.mem_flatMap]
  exact .inl (.inl (.inl ⟨step, present, member⟩))

theorem mem_marks_of_variable {var : Variable} (present : var ∈ program.variables) (member : mark ∈ var.marks) :
    mark ∈ program.marks := by
  simp only [marks, List.mem_append, List.mem_flatMap]
  exact .inl (.inl (.inr ⟨var, present, member⟩))

end Program

/-- A check reports on something that the program has, at its line. -/
theorem Check.line_of_mem_findings {rules : CheckRules} {registry : Registry} {program : Program} {finding : Finding}
    (member : finding ∈ findings rules registry program) :
    finding.line ∈ program.marks ∨ ∃ reference ∈ program.crossReferences, finding.line = reference.line := by
  simp only [findings, List.mem_append] at member
  rcases member with (((((numbers | gap) | transition) | limit) | declared) | timed) | referred
  · obtain ⟨step, present, here, -⟩ := of_mem_stepNumbers numbers
    exact .inl (Program.mem_marks_of_step present (here ▸ .head _))
  · obtain ⟨step, present, here, -⟩ := of_mem_gaps (List.Subset.refl _) gap
    exact .inl (Program.mem_marks_of_step present (here ▸ .head _))
  · obtain ⟨step, present, transition, leaves, here, -⟩ := of_mem_transitions transition
    have marked : transition.line ∈ step.marks := by
      simp only [Step.marks, List.mem_cons, List.mem_append, List.mem_flatMap]
      exact .inr (.inl (.inl ⟨transition, leaves, .head _⟩))
    exact .inl (Program.mem_marks_of_step present (here ▸ marked))
  · obtain ⟨step, present, found⟩ := List.mem_flatMap.mp limit
    exact .inl (Program.mem_marks_of_step present ((of_mem_stepLimits found).1 ▸ .head _))
  · obtain ⟨var, present, found⟩ := List.mem_flatMap.mp declared
    exact .inl (Program.mem_marks_of_variable present ((of_mem_variableLimits found).1 ▸ .head _))
  · obtain ⟨pair, listed, found⟩ := List.mem_flatMap.mp timed
    obtain ⟨step, present, paired⟩ := List.mem_flatMap.mp listed
    obtain ⟨condition, inside, rfl⟩ := List.mem_map.mp paired
    have marked : condition.line ∈ step.marks := by
      simp only [Step.marks, List.mem_cons, List.mem_append]
      exact .inr (.inr (List.mem_map_of_mem inside))
    exact .inl (Program.mem_marks_of_step present ((of_mem_timer found).1 ▸ marked))
  · obtain ⟨reference, present, here, -⟩ := of_mem_references referred
    exact .inr ⟨reference, present, here⟩

theorem Program.marks_classify (rules : CheckRules) (program : Program) :
    { program with «variables» := program.variables.map (Check.classify rules) }.marks = program.marks := by
  simp only [marks, List.flatMap_map]
  rfl

/-- A check of a program whose lines are known reports on these lines. -/
theorem Program.PlacedIn.check {program : Program} (placed : program.PlacedIn seen) (rules : CheckRules)
    (registry : Registry) {diagnostic : Diagnostic}
    (member : diagnostic ∈ (program.check rules registry).1.errors ++ (program.check rules registry).1.warnings) :
    ∃ line ∈ seen, diagnostic.ReportsOn line := by
  have found {classified : Program} (same : classified.marks = program.marks)
      (references : classified.crossReferences = program.crossReferences)
      (reported : diagnostic ∈ (Check.findings rules registry classified).map Finding.diagnostic) :
      ∃ line ∈ seen, diagnostic.ReportsOn line := by
    obtain ⟨finding, listed, rfl⟩ := List.mem_map.mp reported
    have other : finding.diagnostic.code ≠ .unrecognizedLine := Check.code_ne_unrecognizedLine finding.cause
    rcases Check.line_of_mem_findings listed with marked | ⟨reference, present, here⟩
    · obtain ⟨line, isSeen, there⟩ := placed.marks finding.line (same ▸ marked)
      exact ⟨line, isSeen, there, fun unrecognized => absurd unrecognized other⟩
    · obtain ⟨line, isSeen, there⟩ := placed.references reference (references ▸ present)
      exact ⟨line, isSeen, here.trans there, fun unrecognized => absurd unrecognized other⟩
  have classified := program.marks_classify rules
  simp only [Program.check, List.mem_append, List.mem_filter] at member
  rcases member with (old | new) | (old | new)
  · exact placed.reports diagnostic (List.mem_append_left _ old)
  · exact found classified rfl new.1
  · exact placed.reports diagnostic (List.mem_append_right _ old)
  · exact found classified rfl new.1

/-! ## Texts -/

theorem trim_ne_nil_of_ofChars? {number : Nat} {chars : List Char} (solid : Line.ofChars? number chars = some line) :
    trim chars ≠ [] ∧ line.raw = trimEnd chars := by
  simp only [Line.ofChars?] at solid
  split at solid
  · cases solid
  · rename_i nonempty
    cases solid
    exact ⟨mt List.isEmpty_iff.mpr nonempty, rfl⟩

/-- A canonical line has no blanks at its end. -/
theorem Layout.IsCanonical.trimEnd_eq {chars : List Char} (canonical : Layout.IsCanonical dialect chars) :
    trimEnd chars = chars := by
  have clean := canonical.clean
  unfold cleanLine at clean
  dsimp only at clean
  split at clean
  · rw [← clean]
    rfl
  · rename_i solid
    obtain ⟨⟨trimmed, -⟩, starts⟩ := isClean_squeeze_trim chars
    have nonempty : squeeze (trim chars) ≠ [] := by
      rwa [ne_eq, ← List.isEmpty_iff, isEmpty_squeeze]
    have ends : trimEnd (squeeze (trim chars)) = squeeze (trim chars) := by
      cases body : squeeze (trim chars) with
      | nil => rfl
      | cons c rest =>
        rw [body] at trimmed starts
        rw [trim, trimStart, List.dropWhile_cons_of_neg (by simpa [startsBlank] using starts)] at trimmed
        exact trimmed
    have stays : trimEnd (squeeze (trim chars)) ≠ [] := by rwa [ends]
    rw [← clean, trimEnd_append stays, ends]

/-- Every diagnostic of a program has the number of a line of the canonical text that is not blank. A line that no rule
accepted is reported as it stands there. -/
theorem analyze_diagnostics_point_to_lines {rules : CheckRules} {registry : Registry} {source : SourceKind}
    {metadata : Metadata} {text : String} {analysis : Analysis}
    (analyzed : analyze { rules, registry } source metadata text = .ok analysis) :
    ∀ diagnostic ∈ analysis.program.errors ++ analysis.program.warnings,
      ∃ index chars, diagnostic.line = some ((index + 1 : Nat) : Int) ∧
        (lines analysis.text.toList)[index]? = some chars ∧ trim chars ≠ [] ∧
        (diagnostic.code = .unrecognizedLine → diagnostic.text = some (String.ofList chars)) := by
  obtain ⟨reading, read, ⟨⟩⟩ := bind_eq_ok analyzed
  intro diagnostic member
  obtain ⟨line, present, here, verbatim⟩ := (placedIn_of_readProgram read).check rules registry member
  obtain ⟨index, chars, listed, solid⟩ := mem_solidLines.mp present
  obtain ⟨nonempty, raw⟩ := trim_ne_nil_of_ofChars? solid
  refine ⟨index, chars, ?_, listed, nonempty, fun unrecognized => ?_⟩
  · rw [here, number_of_ofChars? solid, Nat.add_comm]
  · have form := isCanonical_of_mem_lines Dialect.readable_default (List.mem_of_getElem? listed)
    obtain ⟨canonical, -⟩ := form.resolve_left fun empty => nonempty (by rw [empty]; rfl)
    rw [verbatim unrecognized, raw, canonical.trimEnd_eq]

/-- A program with a line that no rule accepts, a step number used twice, a step without description, an assignment
without name and a transition that no step takes. -/
def faultyText : String :=
  "Tank FB3\n\nSTAP 1: Open  \n- Valve  open\nwhat  is this  \nSTAP 1:\n= 3\nVON STAP 1"

theorem analyze_diagnostics_point_to_lines_faultyText :
    ∃ analysis, analyze {} .directEntry {} faultyText = .ok analysis ∧
      analysis.program.errors.map Diagnostic.line = [some 7, some 6] ∧
      analysis.program.warnings.map Diagnostic.line = [some 5, some 8, some 6] ∧
      ∀ diagnostic ∈ analysis.program.errors ++ analysis.program.warnings,
        ∃ index chars, diagnostic.line = some ((index + 1 : Nat) : Int) ∧
          (lines analysis.text.toList)[index]? = some chars ∧ trim chars ≠ [] ∧
          (diagnostic.code = .unrecognizedLine → diagnostic.text = some (String.ofList chars)) := by
  have evaluated : (analyze {} .directEntry {} faultyText).toOption.map (fun analysis =>
      (analysis.program.errors.map Diagnostic.line, analysis.program.warnings.map Diagnostic.line)) =
        some ([some 7, some 6], [some 5, some 8, some 6]) := by
    decide +kernel
  obtain ⟨analysis, done, places⟩ := Option.map_eq_some_iff.mp evaluated
  obtain ⟨errors, warnings⟩ := Prod.mk.inj places
  have analyzed := eq_ok_of_toOption_eq_some done
  exact ⟨analysis, analyzed, errors, warnings, analyze_diagnostics_point_to_lines analyzed⟩

end StepFlow
