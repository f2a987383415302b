import StepFlow.Proofs.Keys
import StepFlow.Proofs.Reading.Waiting

/-! # Every line is accounted for

Reading loses no line and keeps none twice. Each line that is not blank has one class. If that class leaves
anything in the program, then just one object of the program carries the number of the line. The only lines of
which nothing is left are names, comments, ends of steps, and conditions filed under a transition that no step
took; that transition is reported. No object carries the number of a blank line or of no line at all.
-/

namespace StepFlow

open Text LineRule

/-- The lines that are not blank, the first line having the given number. -/
def solidLines : Nat → List (List Char) → List Line
  | _, [] => []
  | number, chars :: rest => (Line.ofChars? number chars).toList ++ solidLines (number + 1) rest

/-- A line with its place in the trace. What declares no step ends one. -/
structure Line.Traced (dialect : Dialect) (line : Line) (entry : ClassifiedLine) : Prop where
  number : entry.line = line.number
  ends : entry.lineClass = .declaration → (entry.declared.isSome = false ↔ endsStep dialect line.content = true)

/-- What holds after lines were read: each has its place in the trace, the marks of the state are those of the
lines that are kept, the trace tells which transitions wait, and none is reported yet. -/
structure ReadState.Accounts (dialect : Dialect) (seen : List Line) (state : ReadState) : Prop where
  traced : List.Forall₂ (Line.Traced dialect) seen state.trace
  kept : state.marks.Perm ((state.trace.filter ClassifiedLine.isKept).map ClassifiedLine.mark)
  waits : state.pending.map Transition.waits = ClassifiedLine.waiting state.trace
  unreported : ∀ warning ∈ state.warnings, warning.code ≠ .orphanTransition

variable {dialect : Dialect} {line : Line} {state next : ReadState} {lineClass : LineClass}

namespace Accepted

theorem traced (accepted : Accepted dialect line state lineClass next) :
    line.Traced dialect ⟨line.number, lineClass, declaredLabel lineClass line next⟩ := by
  refine ⟨rfl, fun declaring => ?_⟩
  cases accepted with
  | ending ends => simp [declaredLabel, ReadState.close, ReadState.turnTo, ends]
  | step goesOn => simp [declaredLabel, ReadState.turnTo, goesOn]
  | _ => cases declaring

theorem unreported (accepted : Accepted dialect line state lineClass next)
    (before : ∀ warning ∈ state.warnings, warning.code ≠ .orphanTransition) :
    ∀ warning ∈ next.warnings, warning.code ≠ .orphanTransition := by
  cases accepted with
  | transition =>
    intro warning member
    apply before warning
    obtain ⟨_, _, _, closed⟩ := state.closeVariable_eq
    rw [closed] at member
    exact member
  | unrecognized =>
    intro warning member
    rcases List.mem_append.mp member with old | new
    · exact before warning old
    · rw [List.mem_singleton.mp new]
      simp
  | condition taken signed extracted =>
    obtain ⟨_, _, filed⟩ := file_eq dialect _ _
    rw [filed, ReadState.reportAll_eq]
    intro warning member
    rcases List.mem_append.mp member with old | new
    · exact before warning old
    · have other := ((ConditionLine.extract_marks extracted).2.2 warning (List.mem_filter.mp new).1).2.2
      intro orphan
      simp [Diagnostic.isLeftOver, orphan] at other
  | _ => exact before

end Accepted

namespace ReadState.Accounts

variable {seen : List Line}

theorem start (dialect : Dialect) : ReadState.Accounts dialect [] {} := ⟨.nil, .nil, rfl, nofun⟩

/-- Accepting a line adds it to the lines that are accounted for. -/
theorem accepted (accounts : state.Accounts dialect seen) (done : Accepted dialect line state lineClass next)
    (hasContent : Bool) :
    ReadState.Accounts dialect (seen ++ [line]) { next with
      hasContent
      trace := next.trace ++ [⟨line.number, lineClass, declaredLabel lineClass line next⟩] } := by
  have trace := done.trace_eq
  refine ⟨?_, ?_, ?_, done.unreported accounts.unreported⟩
  · rw [trace]
    exact List.rel_append accounts.traced (.cons done.traced .nil)
  · apply List.perm_iff_count.mpr
    intro mark
    have old := List.perm_iff_count.mp accounts.kept mark
    refine (done.count_marks mark).trans ?_
    dsimp only
    rw [trace, old, List.filter_append, List.map_append, List.count_append]
    congr 1
    split
    · simp only [List.filter_cons, ‹ClassifiedLine.isKept _ = true›]
      rfl
    · simp only [List.filter_cons, ‹¬ClassifiedLine.isKept _ = true›]
      rfl
  · dsimp only
    rw [trace, ClassifiedLine.waiting_concat, ← accounts.waits, done.pending_waits]

theorem readLine (accounts : state.Accounts dialect seen)
    (read : readLine dialect line state LineClass.standard = .ok next) : next.Accounts dialect (seen ++ [line]) := by
  rcases readLine_eq_ok read with ⟨left, _⟩ | ⟨_, _, _, _, _, _, done, rfl⟩
  · have taken := left .unrecognized (by decide)
    cases taken
  · exact accounts.accepted done _

theorem blankLine (accounts : state.Accounts dialect seen) : state.blankLine.Accounts dialect seen := by
  have program := state.program_blankLine
  obtain ⟨_, _, _, same⟩ := state.blankLine_eq
  rw [same] at program ⊢
  refine ⟨accounts.traced, ?_, accounts.waits, accounts.unreported⟩
  rw [ReadState.marks, program]
  exact accounts.kept

theorem readLines {number : Nat} {rest : List (List Char)} (accounts : state.Accounts dialect seen)
    (read : readLines dialect LineClass.standard number state rest = .ok next) :
    next.Accounts dialect (seen ++ solidLines number rest) := by
  induction rest generalizing number state seen with
  | nil =>
    cases read
    simpa [solidLines] using accounts
  | cons chars rest ih =>
    simp only [StepFlow.readLines] at read
    cases solid : Line.ofChars? number chars with
    | none =>
      simp only [solid] at read
      simpa [solidLines, solid] using ih accounts.blankLine read
    | some line =>
      simp only [solid] at read
      split at read
      · cases read
      · simpa [solidLines, solid] using ih (accounts.readLine ‹_›) read

end ReadState.Accounts

theorem number_of_ofChars? {number : Nat} {chars : List Char} (solid : Line.ofChars? number chars = some line) :
    line.number = number := by
  simp only [Line.ofChars?] at solid
  split at solid
  · cases solid
  · cases solid
    rfl

theorem mem_solidLines {number : Nat} {rest : List (List Char)} :
    line ∈ solidLines number rest ↔
      ∃ index chars, rest[index]? = some chars ∧ Line.ofChars? (number + index) chars = some line := by
  induction rest generalizing number with
  | nil => simp [solidLines]
  | cons head rest ih =>
    rw [solidLines, List.mem_append, Option.mem_toList, ih]
    constructor
    · rintro (first | ⟨index, chars, present, solid⟩)
      · exact ⟨0, head, rfl, first⟩
      · exact ⟨index + 1, chars, present, by rwa [Nat.add_right_comm] at solid⟩
    · rintro ⟨_ | index, chars, present, solid⟩
      · cases present
        exact .inl solid
      · exact .inr ⟨index, chars, present, by rwa [Nat.add_right_comm]⟩

theorem pairwise_solidLines (number : Nat) (rest : List (List Char)) :
    (solidLines number rest).Pairwise (·.number < ·.number) := by
  induction rest generalizing number with
  | nil => exact .nil
  | cons head rest ih =>
    cases solid : Line.ofChars? number head with
    | none => simpa [solidLines, solid] using ih (number + 1)
    | some line =>
      simp only [solidLines, solid, Option.toList_some, List.singleton_append]
      refine .cons ?_ (ih (number + 1))
      intro other later
      obtain ⟨index, chars, _, found⟩ := mem_solidLines.mp later
      have here := number_of_ofChars? solid
      have there := number_of_ofChars? found
      omega

namespace ClassifiedLine

variable {trace : List ClassifiedLine} {entry : ClassifiedLine}

theorem nodup_line (sorted : trace.Pairwise (·.line < ·.line)) : (trace.map ClassifiedLine.line).Nodup :=
  List.pairwise_map.mpr (sorted.imp fun smaller => Nat.ne_of_lt smaller)

theorem eq_of_mark_eq (sorted : trace.Pairwise (·.line < ·.line)) {other : ClassifiedLine} (member : entry ∈ trace)
    (present : other ∈ trace) (same : other.mark = entry.mark) : other = entry := by
  simp only [mark, Option.some.injEq, Int.natCast_inj] at same
  exact List.inj_on_of_nodup_map (nodup_line sorted) present member same

/-- Each line that is kept is kept once. -/
theorem count_kept (sorted : trace.Pairwise (·.line < ·.line)) (member : entry ∈ trace) :
    ((trace.filter isKept).map mark).count entry.mark = if entry.isKept then 1 else 0 := by
  have distinct : ((trace.filter isKept).map mark).Nodup := by
    refine List.pairwise_map.mpr ((sorted.sublist List.filter_sublist).imp fun smaller same => ?_)
    simp only [mark, Option.some.injEq, Int.natCast_inj] at same
    omega
  split
  · exact List.count_eq_one_of_mem distinct (List.mem_map_of_mem (List.mem_filter.mpr ⟨member, ‹_›⟩))
  · apply List.count_eq_zero.mpr
    intro kept
    obtain ⟨other, found, same⟩ := List.mem_map.mp kept
    obtain ⟨present, keeps⟩ := List.mem_filter.mp found
    exact absurd (eq_of_mark_eq sorted member present same ▸ keeps) ‹_›

end ClassifiedLine

namespace ReadState.Accounts

variable {seen : List Line}

theorem sorted (accounts : state.Accounts dialect seen) (ordered : seen.Pairwise (·.number < ·.number)) :
    state.trace.Pairwise (·.line < ·.line) := by
  have numbers : List.Forall₂ Eq (seen.map Line.number) (state.trace.map ClassifiedLine.line) := by
    rw [List.forall₂_map_left_iff, List.forall₂_map_right_iff]
    exact accounts.traced.imp fun _ _ traced => traced.number.symm
  rw [List.forall₂_eq_eq_eq] at numbers
  rw [← List.pairwise_map, ← numbers]
  exact List.pairwise_map.mpr ordered

theorem exists_entry (accounts : state.Accounts dialect seen) (member : line ∈ seen) :
    ∃ entry ∈ state.trace, line.Traced dialect entry := by
  obtain ⟨index, bound, rfl⟩ := List.getElem_of_mem member
  have inside : index < state.trace.length := accounts.traced.length_eq ▸ bound
  exact ⟨state.trace[index], List.getElem_mem inside, accounts.traced.get bound inside⟩

theorem exists_line {entry : ClassifiedLine} (accounts : state.Accounts dialect seen)
    (member : entry ∈ state.trace) : ∃ line ∈ seen, line.Traced dialect entry := by
  obtain ⟨index, bound, rfl⟩ := List.getElem_of_mem member
  have inside : index < seen.length := accounts.traced.length_eq.symm ▸ bound
  exact ⟨seen[index], List.getElem_mem inside, accounts.traced.get inside bound⟩

/-- The marks of the program, those of the transitions that wait, and the conditions filed under them make up the
lines that are kept. -/
theorem count_program (accounts : state.Accounts dialect seen) (mark : Option Int) :
    state.program.marks.count mark + (state.pending.map Transition.line).count mark +
        ((ClassifiedLine.waiting state.trace).flatMap Prod.snd).count mark =
      ((state.trace.filter ClassifiedLine.isKept).map ClassifiedLine.mark).count mark := by
  have split : ∀ pending : List Transition, (pending.flatMap Transition.marks).count mark =
      (pending.map Transition.line).count mark +
        ((pending.map Transition.waits).flatMap Prod.snd).count mark := by
    intro pending
    induction pending with
    | nil => rfl
    | cons transition rest ih =>
      simp only [List.flatMap_cons, List.map_cons, List.count_append, List.count_cons, ih, Transition.marks,
        Transition.waits]
      omega
  have kept := List.perm_iff_count.mp accounts.kept mark
  rw [ReadState.marks, List.count_append, split, accounts.waits] at kept
  omega

end ReadState.Accounts

/-- A line that only comments or names something, or that ends a step. -/
def Line.LeavesNothing (dialect : Dialect) (line : Line) (entry : ClassifiedLine) : Prop :=
  entry.lineClass ∈ [.comment, .header, .instanceName] ∨
    entry.lineClass = .declaration ∧ endsStep dialect line.content = true

/-- A condition filed under a transition that is reported because no step took it. -/
def Reading.Orphans (reading : Reading) (entry : ClassifiedLine) : Prop :=
  entry.lineClass = .condition ∧
    ∃ origin ∈ reading.trace, ClassifiedLine.FiledUnder reading.trace origin entry ∧
      ∃ warning ∈ reading.program.warnings, warning.code = .orphanTransition ∧ warning.line = origin.mark

theorem Line.Traced.isKept_iff {entry : ClassifiedLine} (traced : line.Traced dialect entry) :
    entry.isKept = false ↔ line.LeavesNothing dialect entry := by
  have ends := traced.ends
  cases lineClass : entry.lineClass <;> simp_all [ClassifiedLine.isKept, Line.LeavesNothing]

/-- The reports on transitions that still wait carry their lines. -/
theorem count_marks_of_read {program : Program} (steps : program.steps = state.allSteps)
    (vars : program.variables = state.allVariables) (errors : program.errors = state.errors)
    (warnings : program.warnings = state.warnings ++ state.pending.map orphanWarning) (mark : Option Int) :
    program.marks.count mark = state.program.marks.count mark + (state.pending.map Transition.line).count mark := by
  have orphans : ((state.pending.map orphanWarning).filter Diagnostic.isLeftOver).map Diagnostic.line =
      state.pending.map Transition.line := by
    rw [List.filter_eq_self.mpr, List.map_map]
    · rfl
    · simp [orphanWarning, Diagnostic.isLeftOver]
  simp only [Program.marks, steps, vars, errors, warnings, ReadState.program, List.filter_append, List.map_append,
    List.count_append, orphans]
  omega

/-- Just the transitions that still wait are reported. -/
theorem reported_iff {program : Program} {seen : List Line} (accounts : state.Accounts dialect seen)
    (warnings : program.warnings = state.warnings ++ state.pending.map orphanWarning) (mark : Option Int) :
    (∃ warning ∈ program.warnings, warning.code = .orphanTransition ∧ warning.line = mark) ↔
      mark ∈ (ClassifiedLine.waiting state.trace).map Prod.fst := by
  rw [← accounts.waits, List.map_map, warnings]
  constructor
  · rintro ⟨warning, member, orphan, rfl⟩
    rcases List.mem_append.mp member with old | new
    · exact absurd orphan (accounts.unreported warning old)
    · obtain ⟨transition, waits, rfl⟩ := List.mem_map.mp new
      exact List.mem_map.mpr ⟨transition, waits, rfl⟩
  · intro member
    obtain ⟨transition, waits, rfl⟩ := List.mem_map.mp member
    exact ⟨orphanWarning transition, List.mem_append_right _ (List.mem_map_of_mem waits), rfl, rfl⟩

/-- The conditions that are lost are those of the transitions that still wait. -/
theorem orphans_iff {reading : Reading} {seen : List Line} {entry : ClassifiedLine}
    (accounts : state.Accounts dialect seen) (sorted : state.trace.Pairwise (·.line < ·.line))
    (trace : reading.trace = state.trace)
    (warnings : reading.program.warnings = state.warnings ++ state.pending.map orphanWarning)
    (member : entry ∈ state.trace) :
    reading.Orphans entry ↔ entry.mark ∈ (ClassifiedLine.waiting state.trace).flatMap Prod.snd := by
  rw [ClassifiedLine.mem_conditions_waiting sorted, Reading.Orphans, trace]
  constructor
  · rintro ⟨conditional, origin, present, filed, reported⟩
    exact ⟨entry, member, rfl, conditional, origin, ⟨present, filed⟩, (reported_iff accounts warnings _).mp reported⟩
  · rintro ⟨found, inside, same, conditional, origin, ⟨present, filed⟩, listed⟩
    obtain rfl := ClassifiedLine.eq_of_mark_eq sorted member inside same
    exact ⟨conditional, origin, present, filed, (reported_iff accounts warnings _).mpr listed⟩

/-- Every line that is not blank has one class and is carried by just one object of the program, unless it only
comments or names something, ends a step, or is a condition of a transition that is reported. No object carries
the number of another line. -/
theorem readProgram_accounts_for_lines {text : String} {metadata : Metadata} {reading : Reading}
    (read : readProgram dialect text metadata = .ok reading) :
    (∀ index chars line, (lines text.toList)[index]? = some chars → Line.ofChars? (index + 1) chars = some line →
      ∃ entry, reading.trace.filter (fun other => other.line == index + 1) = [entry] ∧
        (line.LeavesNothing dialect entry → reading.program.marks.count (some ((index + 1 : Nat) : Int)) = 0) ∧
        (reading.Orphans entry → reading.program.marks.count (some ((index + 1 : Nat) : Int)) = 0) ∧
        (¬line.LeavesNothing dialect entry → ¬reading.Orphans entry →
          reading.program.marks.count (some ((index + 1 : Nat) : Int)) = 1)) ∧
      ∀ mark ∈ reading.program.marks, ∃ index chars line, mark = some ((index + 1 : Nat) : Int) ∧
        (lines text.toList)[index]? = some chars ∧ Line.ofChars? (index + 1) chars = some line := by
  obtain ⟨state, ran, trace, steps, vars, errors, warnings⟩ := readProgram_eq_ok read
  have accounts := (ReadState.Accounts.start dialect).readLines ran
  rw [List.nil_append] at accounts
  have sorted := accounts.sorted (pairwise_solidLines 1 _)
  have balance (mark : Option Int) : reading.program.marks.count mark +
      ((ClassifiedLine.waiting state.trace).flatMap Prod.snd).count mark =
        ((state.trace.filter ClassifiedLine.isKept).map ClassifiedLine.mark).count mark := by
    rw [count_marks_of_read steps vars errors warnings]
    exact accounts.count_program mark
  refine ⟨?_, ?_⟩
  · intro index chars line present solid
    have listed : line ∈ solidLines 1 (lines text.toList) :=
      mem_solidLines.mpr ⟨index, chars, present, by rwa [Nat.add_comm]⟩
    obtain ⟨entry, member, traced⟩ := accounts.exists_entry listed
    have number : entry.line = index + 1 := traced.number.trans (number_of_ofChars? solid)
    have here : some ((index + 1 : Nat) : Int) = entry.mark := by rw [ClassifiedLine.mark, number]
    have orphans := orphans_iff accounts sorted trace warnings member
    have total := (balance entry.mark).trans (ClassifiedLine.count_kept sorted member)
    rw [here]
    refine ⟨entry, ?_, ?_, ?_, ?_⟩
    · rw [trace, ← number]
      exact filter_key_eq (ClassifiedLine.nodup_line sorted) member
    · intro nothing
      simp only [traced.isKept_iff.mpr nothing, Bool.false_eq_true, ↓reduceIte] at total
      omega
    · intro lost
      have := List.count_pos_iff.mpr (orphans.mp lost)
      split at total <;> omega
    · intro something found
      have kept : entry.isKept = true := by simpa using mt traced.isKept_iff.mp something
      have := List.count_eq_zero.mpr (mt orphans.mpr found)
      simp only [kept, ↓reduceIte] at total
      omega
  · intro mark member
    have kept : mark ∈ (state.trace.filter ClassifiedLine.isKept).map ClassifiedLine.mark := by
      have positive := List.count_pos_iff.mpr member
      have := balance mark
      exact List.count_pos_iff.mp (by omega)
    obtain ⟨entry, found, rfl⟩ := List.mem_map.mp kept
    obtain ⟨line, listed, traced⟩ := accounts.exists_line (List.mem_filter.mp found).1
    obtain ⟨index, chars, present, solid⟩ := mem_solidLines.mp listed
    rw [Nat.add_comm] at solid
    refine ⟨index, chars, line, ?_, present, solid⟩
    rw [ClassifiedLine.mark, traced.number, number_of_ofChars? solid]

/-- A program with an ended step, a transition that no step takes with a condition on line 8, an assignment without
name and a line that no rule accepts. -/
def leftOverText : String :=
  "Pump FB7\n// note\nSTAP 1: fill\n- level\nEND\n\nVON STAP 1\n- late\n= 3\nnonsense here"

/-- The condition on line 8 is read and lost; the lines of all other objects are there once. -/
theorem readProgram_accounts_for_lines_leftOverText :
    ∃ reading, readProgram {} leftOverText {} = .ok reading ∧
      reading.program.marks = [some 3, some 4, some 9, some 10, some 7] ∧
      (∃ entry, reading.trace.filter (fun other => other.line == 8) = [entry] ∧
        (reading.Orphans entry → reading.program.marks.count (some 8) = 0)) ∧
      ∀ mark ∈ reading.program.marks, ∃ index chars line, mark = some ((index + 1 : Nat) : Int) ∧
        (lines leftOverText.toList)[index]? = some chars ∧ Line.ofChars? (index + 1) chars = some line := by
  have evaluated : (readProgram {} leftOverText {}).toOption.map (fun reading => reading.program.marks) =
      some [some 3, some 4, some 9, some 10, some 7] := by
    decide +kernel
  obtain ⟨reading, done, marks⟩ := Option.map_eq_some_iff.mp evaluated
  have read := eq_ok_of_toOption_eq_some done
  obtain ⟨accounted, placed⟩ := readProgram_accounts_for_lines read
  obtain ⟨entry, only, _, lost, _⟩ :=
    accounted 7 "- late".toList ⟨8, "- late".toList, "- late".toList⟩ (by decide +kernel) (by decide +kernel)
  exact ⟨reading, read, marks, ⟨entry, only, lost⟩, placed⟩

end StepFlow
