import StepFlow.Proofs.Reading.Declarations
import StepFlow.Proofs.Reading.Renumbering

/-! # Comments are transparent

A comment is kept in its place and changes nothing else. So a text without its comments gives the same program, in
which every line has the number that it has among the lines that remain.
-/

namespace StepFlow

open Text

namespace Dialect

/-- Whether the first characters of a line, after its blanks, are the comment mark. -/
def startsComment (dialect : Dialect) (chars : List Char) : Bool :=
  dialect.commentMark.toList.isPrefixOf (trim chars)

/-- The lines of a text that are no comments. -/
def remainingLines (dialect : Dialect) (text : String) : List (List Char) :=
  (lines text.toList).filter fun chars => !dialect.startsComment chars

/-- The text without its comments. -/
def withoutComments (dialect : Dialect) (text : String) : String :=
  String.ofList (unlines (dialect.remainingLines text))

/-- The number that a line has in the text without comments: how many lines remain up to it. -/
def remainingNumber (dialect : Dialect) (text : String) (number : Int) : Int :=
  (((lines text.toList).take number.toNat).filter fun chars => !dialect.startsComment chars).length

end Dialect

variable {dialect : Dialect} {renumbering : Int → Int} {trace : List ClassifiedLine}

theorem Line.ofChars?_moved (number other : Nat) (chars : List Char) :
    Line.ofChars? other chars = (Line.ofChars? number chars).map fun line => { line with number := other } := by
  unfold Line.ofChars?
  dsimp only
  split <;> rfl

theorem isComment_of_ofChars? (marked : dialect.commentMark ≠ "") {number : Nat} {chars : List Char} {line : Line}
    (solid : Line.ofChars? number chars = some line) :
    dialect.isComment line.content = dialect.startsComment chars := by
  rw [content_of_ofChars? solid]
  simp [Dialect.isComment, Dialect.startsComment, marked]

/-- A comment is not blank. -/
theorem exists_ofChars?_of_startsComment (marked : dialect.commentMark ≠ "") {chars : List Char}
    (starts : dialect.startsComment chars = true) (number : Nat) : ∃ line, Line.ofChars? number chars = some line := by
  have solid : (trim chars).isEmpty = false := by
    rw [Dialect.startsComment, List.isPrefixOf_iff_prefix] at starts
    rw [List.isEmpty_eq_false_iff]
    rintro blank
    rw [blank, List.prefix_nil, String.toList_eq_nil_iff] at starts
    exact marked starts
  simp only [Line.ofChars?, solid, Bool.false_eq_true, ↓reduceIte]
  exact ⟨_, rfl⟩

/-- A comment changes nothing but the comments and the classes of lines. -/
theorem readLine_comment (renumbering : Int → Int) (trace : List ClassifiedLine) {line : Line}
    (marked : dialect.isComment line.content = true) (state : ReadState) :
    ∃ next, readLine dialect line state LineClass.standard = .ok next ∧
      next.renumber renumbering trace = state.renumber renumbering trace := by
  have ran : LineClass.comment.rule dialect line state = .ok (some { state with
      comments := state.comments ++ [String.ofList (trim (line.content.drop dialect.commentMark.length))] }) := by
    rw [LineClass.rule, LineRule.comment, if_pos marked]
  rw [LineClass.standard, readLine, ran]
  refine ⟨_, rfl, ?_⟩
  simp [ReadState.renumber, LineClass.isContent]

/-- Where a line that remains stands among the lines that remain. -/
theorem remainingNumber_eq {text : String} {before rest : List (List Char)} {chars : List Char}
    (whole : before ++ chars :: rest = lines text.toList) (plain : dialect.startsComment chars = false) :
    dialect.remainingNumber text (before.length + 1 : Nat) =
      ((before.filter fun chars => !dialect.startsComment chars).length + 1 : Nat) := by
  have upTo : (before ++ chars :: rest).take (before.length + 1) = before ++ [chars] := by
    rw [List.take_length_add_append, List.take_succ_cons, List.take_zero]
  rw [Dialect.remainingNumber, ← whole, Int.toNat_natCast, upTo]
  simp [plain]

theorem readLines_remainingLines (marked : dialect.commentMark ≠ "") {text : String}
    {before rest : List (List Char)} (whole : before ++ rest = lines text.toList) (state : ReadState)
    (trace : List ClassifiedLine) :
    ∃ trace', (readLines dialect LineClass.standard
        ((before.filter fun chars => !dialect.startsComment chars).length + 1)
        (state.renumber (dialect.remainingNumber text) trace)
        (rest.filter fun chars => !dialect.startsComment chars)).mapError StoppedReading.fault =
      ((readLines dialect LineClass.standard (before.length + 1) state rest).map
        (ReadState.renumber (dialect.remainingNumber text) trace')).mapError StoppedReading.fault := by
  induction rest generalizing before state trace with
  | nil => exact ⟨trace, rfl⟩
  | cons chars rest ih =>
    have later := @ih (before ++ [chars]) (by rw [← whole, List.append_assoc]; rfl)
    rw [List.length_append, List.length_singleton, List.filter_append] at later
    cases starts : dialect.startsComment chars with
    | true =>
      simp only [List.filter_cons, List.filter_nil, starts, Bool.not_true, Bool.false_eq_true, ↓reduceIte,
        List.append_nil] at later ⊢
      obtain ⟨line, solid⟩ := exists_ofChars?_of_startsComment marked starts (before.length + 1)
      have comment := (isComment_of_ofChars? marked solid).trans starts
      obtain ⟨next, read, same⟩ := readLine_comment (dialect.remainingNumber text) trace comment state
      obtain ⟨trace', goesOn⟩ := later next trace
      refine ⟨trace', ?_⟩
      rw [← same, goesOn, readLines]
      simp only [solid, read]
    | false =>
      simp only [List.filter_cons, List.filter_nil, starts, Bool.not_false, ↓reduceIte, List.length_append,
        List.length_singleton] at later ⊢
      rw [readLines, readLines, Line.ofChars?_moved (before.length + 1)]
      cases solid : Line.ofChars? (before.length + 1) chars with
      | none =>
        obtain ⟨trace', goesOn⟩ := later state.blankLine trace
        refine ⟨trace', ?_⟩
        rw [ReadState.renumber_blankLine] at goesOn
        exact goesOn
      | some line =>
        have plain := (isComment_of_ofChars? marked solid).trans starts
        have moved := remainingNumber_eq whole starts
        rw [← number_of_ofChars? solid] at moved
        obtain ⟨seen, read⟩ := readLine_renumber state moved plain trace LineClass.standard
        simp only [Option.map_some, read]
        cases readLine dialect line state LineClass.standard with
        | error fault => exact ⟨trace, rfl⟩
        | ok next => exact later next seen

/-- The lines of the text without comments are the lines that remain, or one blank line if none does. -/
theorem readLines_withoutComments (text : String) (classes : List LineClass) :
    readLines dialect classes 1 {} (lines (dialect.withoutComments text).toList) =
      readLines dialect classes 1 {} (dialect.remainingLines text) := by
  rw [Dialect.withoutComments, String.toList_ofList]
  by_cases none : dialect.remainingLines text = []
  · rw [none]
    rfl
  · have areLines : AreLines (dialect.remainingLines text) := by
      intro chars member lineFeed
      exact (mem_of_mem_splitAt (List.mem_filter.mp member).1 lineFeed).2 rfl
    rw [lines_unlines areLines none]

/-- The program after the last line, with its metadata and its counts. -/
def ReadState.finish (metadata : Metadata) (state : ReadState) : Except ReadFault Program :=
  let state := state.reportAll (state.pending.map orphanWarning)
  (metadata.apply state.program).map fun program =>
    { program with statistics := program.computeStatistics (some ⟨state.external, state.unrecognized⟩) }

theorem program_readProgram (text : String) (metadata : Metadata) :
    ((readProgram dialect text metadata).map Reading.program).mapError StoppedReading.fault =
      (readLines dialect LineClass.standard 1 {} (lines text.toList)).mapError StoppedReading.fault >>=
        ReadState.finish metadata := by
  unfold readProgram readWith
  cases readLines dialect LineClass.standard 1 {} (lines text.toList) with
  | error stopped => rfl
  | ok state =>
    simp only [Except.mapError, bind, Except.bind, ReadState.finish]
    cases metadata.apply (state.reportAll (state.pending.map orphanWarning)).program <;> rfl

theorem ReadState.finish_renumber (metadata : Metadata) (state : ReadState) :
    (state.renumber renumbering trace).finish metadata =
      (state.finish metadata).map fun program => { program.renumber renumbering with comments := [] } := by
  have waiting : (state.renumber renumbering trace).pending.map orphanWarning =
      (state.pending.map orphanWarning).map (Diagnostic.renumber renumbering) := by
    simp [renumber, orphanWarning_renumber]
  simp only [finish, waiting, ← renumber_reportAll, program_renumber, Metadata.apply_renumber]
  cases metadata.apply (state.reportAll (state.pending.map orphanWarning)).program with
  | error fault => rfl
  | ok program =>
    have counted (counts : ReadingCounts) :
        { program.renumber renumbering with comments := [] }.computeStatistics (some counts) =
          program.computeStatistics (some counts) := Program.computeStatistics_renumber program counts
    simp only [Except.map, counted]
    rfl

/-- Without its comments a text gives the same program, or fails in the same way; only the comments are missing, and
every line has its number among the lines that remain. -/
theorem readProgram_withoutComments (marked : dialect.commentMark ≠ "") (text : String) (metadata : Metadata) :
    ((readProgram dialect (dialect.withoutComments text) metadata).map Reading.program).mapError StoppedReading.fault =
      ((readProgram dialect text metadata).map fun reading =>
        { reading.program.renumber (dialect.remainingNumber text) with comments := [] }).mapError
          StoppedReading.fault := by
  obtain ⟨trace, same⟩ := readLines_remainingLines marked (List.nil_append (lines text.toList)) {} []
  have outside : ((readProgram dialect text metadata).map fun reading =>
      { reading.program.renumber (dialect.remainingNumber text) with comments := [] }).mapError StoppedReading.fault =
        (((readProgram dialect text metadata).map Reading.program).mapError StoppedReading.fault).map fun program =>
          { program.renumber (dialect.remainingNumber text) with comments := [] } := by
    cases readProgram dialect text metadata <;> rfl
  rw [outside, program_readProgram, program_readProgram, readLines_withoutComments]
  refine (congrArg (· >>= ReadState.finish metadata) same).trans ?_
  simp only [List.length_nil, Nat.zero_add]
  cases readLines dialect LineClass.standard 1 {} (lines text.toList) with
  | error stopped => rfl
  | ok state => exact state.finish_renumber metadata

/-- A program with comments before its name, between its lines and inside a step. -/
def commentedText : String :=
  "// Filling of the tank\nTank FB3\nSTAP 1: Open\n  // the valve comes first\n- Valve open\n+ Level > 3\n//\n???"

theorem readProgram_withoutComments_commentedText :
    ({} : Dialect).commentMark ≠ "" ∧
      ({} : Dialect).withoutComments commentedText = "Tank FB3\nSTAP 1: Open\n- Valve open\n+ Level > 3\n???" ∧
      ((readProgram {} commentedText {}).map fun reading =>
        (reading.program.comments.length, reading.program.steps.map Step.marks)).toOption =
          some (3, [[some 3, some 5, some 6]]) ∧
      ((readProgram {} (({} : Dialect).withoutComments commentedText) {}).map Reading.program).mapError
          StoppedReading.fault =
        ((readProgram {} commentedText {}).map fun reading =>
          { reading.program.renumber (({} : Dialect).remainingNumber commentedText) with comments := [] }).mapError
            StoppedReading.fault :=
  ⟨by decide, by decide +kernel, by decide +kernel, readProgram_withoutComments (by decide) commentedText {}⟩

end StepFlow
