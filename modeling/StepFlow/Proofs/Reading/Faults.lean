import StepFlow.Analysis
import StepFlow.Proofs.Pattern.Reads
import StepFlow.Proofs.Success
import StepFlow.Proofs.Text.Lines
import StepFlow.Proofs.Text.Numeral

/-! # Why reading can fail

Reading stops only at a numeral that has too many digits. Whatever else could go wrong cannot, because of the patterns
that the parts of a line are taken from: a numeral has digits and nothing else, a block is named by letters of a block,
a reference names a step, and a comparison has a sign of a relation. The numerals are parts of the text, since a line
is a part of the text and a match keeps parts of the line.
-/

namespace StepFlow

open Text

/-- A run of decimal digits within a text. -/
def IsDigitRun (text run : List Char) : Prop := run <:+: text ∧ ∀ c ∈ run, isDecimal c = true

/-- A fault that says that a numeral within the text has too many digits. -/
def ReadFault.IsTooLong (text : List Char) (fault : ReadFault) : Prop :=
  ∃ run, IsDigitRun text run ∧ maxDigits < run.length ∧ fault = .numeral (.tooLong run.length)

/-- A result that, if it is a fault, says that a numeral within the text has too many digits. -/
def FailsOnlyOnDigits {α : Type} (text : List Char) (result : Except ReadFault α) : Prop :=
  ∀ fault, result = .error fault → fault.IsTooLong text

namespace FailsOnlyOnDigits

variable {α β : Type} {text part : List Char}

theorem ok (value : α) : FailsOnlyOnDigits text (.ok value) := nofun

theorem bind {result : Except ReadFault α} {next : α → Except ReadFault β} (first : FailsOnlyOnDigits text result)
    (second : ∀ value, result = .ok value → FailsOnlyOnDigits text (next value)) :
    FailsOnlyOnDigits text (result >>= next) := by
  cases result with
  | error fault =>
    intro other failed
    cases failed
    exact first fault rfl
  | ok value => exact second value rfl

theorem map {result : Except ReadFault α} (fails : FailsOnlyOnDigits text result) (change : α → β) :
    FailsOnlyOnDigits text (change <$> result) := by
  cases result with
  | error fault =>
    intro other failed
    cases failed
    exact fails fault rfl
  | ok value => exact .ok _

/-- What is due to a part of a text is due to the text. -/
theorem mono {result : Except ReadFault α} (fails : FailsOnlyOnDigits part result) (inside : part <:+: text) :
    FailsOnlyOnDigits text result := by
  intro fault failed
  obtain ⟨run, ⟨within, digits⟩, long, rfl⟩ := fails fault failed
  exact ⟨run, ⟨within.trans inside, digits⟩, long, rfl⟩

/-- What a numeral reads has a value, unless it is too long. -/
theorem ofNumeral (reads : Pattern.numeral.Reads part) : FailsOnlyOnDigits part (ReadFault.ofNumeral part) := by
  obtain ⟨nonempty, digits⟩ := reads.numeral
  intro fault failed
  rw [ReadFault.ofNumeral, readNumeral_of_isDecimal nonempty digits] at failed
  split at failed
  · rename_i long
    cases failed
    exact ⟨part, ⟨List.infix_rfl, digits⟩, long, rfl⟩
  · cases failed

theorem mapM {parts : List α} {read : α → Except ReadFault β}
    (each : ∀ part ∈ parts, FailsOnlyOnDigits text (read part)) : FailsOnlyOnDigits text (parts.mapM read) := by
  induction parts with
  | nil => exact .ok []
  | cons first rest ih =>
    obtain ⟨here, later⟩ := List.forall_mem_cons.mp each
    rw [List.mapM_cons]
    exact here.bind fun _ _ => (ih later).bind fun _ _ => .ok _

end FailsOnlyOnDigits

/-! ## Parts of a text -/

namespace ConditionLine

theorem infix_of_afterMark? {mark : String} {content rest : List Char} (marked : afterMark? mark content = some rest) :
    rest <:+: content := by
  rw [afterMark?] at marked
  split at marked
  · cases marked
  · obtain ⟨after, stripped, rfl⟩ := Option.map_eq_some_iff.mp marked
    have split := stripStart?_eq_some_iff.mp stripped
    exact (trim_isInfix after).trans (split ▸ List.suffix_append _ after).isInfix

theorem splitMark_isInfix (dialect : Dialect) (content : List Char) :
    (splitMark dialect content).rest <:+: content := by
  unfold splitMark
  split
  · rename_i marked
    exact infix_of_afterMark? marked
  · split
    · rename_i marked
      exact infix_of_afterMark? marked
    · exact List.infix_rfl

theorem splitNegation_isInfix (dialect : Dialect) (content : List Char) :
    (splitNegation dialect content).1 <:+: content := by
  unfold splitNegation
  split
  · rename_i found matched
    obtain ⟨stop, first, rfl⟩ := Option.map_eq_some_iff.mp matched
    obtain ⟨taken, after, -⟩ := Pattern.advances_of_mem_ends (List.mem_of_head? first)
    exact (trim_isInfix _).trans ⟨taken, [], by rw [List.append_nil]; exact after.symm⟩
  · exact List.infix_rfl

end ConditionLine

/-! ## Groups of the line patterns -/

theorem ConditionLine.groups_reference (dialect : Dialect) :
    (reference dialect).groups =
      [(1, .maybe (.seq (.span (.noneOf "()") .anyNumber false) (.one .blank))),
        (2, .seq .numeral (.times (.concat [.blanks, .mark '+', .blanks, .numeral]) .anyNumber true))] := by
  simp only [reference, Pattern.groups_concat, List.flatMap_cons, List.flatMap_nil, Pattern.groups,
    Pattern.groups_keyword, Pattern.maybe, Pattern.groups_times]
  rfl

theorem ConditionLine.groups_time (dialect : Dialect) :
    (time dialect).groups = [(1, .numeral), (2, .keyword dialect.conditions.timerUnits)] := by
  simp only [time, Pattern.groups_concat, List.flatMap_cons, List.flatMap_nil, Pattern.groups, Pattern.groups_keyword,
    Pattern.maybe, Pattern.groups_times]
  rfl

theorem ConditionLine.groups_comparison :
    comparison.groups =
      [(1, .span subjectChar .onceOrMore true),
        (2, .anyOf (Relation.all.map fun relation => .literal .exact relation.sign)),
        (3, .seq (.one .solid) (.span (.any false) .anyNumber false))] := rfl

theorem LineRule.groups_headerPattern :
    headerPattern.groups =
      [(1, .leading), (2, .either (.literal .full "FB") (.literal .full "FC")), (3, .numeral)] := rfl

theorem LineRule.groups_declarationPattern (dialect : Dialect) :
    (declarationPattern dialect).groups =
      [(1, .keyword dialect.declarationWords), (2, .numeral), (3, .remainder)] := by
  simp only [declarationPattern, Pattern.groups_concat, List.flatMap_cons, List.flatMap_nil, Pattern.groups,
    Pattern.groups_keyword, Pattern.maybe, Pattern.groups_times]
  rfl

theorem LineRule.groups_transitionPattern (dialect : Dialect) :
    (transitionPattern dialect).groups =
      [(1, .seq (.literal .full dialect.conditions.orMark) .blanks), (2, .numeral)] := by
  simp only [transitionPattern, Pattern.groups_concat, List.flatMap_cons, List.flatMap_nil, Pattern.groups,
    Pattern.groups_keyword, Pattern.groups_literal, Pattern.maybe, Pattern.groups_times]
  rfl

/-! ## Blocks and relations -/

/-- A letter of the types of blocks is the capital of all that spell it. -/
theorem upperOf_eq_of_sameFolded {c d : Char} (letter : c ∈ ['F', 'B', 'C']) (same : sameFolded c d = true) :
    upperOf d = [c] := by
  have all : ∀ c ∈ ['F', 'B', 'C'], ∀ code ∈ Folding.full.variants c, upperOf (Char.ofNat code) = [c] :=
    List.forall_iff_forall_mem.mp (by decide +kernel)
  simpa using all c letter d.toNat (toNat_mem_variants same)

theorem upperChars_of_spells {word part : List Char} (letters : ∀ c ∈ word, c ∈ ['F', 'B', 'C'])
    (spells : Spells word part) : upperChars part = word := by
  induction spells with
  | nil => rfl
  | cons same _ ih =>
    obtain ⟨here, later⟩ := List.forall_mem_cons.mp letters
    rw [upperChars, List.flatMap_cons, upperOf_eq_of_sameFolded here same]
    exact congrArg (_ :: ·) (ih later)

/-- Letters that are read as those of a block name a type of block. -/
theorem exists_ofLetters? {part : List Char}
    (reads : (Pattern.either (.literal .full "FB") (.literal .full "FC")).Reads part) :
    ∃ type, BlockType.ofLetters? (upper (String.ofList part)) = some type := by
  rcases reads.either with reads | reads
  · refine ⟨.functionBlock, ?_⟩
    rw [upper, String.toList_ofList, upperChars_of_spells (by simp) reads.letters]
    rfl
  · refine ⟨.function, ?_⟩
    rw [upper, String.toList_ofList, upperChars_of_spells (by simp) reads.letters]
    rfl

/-- A sign that is read as that of a relation names a relation. -/
theorem exists_ofSign? {part : List Char}
    (reads : (Pattern.anyOf (Relation.all.map fun relation => .literal .exact relation.sign)).Reads part) :
    ∃ relation, Relation.ofSign? (String.ofList part) = some relation := by
  obtain ⟨pattern, member, reads⟩ := reads.anyOf (by decide)
  obtain ⟨relation, isRelation, rfl⟩ := List.mem_map.mp member
  have spells : List.Forall₂ (fun c d => (c == d) = true) relation.sign.toList part := Pattern.Reads.letters reads
  have same : relation.sign.toList = part := by
    simpa [List.forall₂_eq_eq_eq] using spells
  refine Option.isSome_iff_exists.mp (List.find?_isSome.mpr ⟨relation, isRelation, ?_⟩)
  simp [← same]

/-! ## Condition lines -/

namespace ConditionLine

variable (dialect : Dialect) (body : List Char)

theorem findReference_fails (line : String) (number : Option Int) :
    FailsOnlyOnDigits body (findReference dialect line number body) := by
  unfold findReference
  split
  · exact .ok _
  · rename_i found searched
    obtain ⟨reads, inside⟩ : (Pattern.seq .numeral (.times (.concat [.blanks, .mark '+', .blanks, .numeral])
        .anyNumber true)).Reads (found.kept 2) ∧ found.kept 2 <:+: body :=
      Pattern.reads_kept_search searched rfl (by simp) (by simp [groups_reference])
    obtain ⟨first, others, split, isFirst, -⟩ := reads.seq
    obtain ⟨c, rest, rfl⟩ := List.exists_cons_of_ne_nil isFirst.numeral.1
    dsimp only
    split
    · exact .ok _
    · refine .bind (.mapM fun part member => ?_) fun numbers taken => ?_
      · obtain ⟨-, reads, within⟩ := Pattern.reads_of_mem_findAllFrom member
        exact (FailsOnlyOnDigits.ofNumeral reads).mono (within.trans inside)
      · have nonempty : numbers ≠ [] := by
          have digit := Pattern.findAll_numeral_ne_nil (isFirst.numeral.2 c (.head _)) (rest ++ others)
          rw [← List.cons_append, ← split] at digit
          exact List.ne_nil_of_length_pos (length_of_mapM_eq_ok taken ▸ List.length_pos_iff.mpr digit)
        rw [CrossReference.ofNumbers?, dif_pos (by simpa using nonempty)]
        exact .ok _

theorem findTime_fails : FailsOnlyOnDigits body (findTime dialect body) := by
  unfold findTime
  split
  · exact .ok _
  · rename_i found searched
    obtain ⟨reads, inside⟩ : Pattern.numeral.Reads (found.kept 1) ∧ found.kept 1 <:+: body :=
      Pattern.reads_kept_search searched rfl (by simp) (by simp [groups_time])
    exact ((FailsOnlyOnDigits.ofNumeral reads).mono inside).bind fun _ _ => .ok _

theorem findComparison_fails : FailsOnlyOnDigits body (findComparison body) := by
  unfold findComparison
  split
  · exact .ok _
  · rename_i found searched
    obtain ⟨reads, -⟩ : (Pattern.anyOf (Relation.all.map fun relation => .literal .exact relation.sign)).Reads
        (found.kept 2) ∧ found.kept 2 <:+: body :=
      Pattern.reads_kept_search searched rfl (by simp) (by simp [groups_comparison])
    obtain ⟨relation, known⟩ := exists_ofSign? reads
    rw [known]
    exact .ok _

theorem extract_fails (line : String) (number : Option Int) :
    FailsOnlyOnDigits line.toList (extract dialect line number) := by
  have inside : (splitNegation dialect (splitMark dialect (trim line.toList)).rest).1 <:+: line.toList :=
    ((splitNegation_isInfix dialect _).trans (splitMark_isInfix dialect _)).trans (trim_isInfix _)
  refine .bind ((findReference_fails dialect _ line number).mono inside) fun _ _ => ?_
  refine .bind ((findTime_fails dialect _).mono inside) fun _ _ => ?_
  exact .bind ((findComparison_fails _).mono inside) fun _ _ => .ok _

end ConditionLine

/-! ## Lines -/

namespace LineRule

variable (dialect : Dialect) (line : Line) (state : ReadState)

theorem header_fails : FailsOnlyOnDigits line.content (header dialect line state) := by
  unfold header
  split
  · exact .ok _
  · split
    · rename_i found matched
      obtain ⟨letters, -⟩ : (Pattern.either (.literal .full "FB") (.literal .full "FC")).Reads (found.kept 2) ∧
          found.kept 2 <:+: line.content :=
        Pattern.reads_kept_start matched rfl (by simp) (by simp [groups_headerPattern])
      obtain ⟨number, inside⟩ : Pattern.numeral.Reads (found.kept 3) ∧ found.kept 3 <:+: line.content :=
        Pattern.reads_kept_start matched rfl (by simp) (by simp [groups_headerPattern])
      obtain ⟨type, known⟩ := exists_ofLetters? letters
      have named : FailsOnlyOnDigits line.content (blockOf (found.kept 2) (found.kept 3)) := by
        refine ((FailsOnlyOnDigits.ofNumeral number).mono inside).bind fun _ _ => ?_
        rw [known]
        exact .ok _
      exact named.bind fun _ _ => .ok _
    · split <;> exact .ok _

theorem declaration_fails : FailsOnlyOnDigits line.content (declaration dialect line state) := by
  unfold declaration
  split
  · exact .ok _
  · split
    · exact .ok _
    · rename_i found matched
      have kinds (keyword : String) : FailsOnlyOnDigits line.content (kindOf dialect keyword (found.kept 2)) := by
        unfold kindOf
        split
        · exact .ok _
        · split
          · exact .ok _
          · rename_i given
            obtain ⟨number, inside⟩ : Pattern.numeral.Reads (found.kept 2) ∧ found.kept 2 <:+: line.content :=
              Pattern.reads_kept_start_of_ne_nil matched (by simpa using given) (by simp [groups_declarationPattern])
            exact ((FailsOnlyOnDigits.ofNumeral number).mono inside).map _
      exact (kinds _).bind fun _ _ => .ok _

theorem transition_fails : FailsOnlyOnDigits line.content (transition dialect line state) := by
  unfold transition
  split
  · exact .ok _
  · rename_i found matched
    obtain ⟨number, inside⟩ : Pattern.numeral.Reads (found.kept 2) ∧ found.kept 2 <:+: line.content :=
      Pattern.reads_kept_start matched rfl (by simp) (by simp [groups_transitionPattern])
    exact ((FailsOnlyOnDigits.ofNumeral number).mono inside).bind fun _ _ => .ok _

theorem condition_fails : FailsOnlyOnDigits line.content (condition dialect line state) := by
  unfold condition
  split
  · exact .ok _
  · split
    · exact .ok _
    · have inside := ConditionLine.extract_fails dialect line.text (some line.number)
      rw [Line.text, String.toList_ofList] at inside
      exact inside.bind fun _ _ => .ok _

end LineRule

/-- No rule but that of the class without rule fails on anything but a numeral of its line. -/
theorem LineClass.rule_fails (dialect : Dialect) (line : Line) (state : ReadState) {lineClass : LineClass}
    (ruled : lineClass ≠ .bare) : FailsOnlyOnDigits line.content (lineClass.rule dialect line state) := by
  cases lineClass with
  | comment =>
    simp only [rule, LineRule.comment]
    split <;> exact .ok _
  | header => exact LineRule.header_fails dialect line state
  | instanceName =>
    simp only [rule, LineRule.instanceName]
    split <;> exact .ok _
  | declaration => exact LineRule.declaration_fails dialect line state
  | transition => exact LineRule.transition_fails dialect line state
  | assignment =>
    simp only [rule, LineRule.assignment]
    split
    · exact .ok _
    · split
      · exact .ok _
      · split
        · exact .ok _
        · split <;> exact .ok _
  | condition => exact LineRule.condition_fails dialect line state
  | unrecognized => exact .ok _
  | bare => exact absurd rfl ruled

theorem readLine_fails (dialect : Dialect) (line : Line) (state : ReadState) {classes : List LineClass}
    (ruled : .bare ∉ classes) : FailsOnlyOnDigits line.content (readLine dialect line state classes) := by
  induction classes with
  | nil => exact .ok _
  | cons lineClass rest ih =>
    obtain ⟨differs, later⟩ := not_or.mp (mt List.mem_cons.mpr ruled)
    refine (LineClass.rule_fails dialect line state (Ne.symm differs)).bind fun verdict _ => ?_
    cases verdict with
    | none => exact ih later
    | some next => exact .ok _

/-! ## Texts -/

/-- Reading lines of a text stops only at a numeral of the text. -/
theorem isTooLong_of_readLines {dialect : Dialect} {classes : List LineClass} (ruled : .bare ∉ classes)
    {text : List Char} {lines : List (List Char)} (inside : ∀ chars ∈ lines, chars <:+: text) {number : Nat}
    {state : ReadState} {stopped : StoppedReading}
    (failed : readLines dialect classes number state lines = .error stopped) : stopped.fault.IsTooLong text := by
  induction lines generalizing number state with
  | nil => cases failed
  | cons chars rest ih =>
    obtain ⟨here, later⟩ := List.forall_mem_cons.mp inside
    rw [readLines] at failed
    split at failed
    · exact ih later failed
    · rename_i line isLine
      split at failed
      · rename_i fault stops
        cases failed
        have content : line.content <:+: text := by
          rw [Line.ofChars?] at isLine
          split at isLine
          · cases isLine
          · cases isLine
            exact (trim_isInfix chars).trans here
        exact (readLine_fails dialect line state ruled).mono content fault stops
      · exact ih later failed

/-- Without metadata there is nothing that could not be filled in. -/
theorem Metadata.exists_apply_empty (program : Program) : ∃ filled, Metadata.apply {} program = .ok filled := by
  cases found : program.block <;> exact ⟨_, by simp only [apply, found]; rfl⟩

theorem isTooLong_of_readProgram {dialect : Dialect} {text : String} {stopped : StoppedReading}
    (failed : readProgram dialect text {} = .error stopped) : stopped.fault.IsTooLong text.toList := by
  rw [readProgram, readWith] at failed
  cases ran : readLines dialect LineClass.standard 1 {} (lines text.toList) with
  | error early =>
    rw [ran] at failed
    cases failed
    exact isTooLong_of_readLines (by decide) (fun chars => infix_of_mem_lines) ran
  | ok state =>
    obtain ⟨filled, applied⟩ :=
      Metadata.exists_apply_empty (state.reportAll (state.pending.map orphanWarning)).program
    simp only [ran, bind, Except.bind, applied] at failed
    cases failed

/-- Reading and checking a text stops only at a numeral of the canonical text that has too many digits, and succeeds if
there is none. -/
theorem analyze_fails_only_on_digits (setup : Setup) (source : SourceKind) (text : String) :
    (∀ stopped, analyze setup source {} text = .error stopped →
      stopped.fault.IsTooLong (normalize setup.dialect source text).toList) ∧
    ((∀ run, IsDigitRun (normalize setup.dialect source text).toList run → run.length ≤ maxDigits) →
      ∃ analysis, analyze setup source {} text = .ok analysis) := by
  have stops (stopped : StoppedReading) (failed : analyze setup source {} text = .error stopped) :
      stopped.fault.IsTooLong (normalize setup.dialect source text).toList := by
    cases ran : readProgram setup.dialect (normalize setup.dialect source text) {} with
    | error early =>
      rw [analyze, ran] at failed
      cases failed
      exact isTooLong_of_readProgram ran
    | ok reading =>
      rw [analyze, ran] at failed
      cases failed
  refine ⟨stops, fun short => ?_⟩
  cases outcome : analyze setup source {} text with
  | ok analysis => exact ⟨analysis, rfl⟩
  | error stopped =>
    obtain ⟨run, isRun, long, -⟩ := stops stopped outcome
    exact absurd (short run isRun) (by omega)

/-- A text with numerals in a block, a declaration, a reference and a time, all of them short. -/
theorem analyze_fails_only_on_digits_short_numerals :
    ∃ analysis, analyze {} .directEntry {} "Pomp FB12\nSTAP 3: vul\n  - (Tank STAP 4+5) TIJD 10 sek" =
      .ok analysis := by
  refine (analyze_fails_only_on_digits {} .directEntry _).2 fun run isRun => ?_
  have short : (normalize {} .directEntry
      "Pomp FB12\nSTAP 3: vul\n  - (Tank STAP 4+5) TIJD 10 sek").toList.length ≤ maxDigits := by decide +kernel
  exact isRun.1.length_le.trans short

end StepFlow
