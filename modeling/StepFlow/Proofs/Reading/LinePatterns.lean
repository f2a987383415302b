import Mathlib.Data.List.DropRight
import StepFlow.Proofs.Layout.Heads
import StepFlow.Proofs.Pattern.Reads
import StepFlow.Proofs.Text.Lines
import StepFlow.Reading.Rules

/-! # What the patterns of lines read

A line of a text has no line feed, so the end of a line is the end of the text. Declarations are then read from left to
right: the word, the digits if there are any, the colon, the description. A header is any text, blanks, and the name
of a block. The pattern of instance names and that of ends leave declarations alone, as no word stands for two things.
-/

namespace StepFlow

open Text Pattern Layout

/-! ## Declarations -/

/-- What a declaration says: its word, the digits of its number, and its description. -/
structure Declaration where
  word : List Char
  digits : List Char
  description : List Char
  deriving Repr, DecidableEq

/-- A text of the form of a declaration. Blanks may stand around the number. -/
def Declaration.IsWritten (dialect : Dialect) (declaration : Declaration) (text : List Char) : Prop :=
  ∃ gap gap', text = declaration.word ++ (gap ++ (declaration.digits ++ (gap' ++ ':' :: declaration.description))) ∧
    IsKeyword dialect.declarationWords declaration.word ∧ (∀ c ∈ gap, isBlank c = true) ∧
    (∀ c ∈ declaration.digits, isDecimal c = true) ∧ ∀ c ∈ gap', isBlank c = true

/-- What follows a colon, before which blanks may stand. -/
def afterColon? (text : List Char) : Option (List Char) :=
  match text.dropWhile isBlank with
  | ':' :: rest => some rest
  | _ => none

/-- Reads a declaration. -/
def readDeclaration? (dialect : Dialect) (text : List Char) : Option Declaration :=
  (keyword? dialect.declarationWords text).bind fun (word, rest) =>
    let numbered := rest.dropWhile isBlank
    (afterColon? (numbered.dropWhile isDecimal)).map (⟨word, numbered.takeWhile isDecimal, ·⟩)

theorem afterColon?_eq_some_iff {text rest : List Char} :
    afterColon? text = some rest ↔ text.dropWhile isBlank = ':' :: rest := by
  unfold afterColon?
  split
  · rename_i other colon
    rw [colon]
    simp
  · rename_i noColon
    refine ⟨nofun, fun colon => absurd colon (noColon rest)⟩

theorem afterColon?_cons {c : Char} (solid : isBlank c = false) (rest : List Char) :
    afterColon? (c :: rest) = if c = ':' then some rest else none := by
  rw [afterColon?, List.dropWhile_cons, solid, if_neg Bool.false_ne_true]
  split
  · rename_i colon
    cases colon
    rfl
  · rename_i noColon
    rw [if_neg]
    rintro rfl
    exact noColon rest rfl

theorem suffix_of_afterColon? {text rest : List Char} (found : afterColon? text = some rest) : rest <:+ text := by
  have dropped := List.dropWhile_suffix isBlank (l := text)
  rw [afterColon?_eq_some_iff.mp found] at dropped
  exact (List.suffix_cons ':' rest).trans dropped

theorem afterColon?_dropWhile (text : List Char) : afterColon? (text.dropWhile isBlank) = afterColon? text := by
  rw [afterColon?, List.dropWhile_idempotent, afterColon?]

/-- A declaration is read in one way only. -/
theorem readDeclaration?_eq_some_iff {dialect : Dialect} (readable : dialect.Readable) {text : List Char}
    {declaration : Declaration} :
    readDeclaration? dialect text = some declaration ↔ declaration.IsWritten dialect text := by
  have free := readable.declaring.prefixFree
  constructor
  · intro read
    obtain ⟨⟨word, rest⟩, isWord, found⟩ := Option.bind_eq_some_iff.mp read
    obtain ⟨keyword, rfl⟩ := (keyword?_eq_some_iff free).mp isWord
    obtain ⟨description, colon, rfl⟩ := Option.map_eq_some_iff.mp found
    refine ⟨rest.takeWhile isBlank, ((rest.dropWhile isBlank).dropWhile isDecimal).takeWhile isBlank, ?_, keyword,
      fun c => List.mem_takeWhile_imp, fun c => List.mem_takeWhile_imp, fun c => List.mem_takeWhile_imp⟩
    rw [← afterColon?_eq_some_iff.mp colon, List.takeWhile_append_dropWhile, List.takeWhile_append_dropWhile,
      List.takeWhile_append_dropWhile]
  · obtain ⟨word, digits, description⟩ := declaration
    rintro ⟨gap, gap', rfl, keyword, blank, decimal, blank'⟩
    have afterDigits : (gap' ++ ':' :: description).head?.any isDecimal = false := by
      cases gap' with
      | nil => rfl
      | cons c gap' => exact isDecimal_of_isBlank (blank' c (.head _))
    have colon : afterColon? (gap' ++ ':' :: description) = some description :=
      afterColon?_eq_some_iff.mpr (dropWhile_append_of_stop blank' rfl)
    rw [readDeclaration?, (keyword?_eq_some_iff free).mpr ⟨keyword, rfl⟩, Option.bind_some]
    cases digits with
    | nil =>
      have numbered : (gap ++ ([] ++ (gap' ++ ':' :: description))).dropWhile isBlank = ':' :: description := by
        rw [List.nil_append, List.dropWhile_append_of_pos blank, afterColon?_eq_some_iff.mp colon]
      simp only [numbered]
      rfl
    | cons d digits =>
      have numbered : (gap ++ (d :: digits ++ (gap' ++ ':' :: description))).dropWhile isBlank =
          d :: digits ++ (gap' ++ ':' :: description) :=
        dropWhile_append_of_stop blank (isBlank_of_isDecimal (decimal d (.head _)))
      simp only [numbered, dropWhile_append_of_stop decimal afterDigits, takeWhile_append_of_stop decimal afterDigits,
        colon, Option.map_some]

/-! ### The pattern of declarations -/

theorem any_holds {c : Char} (inLine : c ≠ '\n') : (CharTest.any false).holds c = true := by
  simp [CharTest.holds, inLine]

theorem any_holds_of_mem {text : List Char} (single : '\n' ∉ text) : ∀ c ∈ text, (CharTest.any false).holds c = true :=
  fun _ member => any_holds fun lineFeed => single (lineFeed ▸ member)

/-- The description of a declaration, with the blanks before it. -/
def descriptionPart : Pattern := .concat [.blanks, .group 3 .remainder, .finish]

theorem andThen?_descriptionPart (before : List Char) {after : List Char} (single : '\n' ∉ after)
    (captures : List Capture) :
    (descriptionPart.andThen? some ⟨before, after, captures⟩).map Place.captures =
      some (⟨3, after.dropWhile isBlank, []⟩ :: captures) := by
  have all : ∀ c ∈ after.dropWhile isBlank, (CharTest.any false).holds c = true := fun c member =>
    any_holds fun lineFeed => single (lineFeed ▸ (List.dropWhile_suffix isBlank).subset member)
  have left : (after.dropWhile isBlank).dropWhile (CharTest.any false).holds = [] := List.dropWhile_eq_nil_iff.mpr all
  have ends (before : List Char) : ∃ reached,
      (concat [group 3 remainder, finish]).andThen? some ⟨before, after.dropWhile isBlank, captures⟩ =
        some ⟨reached, [], ⟨3, after.dropWhile isBlank, []⟩ :: captures⟩ := by
    rw [andThen?_concat_cons, andThen?_group, remainder, andThen?_span, left]
    · exact ⟨_, rfl⟩
    · rw [left]
      intro failed
      cases failed
  obtain ⟨reached, passed⟩ := ends ((after.takeWhile isBlank).reverse ++ before)
  rw [descriptionPart, andThen?_concat_cons, andThen?_blanks_of_backtrack, passed]
  · rfl
  · rw [passed]
    intro failed
    cases failed

/-- The colon of a declaration, with the blanks before it, and the description. -/
def colonPart : Pattern := .concat [.blanks, .mark ':', .blanks, .group 3 .remainder, .finish]

theorem andThen?_colonPart (before after : List Char) (captures : List Capture) :
    colonPart.andThen? some ⟨before, after, captures⟩ =
      (afterColon? after).bind fun rest => descriptionPart.andThen? some
        ⟨':' :: ((after.takeWhile isBlank).reverse ++ before), rest, captures⟩ := by
  have marked (before : List Char) (c : Char) (rest : List Char) :
      (concat [mark ':', blanks, group 3 remainder, finish]).andThen? some ⟨before, c :: rest, captures⟩ =
        if c = ':' then descriptionPart.andThen? some ⟨c :: before, rest, captures⟩ else none := by
    rw [andThen?_concat_cons, mark, andThen?_one_cons, CharTest.char_exact_holds]
    simp only [beq_iff_eq, eq_comm (a := ':')]
    rfl
  rw [colonPart, andThen?_concat_cons, andThen?_blanks, ← afterColon?_dropWhile]
  · cases dropped : after.dropWhile isBlank with
    | nil => rfl
    | cons c rest =>
      rw [marked, afterColon?_cons (isBlank_of_dropWhile dropped)]
      split
      · rename_i colon
        rw [colon, Option.bind_some]
      · rfl
  · intro before c rest blank
    rw [marked, if_neg]
    rintro rfl
    cases blank

/-- In a text of one line, the colon is followed by the description. -/
theorem captures_colonPart (before : List Char) {after : List Char} (single : '\n' ∉ after) (captures : List Capture) :
    (colonPart.andThen? some ⟨before, after, captures⟩).map Place.captures =
      (afterColon? after).map fun description => ⟨3, description.dropWhile isBlank, []⟩ :: captures := by
  rw [andThen?_colonPart]
  cases colon : afterColon? after with
  | none => rfl
  | some description =>
    have inLine : '\n' ∉ description := fun lineFeed => single ((suffix_of_afterColon? colon).subset lineFeed)
    rw [Option.bind_some, andThen?_descriptionPart _ inLine]
    rfl

/-- The number of a declaration, with the blanks before it. -/
theorem andThen?_numberedColon (before after : List Char) (captures : List Capture) :
    (seq blanks (group 2 numeral)).andThen? (colonPart.andThen? some) ⟨before, after, captures⟩ =
      if ((after.dropWhile isBlank).takeWhile isDecimal).isEmpty then none
      else colonPart.andThen? some
        ⟨((after.dropWhile isBlank).takeWhile isDecimal).reverse ++ ((after.takeWhile isBlank).reverse ++ before),
          (after.dropWhile isBlank).dropWhile isDecimal,
          ⟨2, after.dropWhile isBlank, (after.dropWhile isBlank).dropWhile isDecimal⟩ :: captures⟩ := by
  rw [andThen?_seq, andThen?_blanks, andThen?_group, andThen?_numeral]
  · intro before c rest digit
    rw [andThen?_colonPart, afterColon?_cons (isBlank_of_isDecimal digit), if_neg]
    · rfl
    · rintro rfl
      cases digit
  · intro before c rest blank
    rw [andThen?_group, numeral, andThen?_someSpan_of_not]
    rw [CharTest.decimal_holds, isDecimal_of_isBlank blank]

/-- A text that goes on with digits does not go on with a colon. -/
theorem afterColon?_of_digits {text : List Char} (numbered : (text.dropWhile isBlank).takeWhile isDecimal ≠ []) :
    afterColon? text = none := by
  rw [← afterColon?_dropWhile]
  cases dropped : text.dropWhile isBlank with
  | nil => rfl
  | cons c more =>
    rw [afterColon?_cons (isBlank_of_dropWhile dropped), if_neg]
    rintro rfl
    rw [dropped] at numbered
    exact numbered rfl

/-- What follows the word of a declaration: the digits, if there are any, and the description. -/
theorem captures_numberedColon (before : List Char) {after : List Char} (single : '\n' ∉ after)
    (captures : List Capture) :
    ((maybe (seq blanks (group 2 numeral))).andThen? (colonPart.andThen? some) ⟨before, after, captures⟩).map
        Place.captures =
      (afterColon? ((after.dropWhile isBlank).dropWhile isDecimal)).map fun description =>
        ⟨3, description.dropWhile isBlank, []⟩ ::
          if ((after.dropWhile isBlank).takeWhile isDecimal).isEmpty then captures
          else ⟨2, after.dropWhile isBlank, (after.dropWhile isBlank).dropWhile isDecimal⟩ :: captures := by
  have whole := List.takeWhile_append_dropWhile (p := isDecimal) (l := after.dropWhile isBlank)
  have inLine : '\n' ∉ (after.dropWhile isBlank).dropWhile isDecimal := fun lineFeed =>
    single (((List.dropWhile_suffix _).trans (List.dropWhile_suffix _)).subset lineFeed)
  change ((loop (seq blanks (group 2 numeral)) .optional true).andThen? (colonPart.andThen? some) _).map _ = _
  rw [andThen?_optional, andThen?_numberedColon]
  split
  · rename_i numberless
    rw [List.isEmpty_iff.mp numberless, List.nil_append] at whole
    rw [Option.none_or, captures_colonPart _ single, whole, afterColon?_dropWhile]
  · rename_i numbered
    have noColon := afterColon?_of_digits (mt List.isEmpty_iff.mpr numbered)
    rw [andThen?_colonPart _ after, noColon, Option.bind_none, Option.or_none, captures_colonPart _ inLine]

/-- The pattern of declarations reads them, in a text of one line. -/
theorem matchStart?_declarationPattern {dialect : Dialect} (readable : dialect.Readable) {text : List Char}
    (single : '\n' ∉ text) :
    ((LineRule.declarationPattern dialect).matchStart? text).map
        (fun found => (found.kept 1, found.kept 2, found.kept 3)) =
      (readDeclaration? dialect text).map fun declaration =>
        (declaration.word, declaration.digits, declaration.description.dropWhile isBlank) := by
  rw [LineRule.declarationPattern, matchStart?_keyword readable.declaring.nonempty readable.declaring.prefixFree,
    readDeclaration?]
  cases found : keyword? dialect.declarationWords text with
  | none => rfl
  | some read =>
    obtain ⟨word, rest⟩ := read
    obtain ⟨-, rfl⟩ := (keyword?_eq_some_iff readable.declaring.prefixFree).mp found
    have inLine : '\n' ∉ rest := fun lineFeed => single (List.mem_append_right _ lineFeed)
    have passed := captures_numberedColon word.reverse inLine [⟨1, word ++ rest, rest⟩]
    rw [Option.bind_some, Option.bind_some, andThen?_concat_cons]
    change (((maybe (seq blanks (group 2 numeral))).andThen? (colonPart.andThen? some) _).map _).map _ = _
    dsimp only
    cases colon : afterColon? ((rest.dropWhile isBlank).dropWhile isDecimal) with
    | none =>
      rw [colon, Option.map_none, Option.map_eq_none_iff] at passed
      rw [passed]
      rfl
    | some description =>
      rw [colon] at passed
      obtain ⟨stop, passed, captures⟩ := Option.map_eq_some_iff.mp passed
      rw [passed]
      have digits := capture_text_takeWhile 2 isDecimal (rest.dropWhile isBlank)
      by_cases numberless : ((rest.dropWhile isBlank).takeWhile isDecimal).isEmpty
      · rw [if_pos numberless] at captures
        simp [Place.kept?, captures, Capture.text, List.isEmpty_iff.mp numberless]
      · rw [if_neg numberless] at captures
        simpa [Place.kept?, captures, Capture.text] using digits

/-! ## Headers -/

/-- A text that ends in the name of a block: something, blanks, the letters of a block, its number. -/
def NamesBlock (text : List Char) : Prop :=
  ∃ name gap letters digits, text = name ++ (gap ++ (letters ++ digits)) ∧ name ≠ [] ∧
    (gap ≠ [] ∧ ∀ c ∈ gap, isBlank c = true) ∧ IsKeyword ["FB", "FC"] letters ∧
    (digits ≠ [] ∧ ∀ c ∈ digits, isDecimal c = true)

/-- Where a line may end, there is nothing more or a line feed. -/
theorem after_of_mem_ends_finish {place stop : Place} (member : stop ∈ (concat [finish]).ends place) :
    place.after = [] ∨ place.after = ['\n'] := by
  rw [show concat [finish] = edge .lastLineEnd from rfl, ends] at member
  split at member
  · rename_i holds
    rcases Bool.or_eq_true_iff.mp holds with empty | lineFeed
    · exact .inl (List.isEmpty_iff.mp empty)
    · exact .inr (beq_iff_eq.mp lineFeed)
  · cases member

theorem namesBlock_of_mem_ends {text : List Char} (single : '\n' ∉ text) {stop : Place}
    (member : stop ∈ LineRule.headerPattern.ends ⟨[], text, []⟩) : NamesBlock text := by
  obtain ⟨start, isStart, member⟩ := mem_ends_concat_cons.mp member
  obtain rfl : start = ⟨[], text, []⟩ := by simpa [Pattern.start, ends, Edge.holds] using isStart
  obtain ⟨name, _, named, isName, member⟩ := exists_reads_of_mem_concat member
  obtain ⟨gap, _, spaced, isGap, member⟩ := exists_reads_of_mem_concat member
  obtain ⟨letters, _, lettered, isLetters, member⟩ := exists_reads_of_mem_concat member
  obtain ⟨digits, last, numbered, isDigits, member⟩ := exists_reads_of_mem_concat member
  have whole : text = name ++ (gap ++ (letters ++ (digits ++ last.after))) := by
    rw [← numbered, ← lettered, ← spaced]
    exact named
  have ended : last.after = [] := (after_of_mem_ends_finish member).resolve_right fun lineFeed =>
    single (by simp [whole, lineFeed])
  have spells : IsKeyword ["FB", "FC"] letters := by
    rcases isLetters.group.either with isBlock | isFunction
    · exact ⟨"FB", by simp, isBlock.letters⟩
    · exact ⟨"FC", by simp, isFunction.letters⟩
  obtain ⟨blank, some⟩ := isGap.span
  rw [CharTest.blank_holds_eq] at blank
  rw [ended, List.append_nil] at whole
  exact ⟨name, gap, letters, digits, whole, List.ne_nil_of_length_pos isName.group.span.2,
    ⟨List.ne_nil_of_length_pos some, blank⟩, spells, isDigits.group.numeral⟩

theorem NamesBlock.exists_mem_ends {text : List Char} (names : NamesBlock text) (single : '\n' ∉ text) :
    ∃ stop, stop ∈ LineRule.headerPattern.ends ⟨[], text, []⟩ := by
  obtain ⟨name, gap, letters, digits, rfl, nonempty, ⟨some, blank⟩, ⟨word, isWord, spells⟩, given, decimal⟩ := names
  have inLine : ∀ c ∈ name, (CharTest.any false).holds c = true := fun c member =>
    any_holds fun lineFeed => single (lineFeed ▸ List.mem_append_left _ member)
  have named : leading.Passes name := .span inLine (List.length_pos_iff.mpr nonempty) false
  have spaced : someBlanks.Passes gap := .span (by simpa using blank) (List.length_pos_iff.mpr some) true
  have block : (either (literal .full "FB") (literal .full "FC")).Passes letters := by
    intro before rest captures
    obtain ⟨captures', member⟩ := Passes.letters spells before rest captures
    rcases List.mem_pair.mp isWord with rfl | rfl
    · exact ⟨captures', List.mem_append_left _ member⟩
    · exact ⟨captures', List.mem_append_right _ member⟩
  have digital := Passes.numeral given decimal
  have ended : (concat [finish]).GoesThrough [] := fun before captures => ⟨_, List.mem_singleton.mpr rfl⟩
  have numbered := (digital.group 3).goesThrough ended
  rw [List.append_nil] at numbered
  obtain ⟨reached, member⟩ :=
    (named.group 1).goesThrough (spaced.goesThrough ((block.group 2).goesThrough numbered)) [] []
  exact ⟨reached, mem_ends_concat_cons.mpr ⟨_, List.mem_singleton.mpr rfl, member⟩⟩

/-- A header is a text that ends in the name of a block. -/
theorem startsIn_headerPattern {text : List Char} (single : '\n' ∉ text) :
    LineRule.headerPattern.startsIn text = true ↔ NamesBlock text := by
  rw [startsIn_iff]
  constructor
  · rintro ⟨stop, member⟩
    exact namesBlock_of_mem_ends single member
  · exact fun names => names.exists_mem_ends single

/-! ## Instance names and ends of steps -/

/-- The words that declare steps cannot be mistaken for marks of the instance name or for words that end a step. -/
structure Dialect.Unmistakable (dialect : Dialect) : Prop extends dialect.Readable where
  marks_ne_nil : dialect.instanceMarks ≠ []
  prefixFree : PrefixFree (dialect.declarationWords ++ dialect.instanceMarks ++ dialect.stepWords.ending)
  not_mark : ∀ word ∈ dialect.declarationWords, word ∉ dialect.instanceMarks
  not_ending : ∀ word ∈ dialect.declarationWords, word ∉ dialect.stepWords.ending

theorem Dialect.unmistakable_default : ({} : Dialect).Unmistakable where
  toReadable := readable_default
  marks_ne_nil := by decide
  prefixFree := by decide +kernel
  not_mark := by decide +kernel
  not_ending := by decide +kernel

namespace Declaration.IsWritten

variable {dialect : Dialect} (unmistakable : dialect.Unmistakable) {declaration : Declaration} {text : List Char}
  (written : declaration.IsWritten dialect text)
include unmistakable written

theorem keyword?_eq_none {words : List String}
    (known : words ⊆ dialect.declarationWords ++ dialect.instanceMarks ++ dialect.stepWords.ending)
    (apart : ∀ word ∈ dialect.declarationWords, word ∉ words) : keyword? words text = none := by
  obtain ⟨gap, gap', whole, isWord, -⟩ := written
  rw [whole]
  exact unmistakable.prefixFree.keyword?_eq_none
    (List.subset_append_of_subset_left _ (List.subset_append_left _ _)) known apart isWord _

theorem matchStart?_instancePattern : (LineRule.instancePattern dialect).matchStart? text = none := by
  have known : dialect.instanceMarks ⊆
      dialect.declarationWords ++ dialect.instanceMarks ++ dialect.stepWords.ending := by simp
  have free := unmistakable.prefixFree.of_subset known
  have unread := written.keyword?_eq_none unmistakable known unmistakable.not_mark
  rw [LineRule.instancePattern, matchStart?_start, andThen?_concat_cons,
    andThen?_keyword _ unmistakable.marks_ne_nil free, unread]
  rfl

theorem endsStep_eq_false : LineRule.endsStep dialect text = false := by
  have known : dialect.stepWords.ending ⊆
      dialect.declarationWords ++ dialect.instanceMarks ++ dialect.stepWords.ending := by simp
  have free := unmistakable.prefixFree.of_subset known
  rw [LineRule.endsStep, Bool.and_eq_false_iff]
  by_cases none : dialect.stepWords.ending = []
  · exact .inl (by rw [none]; rfl)
  · refine .inr ?_
    rw [startsIn, LineRule.endPattern, matchStart?_start, andThen?_concat_cons, andThen?_keyword _ none free,
      written.keyword?_eq_none unmistakable known unmistakable.not_ending]
    rfl

omit unmistakable in
theorem colon_mem : ':' ∈ text := by
  obtain ⟨gap, gap', rfl, -⟩ := written
  simp

end Declaration.IsWritten

end StepFlow
