import StepFlow.Proofs.Layout.Alphabet
import StepFlow.Proofs.Layout.Embedded
import StepFlow.Proofs.Pattern.Search
import StepFlow.Proofs.Reading.ExplicitMarks

/-! # Rest declarations between layout and reader

The layout finds a rest declaration by comparing the letters of its keyword without regard to case, and writes the
keyword in upper case. The reader looks that word up among the rest words in upper case. The two ways agree on every
keyword whose upper-case form is that of a rest word. They part where a character is compared as a letter but is a
capital of its own: İ as I, and the Kelvin sign as K. Such a keyword declares a numbered step.
-/

namespace StepFlow

open Text Pattern LineRule

/-! ## Letters from A to Z -/

section Letters

variable {c d : Char}

/-- What is true of the letters in the first half of the table is true of every letter from A to Z. -/
theorem forall_alpha {P : Char → Prop}
    (all : ∀ code ∈ List.range 128, (Char.ofNat code).isAlpha = true → P (Char.ofNat code))
    (alpha : c.isAlpha = true) : P c := by
  have low : c.toNat < 128 := by
    rcases (Bool.or_eq_true _ _).mp alpha with upper | lower
    · have last : c.val ≤ 'Z'.val := (of_decide_eq_true upper).2
      exact Nat.lt_of_le_of_lt (UInt32.le_iff_toNat_le.mp last) (by decide)
    · have last : c.val ≤ 'z'.val := of_decide_eq_true ((Bool.and_eq_true _ _).mp lower).2
      exact Nat.lt_of_le_of_lt (UInt32.le_iff_toNat_le.mp last) (by decide)
  simpa using all c.toNat (List.mem_range.mpr low) (by simpa using alpha)

/-- Characters that are compared as letters from A to Z, but are capitals of their own. -/
def strayCapitals : List Char := ['İ', Char.ofNat 0x212A]

/-- What is true of the letters from A to Z and the characters that are compared as them, one by one. -/
theorem forall_spelling {P : Char → Char → Prop}
    (all : ∀ code ∈ List.range 128, (Char.ofNat code).isAlpha = true →
      ∀ spelling ∈ Folding.full.variants (Char.ofNat code), P (Char.ofNat code) (Char.ofNat spelling))
    (alpha : c.isAlpha = true) (same : sameFolded c d = true) : P c d := by
  have spelled := forall_alpha (P := fun c => ∀ spelling ∈ Folding.full.variants c, P c (Char.ofNat spelling)) all alpha
  simpa using spelled d.toNat (toNat_mem_variants same)

theorem isLetter_of_isAlpha (alpha : c.isAlpha = true) : IsLetter c := fun _ same =>
  forall_spelling (P := SpellsLetter) (List.forall_iff_forall_mem.mp (by decide +kernel)) alpha same

/-- A spelling of a letter has the capital of the letter, unless it is a stray one. -/
theorem capital_eq_iff (alpha : c.isAlpha = true) (same : sameFolded c d = true) :
    capital d = capital c ↔ d ∉ strayCapitals :=
  forall_spelling (P := fun c d => capital d = capital c ↔ d ∉ strayCapitals)
    (List.forall_iff_forall_mem.mp (by decide +kernel)) alpha same

theorem isAlpha_capital (alpha : c.isAlpha = true) : (capital c).isAlpha = true :=
  forall_alpha (P := fun c => (capital c).isAlpha = true) (List.forall_iff_forall_mem.mp (by decide +kernel)) alpha

/-- The upper-case form of letters is made of their capitals. -/
theorem upperChars_eq_map {taken : List Char} (letters : ∀ d ∈ taken, ∃ c, SpellsLetter c d) :
    upperChars taken = taken.map capital := by
  induction taken with
  | nil => rfl
  | cons d taken ih =>
    obtain ⟨⟨c, spells⟩, later⟩ := List.forall_mem_cons.mp letters
    rw [upperChars, List.flatMap_cons, spells.upperOf]
    exact congrArg (capital d :: ·) (ih later)

theorem map_capital_eq {word taken : List Char} (alpha : ∀ c ∈ word, c.isAlpha = true) (spells : Spells word taken)
    (plain : ∀ c ∈ taken, c ∉ strayCapitals) : word.map capital = taken.map capital := by
  induction spells with
  | nil => rfl
  | cons same _ ih =>
    obtain ⟨isAlpha, alpha⟩ := List.forall_mem_cons.mp alpha
    obtain ⟨isPlain, plain⟩ := List.forall_mem_cons.mp plain
    rw [List.map_cons, List.map_cons, (capital_eq_iff isAlpha same).mpr isPlain, ih alpha plain]

/-- A spelling of words from A to Z has the upper-case form of one of them exactly if it has no stray capital. -/
theorem exists_upper_eq_iff {words : List String} (alpha : ∀ word ∈ words, ∀ c ∈ word.toList, c.isAlpha = true)
    {taken : List Char} (isKeyword : IsKeyword words taken) :
    (∃ word ∈ words, upper word = String.ofList (upperChars taken)) ↔ ∀ c ∈ taken, c ∉ strayCapitals := by
  have capitals {word : String} (isWord : word ∈ words) {taken : List Char} (spells : Spells word.toList taken) :
      upperChars taken = taken.map capital :=
    upperChars_eq_map fun _ => spells.letter_of_mem fun c member => isLetter_of_isAlpha (alpha word isWord c member)
  obtain ⟨word, isWord, spells⟩ := isKeyword
  constructor
  · rintro ⟨other, isOther, same⟩ c member stray
    have chars : other.toList.map capital = taken.map capital := by
      rw [← capitals isWord spells, ← capitals isOther (.refl _)]
      exact String.ofList_injective same
    have listed : capital c ∈ other.toList.map capital := by
      rw [chars]
      exact List.mem_map_of_mem member
    obtain ⟨letter, isLetter, equal⟩ := List.mem_map.mp listed
    have outside : ∀ c ∈ strayCapitals, (capital c).isAlpha = false :=
      List.forall_iff_forall_mem.mp (by decide +kernel)
    have inside := isAlpha_capital (alpha other isOther letter isLetter)
    rw [equal, outside c stray] at inside
    cases inside
  · intro plain
    refine ⟨word, isWord, ?_⟩
    rw [upper, capitals isWord (.refl _), capitals isWord spells, map_capital_eq (alpha word isWord) spells plain]

end Letters

/-! ## Keywords of letters -/

/-- What follows a keyword in the head of a declaration: a blank, a digit or the colon. -/
def isHeadEnd (c : Char) : Bool := isBlank c || isDecimal c || c == ':'

/-- A text with which no word of letters goes on. -/
def EndsWord (text : List Char) : Prop := text.head?.any (!isHeadEnd ·) = false

theorem EndsWord.append_blanks {gap rest : List Char} (ends : EndsWord rest) (blank : ∀ c ∈ gap, isBlank c = true) :
    EndsWord (gap ++ rest) := by
  cases gap with
  | nil => exact ends
  | cons c gap => simp [EndsWord, isHeadEnd, blank c (.head _)]

theorem endsWord_digits {digits rest : List Char} (given : digits ≠ []) (decimal : ∀ c ∈ digits, isDecimal c = true) :
    EndsWord (digits ++ rest) := by
  obtain ⟨c, digits, rfl⟩ := List.exists_cons_of_ne_nil given
  simp [EndsWord, isHeadEnd, decimal c (.head _)]

theorem endsWord_colon (rest : List Char) : EndsWord (':' :: rest) := by
  have colon : isHeadEnd ':' = true := by decide
  simp [EndsWord, colon]

/-- The words that declare steps are made of letters, and some of them declare the rest step. -/
structure Dialect.Lettered (dialect : Dialect) : Prop where
  rest_ne_nil : dialect.stepWords.rest ≠ []
  ne_nil : ∀ word ∈ dialect.declarationWords, word.toList ≠ []
  letters : ∀ word ∈ dialect.declarationWords, ∀ c ∈ word.toList, IsLetter c

namespace Dialect.Lettered

variable {dialect : Dialect} (lettered : dialect.Lettered) {keyword : List Char}
include lettered

theorem letter_of_mem (isKeyword : IsKeyword dialect.declarationWords keyword) {d : Char} (member : d ∈ keyword) :
    ∃ c, SpellsLetter c d := by
  obtain ⟨word, isWord, spells⟩ := isKeyword
  exact spells.letter_of_mem (lettered.letters word isWord) member

theorem ne_nil_of_isKeyword (isKeyword : IsKeyword dialect.declarationWords keyword) : keyword ≠ [] := by
  obtain ⟨word, isWord, spells⟩ := isKeyword
  rintro rfl
  exact lettered.ne_nil word isWord (List.eq_nil_of_length_eq_zero spells.length_eq)

theorem isKeyword_upperChars (isKeyword : IsKeyword dialect.declarationWords keyword) :
    IsKeyword dialect.declarationWords (upperChars keyword) ∧
      upperChars (upperChars keyword) = upperChars keyword := by
  obtain ⟨word, isWord, spells⟩ := isKeyword
  obtain ⟨upper, stable⟩ := spells.upperChars (lettered.letters word isWord)
  exact ⟨⟨word, isWord, upper⟩, stable⟩

/-- A keyword that is followed by nothing but the end of a head is read as a whole. -/
theorem eq_of_append (isKeyword : IsKeyword dialect.declarationWords keyword) {other rest rest' : List Char}
    (isOther : IsKeyword dialect.declarationWords other) (ends : EndsWord rest) (ends' : EndsWord rest')
    (same : keyword ++ rest = other ++ rest') : keyword = other ∧ rest = rest' := by
  have inside {taken : List Char} (isKeyword : IsKeyword dialect.declarationWords taken) :
      ∀ c ∈ taken, isHeadEnd c = false := by
    intro c member
    obtain ⟨_, spells⟩ := lettered.letter_of_mem isKeyword member
    have noColon : c ≠ ':' := spells.ne_sign (by decide)
    simp [isHeadEnd, spells.not_blank, spells.not_decimal, noColon]
  exact append_inj_of_head (p := fun c => !isHeadEnd c) (by simpa using inside isKeyword)
    (by simpa using inside isOther) ends ends' same

end Dialect.Lettered

/-! ## The canonical line -/

namespace Layout

/-- A line that the layout takes for a rest declaration with the given keyword. -/
structure IsRestLine (dialect : Dialect) (line keyword : List Char) : Prop where
  single : '\n' ∉ line
  noComment : dialect.isComment (splitIndent line).2 = false
  noTransition : transitionForm? dialect (splitIndent line).2 = none
  opens : (splitIndent line).1 = [] ∨ (declarationHead dialect).startsIn (splitIndent line).2 = true
  matched : ∃ found, (restHead dialect).matchStart? (splitIndent line).2 = some found ∧ found.kept 1 = keyword

instance (dialect : Dialect) (line keyword : List Char) : Decidable (IsRestLine dialect line keyword) :=
  decidable_of_iff
    ('\n' ∉ line ∧ dialect.isComment (splitIndent line).2 = false ∧
      transitionForm? dialect (splitIndent line).2 = none ∧
      ((splitIndent line).1 = [] ∨ (declarationHead dialect).startsIn (splitIndent line).2 = true) ∧
      ((restHead dialect).matchStart? (splitIndent line).2).map (·.kept 1) = some keyword)
    ⟨fun h => ⟨h.1, h.2.1, h.2.2.1, h.2.2.2.1, Option.map_eq_some_iff.mp h.2.2.2.2⟩,
      fun h => ⟨h.1, h.2, h.3, h.4, Option.map_eq_some_iff.mpr h.5⟩⟩

/-- Spacing a line leaves its head up to the colon as it is. -/
theorem spacedBody_colon {head : List Char} (isHead : IsHead head) (rest : List Char) :
    ∃ tail, spacedBody (head ++ ':' :: rest) = head ++ ':' :: tail := by
  obtain ⟨front, last, rfl, inert, squeezed, closed⟩ := isHead
  obtain ⟨gap, cells, rfl⟩ := exists_cells rest
  have whole : render (front ++ [last]) ++ ':' :: (gap.blanks ++ render cells) =
      render (front ++ last :: colonCell gap :: cells) := by
    simp [colonCell]
  have split (cell : Cell) (rest : List Cell) :
      render (front ++ last :: cell :: rest) =
        render (front ++ [last]) ++ cell.char :: (cell.gap.blanks ++ render rest) := by
    simp
  rw [whole, spacedBody_render, tidy, tidyFrom_head front last gap cells none false inert squeezed closed,
    tidyFrom_cons, split]
  exact ⟨_, rfl⟩

section Line

variable {dialect : Dialect} {line keyword : List Char} (lettered : dialect.Lettered)
  (isRest : IsRestLine dialect line keyword)
include lettered isRest

theorem IsRestLine.isKeyword : IsKeyword dialect.stepWords.rest keyword ∧ keyword <+: (splitIndent line).2 := by
  obtain ⟨found, matched, rfl⟩ := isRest.matched
  obtain ⟨stop, first, rfl⟩ := Option.map_eq_some_iff.mp matched
  obtain ⟨_, isStart, member⟩ := mem_ends_concat_cons.mp (List.mem_of_head? first)
  obtain rfl := List.mem_singleton.mp isStart
  obtain ⟨word, middle, worded, isWord, kept, -⟩ := exists_kept_of_mem_concat (by decide) member
  rw [kept_mk, kept, Option.getD_some]
  exact ⟨isWord.keyword lettered.rest_ne_nil, middle.after, worded.symm⟩

theorem IsRestLine.isDeclarationWord : IsKeyword dialect.declarationWords keyword := by
  obtain ⟨⟨word, isWord, spells⟩, -⟩ := isRest.isKeyword lettered
  exact ⟨word, List.mem_append_left _ isWord, spells⟩

/-- The canonical line starts with the keyword in upper case and a colon. -/
theorem IsRestLine.lineForm_eq : ∃ tail, lineForm dialect line = upperChars keyword ++ ':' :: tail ∧
    trim (lineForm dialect line) = lineForm dialect line := by
  have isWord := isRest.isDeclarationWord lettered
  obtain ⟨isUpper, -⟩ := lettered.isKeyword_upperChars isWord
  have given := lettered.ne_nil_of_isKeyword isUpper
  have present : line.isEmpty = false := by
    rw [List.isEmpty_eq_false_iff]
    rintro rfl
    exact lettered.ne_nil_of_isKeyword isWord (List.prefix_nil.mp (isRest.isKeyword lettered).2)
  have isHead : IsHead (upperChars keyword) := by
    apply isHead_word given
    intro c member
    obtain ⟨_, spells⟩ := lettered.letter_of_mem isUpper member
    exact isInert_of_spellsLetter spells
  obtain ⟨found, matched, rfl⟩ := isRest.matched
  have form : declarationForm? dialect (splitIndent line).2 =
      some (upperChars (found.kept 1) ++ ':' :: (' ' :: found.rest)) := by
    rw [declarationForm?, matched]
    simp
  have opened : ((splitIndent line).1.isEmpty || (declarationHead dialect).startsIn (splitIndent line).2) = true := by
    rcases isRest.opens with empty | whole
    · rw [empty]
      rfl
    · rw [whole, Bool.or_true]
  have laid : lineForm dialect line =
      spacedLine [] (upperChars (found.kept 1) ++ ':' :: (' ' :: found.rest)) := by
    rw [lineForm]
    simp only [present, isRest.noComment, isRest.noTransition, opened, form, if_true, Bool.false_eq_true, if_false]
    rfl
  have spaced := spacedLine_eq (isHead.startsBlank_append (':' :: (' ' :: found.rest)))
    (by simp) []
  rw [ite_self, List.nil_append] at spaced
  obtain ⟨tail, split⟩ := spacedBody_colon isHead (' ' :: found.rest)
  refine ⟨tail, by rw [laid, spaced, split], ?_⟩
  rw [laid, spaced, spacedBody, trim_trim]

end Line

end Layout

/-! ## The reader -/

section Reading

variable {dialect : Dialect} (lettered : dialect.Lettered) {word tail : List Char}
include lettered

omit lettered in
theorem startsIn_declarationPattern (isKeyword : IsKeyword dialect.declarationWords word) (single : '\n' ∉ tail) :
    (declarationPattern dialect).startsIn (word ++ ':' :: tail) = true := by
  have colon : (mark ':').Passes [':'] := .one rfl
  have unnumbered : (maybe (.seq .blanks (.group 2 .numeral))).Passes [] := .maybe (.inl rfl)
  have goes := ((Passes.keyword isKeyword).group 1).goesThrough (unnumbered.goesThrough
    ((Passes.blanks (List.forall_mem_nil _)).goesThrough (colon.goesThrough
      (Layout.goesThrough_remainder (List.forall_mem_nil _) single 3))))
  obtain ⟨stop, member⟩ := goes [] []
  exact startsIn_iff.mpr ⟨stop, mem_ends_concat_cons.mpr ⟨_, List.mem_singleton.mpr rfl, member⟩⟩

omit lettered in
theorem colon_ne_number {gap digits rest : List Char} (blank : ∀ c ∈ gap, isBlank c = true) (given : digits ≠ [])
    (decimal : ∀ c ∈ digits, isDecimal c = true) : ':' :: tail ≠ gap ++ (digits ++ rest) := by
  have noDigit : isDecimal ':' = false := by decide
  have noBlank : isBlank ':' = false := by decide
  intro same
  cases gap with
  | nil =>
    obtain ⟨c, digits, rfl⟩ := List.exists_cons_of_ne_nil given
    obtain rfl := (List.cons.inj same).1
    exact absurd (decimal ':' (.head _)) (by simp [noDigit])
  | cons c gap =>
    obtain rfl := (List.cons.inj same).1
    exact absurd (blank ':' (.head _)) (by simp [noBlank])

omit lettered in
/-- Blanks and a number go on from a place where they are read. -/
theorem exists_number_of_mem_ends {place stop : Place} (member : stop ∈ (seq blanks (group 2 numeral)).ends place) :
    ∃ gap digits rest, place.after = gap ++ (digits ++ rest) ∧ (∀ c ∈ gap, isBlank c = true) ∧ digits ≠ [] ∧
      ∀ c ∈ digits, isDecimal c = true := by
  obtain ⟨number, after, -⟩ := advances_of_mem_ends member
  have reads : (seq blanks (group 2 numeral)).Reads number := ⟨_, _, member, after⟩
  obtain ⟨gap, digits, rfl, isGap, isNumber⟩ := reads.seq
  obtain ⟨given, decimal⟩ := isNumber.group.numeral
  rw [List.append_assoc] at after
  exact ⟨gap, digits, stop.after, after, isGap.isBlank, given, decimal⟩

omit lettered in
/-- A word ends where blanks and a colon are read. -/
theorem endsWord_of_mem_ends {parts : List Pattern} {place stop : Place}
    (member : stop ∈ (concat (blanks :: mark ':' :: parts)).ends place) : EndsWord place.after := by
  obtain ⟨gap, _, spaced, isGap, member⟩ := exists_reads_of_mem_concat member
  obtain ⟨sign, _, signed, isSign, -⟩ := exists_reads_of_mem_concat member
  obtain ⟨c, rfl, isColon⟩ := isSign.one
  obtain rfl : ':' = c := by simpa using isColon
  rw [spaced, signed]
  exact (endsWord_colon _).append_blanks isGap.isBlank

/-- A keyword and a colon are read as a declaration without number. -/
theorem exists_match_declarationPattern (isKeyword : IsKeyword dialect.declarationWords word) (single : '\n' ∉ tail) :
    ∃ found, (declarationPattern dialect).matchStart? (word ++ ':' :: tail) = some found ∧ found.kept 1 = word ∧
      found.kept 2 = [] := by
  have words : dialect.declarationWords ≠ [] := by
    obtain ⟨known, isWord, -⟩ := isKeyword
    exact List.ne_nil_of_mem isWord
  obtain ⟨found, matched⟩ := Option.isSome_iff_exists.mp (startsIn_declarationPattern isKeyword single)
  refine ⟨found, matched, ?_⟩
  obtain ⟨stop, first, rfl⟩ := Option.map_eq_some_iff.mp matched
  obtain ⟨_, isStart, member⟩ := mem_ends_concat_cons.mp (List.mem_of_head? first)
  obtain rfl := List.mem_singleton.mp isStart
  obtain ⟨middle, isMiddle, member⟩ := mem_ends_concat_cons.mp member
  obtain ⟨taken, split, isTaken, kept⟩ := of_mem_ends_group isMiddle
  have unkept : middle.kept? 2 = none := by
    have unused : 2 ∉ (group 1 (keyword dialect.declarationWords)).indices := by
      simp [indices_eq, groups, groups_keyword]
    exact kept?_of_mem_ends _ unused isMiddle
  have whole (ended : EndsWord middle.after) : word = taken ∧ ':' :: tail = middle.after :=
    lettered.eq_of_append isKeyword (isTaken.keyword words) (endsWord_colon tail) ended split
  obtain ⟨last, isLast, member⟩ := mem_ends_concat_cons.mp member
  rw [ends_maybe] at isLast
  rcases List.mem_append.mp isLast with isThere | isLeftOut
  · -- A number would stand before the colon.
    obtain ⟨gap, digits, rest, after, blank, given, decimal⟩ := exists_number_of_mem_ends isThere
    have ended : EndsWord middle.after := after ▸ (endsWord_digits given decimal).append_blanks blank
    exact absurd ((whole ended).2.trans after) (colon_ne_number blank given decimal)
  · rw [List.mem_singleton.mp isLeftOut] at member
    have ended := endsWord_of_mem_ends member
    have unused (index : Nat) (other : index ≠ 3) :
        index ∉ (concat [blanks, mark ':', blanks, group 3 remainder, finish]).indices := by
      simp [indices_eq, groups_concat, groups, blanks, mark, remainder, finish, other]
    rw [Layout.kept_mk, Layout.kept_mk, kept?_of_mem_ends _ (unused 1 (by decide)) member,
      kept?_of_mem_ends _ (unused 2 (by decide)) member, kept, unkept, (whole ended).1]
    exact ⟨rfl, rfl⟩

omit lettered in
theorem isRestWord_iff (stable : upperChars word = word) :
    dialect.isRestWord (String.ofList word) = true ↔
      ∃ known ∈ dialect.stepWords.rest, upper known = String.ofList word := by
  rw [Dialect.isRestWord, List.contains_iff_mem, List.mem_map, upper, String.toList_ofList, stable]

/-- A keyword in upper case and a colon declare a step. -/
theorem declaration_of_keyword (isKeyword : IsKeyword dialect.declarationWords word) (stable : upperChars word = word)
    (single : '\n' ∉ tail) {line : Line} (content : line.content = word ++ ':' :: tail)
    (goesOn : endsStep dialect line.content = false) (state : ReadState) :
    ∃ next step, declaration dialect line state = .ok (some next) ∧ next.focus = .step step false ∧
      step.keyword = String.ofList word ∧ step.line = some (line.number : Int) ∧
      step.kind = if dialect.isRestWord (String.ofList word) = true then .rest else .sequential 1 := by
  obtain ⟨found, matched, kept₁, kept₂⟩ := exists_match_declarationPattern lettered isKeyword single
  rw [← content] at matched
  have kind : kindOf dialect (String.ofList word) [] =
      .ok (if dialect.isRestWord (String.ofList word) = true then .rest else .sequential 1) := by
    rw [kindOf]
    split <;> rfl
  have ran : declaration dialect line state = .ok (some { state.turnTo (.step
      { keyword := String.ofList word, description := String.ofList (trim (found.kept 3)), transitions := state.pending
        line := some line.number
        kind := if dialect.isRestWord (String.ofList word) = true then .rest else .sequential 1 } false) with
      pending := [] }) := by
    rw [declaration, goesOn, if_neg Bool.false_ne_true, matched]
    dsimp only
    rw [kept₁, kept₂, stable, kind]
    rfl
  exact ⟨_, _, ran, rfl, rfl, rfl, rfl⟩

/-- A canonical rest line declares a step with its keyword. It is the rest step if the keyword has the upper-case form
of a rest word, and else a step with number one. Where the rest words are of letters from A to Z, it is the rest step
unless the keyword has been written with a stray capital. -/
theorem declaration_lineForm_rest {line keyword : List Char} (isRest : Layout.IsRestLine dialect line keyword)
    (number : Nat) :
    ∃ canonical, Line.ofChars? number (Layout.lineForm dialect line) = some canonical ∧
      (endsStep dialect canonical.content = false → ∀ state, ∃ next step,
        declaration dialect canonical state = .ok (some next) ∧ next.focus = .step step false ∧
        step.keyword = String.ofList (upperChars keyword) ∧ step.line = some (number : Int) ∧
        (step.kind = .rest ∧ step.number = 0 ↔
          ∃ word ∈ dialect.stepWords.rest, upper word = String.ofList (upperChars keyword)) ∧
        (step.kind ≠ .rest → step.kind = .sequential 1) ∧
        ((∀ word ∈ dialect.stepWords.rest, ∀ c ∈ word.toList, c.isAlpha = true) →
          (step.kind = .rest ↔ ∀ c ∈ keyword, c ∉ strayCapitals))) := by
  obtain ⟨tail, form, trimmed⟩ := isRest.lineForm_eq lettered
  obtain ⟨isKeyword, stable⟩ := lettered.isKeyword_upperChars (isRest.isDeclarationWord lettered)
  have present : (trim (Layout.lineForm dialect line)).isEmpty = false := by
    rw [trimmed, form]
    simp
  refine ⟨⟨number, trimEnd (Layout.lineForm dialect line), trim (Layout.lineForm dialect line)⟩, ?_, ?_⟩
  · simp only [Line.ofChars?, present, Bool.false_eq_true, if_false]
  · intro goesOn state
    have single : '\n' ∉ tail := by
      have alphabet : Alphabet (· ∉ ['\n']) := alphabet_notMem (by decide +kernel) (by decide) (by decide)
      have given : Over (· ∉ ['\n']) line := fun c member lineFeed =>
        isRest.single (List.mem_singleton.mp lineFeed ▸ member)
      have laidOver : Over (· ∉ ['\n']) (Layout.lineForm dialect line) := Layout.over_lineForm alphabet given
      rw [form] at laidOver
      exact fun member => laidOver '\n' (by simp [member]) (List.mem_singleton.mpr rfl)
    obtain ⟨next, step, ran, focused, word, lineNumber, kind⟩ := declaration_of_keyword lettered isKeyword stable single
      (trimmed.trans form) goesOn state
    have resting : step.kind = .rest ↔
        ∃ word ∈ dialect.stepWords.rest, upper word = String.ofList (upperChars keyword) := by
      rw [kind, ← isRestWord_iff stable]
      split <;> simp_all
    refine ⟨next, step, ran, focused, word, lineNumber, ?_, ?_, ?_⟩
    · rw [← resting]
      exact ⟨And.left, fun isRestStep => ⟨isRestStep, by rw [Step.number, isRestStep]; rfl⟩⟩
    · intro other
      rw [kind] at other ⊢
      split at other
      · exact absurd rfl other
      · rw [if_neg ‹_›]
    · intro alpha
      rw [resting, exists_upper_eq_iff alpha (isRest.isKeyword lettered).1]

end Reading

/-- The default words are made of letters. -/
theorem Dialect.lettered_default : ({} : Dialect).Lettered where
  rest_ne_nil := by decide
  ne_nil := Dialect.readable_default.declaring.ne_nil
  letters _ isWord := Dialect.readable_default.declaring.isLetter isWord

/-- A rest word with a letter that has another one for its capital, and a parenthesis in place of the colon. -/
def dotlessLine : List Char := "ıdle (x)".toList

theorem isRestLine_dotlessLine : Layout.IsRestLine {} dotlessLine "ıdle".toList := by
  decide +kernel

theorem declaration_lineForm_rest_dotlessLine :
    ∃ canonical, Line.ofChars? 1 (Layout.lineForm {} dotlessLine) = some canonical ∧ canonical.text = "IDLE: (x)" ∧
      ∃ next step, declaration {} canonical {} = .ok (some next) ∧ next.focus = .step step false ∧
        step.keyword = "IDLE" ∧ step.kind = .rest ∧ step.number = 0 := by
  have evaluated : Line.ofChars? 1 (Layout.lineForm {} dotlessLine) =
      some ⟨1, "IDLE: (x)".toList, "IDLE: (x)".toList⟩ := by
    decide +kernel
  obtain ⟨canonical, isLine, declares⟩ :=
    declaration_lineForm_rest Dialect.lettered_default isRestLine_dotlessLine 1
  rw [evaluated] at isLine
  cases isLine
  obtain ⟨next, step, ran, focused, keyword, -, resting, -, -⟩ := declares (by decide +kernel) {}
  have kind := resting.mpr ⟨"IDLE", by decide, by decide +kernel⟩
  exact ⟨_, evaluated, by decide +kernel, next, step, ran, focused, keyword.trans (by decide +kernel), kind⟩

/-- A rest word with a stray capital. -/
def strayLine : List Char := "İDLE: x".toList

theorem isRestLine_strayLine : Layout.IsRestLine {} strayLine "İDLE".toList := by
  decide +kernel

/-- The layout takes the line for a rest declaration, and the reader declares a step with number one. -/
theorem declaration_strayLine :
    Layout.IsRestLine {} strayLine "İDLE".toList ∧
    ∃ canonical, Line.ofChars? 1 (Layout.lineForm {} strayLine) = some canonical ∧ canonical.text = "İDLE: x" ∧
      ∃ next step, declaration {} canonical {} = .ok (some next) ∧ next.focus = .step step false ∧
        step.kind = .sequential 1 ∧ step.number = 1 := by
  refine ⟨isRestLine_strayLine, ⟨1, strayLine, strayLine⟩, by decide +kernel, by decide +kernel, ?_⟩
  obtain ⟨next, step, ran, focused, -, -, kind⟩ := declaration_of_keyword Dialect.lettered_default
    (isRestLine_strayLine.isDeclarationWord Dialect.lettered_default) (by decide +kernel)
    (show '\n' ∉ " x".toList by decide) (show (Line.mk 1 strayLine strayLine).content = _ by decide)
    (by decide +kernel) {}
  rw [if_neg (by decide +kernel)] at kind
  exact ⟨next, step, ran, focused, kind, by rw [Step.number, kind]; rfl⟩

end StepFlow
