import Mathlib.Data.List.Forall2
import StepFlow.Dialect
import StepFlow.Pattern.Grammar
import StepFlow.Proofs.Pattern.Continuation
import StepFlow.Proofs.Text.Case
import StepFlow.Proofs.Text.Class

/-! # Reading keywords

A keyword is read in any letter case. Where no word of a list begins another one, at most one of them stands
at the start of a text, so a keyword has one reading and backtracking into it is useless. The upper-case form
of what was read is a reading of the same keyword, and putting it in upper case again changes nothing.
-/

namespace StepFlow

open Text

/-- A text agrees with a word, letter by letter, in all but case. -/
def Spells (word taken : List Char) : Prop := List.Forall₂ (fun c d => sameFolded c d = true) word taken

/-- What spells a word at the start of a text, and the rest of the text. -/
def stripWord? : List Char → List Char → Option (List Char × List Char)
  | [], text => some ([], text)
  | _ :: _, [] => none
  | c :: word, d :: text =>
    if sameFolded c d then (stripWord? word text).map fun (taken, rest) => (d :: taken, rest) else none

theorem stripWord?_eq_some_iff {word text taken rest : List Char} :
    stripWord? word text = some (taken, rest) ↔ Spells word taken ∧ text = taken ++ rest := by
  induction word generalizing text taken with
  | nil =>
    simp only [stripWord?, Option.some.injEq, Prod.mk.injEq, Spells, List.forall₂_nil_left_iff]
    constructor
    · rintro ⟨rfl, rfl⟩
      simp
    · rintro ⟨rfl, rfl⟩
      simp
  | cons c word ih =>
    simp only [Spells, List.forall₂_cons_left_iff]
    cases text with
    | nil =>
      simp only [stripWord?, reduceCtorEq, false_iff]
      rintro ⟨⟨d, taken, -, -, rfl⟩, same⟩
      simp at same
    | cons d text =>
      by_cases same : sameFolded c d
      · simp only [stripWord?, same, if_true, Option.map_eq_some_iff, Prod.exists, Prod.mk.injEq]
        constructor
        · rintro ⟨more, rest, read, rfl, rfl⟩
          obtain ⟨spells, rfl⟩ := ih.mp read
          exact ⟨⟨d, more, same, spells, rfl⟩, rfl⟩
        · rintro ⟨⟨e, more, agree, spells, rfl⟩, split⟩
          obtain ⟨rfl, rfl⟩ := List.cons.inj split
          exact ⟨more, rest, ih.mpr ⟨spells, rfl⟩, rfl, rfl⟩
      · simp only [stripWord?, same]
        refine ⟨fun read => by simp at read, ?_⟩
        rintro ⟨⟨e, more, agree, spells, rfl⟩, split⟩
        obtain ⟨rfl, rfl⟩ := List.cons.inj split
        exact absurd agree same

/-- What spells one of several words at the start of a text, and the rest of the text. -/
def keyword? (words : List String) (text : List Char) : Option (List Char × List Char) :=
  (keywordOrder words).findSome? fun word => stripWord? word.toList text

/-- No word of a list begins another one, in any letter case. -/
def PrefixFree (words : List String) : Prop :=
  ∀ word ∈ words, ∀ other ∈ words,
    (word.toList.map foldChar).isPrefixOf (other.toList.map foldChar) → word = other

instance (words : List String) : Decidable (PrefixFree words) := by
  unfold PrefixFree
  infer_instance

theorem mem_insertKeyword {word added : String} {order : List String} :
    word ∈ insertKeyword added order ↔ word = added ∨ word ∈ order := by
  induction order with
  | nil => simp [insertKeyword]
  | cons head rest ih =>
    simp only [insertKeyword]
    split
    · simp_all
    · split
      · simp
      · rw [List.mem_cons, ih, List.mem_cons]
        exact or_left_comm

theorem mem_keywordOrder {word : String} {words : List String} :
    word ∈ keywordOrder words ↔ word ∈ words := by
  induction words with
  | nil => simp [keywordOrder]
  | cons head rest ih =>
    rw [keywordOrder, List.foldr_cons, mem_insertKeyword, List.mem_cons]
    exact or_congr_right ih

theorem Spells.map_foldChar {word taken : List Char} (spells : Spells word taken) :
    word.map foldChar = taken.map foldChar := by
  induction spells with
  | nil => rfl
  | cons same _ ih => simp [ih, beq_iff_eq.mp same]

theorem Spells.refl (word : List Char) : Spells word word :=
  List.forall₂_same.mpr fun c _ => beq_self_eq_true (foldChar c)

theorem Spells.length_eq {word taken : List Char} (spells : Spells word taken) :
    word.length = taken.length :=
  List.Forall₂.length_eq spells

/-- Of words of which none begins another one, only one is spelled at the start of a text. -/
theorem PrefixFree.eq_of_spells {words : List String} (free : PrefixFree words) {word other : String}
    (isWord : word ∈ words) (isOther : other ∈ words) {taken taken' rest rest' : List Char}
    (spells : Spells word.toList taken) (spells' : Spells other.toList taken')
    (same : taken ++ rest = taken' ++ rest') : word = other := by
  have begins : taken <+: taken' ∨ taken' <+: taken :=
    List.prefix_or_prefix_of_prefix ⟨rest, same⟩ ⟨rest', rfl⟩
  rcases begins with begins | begins
  · apply free word isWord other isOther
    rw [List.isPrefixOf_iff_prefix, spells.map_foldChar, spells'.map_foldChar]
    exact begins.map foldChar
  · refine (free other isOther word isWord ?_).symm
    rw [List.isPrefixOf_iff_prefix, spells.map_foldChar, spells'.map_foldChar]
    exact begins.map foldChar

theorem PrefixFree.stripWord?_unique {words : List String} (free : PrefixFree words) {word other : String}
    (isWord : word ∈ words) (isOther : other ∈ words) {text : List Char}
    {read read' : List Char × List Char} (found : stripWord? word.toList text = some read)
    (found' : stripWord? other.toList text = some read') : read = read' := by
  obtain ⟨taken, rest⟩ := read
  obtain ⟨taken', rest'⟩ := read'
  obtain ⟨spells, rfl⟩ := stripWord?_eq_some_iff.mp found
  obtain ⟨spells', split⟩ := stripWord?_eq_some_iff.mp found'
  have same := free.eq_of_spells isWord isOther spells spells' split
  have := List.append_inj split (by rw [← spells.length_eq, ← spells'.length_eq, same])
  simp [this]

/-- A text spells one of the words. -/
def IsKeyword (words : List String) (taken : List Char) : Prop :=
  ∃ word ∈ words, Spells word.toList taken

theorem keyword?_eq_some_iff {words : List String} (free : PrefixFree words) {text taken rest : List Char} :
    keyword? words text = some (taken, rest) ↔ IsKeyword words taken ∧ text = taken ++ rest := by
  constructor
  · intro found
    obtain ⟨word, isWord, read⟩ := List.exists_of_findSome?_eq_some found
    obtain ⟨spells, split⟩ := stripWord?_eq_some_iff.mp read
    exact ⟨⟨word, mem_keywordOrder.mp isWord, spells⟩, split⟩
  · rintro ⟨⟨word, isWord, spells⟩, split⟩
    have read := stripWord?_eq_some_iff.mpr ⟨spells, split⟩
    cases found : keyword? words text with
    | none =>
      have := List.findSome?_eq_none_iff.mp found word (mem_keywordOrder.mpr isWord)
      rw [read] at this
      exact absurd this (by simp)
    | some read' =>
      obtain ⟨other, isOther, read''⟩ := List.exists_of_findSome?_eq_some found
      exact congrArg some (free.stripWord?_unique (mem_keywordOrder.mp isOther) isWord read'' read)

namespace Pattern

section

variable (next : Place → Option Place)

@[simp] theorem andThen?_concat_cons (part : Pattern) (parts : List Pattern) (place : Place) :
    (concat (part :: parts)).andThen? next place = part.andThen? ((concat parts).andThen? next) place := by
  cases parts with
  | cons => exact andThen?_seq ..
  | nil =>
    have done : (concat []).andThen? next = next := funext (andThen?_empty next)
    rw [done]
    rfl

@[simp] theorem andThen?_concat_nil : (concat []).andThen? next = next := funext (andThen?_empty next)

theorem andThen?_letters (word : List Char) (before after : List Char) (captures : List Capture) :
    (concat (word.map fun c => one (.char c .full))).andThen? next ⟨before, after, captures⟩ =
      (stripWord? word after).bind fun read => next ⟨read.1.reverse ++ before, read.2, captures⟩ := by
  induction word generalizing before after with
  | nil => simp [stripWord?]
  | cons c word ih =>
    rw [List.map_cons, andThen?_concat_cons]
    cases after with
    | nil => simp [stripWord?]
    | cons d after =>
      rw [andThen?_one_cons, ih, stripWord?, CharTest.char_full_holds]
      split <;> simp [Option.bind_map, Function.comp_def]

theorem andThen?_literal (word : String) (before after : List Char) (captures : List Capture) :
    (literal .full word).andThen? next ⟨before, after, captures⟩ =
      (stripWord? word.toList after).bind fun read => next ⟨read.1.reverse ++ before, read.2, captures⟩ :=
  andThen?_letters next word.toList before after captures

/-- A keyword is passed in one way only. -/
theorem andThen?_keyword {words : List String} (nonempty : words ≠ []) (free : PrefixFree words)
    (before after : List Char) (captures : List Capture) :
    (keyword words).andThen? next ⟨before, after, captures⟩ =
      (keyword? words after).bind fun read => next ⟨read.1.reverse ++ before, read.2, captures⟩ := by
  have alternatives : ∀ order : List String, order ≠ [] → (∀ word ∈ order, word ∈ words) →
      (anyOf (order.map (literal .full))).andThen? next ⟨before, after, captures⟩ =
        (order.findSome? fun word => stripWord? word.toList after).bind fun read =>
          next ⟨read.1.reverse ++ before, read.2, captures⟩ := by
    intro order notEmpty known
    induction order with
    | nil => exact absurd rfl notEmpty
    | cons word order ih =>
      cases order with
      | nil => simp [anyOf, andThen?_literal]
      | cons other order =>
        have rest := ih (by simp) fun word isWord => known word (.tail _ isWord)
        simp only [List.map_cons] at rest
        simp only [List.map_cons, anyOf, andThen?_either, rest]
        rw [andThen?_literal, List.findSome?_cons (a := word)]
        cases found : stripWord? word.toList after with
        | none => rfl
        | some read =>
          cases again : (other :: order).findSome? fun word => stripWord? word.toList after with
          | none => simp
          | some read' =>
            obtain ⟨third, isThird, read''⟩ := List.exists_of_findSome?_eq_some again
            rw [free.stripWord?_unique (known word (.head _)) (known third (.tail _ isThird)) found read'']
            simp
  apply alternatives
  · intro empty
    obtain ⟨word, isWord⟩ := List.exists_mem_of_ne_nil words nonempty
    exact absurd (mem_keywordOrder.mpr isWord) (by simp [empty])
  · exact fun word isWord => mem_keywordOrder.mp isWord

end

theorem matchStart?_start (parts : List Pattern) (text : List Char) :
    (concat (start :: parts)).matchStart? text =
      ((concat parts).andThen? some ⟨[], text, []⟩).map (⟨[], text, ·⟩) := by
  rw [matchStart?, matchAt?_eq, andThen?_concat_cons, start, andThen?_edge]
  rfl

/-- A pattern that starts with a keyword goes on after its only reading. -/
theorem matchStart?_keyword {words : List String} (nonempty : words ≠ []) (free : PrefixFree words)
    (index : Nat) (parts : List Pattern) (text : List Char) :
    (concat (start :: group index (keyword words) :: parts)).matchStart? text =
      ((keyword? words text).bind fun read =>
        (concat parts).andThen? some ⟨read.1.reverse, read.2, [⟨index, text, read.2⟩]⟩).map (⟨[], text, ·⟩) := by
  rw [matchStart?_start, andThen?_concat_cons, andThen?_group, andThen?_keyword _ nonempty free]
  simp only [List.append_nil]

end Pattern

/-- The letters of which the default keywords are made. -/
def keyLetters : List Char := "ACDEHILNOPRSTUV".toList

/-- The one-character upper-case form of a character. -/
def capital (c : Char) : Char := Char.ofNat (CaseRange.apply upperRanges c.toNat)

/-- A character that spells a letter of a keyword is a letter with one capital, which spells it too. -/
structure SpellsLetter (c d : Char) : Prop where
  upperOf : upperOf d = [capital d]
  same : sameFolded c d
  same_capital : sameFolded c (capital d)
  capital_capital : Text.upperOf (capital d) = [capital d]
  not_blank : isBlank d = false
  isWordChar : isWordChar d
  not_decimal : isDecimal d = false
  not_sign : d ∉ layoutSigns

theorem SpellsLetter.ne_sign {c d sign : Char} (spells : SpellsLetter c d) (isSign : sign ∈ layoutSigns) : d ≠ sign :=
  fun same => spells.not_sign (same ▸ isSign)

instance (c d : Char) : Decidable (SpellsLetter c d) :=
  decidable_of_iff
    (Text.upperOf d = [capital d] ∧ sameFolded c d ∧ sameFolded c (capital d) ∧
      Text.upperOf (capital d) = [capital d] ∧ isBlank d = false ∧ isWordChar d ∧ isDecimal d = false ∧
      d ∉ layoutSigns)
    ⟨fun ⟨h1, h2, h3, h4, h5, h6, h7, h8⟩ => ⟨h1, h2, h3, h4, h5, h6, h7, h8⟩,
      fun h => ⟨h.1, h.2, h.3, h.4, h.5, h.6, h.7, h.8⟩⟩

theorem spellsLetter_of_sameFolded {c d : Char} (letter : c ∈ keyLetters) (same : sameFolded c d) :
    SpellsLetter c d := by
  have all : ∀ c ∈ keyLetters, ∀ code ∈ Folding.full.variants c, SpellsLetter c (Char.ofNat code) :=
    -- Over the list: left to itself, the decision runs through all characters.
    List.forall_iff_forall_mem.mp (by decide +kernel)
  simpa using all c letter d.toNat (toNat_mem_variants same)

/-- A letter: whatever spells it has one capital, which spells it too. -/
def IsLetter (c : Char) : Prop := ∀ d, sameFolded c d = true → SpellsLetter c d

theorem isLetter_of_mem_keyLetters {c : Char} (letter : c ∈ keyLetters) : IsLetter c :=
  fun _ => spellsLetter_of_sameFolded letter

/-- Words that can be read in one way only, made of the letters of keywords. -/
structure Readable (words : List String) : Prop where
  nonempty : words ≠ []
  prefixFree : PrefixFree words
  ne_nil : ∀ word ∈ words, word.toList ≠ []
  letters : ∀ word ∈ words, ∀ c ∈ word.toList, c ∈ keyLetters

theorem Readable.isLetter {words : List String} (readable : Readable words) {word : String} (isWord : word ∈ words) :
    ∀ c ∈ word.toList, IsLetter c :=
  fun c member => isLetter_of_mem_keyLetters (readable.letters word isWord c member)

namespace Spells

variable {word taken : List Char} (letters : ∀ c ∈ word, IsLetter c) (spells : Spells word taken)
include letters spells

theorem letter_of_mem {d : Char} (member : d ∈ taken) : ∃ c, SpellsLetter c d := by
  induction spells with
  | nil => exact absurd member List.not_mem_nil
  | @cons c d' word taken same rest ih =>
    rcases List.mem_cons.mp member with rfl | later
    · exact ⟨c, letters c (.head _) _ same⟩
    · exact ih (fun c isLetter => letters c (.tail _ isLetter)) later

/-- The upper-case form of what spells a word spells it too, and is its own upper-case form. -/
theorem upperChars : Spells word (upperChars taken) ∧
    Text.upperChars (Text.upperChars taken) = Text.upperChars taken := by
  induction spells with
  | nil => exact ⟨.nil, rfl⟩
  | @cons c d word taken same rest ih =>
    have letter := letters c (.head _) d same
    obtain ⟨spells, stable⟩ := ih fun c isLetter => letters c (.tail _ isLetter)
    have unfolded : Text.upperChars (d :: taken) = capital d :: Text.upperChars taken := by
      simp [Text.upperChars, letter.upperOf]
    rw [unfolded]
    refine ⟨.cons letter.same_capital spells, ?_⟩
    rw [Text.upperChars, List.flatMap_cons, letter.capital_capital]
    exact congrArg (capital d :: ·) stable

end Spells

namespace IsKeyword

variable {words : List String} (readable : Readable words) {taken : List Char} (isKeyword : IsKeyword words taken)
include readable isKeyword

theorem ne_nil : taken ≠ [] := by
  obtain ⟨word, isWord, spells⟩ := isKeyword
  intro empty
  have := spells.length_eq
  rw [empty] at this
  exact readable.ne_nil word isWord (List.eq_nil_of_length_eq_zero this)

theorem letter_of_mem {d : Char} (member : d ∈ taken) : ∃ c, SpellsLetter c d := by
  obtain ⟨word, isWord, spells⟩ := isKeyword
  exact spells.letter_of_mem (readable.isLetter isWord) member

/-- A keyword starts with a letter. -/
theorem exists_cons : ∃ c more letter, taken = c :: more ∧ SpellsLetter letter c := by
  obtain ⟨c, more, start⟩ := List.exists_cons_of_ne_nil (isKeyword.ne_nil readable)
  obtain ⟨letter, spells⟩ := isKeyword.letter_of_mem readable (start ▸ .head _ : c ∈ taken)
  exact ⟨c, more, letter, start, spells⟩

theorem upperChars : IsKeyword words (upperChars taken) := by
  obtain ⟨word, isWord, spells⟩ := isKeyword
  exact ⟨word, isWord, (spells.upperChars (readable.isLetter isWord)).1⟩

theorem upperChars_upperChars : Text.upperChars (Text.upperChars taken) = Text.upperChars taken := by
  obtain ⟨word, isWord, spells⟩ := isKeyword
  exact (spells.upperChars (readable.isLetter isWord)).2

end IsKeyword

theorem Readable.of_subset {words some : List String} (readable : Readable words) (nonempty : some ≠ [])
    (subset : some ⊆ words) : Readable some where
  nonempty := nonempty
  prefixFree := fun word isWord other isOther =>
    readable.prefixFree word (subset isWord) other (subset isOther)
  ne_nil := fun word isWord => readable.ne_nil word (subset isWord)
  letters := fun word isWord => readable.letters word (subset isWord)

/-- A character that spells no letter starts no keyword. -/
theorem Readable.keyword?_eq_none {words : List String} (readable : Readable words) {c : Char}
    (noLetter : ∀ letter, ¬SpellsLetter letter c) (rest : List Char) : keyword? words (c :: rest) = none := by
  cases found : keyword? words (c :: rest) with
  | none => rfl
  | some read =>
    obtain ⟨isKeyword, split⟩ := (keyword?_eq_some_iff readable.prefixFree).mp found
    cases taken : read.1 with
    | nil => exact absurd taken (isKeyword.ne_nil readable)
    | cons d more =>
      rw [taken] at split isKeyword
      obtain ⟨letter, spells⟩ := isKeyword.letter_of_mem readable (.head _)
      rw [List.cons_append, List.cons.injEq] at split
      exact absurd (split.1 ▸ spells) (noLetter letter)

theorem Readable.keyword?_eq_none_of_isBlank {words : List String} (readable : Readable words) {c : Char}
    (blank : isBlank c) (rest : List Char) : keyword? words (c :: rest) = none :=
  readable.keyword?_eq_none (fun _ spells => by simp [spells.not_blank] at blank) rest

theorem Readable.keyword?_eq_none_of_sign {words : List String} (readable : Readable words) {c : Char}
    (sign : c ∈ layoutSigns) (rest : List Char) : keyword? words (c :: rest) = none :=
  readable.keyword?_eq_none (fun _ spells => spells.not_sign sign) rest

/-- Two keywords at the start of one text are the same word. -/
theorem PrefixFree.exists_common {words : List String} (free : PrefixFree words) {left right : List String}
    (isLeft : left ⊆ words) (isRight : right ⊆ words) {taken taken' rest rest' : List Char}
    (keyword : IsKeyword left taken) (keyword' : IsKeyword right taken')
    (same : taken ++ rest = taken' ++ rest') : ∃ word ∈ left, word ∈ right := by
  obtain ⟨word, isWord, spells⟩ := keyword
  obtain ⟨other, isOther, spells'⟩ := keyword'
  have equal := free.eq_of_spells (isLeft isWord) (isRight isOther) spells spells' same
  exact ⟨word, isWord, equal ▸ isOther⟩

theorem PrefixFree.of_subset {words some : List String} (free : PrefixFree words) (subset : some ⊆ words) :
    PrefixFree some := fun word isWord other isOther => free word (subset isWord) other (subset isOther)

/-- A text that starts with a keyword starts with none of other words. -/
theorem PrefixFree.keyword?_eq_none {words : List String} (free : PrefixFree words) {left right : List String}
    (isLeft : left ⊆ words) (isRight : right ⊆ words) (apart : ∀ word ∈ left, word ∉ right) {taken : List Char}
    (keyword : IsKeyword left taken) (rest : List Char) : keyword? right (taken ++ rest) = none := by
  rw [Option.eq_none_iff_forall_ne_some]
  intro read found
  obtain ⟨keyword', same⟩ := (keyword?_eq_some_iff (free.of_subset isRight)).mp found
  obtain ⟨word, isWord, isOther⟩ := free.exists_common isLeft isRight keyword keyword' same
  exact apart word isWord isOther

/-- The words that declare steps and the word of transitions cannot be mistaken for one another or for a sign
of the layout, and neither can the mark of comments. -/
structure Dialect.Readable (dialect : Dialect) : Prop where
  opening : StepFlow.Readable (dialect.conditions.transition :: dialect.declarationWords)
  step_ne_nil : dialect.stepWords.step ≠ []
  rest_ne_nil : dialect.stepWords.rest ≠ []
  not_rest : ∀ word ∈ dialect.stepWords.step, word ∉ dialect.stepWords.rest
  not_declaring : dialect.conditions.transition ∉ dialect.declarationWords
  comment : ∀ c ∈ dialect.commentMark.toList, c = '/'

theorem Dialect.readable_default : ({} : Dialect).Readable where
  opening := by
    refine ⟨by decide, by decide +kernel, by decide +kernel, fun word isWord => List.forall_iff_forall_mem.mp ?_⟩
    revert word
    decide +kernel
  step_ne_nil := by decide
  rest_ne_nil := by decide
  not_rest := by decide +kernel
  not_declaring := by decide +kernel
  comment := List.forall_iff_forall_mem.mp (by decide +kernel)

namespace Dialect.Readable

variable {dialect : Dialect} (readable : dialect.Readable)
include readable

theorem step : StepFlow.Readable dialect.stepWords.step :=
  readable.opening.of_subset readable.step_ne_nil fun _ isWord =>
    .tail _ (List.mem_append_right _ isWord)

theorem rest : StepFlow.Readable dialect.stepWords.rest :=
  readable.opening.of_subset readable.rest_ne_nil fun _ isWord =>
    .tail _ (List.mem_append_left _ isWord)

theorem declaring : StepFlow.Readable dialect.declarationWords :=
  readable.opening.of_subset (by simp [declarationWords, readable.step_ne_nil]) (List.subset_cons_self ..)

theorem transition : StepFlow.Readable [dialect.conditions.transition] :=
  readable.opening.of_subset (by simp) (by simp)

end Dialect.Readable

end StepFlow
