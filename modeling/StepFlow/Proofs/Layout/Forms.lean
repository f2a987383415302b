import StepFlow.Proofs.Layout.Respacing

/-! # The forms of declarations

The canonical form of a declaration is spaced like any other line. Its head is then read back from the spaced
line, and the form that is read back is spaced into the same line: the gaps of the head do not depend on the gaps
that were there before.
-/

namespace StepFlow.Layout

open Text Pattern

/-- A line without its indentation in uniform spacing. -/
def spacedBody (body : List Char) : List Char := trim (squeeze (spaceMark [] (spaceSigns body)).2)

/-- A line in uniform spacing, with its indentation. -/
def spacedLine (indent body : List Char) : List Char :=
  if (trim (squeeze (spaceMark indent (spaceSigns body)).2)).isEmpty then []
  else (spaceMark indent (spaceSigns body)).1 ++ trim (squeeze (spaceMark indent (spaceSigns body)).2)

theorem spacedBody_render (cells : List Cell) : spacedBody (render cells) = render (tidy cells) := tidy_render [] cells

theorem startsBlank_render (cells : List Cell) : startsBlank (render cells) = false := by
  cases cells with
  | nil => rfl
  | cons cell rest => exact cell.solid

section Body

variable {body : List Char} (solid : startsBlank body = false)
include solid

theorem startsBlank_spacedBody : startsBlank (spacedBody body) = false := by
  obtain ⟨cells, rfl⟩ := exists_render solid
  rw [spacedBody_render, startsBlank_render]

theorem spacedBody_spacedBody : spacedBody (spacedBody body) = spacedBody body := by
  obtain ⟨cells, rfl⟩ := exists_render solid
  rw [spacedBody_render, spacedBody_render, tidy_tidy]

theorem respaced_spacedBody : Respaced body (spacedBody body) := by
  obtain ⟨cells, rfl⟩ := exists_render solid
  rw [spacedBody_render]
  exact respaced_tidy cells

theorem head?_spacedBody : (spacedBody body).head? = body.head? := by
  obtain ⟨cells, rfl⟩ := exists_render solid
  rw [spacedBody_render, head?_render, head?_render, tidy, nextChar_tidyFrom]

theorem spacedBody_ne_nil (nonempty : body ≠ []) : spacedBody body ≠ [] := by
  intro empty
  have head := head?_spacedBody solid
  rw [empty, List.head?_nil, eq_comm, List.head?_eq_none_iff] at head
  exact nonempty head

/-- A marked line loses its indentation when it is spaced. -/
theorem spacedLine_eq (nonempty : body ≠ []) (indent : List Char) :
    spacedLine indent body = (if body.head?.any isMark then [] else indent) ++ spacedBody body := by
  have written := spacedBody_ne_nil solid nonempty
  obtain ⟨cells, rfl⟩ := exists_render solid
  rw [spacedBody_render] at written ⊢
  rw [spacedLine, tidy_render, spaceMark_render, head?_render, if_neg]
  simpa using written

end Body

/-- The letters of a word as cells without gaps. -/
def letterCells (word : List Char) (solid : ∀ c ∈ word, isBlank c = false) : List Cell :=
  word.pmap (fun c solid => ⟨c, .none, solid⟩) solid

theorem render_letterCells (word : List Char) (solid : ∀ c ∈ word, isBlank c = false) :
    render (letterCells word solid) = word := by
  induction word with
  | nil => rfl
  | cons c word ih =>
    rw [letterCells, List.pmap_cons, render_cons]
    exact congrArg (c :: ·) (ih fun d member => solid d (.tail _ member))

/-- A character of a head: a letter of a keyword or a digit, around which no sign moves a gap. -/
structure IsInert (c : Char) : Prop where
  not_movable : c ∉ movableSigns
  not_relational : isRelational c = false
  not_blank : isBlank c = false

theorem isInert_of_spellsLetter {letter c : Char} (spells : SpellsLetter letter c) : IsInert c where
  not_movable := not_movable_of_spellsLetter spells
  not_relational := by
    by_contra relational
    rw [Bool.not_eq_false] at relational
    exact spells.not_sign (mem_layoutSigns_of_isRelational relational)
  not_blank := spells.not_blank

theorem isInert_of_isDecimal {c : Char} (digit : isDecimal c) : IsInert c where
  not_movable := not_movable_of_isDecimal digit
  not_relational := by
    by_contra relational
    rw [Bool.not_eq_false] at relational
    rw [forall_relational (P := fun c => isDecimal c = false) (by decide) relational] at digit
    exact absurd digit Bool.false_ne_true
  not_blank := isBlank_of_isDecimal digit

/-- A colon with a gap after it. -/
def colonCell (gap : Gap) : Cell := ⟨':', gap, by decide⟩

/-- Before a colon, a head keeps its gaps. -/
theorem tidyFrom_head (front : List Cell) (last : Cell) (gap : Gap) (after : List Cell) (prev : Option Char)
    (joined : Bool) (inert : ∀ cell ∈ front ++ [last], IsInert cell.char)
    (squeezed : ∀ cell ∈ front, cell.gap.squeezed = cell.gap) (closed : last.gap = .none) :
    tidyFrom prev joined (front ++ last :: colonCell gap :: after) =
      front ++ last :: tidyFrom (some last.char) false (colonCell gap :: after) := by
  induction front generalizing prev joined with
  | nil =>
    have isInert := inert last (by simp)
    have kept : tidyGap prev joined last (colonCell gap :: after) = last.gap := by
      rw [tidyGap, openGap_of_not_movable prev joined _ isInert.not_movable,
        leadGap_of_ne (by simp [nextChar, colonCell]), closed]
      split <;> rfl
    rw [List.nil_append, List.nil_append, tidyFrom_cons, kept, isInert.not_relational, Bool.false_and]
  | cons cell front ih =>
    have isInert := inert cell (by simp)
    have kept : tidyGap prev joined cell (front ++ last :: colonCell gap :: after) = cell.gap := by
      cases front with
      | nil =>
        rw [List.nil_append, tidyGap_of_not_movable prev joined _ isInert.not_movable
          (inert last (by simp)).not_movable, squeezed cell (.head _)]
      | cons next front =>
        rw [List.cons_append, tidyGap_of_not_movable prev joined _ isInert.not_movable
          (inert next (by simp)).not_movable, squeezed cell (.head _)]
    rw [List.cons_append, tidyFrom_cons, kept, isInert.not_relational, Bool.false_and,
      ih _ _ (fun cell member => inert cell (.tail _ member)) (fun cell member => squeezed cell (.tail _ member)),
      List.cons_append]

/-- A text that is the head of a declaration up to its colon: inert characters, gaps that are squeezed, and none at
its end. -/
def IsHead (head : List Char) : Prop :=
  ∃ (front : List Cell) (last : Cell), head = render (front ++ [last]) ∧ (∀ cell ∈ front ++ [last], IsInert cell.char) ∧
    (∀ cell ∈ front, cell.gap.squeezed = cell.gap) ∧ last.gap = .none

theorem mem_letterCells {word : List Char} {solid : ∀ c ∈ word, isBlank c = false} {cell : Cell}
    (member : cell ∈ letterCells word solid) : cell.char ∈ word ∧ cell.gap = .none := by
  obtain ⟨c, isLetter, rfl⟩ := List.mem_pmap.mp member
  exact ⟨isLetter, rfl⟩

/-- A word is a head. -/
theorem isHead_word {word : List Char} (nonempty : word ≠ []) (inert : ∀ c ∈ word, IsInert c) : IsHead word := by
  obtain ⟨front, last, rfl⟩ := (List.eq_nil_or_concat word).resolve_left nonempty
  rw [List.concat_eq_append] at inert ⊢
  have solid : ∀ c ∈ front, isBlank c = false := fun c member => (inert c (by simp [member])).not_blank
  refine ⟨letterCells front solid, ⟨last, .none, (inert last (by simp)).not_blank⟩, ?_, ?_, ?_, rfl⟩
  · rw [render_append, render_letterCells]
    rfl
  · intro cell member
    rcases List.mem_append.mp member with isFront | isLast
    · exact inert _ (List.mem_append_left _ (mem_letterCells isFront).1)
    · rw [List.mem_singleton.mp isLast]
      exact inert last (by simp)
  · intro cell member
    rw [(mem_letterCells member).2, Gap.squeezed_none]

/-- A word before a head, with one space between them, makes a longer head. -/
theorem IsHead.cons {word head : List Char} (nonempty : word ≠ []) (inert : ∀ c ∈ word, IsInert c)
    (isHead : IsHead head) : IsHead (word ++ ' ' :: head) := by
  obtain ⟨front, last, rfl, inertHead, squeezed, closed⟩ := isHead
  obtain ⟨letters, final, rfl⟩ := (List.eq_nil_or_concat word).resolve_left nonempty
  rw [List.concat_eq_append] at inert ⊢
  have solid : ∀ c ∈ letters, isBlank c = false := fun c member => (inert c (by simp [member])).not_blank
  have finalInert := inert final (by simp)
  refine ⟨letterCells letters solid ++ ⟨final, .one, finalInert.not_blank⟩ :: front, last, ?_, ?_, ?_, closed⟩
  · simp [render_letterCells, Gap.one]
  · intro cell member
    simp only [List.append_assoc, List.cons_append, List.mem_append, List.mem_cons] at member
    rcases member with isLetter | rfl | later
    · exact inert _ (List.mem_append_left _ (mem_letterCells isLetter).1)
    · exact finalInert
    · exact inertHead cell (by simpa using later)
  · intro cell member
    rcases List.mem_append.mp member with isLetter | later
    · rw [(mem_letterCells isLetter).2, Gap.squeezed_none]
    · rcases List.mem_cons.mp later with rfl | isFront
      · exact Gap.squeezed_one
      · exact squeezed cell isFront

/-- What follows the colon of a spaced head: nothing, or one space and a solid character. -/
def AfterColon (tail : List Char) : Prop := tail = [] ∨ ∃ rest, tail = ' ' :: rest ∧ startsBlank rest = false

theorem AfterColon.eq_nil_or_head? {tail : List Char} (after : AfterColon tail) :
    tail = [] ∨ tail.head? = some ' ' := by
  rcases after with rfl | ⟨rest, rfl, -⟩
  · exact .inl rfl
  · exact .inr rfl

/-- A spaced head has one space after its colon, unless the line ends there. -/
theorem tidyFrom_colonCell (prev : Option Char) (after : List Cell) :
    tidyFrom prev false (colonCell .one :: after) =
      colonCell (if after.isEmpty then .none else .one) :: tidyFrom (some ':') false after := by
  have opened : openGap prev false (colonCell .one) after = .one := by
    rw [openGap, colonCell, Gap.squeezed_one, ite_self]
  have tidied : tidyGap prev false (colonCell .one) after = if after.isEmpty then .none else .one := by
    cases after with
    | nil => rfl
    | cons next after =>
      rw [tidyGap, opened, colonCell, spacedColon_colon]
      simp only [List.isEmpty_cons, Bool.or_false, Bool.false_eq_true, if_false, leadGap]
      split <;> rfl
  rw [tidyFrom_cons, tidied, opened]
  rfl

/-- The spaced form of a declaration has the head of the form, and what becomes of the text after the colon does not
depend on the head. -/
theorem spacedBody_head_render {head : List Char} (isHead : IsHead head) (after : List Cell) :
    spacedBody (head ++ ':' :: ' ' :: render after) =
      head ++ ':' ::
        ((if after.isEmpty then Gap.none else .one).blanks ++ render (tidyFrom (some ':') false after)) := by
  obtain ⟨front, last, rfl, inert, squeezed, closed⟩ := isHead
  have whole : render (front ++ [last]) ++ ':' :: ' ' :: render after =
      render (front ++ last :: colonCell .one :: after) := by
    simp [colonCell, Gap.one]
  rw [whole, spacedBody_render, tidy, tidyFrom_head front last .one after none false inert squeezed closed,
    tidyFrom_colonCell]
  simp [colonCell]

theorem IsHead.startsBlank_append {head : List Char} (isHead : IsHead head) (rest : List Char) :
    startsBlank (head ++ rest) = false := by
  obtain ⟨front, last, rfl, -⟩ := isHead
  cases front <;> exact Cell.solid _

/-- Reading the text after the colon of a spaced form again and spacing the form anew changes nothing. -/
theorem spacedBody_head {head rest : List Char} (isHead : IsHead head) (solid : startsBlank rest = false) :
    ∃ tail, AfterColon tail ∧ spacedBody (head ++ ':' :: ' ' :: rest) = head ++ ':' :: tail ∧
      spacedBody (head ++ ':' :: ' ' :: tail.dropWhile isBlank) = head ++ ':' :: tail := by
  obtain ⟨after, rfl⟩ := exists_render solid
  have spaced := spacedBody_head_render isHead after
  cases after with
  | nil => exact ⟨[], .inl rfl, spaced, spaced⟩
  | cons next after =>
    refine ⟨' ' :: render (tidyFrom (some ':') false (next :: after)), .inr ⟨_, rfl, startsBlank_render _⟩, spaced, ?_⟩
    have again := spacedBody_spacedBody (isHead.startsBlank_append (':' :: ' ' :: render (next :: after)))
    rw [spaced] at again
    rw [List.dropWhile_cons, if_pos (by decide), dropWhile_render]
    exact again

theorem startsBlank_dropWhile (text : List Char) : startsBlank (text.dropWhile isBlank) = false := by
  obtain ⟨gap, cells, rfl⟩ := exists_cells text
  rw [dropWhile_blanks_render, startsBlank_render]

/-- The canonical forms of declarations. -/
inductive IsForm (dialect : Dialect) : List Char → Prop
  | rest {word rest : List Char} : IsKeyword dialect.stepWords.rest word → upperChars word = word →
      startsBlank rest = false → IsForm dialect (word ++ ':' :: ' ' :: rest)
  | step {word number rest : List Char} : IsKeyword dialect.stepWords.step word → upperChars word = word →
      number ≠ [] → (∀ c ∈ number, isDecimal c) → startsBlank rest = false →
      IsForm dialect (word ++ ' ' :: number ++ ':' :: ' ' :: rest)

theorem inert_of_isKeyword {words : List String} (known : Readable words) {word : List Char}
    (keyword : IsKeyword words word) : ∀ c ∈ word, IsInert c := by
  intro c member
  obtain ⟨letter, spells⟩ := keyword.letter_of_mem known member
  exact isInert_of_spellsLetter spells

/-- A form starts with a declaration word. -/
theorem IsForm.keyword {dialect : Dialect} {form : List Char} (isForm : IsForm dialect form) :
    ∃ word rest, IsKeyword dialect.declarationWords word ∧ form = word ++ rest := by
  cases isForm with
  | @rest word rest keyword _ _ =>
    obtain ⟨known, member, spells⟩ := keyword
    exact ⟨word, _, ⟨known, List.mem_append_left _ member, spells⟩, rfl⟩
  | @step word number rest keyword _ _ _ _ =>
    obtain ⟨known, member, spells⟩ := keyword
    exact ⟨word, _, ⟨known, List.mem_append_right _ member, spells⟩, List.append_assoc _ _ _⟩

section Reading

variable {dialect : Dialect} (readable : dialect.Readable) {word : List Char}
include readable

/-- A rest declaration that is read has a keyword of rest, and what follows its head does not start with a blank. -/
theorem of_readRestHead? {text rest : List Char} (read : readRestHead? dialect text = some (word, rest)) :
    IsKeyword dialect.stepWords.rest word ∧ startsBlank rest = false := by
  obtain ⟨⟨taken, after⟩, keyword, found⟩ := Option.bind_eq_some_iff.mp read
  have isKeyword := ((keyword?_eq_some_iff readable.rest.prefixFree).mp keyword).1
  simp only at found
  split at found
  · obtain ⟨rfl, rfl⟩ := Prod.mk.inj (Option.some.inj found)
    exact ⟨isKeyword, rfl⟩
  · rename_i c more dropped
    split at found
    · obtain ⟨rfl, rfl⟩ := Prod.mk.inj (Option.some.inj found)
      exact ⟨isKeyword, startsBlank_dropWhile more⟩
    · split at found
      · obtain ⟨rfl, rfl⟩ := Prod.mk.inj (Option.some.inj found)
        exact ⟨isKeyword, dropped ▸ startsBlank_dropWhile after⟩
      · exact absurd found (by simp)

theorem of_readNumberedHead? {text number rest : List Char}
    (read : readNumberedHead? dialect text = some (word, number, rest)) :
    IsKeyword dialect.stepWords.step word ∧ number ≠ [] ∧ (∀ c ∈ number, isDecimal c) ∧ startsBlank rest = false := by
  obtain ⟨⟨taken, after⟩, keyword, found⟩ := Option.bind_eq_some_iff.mp read
  have isKeyword := ((keyword?_eq_some_iff readable.step.prefixFree).mp keyword).1
  simp only at found
  split at found
  · exact absurd found (by simp)
  · rename_i numbered
    obtain ⟨rfl, parts⟩ := Prod.mk.inj (Option.some.inj found)
    obtain ⟨rfl, rfl⟩ := Prod.mk.inj parts
    exact ⟨isKeyword, by simpa using numbered, fun c member => List.mem_takeWhile_imp member, startsBlank_dropWhile _⟩

theorem of_readUnnumberedHead? {text rest : List Char} (read : readUnnumberedHead? dialect text = some (word, rest)) :
    IsKeyword dialect.stepWords.step word ∧ startsBlank rest = false := by
  obtain ⟨⟨taken, after⟩, keyword, found⟩ := Option.bind_eq_some_iff.mp read
  have isKeyword := ((keyword?_eq_some_iff readable.step.prefixFree).mp keyword).1
  simp only at found
  split at found
  · exact absurd found (by simp)
  · split at found
    · obtain ⟨rfl, rfl⟩ := Prod.mk.inj (Option.some.inj found)
      exact ⟨isKeyword, startsBlank_dropWhile _⟩
    · exact absurd found (by simp)

/-- What is read as a declaration has one of the canonical forms. -/
theorem isForm_of_declarationForm? {body form : List Char} (found : declarationForm? dialect body = some form) :
    IsForm dialect form := by
  rw [declarationForm?_eq readable, Option.or_eq_some_iff, Option.or_eq_some_iff] at found
  rcases found with found | ⟨-, found | ⟨-, found⟩⟩
  · obtain ⟨⟨word, rest⟩, read, rfl⟩ := Option.map_eq_some_iff.mp found
    obtain ⟨keyword, solid⟩ := of_readRestHead? readable read
    simpa using IsForm.rest (keyword.upperChars readable.rest) (keyword.upperChars_upperChars readable.rest) solid
  · obtain ⟨⟨word, number, rest⟩, read, rfl⟩ := Option.map_eq_some_iff.mp found
    obtain ⟨keyword, nonempty, digits, solid⟩ := of_readNumberedHead? readable read
    simpa using IsForm.step (keyword.upperChars readable.step) (keyword.upperChars_upperChars readable.step)
      nonempty digits solid
  · obtain ⟨⟨word, rest⟩, read, rfl⟩ := Option.map_eq_some_iff.mp found
    obtain ⟨keyword, solid⟩ := of_readUnnumberedHead? readable read
    simpa using IsForm.step (keyword.upperChars readable.step) (keyword.upperChars_upperChars readable.step)
      (List.cons_ne_nil '1' []) (List.forall_iff_forall_mem.mp (by decide)) solid

/-- A keyword of rest with a colon is the head of a rest declaration. -/
theorem readRestHead?_colon (keyword : IsKeyword dialect.stepWords.rest word) (tail : List Char) :
    readRestHead? dialect (word ++ ':' :: tail) = some (word, tail.dropWhile isBlank) := by
  rw [readRestHead?, (keyword?_eq_some_iff readable.rest.prefixFree).mpr ⟨keyword, rfl⟩, Option.bind_some]
  rfl

/-- A line with a keyword of steps at its start is no rest declaration. -/
theorem readRestHead?_eq_none (keyword : IsKeyword dialect.stepWords.step word) (tail : List Char) :
    readRestHead? dialect (word ++ tail) = none := by
  rw [readRestHead?, readable.declaring.prefixFree.keyword?_eq_none (List.subset_append_right _ _)
    (List.subset_append_left _ _) readable.not_rest keyword]
  rfl

/-- A keyword of steps with a number and a colon is the head of a numbered declaration. -/
theorem readNumberedHead?_colon (keyword : IsKeyword dialect.stepWords.step word) {number : List Char}
    (nonempty : number ≠ []) (digits : ∀ c ∈ number, isDecimal c) {tail : List Char}
    (after : tail = [] ∨ tail.head? = some ' ') :
    readNumberedHead? dialect (word ++ ' ' :: number ++ ':' :: tail) = some (word, number, tail.dropWhile isBlank) := by
  have loose : (' ' :: (number ++ ':' :: tail)).dropWhile isLoose = number ++ ':' :: tail := by
    rw [List.dropWhile_cons, if_pos (by decide)]
    cases number with
    | nil => exact absurd rfl nonempty
    | cons c more =>
      have noLoose : ¬isLoose c := fun loose =>
        Bool.false_ne_true ((isDecimal_of_isLoose loose).symm.trans (digits c (.head _)))
      rw [List.cons_append, List.dropWhile_cons, if_neg noLoose]
  have taken : (number ++ ':' :: tail).takeWhile isDecimal = number := by
    rw [List.takeWhile_append_of_pos digits, List.takeWhile_cons, if_neg (by decide), List.append_nil]
  have dropped : (number ++ ':' :: tail).dropWhile isDecimal = ':' :: tail := by
    rw [List.dropWhile_append_of_pos digits, List.dropWhile_cons, if_neg (by decide)]
  have stopped : tail.dropWhile (":.)".toList.contains ·) = tail := by
    rcases after with rfl | space
    · rfl
    · obtain ⟨rest, rfl⟩ := List.head?_eq_some_iff.mp space
      rfl
  rw [readNumberedHead?, List.append_assoc, List.cons_append,
    (keyword?_eq_some_iff readable.step.prefixFree).mpr ⟨keyword, rfl⟩, Option.bind_some]
  simp only [loose, taken, dropped, List.isEmpty_iff, if_neg nonempty]
  rw [List.dropWhile_cons, if_neg (by decide), List.dropWhile_cons, if_pos (by decide), stopped]

/-- The form of a declaration is read back from its spaced line, and is then spaced into the same line. -/
theorem IsForm.declarationForm?_spacedBody {form : List Char} (isForm : IsForm dialect form) :
    ∃ form', declarationForm? dialect (spacedBody form) = some form' ∧ spacedBody form' = spacedBody form := by
  cases isForm with
  | @rest word rest keyword upper solid =>
    have isHead := isHead_word (keyword.ne_nil readable.rest) (inert_of_isKeyword readable.rest keyword)
    obtain ⟨tail, -, spaced, again⟩ := spacedBody_head isHead solid
    refine ⟨word ++ ':' :: ' ' :: tail.dropWhile isBlank, ?_, again.trans spaced.symm⟩
    rw [spaced, declarationForm?_eq readable, readRestHead?_colon readable keyword tail]
    simp [upper]
  | @step word number rest keyword upper nonempty digits solid =>
    have isHead := (isHead_word nonempty fun c member => isInert_of_isDecimal (digits c member)).cons
      (keyword.ne_nil readable.step) (inert_of_isKeyword readable.step keyword)
    obtain ⟨tail, after, spaced, again⟩ := spacedBody_head isHead solid
    refine ⟨word ++ ' ' :: number ++ ':' :: ' ' :: tail.dropWhile isBlank, ?_, again.trans spaced.symm⟩
    rw [spaced, declarationForm?_eq readable,
      readNumberedHead?_colon readable keyword nonempty digits after.eq_nil_or_head?, List.append_assoc,
      readRestHead?_eq_none readable keyword]
    simp [upper]

end Reading

end StepFlow.Layout
