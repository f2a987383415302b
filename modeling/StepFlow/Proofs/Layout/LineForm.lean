import StepFlow.Proofs.Layout.Forms

/-! # Canonical lines are canonical

The canonical form of a line is its own canonical form. A comment stays, and a transition is read back as it was
written. The form of a declaration is read back from its spaced line. A line that is no declaration does not become
one by being spaced.
-/

namespace StepFlow.Layout

open Text Pattern

/-- The indentation of a line is its mark or nothing. -/
def IsIndent (indent : List Char) : Prop := indent = [] ∨ indent = indentMark

/-- A marked line loses its indentation. -/
theorem IsIndent.unless {indent : List Char} (isIndent : IsIndent indent) (marked : Bool) :
    IsIndent (if marked then [] else indent) := by
  split
  · exact .inl rfl
  · exact isIndent

/-- A line is put together from its indentation and the rest. -/
theorem splitIndent_append {indent body : List Char} (isIndent : IsIndent indent) (solid : startsBlank body = false) :
    splitIndent (indent ++ body) = (indent, body) := by
  rcases isIndent with rfl | rfl
  · cases body with
    | nil => rfl
    | cons c rest =>
      have differs : ' ' ≠ c := by
        rintro rfl
        exact absurd (show isBlank ' ' = false from solid) (by decide)
      simp [splitIndent, indentMark, stripStart?, differs]
  · simp [splitIndent, indentMark, stripStart?]

theorem append_splitIndent (line : List Char) :
    IsIndent (splitIndent line).1 ∧ (splitIndent line).1 ++ (splitIndent line).2 = line := by
  rw [splitIndent]
  split
  · rename_i body stripped
    exact ⟨.inr rfl, (stripStart?_eq_some_iff.mp stripped).symm⟩
  · exact ⟨.inl rfl, rfl⟩

/-- The form of a line as a declaration; an indented line needs a whole head. -/
def declared? (dialect : Dialect) (indent body : List Char) : Option (List Char) :=
  if indent.isEmpty || hasDeclarationHead dialect body then declarationForm? dialect body else none

theorem readPlus_space {c : Char} (solid : isBlank c = false) (rest : List Char) :
    readPlus ('+' :: ' ' :: c :: rest) = (true, c :: rest) := by
  simp [readPlus, solid, show isBlank ' ' = true by decide]

section Dialect

variable {dialect : Dialect} (readable : dialect.Readable)
include readable

theorem isForm_of_declared? {indent body form : List Char} (found : declared? dialect indent body = some form) :
    IsForm dialect form := by
  rw [declared?] at found
  split at found
  · exact isForm_of_declarationForm? readable found
  · exact absurd found (by simp)

/-- A form starts with a letter of a keyword, and so does its spaced line. -/
theorem IsForm.exists_letter {form : List Char} (isForm : IsForm dialect form) :
    ∃ letter c rest rest', form = c :: rest ∧ spacedBody form = c :: rest' ∧ SpellsLetter letter c := by
  obtain ⟨word, rest, keyword, rfl⟩ := isForm.keyword
  obtain ⟨c, more, letter, rfl, spells⟩ := keyword.exists_cons readable.declaring
  have solid : startsBlank (c :: (more ++ rest)) = false := spells.not_blank
  obtain ⟨rest', start⟩ := List.head?_eq_some_iff.mp (head?_spacedBody solid)
  exact ⟨letter, c, more ++ rest, rest', rfl, start, spells⟩

theorem IsForm.startsBlank_eq_false {form : List Char} (isForm : IsForm dialect form) : startsBlank form = false := by
  obtain ⟨letter, c, rest, -, rfl, -, spells⟩ := isForm.exists_letter readable
  exact spells.not_blank

theorem IsForm.ne_nil {form : List Char} (isForm : IsForm dialect form) : form ≠ [] := by
  obtain ⟨letter, c, rest, -, rfl, -, -⟩ := isForm.exists_letter readable
  exact List.cons_ne_nil c rest

/-- The canonical form of a line, by its kind. -/
theorem lineForm_append {indent body : List Char} (isIndent : IsIndent indent) (solid : startsBlank body = false)
    (nonempty : body ≠ []) :
    lineForm dialect (indent ++ body) =
      if dialect.isComment body then indent ++ body
      else ((transitionForm? dialect body).or ((declared? dialect indent body).map spacedBody)).getD
        ((if body.head?.any isMark then [] else indent) ++ spacedBody body) := by
  have present : (indent ++ body).isEmpty = false := by simp [nonempty]
  rw [lineForm, splitIndent_append isIndent solid]
  simp only [present, Bool.false_eq_true, if_false, startsIn_declarationHead readable]
  split
  · rfl
  · cases transitionForm? dialect body with
    | some form => rfl
    | none =>
      rw [← declared?]
      cases found : declared? dialect indent body with
      | none => exact spacedLine_eq solid nonempty indent
      | some form =>
        have isForm := isForm_of_declared? readable found
        have line := spacedLine_eq (isForm.startsBlank_eq_false readable) (isForm.ne_nil readable) []
        rw [ite_self, List.nil_append] at line
        exact line

/-- A comment starts with a slash. -/
theorem isComment_eq_false {c : Char} (differs : c ≠ '/') (rest : List Char) :
    dialect.isComment (c :: rest) = false := by
  by_contra comment
  rw [Bool.not_eq_false, Dialect.isComment, Bool.and_eq_true, List.isPrefixOf_iff_prefix] at comment
  obtain ⟨nonempty, after, same⟩ := comment
  cases mark : dialect.commentMark.toList with
  | nil => simp [← String.toList_eq_nil_iff, mark] at nonempty
  | cons d more =>
    rw [mark, List.cons_append, List.cons.injEq] at same
    exact differs (same.1 ▸ readable.comment d (mark ▸ .head _))

theorem of_readTransition? {text word number : List Char} (read : readTransition? dialect text = some (word, number)) :
    (∃ rest, keyword? [dialect.conditions.transition] text = some rest) ∧ IsKeyword dialect.stepWords.step word ∧
      number ≠ [] ∧ ∀ c ∈ number, isDecimal c := by
  obtain ⟨⟨opening, rest⟩, opened, found⟩ := Option.bind_eq_some_iff.mp read
  simp only at found
  split at found
  · obtain ⟨⟨taken, after⟩, keyword, found⟩ := Option.bind_eq_some_iff.mp found
    simp only at found
    split at found
    · rename_i ended
      obtain ⟨rfl, rfl⟩ := Prod.mk.inj (Option.some.inj found)
      refine ⟨⟨(opening, rest), ?_⟩, ((keyword?_eq_some_iff readable.step.prefixFree).mp keyword).1,
        by simpa using ended.2.1, fun c member => List.mem_takeWhile_imp member⟩
      obtain ⟨spells, split⟩ := stripWord?_eq_some_iff.mp opened
      exact (keyword?_eq_some_iff readable.transition.prefixFree).mpr ⟨⟨_, .head _, spells⟩, split⟩
    · exact absurd found (by simp)
  · exact absurd found (by simp)

/-- A transition is read back as it is written. -/
theorem readTransition?_append {opening word number : List Char}
    (opens : IsKeyword [dialect.conditions.transition] opening) (keyword : IsKeyword dialect.stepWords.step word)
    (nonempty : number ≠ []) (digits : ∀ c ∈ number, isDecimal c) :
    readTransition? dialect (opening ++ ' ' :: (word ++ ' ' :: number)) = some (word, number) := by
  have spells : Spells dialect.conditions.transition.toList opening := by
    obtain ⟨known, member, spells⟩ := opens
    rwa [List.mem_singleton.mp member] at spells
  have started : (' ' :: (word ++ ' ' :: number)).dropWhile isBlank = word ++ ' ' :: number := by
    cases word with
    | nil => exact absurd rfl (keyword.ne_nil readable.step)
    | cons c more =>
      obtain ⟨letter, isLetter⟩ := keyword.letter_of_mem readable.step (.head _)
      rw [List.dropWhile_cons, if_pos (by decide), List.cons_append, List.dropWhile_cons, isLetter.not_blank]
      rfl
  have numbered : (' ' :: number).dropWhile isBlank = number := by
    cases number with
    | nil => exact absurd rfl nonempty
    | cons c more =>
      rw [List.dropWhile_cons, if_pos (by decide), List.dropWhile_cons, isBlank_of_isDecimal (digits c (.head _))]
      rfl
  have taken : number.takeWhile isDecimal = number := List.takeWhile_eq_self_iff.mpr digits
  have dropped : number.dropWhile isDecimal = [] := List.dropWhile_eq_nil_iff.mpr digits
  have blank : ∀ text : List Char, startsBlank (' ' :: text) := fun _ => (by decide : isBlank ' ' = true)
  rw [readTransition?, stripWord?_eq_some_iff.mpr ⟨spells, rfl⟩, Option.bind_some]
  simp only [blank, if_true, started, (keyword?_eq_some_iff readable.step.prefixFree).mpr ⟨keyword, rfl⟩,
    Option.bind_some, numbered, taken, dropped]
  simp [nonempty]

/-- The word of transitions in upper case is itself such a word. -/
theorem isKeyword_transition :
    IsKeyword [dialect.conditions.transition] (upperChars dialect.conditions.transition.toList) := by
  have itself : IsKeyword [dialect.conditions.transition] dialect.conditions.transition.toList :=
    ⟨_, .head _, List.forall₂_same.mpr fun c _ => beq_self_eq_true (foldChar c)⟩
  exact itself.upperChars readable.transition

/-- The form of a transition is a line of its own and its own form. -/
theorem transitionForm?_transitionForm? {body form : List Char} (found : transitionForm? dialect body = some form) :
    startsBlank form = false ∧ form ≠ [] ∧ dialect.isComment form = false ∧
      transitionForm? dialect form = some form := by
  rw [transitionForm?_eq readable] at found
  obtain ⟨⟨word, number⟩, read, rfl⟩ := Option.map_eq_some_iff.mp found
  obtain ⟨-, keyword, nonempty, digits⟩ := of_readTransition? readable read
  have opens := isKeyword_transition readable
  have again := readTransition?_append readable opens (keyword.upperChars readable.step) nonempty digits
  have upper := keyword.upperChars_upperChars readable.step
  rw [transitionForm?_eq readable]
  obtain ⟨c, more, letter, start, spells⟩ := opens.exists_cons readable.transition
  cases (readPlus body).1 with
  | true =>
    refine ⟨(by decide : isBlank '+' = false), by simp, isComment_eq_false readable (by decide) _, ?_⟩
    simp only [if_true, List.append_assoc, List.cons_append, List.nil_append, start] at again ⊢
    rw [readPlus_space spells.not_blank, again]
    simp [upper]
  | false =>
    simp only [Bool.false_eq_true, if_false, List.append_assoc, List.cons_append, List.nil_append, start] at again ⊢
    refine ⟨spells.not_blank, by simp, isComment_eq_false readable (spells.ne_sign (by decide)) _, ?_⟩
    rw [readPlus_of_ne (spells.ne_sign (by decide)), again]
    simp [upper]

/-- The form of a transition is its own canonical form, and has no indentation. -/
theorem lineForm_transitionForm? {indent body form : List Char} (isIndent : IsIndent indent)
    (found : transitionForm? dialect body = some form) : lineForm dialect (indent ++ form) = form := by
  obtain ⟨solid, nonempty, noComment, again⟩ := transitionForm?_transitionForm? readable found
  rw [lineForm_append readable isIndent solid nonempty, noComment, again]
  rfl

/-- A line that starts with a word of declarations is no transition. -/
theorem transitionForm?_keyword {word : List Char} (keyword : IsKeyword dialect.declarationWords word)
    (rest : List Char) : transitionForm? dialect (word ++ rest) = none := by
  have unopened : keyword? [dialect.conditions.transition] (word ++ rest) = none :=
    readable.opening.prefixFree.keyword?_eq_none (List.subset_cons_self _ _)
      (List.cons_subset.mpr ⟨.head _, List.nil_subset _⟩)
      (fun word isWord isOpening => readable.not_declaring (List.mem_singleton.mp isOpening ▸ isWord)) keyword rest
  obtain ⟨c, more, letter, start, spells⟩ := keyword.exists_cons readable.declaring
  rw [start] at unopened ⊢
  rw [transitionForm?_eq readable, Option.map_eq_none_iff, List.cons_append,
    readPlus_of_ne (spells.ne_sign (by decide)), Option.eq_none_iff_forall_ne_some]
  intro reading read
  obtain ⟨⟨opening, opened⟩, -⟩ := of_readTransition? readable read
  exact absurd (opened.symm.trans unopened) (by simp)

/-- A form is no transition, even when it is spaced. -/
theorem IsForm.transitionForm?_eq_none {form : List Char} (isForm : IsForm dialect form) :
    transitionForm? dialect (spacedBody form) = none := by
  obtain ⟨word, rest, keyword, split⟩ := isForm.keyword
  have free := readable.declaring.prefixFree
  obtain ⟨rest', read, -⟩ := (respaced_spacedBody (isForm.startsBlank_eq_false readable)).keyword? readable.declaring
    ((keyword?_eq_some_iff free).mpr ⟨keyword, split⟩)
  rw [((keyword?_eq_some_iff free).mp read).2]
  exact transitionForm?_keyword readable keyword rest'

/-- A form has a whole head. -/
theorem IsForm.hasDeclarationHead {form : List Char} (isForm : IsForm dialect form) :
    Layout.hasDeclarationHead dialect form := by
  have free := readable.declaring.prefixFree
  cases isForm with
  | rest keyword _ _ =>
    obtain ⟨known, member, spells⟩ := keyword
    have declares : IsKeyword dialect.declarationWords _ := ⟨known, List.mem_append_left _ member, spells⟩
    rw [Layout.hasDeclarationHead, (keyword?_eq_some_iff free).mpr ⟨declares, rfl⟩]
    rfl
  | @step word number rest keyword _ nonempty digits _ =>
    obtain ⟨known, member, spells⟩ := keyword
    have declares : IsKeyword dialect.declarationWords word := ⟨known, List.mem_append_right _ member, spells⟩
    have numbered : (' ' :: (number ++ ':' :: ' ' :: rest)).dropWhile isBlank = number ++ ':' :: ' ' :: rest := by
      obtain ⟨c, more, rfl⟩ := List.exists_cons_of_ne_nil nonempty
      rw [List.dropWhile_cons, if_pos (by decide), List.cons_append, List.dropWhile_cons,
        isBlank_of_isDecimal (digits c (.head _)), if_neg Bool.false_ne_true]
    rw [Layout.hasDeclarationHead, List.append_assoc, (keyword?_eq_some_iff free).mpr ⟨declares, rfl⟩]
    simp only [Option.any_some, List.cons_append, numbered, List.dropWhile_append_of_pos digits]
    rfl

/-- The spaced form of a declaration is its own canonical form, and has no indentation. -/
theorem IsForm.lineForm_indented {indent form : List Char} (isIndent : IsIndent indent)
    (isForm : IsForm dialect form) : lineForm dialect (indent ++ spacedBody form) = spacedBody form := by
  obtain ⟨letter, c, -, rest, -, start, spells⟩ := isForm.exists_letter readable
  have solid := isForm.startsBlank_eq_false readable
  have noComment : dialect.isComment (spacedBody form) = false := by
    rw [start]
    exact isComment_eq_false readable (spells.ne_sign (by decide)) rest
  have head := (respaced_spacedBody solid).hasDeclarationHead readable (isForm.hasDeclarationHead readable)
  obtain ⟨form', found, same⟩ := isForm.declarationForm?_spacedBody readable
  have line := lineForm_append readable isIndent (startsBlank_spacedBody solid) (by simp [start])
  rw [noComment, isForm.transitionForm?_eq_none readable, declared?, head, Bool.or_true, if_pos rfl, found] at line
  simpa [same] using line

theorem IsForm.lineForm_spacedBody {form : List Char} (isForm : IsForm dialect form) :
    lineForm dialect (spacedBody form) = spacedBody form := by
  have line := isForm.lineForm_indented readable (show IsIndent [] from .inl rfl)
  rwa [List.nil_append] at line

theorem declarationForm?_eq_none_iff {text : List Char} :
    declarationForm? dialect text = none ↔
      readRestHead? dialect text = none ∧ readNumberedHead? dialect text = none ∧
        readUnnumberedHead? dialect text = none := by
  simp only [declarationForm?_eq readable, Option.or_eq_none_iff, Option.map_eq_none_iff]

/-- A line that is read as no declaration is read as none when it is respaced. -/
theorem Respaced.declarationForm?_eq_none {x y : List Char} (respaced : Respaced x y)
    (unread : declarationForm? dialect x = none) : declarationForm? dialect y = none := by
  rw [declarationForm?_eq_none_iff readable] at unread ⊢
  simp only [← Option.not_isSome_iff_eq_none] at unread ⊢
  exact ⟨fun found => unread.1 (respaced.symm.isSome_readRestHead? readable found),
    fun found => unread.2.1 (respaced.symm.isSome_readNumberedHead? readable found),
    fun found => unread.2.2 (respaced.symm.isSome_readUnnumberedHead? readable found)⟩

/-- A marked line is no declaration. -/
theorem declarationForm?_of_isMark {c : Char} (mark : isMark c) (rest : List Char) :
    declarationForm? dialect (c :: rest) = none := by
  have sign : c ∈ layoutSigns := by
    rcases Bool.or_eq_true_iff.mp mark with same | same <;> rw [beq_iff_eq.mp same] <;> decide
  rw [declarationForm?_eq_none_iff readable, readRestHead?, readNumberedHead?, readUnnumberedHead?,
    readable.rest.keyword?_eq_none_of_sign sign, readable.step.keyword?_eq_none_of_sign sign]
  exact ⟨rfl, rfl, rfl⟩

/-- Spacing makes no line a declaration. -/
theorem declared?_spacedBody {indent body : List Char} (solid : startsBlank body = false)
    (undeclared : declared? dialect indent body = none) :
    declared? dialect (if body.head?.any isMark then [] else indent) (spacedBody body) = none := by
  have respaced := respaced_spacedBody solid
  by_cases read : declarationForm? dialect body = none
  · rw [declared?, respaced.declarationForm?_eq_none readable read, ite_self]
  · -- The line is indented and lacks a whole head, and it is not marked.
    rw [declared?] at undeclared ⊢
    have unmarked : ¬body.head?.any isMark := by
      intro marked
      cases body with
      | nil => exact Bool.false_ne_true marked
      | cons c rest => exact read (declarationForm?_of_isMark readable marked rest)
    split at undeclared
    · exact absurd undeclared read
    · rename_i headless
      rw [if_neg unmarked, if_neg]
      rw [Bool.or_eq_true, not_or] at headless ⊢
      exact ⟨headless.1, fun head => headless.2 (respaced.symm.hasDeclarationHead readable head)⟩

/-- A line that is neither a comment nor a transition nor a declaration stays none of them when it is spaced. -/
theorem lineForm_spacedBody {indent body : List Char} (isIndent : IsIndent indent) (solid : startsBlank body = false)
    (nonempty : body ≠ []) (noComment : ¬dialect.isComment body) (noTransition : transitionForm? dialect body = none)
    (undeclared : declared? dialect indent body = none) :
    lineForm dialect ((if body.head?.any isMark then [] else indent) ++ spacedBody body) =
      (if body.head?.any isMark then [] else indent) ++ spacedBody body := by
  have respaced := respaced_spacedBody solid
  have solid' := startsBlank_spacedBody solid
  have noComment' : ¬dialect.isComment (spacedBody body) := fun comment =>
    noComment (respaced.symm.isComment readable comment)
  have noTransition' : transitionForm? dialect (spacedBody body) = none := by
    rw [transitionForm?_eq readable, Option.map_eq_none_iff] at noTransition ⊢
    by_contra some
    obtain ⟨reading, read⟩ := Option.ne_none_iff_exists'.mp some
    have unspaced := (respaced.symm.readPlus solid' solid).2.readTransition? readable read
    rw [noTransition] at unspaced
    exact absurd unspaced (by simp)
  rw [lineForm_append readable (isIndent.unless _) solid' (spacedBody_ne_nil solid nonempty), if_neg noComment',
    noTransition', declared?_spacedBody readable solid undeclared, head?_spacedBody solid, spacedBody_spacedBody solid]
  simp only [Option.map_none, Option.or_none, Option.getD_none]
  split <;> rfl

/-- The canonical form of a line is its own canonical form. -/
theorem lineForm_lineForm {indent body : List Char} (isIndent : IsIndent indent) (solid : startsBlank body = false)
    (nonempty : body ≠ []) :
    lineForm dialect (lineForm dialect (indent ++ body)) = lineForm dialect (indent ++ body) := by
  have line := lineForm_append readable isIndent solid nonempty
  by_cases comment : dialect.isComment body
  · rw [if_pos comment] at line
    rw [line, line]
  · rw [if_neg comment] at line
    rw [line]
    cases transition : transitionForm? dialect body with
    | some form => exact lineForm_transitionForm? readable (show IsIndent [] from .inl rfl) transition
    | none =>
      cases declared : declared? dialect indent body with
      | some form => exact (isForm_of_declared? readable declared).lineForm_spacedBody readable
      | none => exact lineForm_spacedBody readable isIndent solid nonempty comment transition declared

end Dialect

end StepFlow.Layout
