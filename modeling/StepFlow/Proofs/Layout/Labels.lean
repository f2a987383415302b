import StepFlow.Proofs.Normalization

/-! # Labels as lines

The description of a step comes from a line in uniform spacing. What stands before its colon has no say in how the
gaps after the colon are spaced, so the description stays as it is behind any other head. The label of a step, which
is its word, perhaps a number, and its description, is therefore a canonical line that no pass over a text changes.
-/

namespace StepFlow.Layout

open Text Pattern

/-! ## Descriptions -/

theorem render_injective {cells others : List Cell} (same : render cells = render others) : cells = others := by
  induction cells generalizing others with
  | nil =>
    cases others with
    | nil => rfl
    | cons => exact absurd same (by simp)
  | cons cell cells ih =>
    cases others with
    | nil => exact absurd same (by simp)
    | cons other others =>
      rw [render_cons, render_cons, List.cons.injEq] at same
      have stops (cells : List Cell) : (render cells).head?.any isBlank = false := by
        cases cells with
        | nil => rfl
        | cons cell cells => exact cell.solid
      have blank (gap : Gap) : ∀ c ∈ gap.blanks, isBlank c = true := List.all_eq_true.mp gap.blank
      have gaps := congrArg (List.takeWhile isBlank) same.2
      rw [takeWhile_append_of_stop (blank _) (stops _), takeWhile_append_of_stop (blank _) (stops _)] at gaps
      have rests := congrArg (List.dropWhile isBlank) same.2
      rw [dropWhile_blanks_render, dropWhile_blanks_render] at rests
      rw [ih rests, Cell.ext same.1 (Gap.ext gaps)]

/-- The last cell of a tidy line has no gap. -/
theorem closeLast_tidyFrom (prev : Option Char) (joined : Bool) (cells : List Cell) :
    closeLast (tidyFrom prev joined cells) = tidyFrom prev joined cells := by
  induction cells generalizing prev joined with
  | nil => rfl
  | cons cell rest ih =>
    cases rest with
    | nil => rfl
    | cons next after =>
      rw [tidyFrom_cons, tidyFrom_cons, closeLast, ← tidyFrom_cons, ih]

/-- A line is tidied from left to right. -/
theorem exists_tidyFrom_append (front : List Cell) (cell : Cell) (after : List Cell) (prev : Option Char)
    (joined : Bool) :
    ∃ front' gap empty, front'.length = front.length ∧ tidyFrom prev joined (front ++ cell :: after) =
      front' ++ { cell with gap } :: tidyFrom (some cell.char) (isRelational cell.char && empty) after := by
  induction front generalizing prev joined with
  | nil => exact ⟨[], _, _, rfl, tidyFrom_cons ..⟩
  | cons first front ih =>
    obtain ⟨front', gap, empty, length, tidied⟩ := ih (some first.char)
      (isRelational first.char && (openGap prev joined first (front ++ cell :: after)).isEmpty)
    exact ⟨_ :: front', gap, empty, congrArg (· + 1) length, by rw [List.cons_append, tidyFrom_cons, tidied]; rfl⟩

/-- A text in uniform spacing behind a colon. -/
def IsDescription (text : List Char) : Prop :=
  ∃ cells, text = render cells ∧ tidyFrom (some ':') false cells = cells

theorem IsDescription.trim_eq {text : List Char} (isDescription : IsDescription text) : trim text = text := by
  obtain ⟨cells, rfl, tidied⟩ := isDescription
  have closed := closeLast_tidyFrom (some ':') false cells
  rw [tidied] at closed
  exact (trim_render .none cells).trans (congrArg render closed)

/-- What follows a colon in a line in uniform spacing is in uniform spacing behind any colon. -/
theorem isDescription_of_spacedBody {head description : List Char} (solid : startsBlank head = false)
    (spaced : spacedBody (head ++ ':' :: description) = head ++ ':' :: description) :
    IsDescription (trim description) := by
  obtain ⟨front, rfl⟩ := exists_render solid
  obtain ⟨gap, after, rfl⟩ := exists_cells description
  have whole : render front ++ ':' :: (gap.blanks ++ render after) = render (front ++ colonCell gap :: after) := by
    simp [colonCell]
  rw [whole, spacedBody_render] at spaced
  obtain ⟨front', gap', empty, length, tidied⟩ := exists_tidyFrom_append front (colonCell gap) after none false
  have same := tidied.symm.trans (render_injective spaced)
  have tidy : tidyFrom (some ':') false after = after := (List.cons.inj (List.append_inj same length).2).2
  have closed := closeLast_tidyFrom (some ':') false after
  rw [tidy] at closed
  exact ⟨after, by rw [trim_render, closed], tidy⟩

/-! ## Heads -/

/-- What stands before the colon of a label: a word of rest, or any word of declarations and a number. -/
inductive IsLabelHead (dialect : Dialect) : List Char → Prop
  | rest {word : List Char} : IsKeyword dialect.stepWords.rest word → upperChars word = word → IsLabelHead dialect word
  | numbered {word number : List Char} : IsKeyword dialect.declarationWords word → upperChars word = word →
      number ≠ [] → (∀ c ∈ number, isDecimal c) → IsLabelHead dialect (word ++ ' ' :: number)

/-- The label that a head and a description make. -/
def labelOf (head description : List Char) : List Char := trim (head ++ ':' :: ' ' :: description)

theorem trim_append_space {text : List Char} (solid : startsBlank text = false) : trim (text ++ [' ']) = trim text := by
  cases text with
  | nil => rfl
  | cons c rest =>
    have solid : isBlank c = false := solid
    simp [trim, trimStart, trimEnd, solid, show isBlank ' ' = true by decide]

/-- A label has one space after its colon, unless the description is empty, and is in uniform spacing. -/
theorem labelOf_eq {head description : List Char} (isHead : IsHead head) (isDescription : IsDescription description) :
    spacedBody (head ++ ':' :: ' ' :: description) = labelOf head description ∧
      ∃ tail, AfterColon tail ∧ trim tail = description ∧ labelOf head description = head ++ ':' :: tail := by
  have trimmed := isDescription.trim_eq
  obtain ⟨cells, rfl, tidied⟩ := isDescription
  have spaced := spacedBody_head_render isHead cells
  rw [tidied] at spaced
  have clean : IsClean (spacedBody (head ++ ':' :: ' ' :: render cells)) := isClean_trim_squeeze _
  cases cells with
  | nil =>
    rw [spaced] at clean
    have label : labelOf head (render []) = head ++ [':'] := by
      rw [labelOf, render_nil, List.append_cons head ':' [' '], trim_append_space (isHead.startsBlank_append [':'])]
      exact clean.1
    exact ⟨spaced.trans label.symm, [], .inl rfl, rfl, label⟩
  | cons cell cells =>
    rw [spaced] at clean
    have label : labelOf head (render (cell :: cells)) = head ++ ':' :: ' ' :: render (cell :: cells) := clean.1
    have described : trim (' ' :: render (cell :: cells)) = render (cell :: cells) :=
      (trim_render .one _).trans ((trim_render .none _).symm.trans trimmed)
    exact ⟨spaced.trans label.symm, _, .inr ⟨_, rfl, startsBlank_render _⟩, described, label⟩

theorem isClean_labelOf {head description : List Char} (isHead : IsHead head)
    (isDescription : IsDescription description) : IsClean (labelOf head description) :=
  (labelOf_eq isHead isDescription).1 ▸ isClean_trim_squeeze _

/-! ## Lines -/

/-- The word of a label's head, and what follows it. -/
theorem IsLabelHead.exists_word {dialect : Dialect} {head : List Char} (isLabelHead : IsLabelHead dialect head) :
    ∃ word rest, IsKeyword dialect.declarationWords word ∧ head = word ++ rest ∧
      (rest = [] ∨ rest.head? = some ' ') := by
  cases isLabelHead with
  | rest keyword upper =>
    obtain ⟨known, member, spells⟩ := keyword
    exact ⟨head, [], ⟨known, List.mem_append_left _ member, spells⟩, (List.append_nil _).symm, .inl rfl⟩
  | @numbered word number keyword => exact ⟨word, ' ' :: number, keyword, rfl, .inr rfl⟩

section Readable

variable {dialect : Dialect} (readable : dialect.Readable)
include readable

theorem IsLabelHead.isHead {head : List Char} (isLabelHead : IsLabelHead dialect head) : IsHead head := by
  cases isLabelHead with
  | rest keyword => exact isHead_word (keyword.ne_nil readable.rest) (inert_of_isKeyword readable.rest keyword)
  | numbered keyword _ nonempty digits =>
    exact (isHead_word nonempty fun c member => isInert_of_isDecimal (digits c member)).cons
      (keyword.ne_nil readable.declaring) (inert_of_isKeyword readable.declaring keyword)

/-- A word of rest with a number is no declaration for the layout. -/
theorem declarationForm?_rest_number {word number : List Char} (keyword : IsKeyword dialect.stepWords.rest word)
    (nonempty : number ≠ []) (digits : ∀ c ∈ number, isDecimal c) (tail : List Char) :
    declarationForm? dialect (word ++ ' ' :: number ++ tail) = none := by
  have noStep : keyword? dialect.stepWords.step (word ++ (' ' :: number ++ tail)) = none :=
    readable.declaring.prefixFree.keyword?_eq_none (List.subset_append_left _ _) (List.subset_append_right _ _)
      (fun word isRest isStep => readable.not_rest word isStep isRest) keyword _
  have noRest : readRestHead? dialect (word ++ (' ' :: number ++ tail)) = none := by
    obtain ⟨c, more, rfl⟩ := List.exists_cons_of_ne_nil nonempty
    have digit := digits c (.head _)
    have differs {sign : Char} (noDigit : isDecimal sign = false) : c ≠ sign := by
      rintro rfl
      exact absurd digit (Bool.eq_false_iff.mp noDigit)
    have dropped : (' ' :: c :: more ++ tail).dropWhile isBlank = c :: (more ++ tail) := by
      simp [show isBlank ' ' = true by decide, isBlank_of_isDecimal digit]
    rw [readRestHead?, (keyword?_eq_some_iff readable.rest.prefixFree).mpr ⟨keyword, rfl⟩, Option.bind_some]
    simp only [dropped, differs (show isDecimal ':' = false by decide), differs (show isDecimal '.' = false by decide),
      differs (show isDecimal '(' = false by decide), or_self, if_false]
  rw [List.append_assoc, declarationForm?_eq_none_iff readable, readNumberedHead?, readUnnumberedHead?, noStep]
  exact ⟨noRest, rfl, rfl⟩

/-- A label is its own canonical form. -/
theorem IsLabelHead.lineForm_labelOf {head description : List Char} (isLabelHead : IsLabelHead dialect head)
    (isDescription : IsDescription description) :
    lineForm dialect (labelOf head description) = labelOf head description := by
  obtain ⟨spaced, tail, -, -, label⟩ := labelOf_eq (isLabelHead.isHead readable) isDescription
  have solid : startsBlank description = false := by
    obtain ⟨cells, rfl, -⟩ := isDescription
    exact startsBlank_render cells
  cases isLabelHead with
  | rest keyword upper =>
    rw [← spaced]
    exact (IsForm.rest keyword upper solid).lineForm_spacedBody readable
  | @numbered word number keyword upper nonempty digits =>
    have ⟨known, member, spells⟩ := keyword
    rcases List.mem_append.mp member with isRest | isStep
    · -- The layout leaves the line to be spaced.
      have isHead := (IsLabelHead.numbered keyword upper nonempty digits).isHead readable
      have content := isContent_keyword readable readable.declaring keyword (' ' :: number ++ ':' :: tail)
      have undeclared := declarationForm?_rest_number readable ⟨known, isRest, spells⟩ nonempty digits (':' :: tail)
      have noTransition := transitionForm?_keyword readable keyword (' ' :: number ++ ':' :: tail)
      have again := spacedBody_spacedBody (isHead.startsBlank_append (':' :: ' ' :: description))
      rw [spaced, label] at again
      rw [← List.append_assoc] at content noTransition
      have line := lineForm_append readable (.inl rfl) content.solid content.nonempty
      rw [List.nil_append, content.no_comment, noTransition, declared?, undeclared, ite_self] at line
      rw [label, line, again]
      simp
    · rw [← spaced]
      exact (IsForm.step ⟨known, isStep, spells⟩ upper nonempty digits solid).lineForm_spacedBody readable

/-- A label is a canonical line. -/
theorem IsLabelHead.isCanonical_labelOf {head description : List Char} (isLabelHead : IsLabelHead dialect head)
    (isDescription : IsDescription description) : IsCanonical dialect (labelOf head description) := by
  have form := isLabelHead.lineForm_labelOf readable isDescription
  have clean := isClean_labelOf (isLabelHead.isHead readable) isDescription
  obtain ⟨-, tail, -, -, label⟩ := labelOf_eq (isLabelHead.isHead readable) isDescription
  obtain ⟨word, rest, keyword, rfl, -⟩ := isLabelHead.exists_word
  have content : IsContent dialect (labelOf (word ++ rest) description) := by
    rw [label, List.append_assoc]
    exact isContent_keyword readable readable.declaring keyword _
  exact ⟨.content (.inl rfl) content, cleanLine_append (.inl rfl) content.solid content.nonempty clean, form⟩

/-- A word of declarations that ends where it ends in the text starts a declaration. -/
theorem startsIn_declarationStart {word rest : List Char} (keyword : IsKeyword dialect.declarationWords word)
    (stops : rest.head?.any isWordChar = false) : (declarationStart dialect).startsIn (word ++ rest) = true := by
  obtain ⟨front, last, rfl⟩ := (List.eq_nil_or_concat word).resolve_left (keyword.ne_nil readable.declaring)
  rw [List.concat_eq_append] at keyword ⊢
  obtain ⟨letter, spells⟩ := keyword.letter_of_mem readable.declaring (List.mem_append_right _ (.head _) : last ∈ _)
  have edge (captures : List Capture) :
      (Edge.wordEdge false true).holds ⟨(front ++ [last]).reverse ++ [], rest, captures⟩ = true := by
    simp [Edge.holds, CharKind.holds, spells.isWordChar, stops]
  rw [startsIn, declarationStart, matchStart?_start, andThen?_concat_cons,
    andThen?_keyword _ readable.declaring.nonempty readable.declaring.prefixFree,
    (keyword?_eq_some_iff readable.declaring.prefixFree).mpr ⟨keyword, rfl⟩, Option.bind_some, andThen?_concat_cons,
    wordEdge, andThen?_edge, if_pos (edge [])]
  rfl

/-- A label starts with the word of a declaration, so that it is not split, and with a letter, so that it is no list
item. -/
theorem IsLabelHead.settled_labelOf {head description : List Char} (isLabelHead : IsLabelHead dialect head)
    (isDescription : IsDescription description) (source : SourceKind) :
    Settled dialect source (labelOf head description) := by
  obtain ⟨-, tail, -, -, label⟩ := labelOf_eq (isLabelHead.isHead readable) isDescription
  obtain ⟨word, rest, keyword, rfl, stops⟩ := isLabelHead.exists_word
  have starts : (declarationStart dialect).startsIn (word ++ (rest ++ ':' :: tail)) = true := by
    refine startsIn_declarationStart readable keyword ?_
    rcases stops with rfl | space
    · exact (by decide +kernel : isWordChar ':' = false)
    · obtain ⟨rest, rfl⟩ := List.head?_eq_some_iff.mp space
      exact (by decide +kernel : isWordChar ' ' = false)
  have content := isContent_keyword readable readable.declaring keyword (rest ++ ':' :: tail)
  obtain ⟨c, more, letter, start, spells⟩ := keyword.exists_cons readable.declaring
  rw [label, List.append_assoc]
  refine ⟨fun _ => ?_, ?_⟩
  · rw [start, List.cons_append]
    refine startsItem_cons spells.not_blank ?_ spells.not_decimal _
    have noWord : ∀ sign ∈ "•·▪▫".toList, isWordChar sign = false := List.forall_iff_forall_mem.mp (by decide +kernel)
    by_contra isBullet
    rw [Bool.not_eq_false, List.contains_iff_mem] at isBullet
    exact absurd spells.isWordChar (Bool.eq_false_iff.mp (noWord c isBullet))
  · have whole := splitIndent_append (.inl rfl) content.solid
    rw [List.nil_append] at whole
    rw [hasEmbedded, whole]
    simp [starts]

/-- The content of a canonical line that starts with a word of declarations is in uniform spacing. -/
theorem IsCanonical.spacedBody_trim {line : List Char} (canonical : IsCanonical dialect line) {word rest : List Char}
    (keyword : IsKeyword dialect.declarationWords word) (starts : trim line = word ++ rest) :
    spacedBody (trim line) = trim line := by
  obtain ⟨indent, body, isIndent, solid, nonempty, clean, split⟩ := exists_lineForm readable canonical.piece
  rw [canonical.form] at split
  have trimmed : trim line = body := by
    rw [split]
    rcases isIndent with rfl | rfl <;> exact clean.1
  rw [trimmed] at starts ⊢
  have content := isContent_keyword readable readable.declaring keyword rest
  have form := lineForm_append readable isIndent solid nonempty
  rw [← split, canonical.form, split, starts, content.no_comment, transitionForm?_keyword readable keyword, ← starts,
    if_neg Bool.false_ne_true, Option.none_or] at form
  cases declared : declared? dialect indent body with
  | some spelled =>
    have solid' := (isForm_of_declared? readable declared).startsBlank_eq_false readable
    rw [declared, Option.map_some, Option.getD_some] at form
    -- A spaced form is not indented.
    have unindented : indent = [] := by
      refine isIndent.resolve_right fun indented => ?_
      have starts := startsBlank_spacedBody solid'
      rw [← form, indented] at starts
      exact absurd (show isBlank ' ' = false from starts) (by decide)
    rw [unindented, List.nil_append] at form
    rw [form, spacedBody_spacedBody solid']
  | none =>
    rw [declared, Option.map_none, Option.getD_none] at form
    have unmarked : body.head?.any isMark = false := by
      obtain ⟨c, more, letter, start, spells⟩ := keyword.exists_cons readable.declaring
      have noDash : c ≠ '-' := spells.ne_sign (by decide)
      have noPlus : c ≠ '+' := spells.ne_sign (by decide)
      rw [starts, start]
      simp [isMark, noDash, noPlus]
    rw [unmarked, if_neg Bool.false_ne_true] at form
    exact (List.append_cancel_left form).symm

end Readable

end StepFlow.Layout
