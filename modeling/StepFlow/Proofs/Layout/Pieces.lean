import StepFlow.Proofs.Layout.LineForm
import StepFlow.Proofs.Pattern.Captures

/-! # The pieces of a line

Every pass over the lines keeps a shape: a line is empty, or it has perhaps an indentation and then a text that does
not start with a blank. The pieces into which a line is split at its embedded declarations have that shape too. The
canonical form of such a line is clean, so that the passes before it change nothing in it.
-/

namespace StepFlow.Layout

open Text Pattern

/-- A text that is trimmed and squeezed. -/
def IsClean (text : List Char) : Prop := trim text = text ∧ squeeze text = text

theorem isClean_nil : IsClean [] := ⟨rfl, rfl⟩

theorem closeLast_concat (front : List Cell) (last : Cell) :
    closeLast (front ++ [last]) = front ++ [{ last with gap := .none }] := by
  induction front with
  | nil => rfl
  | cons cell front ih =>
    cases front with
    | nil => rfl
    | cons next front =>
      rw [List.cons_append, List.cons_append, closeLast, ← List.cons_append, ih]
      rfl

/-- Cells with squeezed gaps and none at the end are a clean text. -/
theorem isClean_render {front : List Cell} {last : Cell} (squeezed : ∀ cell ∈ front, cell.gap.squeezed = cell.gap)
    (closed : last.gap = .none) : IsClean (render (front ++ [last])) := by
  have same : ∀ {cell : Cell}, cell.gap.squeezed = cell.gap → cell.squeezed = cell := fun kept => Cell.ext rfl kept
  constructor
  · have ended : { last with gap := .none } = last := Cell.ext rfl closed.symm
    have trimmed := trim_render .none (front ++ [last])
    rw [closeLast_concat, ended] at trimmed
    exact trimmed
  · have kept : (front ++ [last]).map Cell.squeezed = front ++ [last] := by
      rw [List.map_append, List.map_congr_left fun cell member => same (squeezed cell member), List.map_id',
        List.map_singleton, same (by rw [closed, Gap.squeezed_none])]
    have passed := squeeze_render .none (front ++ [last])
    rw [kept] at passed
    exact passed

theorem isClean_squeeze_trim (text : List Char) :
    IsClean (squeeze (trim text)) ∧ startsBlank (squeeze (trim text)) = false := by
  obtain ⟨gap, cells, rfl⟩ := exists_cells text
  rw [trim_render]
  have passed := squeeze_render .none (closeLast cells)
  rw [show Gap.none.blanks = [] from rfl, List.nil_append] at passed
  rw [passed]
  refine ⟨?_, startsBlank_render _⟩
  rcases List.eq_nil_or_concat cells with rfl | ⟨front, last, rfl⟩
  · exact isClean_nil
  · rw [List.concat_eq_append, closeLast_concat, List.map_append, List.map_singleton]
    refine isClean_render (fun cell member => ?_) rfl
    obtain ⟨original, -, rfl⟩ := List.mem_map.mp member
    exact Gap.squeezed_squeezed original.gap

/-- Blanks are squeezed and cut off in either order. -/
theorem trim_squeeze (text : List Char) : trim (squeeze text) = squeeze (trim text) := by
  obtain ⟨gap, cells, rfl⟩ := exists_cells text
  have passed := squeeze_render .none (closeLast cells)
  rw [show Gap.none.blanks = [] from rfl, List.nil_append] at passed
  rw [squeeze_render, trim_render, trim_render, passed]
  rcases List.eq_nil_or_concat cells with rfl | ⟨front, last, rfl⟩
  · rfl
  · simp only [List.concat_eq_append, List.map_append, List.map_singleton, closeLast_concat]
    rfl

theorem isClean_trim_squeeze (text : List Char) : IsClean (trim (squeeze text)) :=
  trim_squeeze text ▸ (isClean_squeeze_trim text).1

theorem IsHead.isClean {head : List Char} (isHead : IsHead head) : IsClean head := by
  obtain ⟨front, last, rfl, -, squeezed, closed⟩ := isHead
  exact isClean_render squeezed closed

/-- A line with a clean text is a clean line. -/
theorem cleanLine_append {indent body : List Char} (isIndent : IsIndent indent) (solid : startsBlank body = false)
    (nonempty : body ≠ []) (clean : IsClean body) : cleanLine (indent ++ body) = indent ++ body := by
  have trimmed : trim (indent ++ body) = body := by
    rcases isIndent with rfl | rfl
    · exact clean.1
    · exact clean.1
  have starts : (if startsBlank (indent ++ body) then indentMark else []) = indent := by
    rcases isIndent with rfl | rfl
    · rw [List.nil_append, solid]
      rfl
    · rfl
  rw [cleanLine, trimmed, clean.2, starts, if_neg (by simpa using nonempty)]

/-- In a pattern for a declaration after other text, that text is kept under the first number, and the keyword of the
declaration under the second one. -/
theorem of_matchStart?_leading {words : List String} (known : Readable words) {parts : List Pattern}
    (unused : 1 ∉ (concat parts).indices ∧ 2 ∉ (concat parts).indices) {text : List Char} {found : Match}
    (matched : (concat (start :: group 1 leading :: someBlanks :: group 2 (keyword words) :: parts)).matchStart? text =
      some found) :
    found.kept 1 <+: text ∧ IsKeyword words (found.kept 2) := by
  rw [matchStart?_start] at matched
  obtain ⟨stop, reached, rfl⟩ := Option.map_eq_some_iff.mp matched
  rw [andThen?_concat_cons] at reached
  -- The text before the declaration.
  obtain ⟨first, isFirst, reached⟩ := List.exists_of_findSome?_eq_some reached
  obtain ⟨led, -, rfl⟩ := List.mem_map.mp isFirst
  have before := kept?_cons_self led.before led.after text led.after 1 led.captures
  rw [andThen?_concat_cons] at reached
  obtain ⟨second, isSecond, reached⟩ := List.exists_of_findSome?_eq_some reached
  have before' := (kept?_of_mem_ends someBlanks (by decide) isSecond).trans before
  -- The keyword.
  obtain ⟨passed, after, captures⟩ := second
  rw [andThen?_concat_cons, andThen?_group, andThen?_keyword _ known.nonempty known.prefixFree] at reached
  obtain ⟨⟨word, rest⟩, read, reached⟩ := Option.bind_eq_some_iff.mp reached
  obtain ⟨isKeyword, rfl⟩ := (keyword?_eq_some_iff known.prefixFree).mp read
  -- The rest of the pattern.
  obtain ⟨last, isLast, same⟩ := List.exists_of_findSome?_eq_some reached
  obtain rfl := Option.some.inj same
  have one := kept?_of_mem_ends (concat parts) unused.1 isLast
  have two := kept?_of_mem_ends (concat parts) unused.2 isLast
  rw [kept?_cons_of_ne (by decide)] at one
  rw [kept?_cons_self, capture_text] at two
  rw [kept_mk, kept_mk, one, two]
  exact ⟨before' ▸ List.take_prefix _ _, isKeyword⟩

/-- What an embedded declaration is read from, and what becomes of it. -/
theorem of_embedded? {dialect : Dialect} {body before declaration : List Char}
    (found : embedded? dialect body = some (before, declaration)) :
    ∃ reading : Match, isReferenceContext (reading.kept 1) = false ∧ before = trim (reading.kept 1) ∧
      ((embeddedStep dialect).matchStart? body = some reading ∧
          declaration = upperChars (reading.kept 2) ++ [' '] ++ reading.kept 3 ++ [':', ' '] ++ reading.kept 4 ∨
        (embeddedRest dialect).matchStart? body = some reading ∧
          declaration = upperChars (reading.kept 2) ++ [':', ' '] ++ reading.kept 3) := by
  have rest : embeddedRest? dialect body = some (before, declaration) →
      ∃ reading : Match, isReferenceContext (reading.kept 1) = false ∧ before = trim (reading.kept 1) ∧
        (embeddedRest dialect).matchStart? body = some reading ∧
          declaration = upperChars (reading.kept 2) ++ [':', ' '] ++ reading.kept 3 := by
    intro found
    rw [embeddedRest?] at found
    split at found
    · rename_i reading matched
      split at found
      · exact absurd found (by simp)
      · rename_i free
        obtain ⟨rfl, rfl⟩ := Prod.mk.inj (Option.some.inj found)
        rw [Bool.or_eq_true, not_or, Bool.not_eq_true] at free
        exact ⟨reading, free.1, rfl, matched, rfl⟩
    · exact absurd found (by simp)
  rw [embedded?] at found
  split at found
  · rename_i reading matched
    split at found
    · obtain ⟨reading, free, isBefore, isRest⟩ := rest found
      exact ⟨reading, free, isBefore, .inr isRest⟩
    · rename_i free
      obtain ⟨rfl, rfl⟩ := Prod.mk.inj (Option.some.inj found)
      exact ⟨reading, Bool.not_eq_true _ ▸ free, rfl, .inl ⟨matched, rfl⟩⟩
  · obtain ⟨reading, free, isBefore, isRest⟩ := rest found
    exact ⟨reading, free, isBefore, .inr isRest⟩

section Dialect

variable {dialect : Dialect}

/-- A text that is no comment and does not start with a blank. -/
structure IsContent (dialect : Dialect) (body : List Char) : Prop where
  solid : startsBlank body = false
  nonempty : body ≠ []
  no_comment : dialect.isComment body = false

/-- A line that is not empty: perhaps its indentation, and a text that is a clean comment or content. -/
inductive IsPiece (dialect : Dialect) : List Char → Prop
  | comment {indent body : List Char} : IsIndent indent → startsBlank body = false → body ≠ [] →
      dialect.isComment body = true → IsClean body → IsPiece dialect (indent ++ body)
  | content {indent body : List Char} : IsIndent indent → IsContent dialect body → IsPiece dialect (indent ++ body)

/-- A line in canonical form. -/
structure IsCanonical (dialect : Dialect) (line : List Char) : Prop where
  piece : IsPiece dialect line
  clean : cleanLine line = line
  form : lineForm dialect line = line

theorem IsPiece.ne_nil {line : List Char} (isPiece : IsPiece dialect line) : line ≠ [] := by
  cases isPiece with
  | comment _ _ nonempty _ _ => exact List.append_ne_nil_of_right_ne_nil _ nonempty
  | content _ content => exact List.append_ne_nil_of_right_ne_nil _ content.nonempty

/-- A cleaned line is empty or a piece. -/
theorem isPiece_cleanLine (line : List Char) : cleanLine line = [] ∨ IsPiece dialect (cleanLine line) := by
  rw [cleanLine]
  by_cases empty : (trim line).isEmpty
  · exact .inl (if_pos empty)
  · rw [if_neg empty]
    obtain ⟨clean, solid⟩ := isClean_squeeze_trim line
    have nonempty : squeeze (trim line) ≠ [] := by
      rw [← List.isEmpty_iff.ne, isEmpty_squeeze]
      exact empty
    have isIndent : IsIndent (if startsBlank line then indentMark else []) := by
      split
      · exact .inr rfl
      · exact .inl rfl
    cases comment : dialect.isComment (squeeze (trim line)) with
    | true => exact .inr (.comment isIndent solid nonempty comment clean)
    | false => exact .inr (.content isIndent ⟨solid, nonempty, comment⟩)

theorem trim_prefix {text : List Char} (solid : startsBlank text = false) : trim text <+: text := by
  obtain ⟨cells, rfl⟩ := exists_render solid
  rw [trim, trimStart, dropWhile_render, trimEnd, ← List.reverse_suffix, List.reverse_reverse]
  exact List.dropWhile_suffix _

/-- The beginning of a content is content once it is trimmed. -/
theorem IsContent.trim_prefix {body : List Char} (content : IsContent dialect body) {front : List Char}
    (isFront : front <+: body) (nonempty : trim front ≠ []) : IsContent dialect (trim front) := by
  have solid : startsBlank front = false := by
    cases front with
    | nil => rfl
    | cons c rest =>
      obtain ⟨after, rfl⟩ := isFront
      exact content.solid
  have inBody := (Layout.trim_prefix solid).trans isFront
  refine ⟨?_, nonempty, ?_⟩
  · obtain ⟨cells, rfl⟩ := exists_render solid
    have trimmed := trim_render .none cells
    rw [show Gap.none.blanks = [] from rfl, List.nil_append] at trimmed
    rw [trimmed, startsBlank_render]
  · by_contra comment
    have whole : dialect.isComment body := by
      rw [Bool.not_eq_false, Dialect.isComment, Bool.and_eq_true, List.isPrefixOf_iff_prefix] at comment
      rw [Dialect.isComment, Bool.and_eq_true, List.isPrefixOf_iff_prefix]
      exact ⟨comment.1, comment.2.trans inBody⟩
    rw [content.no_comment] at whole
    exact Bool.false_ne_true whole

/-- What passes from a text to both parts of it at an embedded declaration passes to all of its pieces. -/
theorem forall_mem_splitBody {dialect : Dialect} {holds : List Char → Prop}
    (parts : ∀ {body before declaration}, holds body → embedded? dialect body = some (before, declaration) →
      holds before ∧ holds declaration)
    (fuel : Nat) {body : List Char} (given : holds body) : ∀ piece ∈ splitBody dialect fuel body, holds piece := by
  induction fuel generalizing body with
  | zero => exact List.forall_mem_singleton.mpr given
  | succ fuel ih =>
    rw [splitBody]
    split
    · exact List.forall_mem_singleton.mpr given
    · split
      · rename_i before declaration found
        obtain ⟨isBefore, isDeclaration⟩ := parts given found
        exact List.forall_mem_append.mpr ⟨ih isBefore, List.forall_mem_singleton.mpr isDeclaration⟩
      · exact List.forall_mem_singleton.mpr given

theorem splitBody_ne_nil (dialect : Dialect) (fuel : Nat) (body : List Char) : splitBody dialect fuel body ≠ [] := by
  cases fuel with
  | zero => exact List.cons_ne_nil _ _
  | succ fuel =>
    rw [splitBody]
    split
    · exact List.cons_ne_nil _ _
    · split
      · exact List.append_ne_nil_of_right_ne_nil _ (List.cons_ne_nil _ _)
      · exact List.cons_ne_nil _ _

/-- A comment is not split. -/
theorem splitLine_comment {indent body : List Char} (isIndent : IsIndent indent) (solid : startsBlank body = false)
    (comment : dialect.isComment body = true) : splitLine dialect (indent ++ body) = [indent ++ body] := by
  rw [splitLine, splitIndent_append isIndent solid]
  simp only [comment, Bool.or_true, if_true]

/-- A line is split as its text is, and the first piece has its indentation. -/
theorem exists_splitLine {indent body : List Char} (isIndent : IsIndent indent) (content : IsContent dialect body) :
    ∃ first rest, splitBody dialect body.length body = first :: rest ∧
      splitLine dialect (indent ++ body) = (indent ++ first) :: rest := by
  obtain ⟨first, rest, split⟩ := List.exists_cons_of_ne_nil (splitBody_ne_nil dialect body.length body)
  refine ⟨first, rest, split, ?_⟩
  rw [splitLine, splitIndent_append isIndent content.solid]
  simp only [content.no_comment, List.isEmpty_iff, content.nonempty, Bool.or_false, if_false, split]

section Readable

variable (readable : dialect.Readable)
include readable

theorem isContent_cons {c : Char} (solid : isBlank c = false) (differs : c ≠ '/') (rest : List Char) :
    IsContent dialect (c :: rest) :=
  ⟨solid, List.cons_ne_nil c rest, isComment_eq_false readable differs rest⟩

/-- A text with a keyword at its start is content. -/
theorem isContent_keyword {words : List String} (known : StepFlow.Readable words) {word : List Char}
    (keyword : IsKeyword words word) (rest : List Char) : IsContent dialect (word ++ rest) := by
  obtain ⟨c, more, letter, rfl, spells⟩ := keyword.exists_cons known
  exact isContent_cons readable spells.not_blank (spells.ne_sign (by decide)) (more ++ rest)

/-- A list item without its marker is a piece. -/
theorem isPiece_unmarkItem {line : List Char} (isPiece : IsPiece dialect line) : IsPiece dialect (unmarkItem line) := by
  have marked : ∀ rest : List Char, IsPiece dialect ('-' :: ' ' :: rest) := fun rest =>
    .content (.inl rfl) (isContent_cons readable (by decide) (by decide) (' ' :: rest))
  unfold unmarkItem
  simp only
  split
  · exact marked _
  · split
    · exact marked _
    · exact isPiece

/-- What stands before an embedded declaration is content, and so is the declaration. -/
theorem isContent_of_embedded? {body before declaration : List Char} (content : IsContent dialect body)
    (found : embedded? dialect body = some (before, declaration)) :
    IsContent dialect before ∧ IsContent dialect declaration := by
  obtain ⟨reading, free, rfl, isDeclaration⟩ := of_embedded? found
  have nonempty : trim (reading.kept 1) ≠ [] := by
    intro empty
    simp [isReferenceContext, empty] at free
  rcases isDeclaration with ⟨matched, rfl⟩ | ⟨matched, rfl⟩
  · obtain ⟨isFront, keyword⟩ := of_matchStart?_leading readable.step (by decide) matched
    refine ⟨content.trim_prefix isFront nonempty, ?_⟩
    simpa using isContent_keyword readable readable.step (keyword.upperChars readable.step) _
  · obtain ⟨isFront, keyword⟩ := of_matchStart?_leading readable.rest (by decide) matched
    refine ⟨content.trim_prefix isFront nonempty, ?_⟩
    simpa using isContent_keyword readable readable.rest (keyword.upperChars readable.rest) _

theorem isContent_of_mem_splitBody (fuel : Nat) {body : List Char} (content : IsContent dialect body) :
    ∀ piece ∈ splitBody dialect fuel body, IsContent dialect piece :=
  forall_mem_splitBody (fun content found => isContent_of_embedded? readable content found) fuel content

/-- The pieces of a line are pieces. -/
theorem isPiece_of_mem_splitLine {line : List Char} (isPiece : IsPiece dialect line) :
    ∀ piece ∈ splitLine dialect line, IsPiece dialect piece := by
  cases isPiece with
  | comment isIndent solid nonempty comment clean =>
    rw [splitLine_comment isIndent solid comment]
    exact List.forall_mem_singleton.mpr (.comment isIndent solid nonempty comment clean)
  | @content indent body isIndent content =>
    have pieces := isContent_of_mem_splitBody readable body.length content
    obtain ⟨first, rest, split, line⟩ := exists_splitLine isIndent content
    rw [split, List.forall_mem_cons] at pieces
    rw [line, List.forall_mem_cons]
    exact ⟨.content isIndent pieces.1, fun piece member => .content (.inl rfl) (pieces.2 piece member)⟩

/-- The form of a transition is clean. -/
theorem isClean_transitionForm? {body form : List Char} (found : transitionForm? dialect body = some form) :
    IsClean form := by
  rw [transitionForm?_eq readable] at found
  obtain ⟨⟨word, number⟩, read, rfl⟩ := Option.map_eq_some_iff.mp found
  obtain ⟨-, keyword, nonempty, digits⟩ := of_readTransition? readable read
  have opens := isKeyword_transition readable
  have upper := keyword.upperChars readable.step
  have isHead := ((isHead_word nonempty fun c member => isInert_of_isDecimal (digits c member)).cons
    (upper.ne_nil readable.step) (inert_of_isKeyword readable.step upper)).cons (opens.ne_nil readable.transition)
    (inert_of_isKeyword readable.transition opens)
  cases (readPlus body).1 with
  | false => simpa using isHead.isClean
  | true =>
    obtain ⟨front, last, same, -, squeezed, closed⟩ := isHead
    let plus : Cell := ⟨'+', .one, by decide⟩
    have clean : IsClean (render ((plus :: front) ++ [last])) :=
      isClean_render (List.forall_mem_cons.mpr ⟨Gap.squeezed_one, squeezed⟩) closed
    rw [List.cons_append, render_cons, ← same] at clean
    simpa [plus, Gap.one] using clean

/-- The canonical form of a piece has an indentation or none, and a clean text. -/
theorem exists_lineForm {piece : List Char} (isPiece : IsPiece dialect piece) :
    ∃ indent body, IsIndent indent ∧ startsBlank body = false ∧ body ≠ [] ∧ IsClean body ∧
      lineForm dialect piece = indent ++ body := by
  cases isPiece with
  | @comment indent body isIndent solid nonempty comment clean =>
    refine ⟨indent, body, isIndent, solid, nonempty, clean, ?_⟩
    rw [lineForm_append readable isIndent solid nonempty, if_pos comment]
  | @content indent body isIndent content =>
    have line := lineForm_append readable isIndent content.solid content.nonempty
    rw [content.no_comment] at line
    cases transition : transitionForm? dialect body with
    | some form =>
      obtain ⟨solid, nonempty, -, -⟩ := transitionForm?_transitionForm? readable transition
      exact ⟨[], form, .inl rfl, solid, nonempty, isClean_transitionForm? readable transition,
        by simpa [transition] using line⟩
    | none =>
      cases declared : declared? dialect indent body with
      | some form =>
        have isForm := isForm_of_declared? readable declared
        have solid := isForm.startsBlank_eq_false readable
        exact ⟨[], spacedBody form, .inl rfl, startsBlank_spacedBody solid,
          spacedBody_ne_nil solid (isForm.ne_nil readable), isClean_trim_squeeze _,
          by simpa [transition, declared] using line⟩
      | none =>
        exact ⟨_, spacedBody body, isIndent.unless _, startsBlank_spacedBody content.solid,
          spacedBody_ne_nil content.solid content.nonempty, isClean_trim_squeeze _,
          by simpa [transition, declared] using line⟩

/-- The canonical form of a piece is a line in canonical form. -/
theorem isCanonical_lineForm {piece : List Char} (isPiece : IsPiece dialect piece) :
    IsCanonical dialect (lineForm dialect piece) := by
  have form : lineForm dialect (lineForm dialect piece) = lineForm dialect piece := by
    cases isPiece with
    | comment isIndent solid nonempty _ _ => exact lineForm_lineForm readable isIndent solid nonempty
    | content isIndent content => exact lineForm_lineForm readable isIndent content.solid content.nonempty
  obtain ⟨indent, body, isIndent, solid, nonempty, clean, line⟩ := exists_lineForm readable isPiece
  refine ⟨?_, line ▸ cleanLine_append isIndent solid nonempty clean, form⟩
  rw [line]
  cases comment : dialect.isComment body with
  | true => exact .comment isIndent solid nonempty comment clean
  | false => exact .content isIndent ⟨solid, nonempty, comment⟩

end Readable

end Dialect

end StepFlow.Layout
