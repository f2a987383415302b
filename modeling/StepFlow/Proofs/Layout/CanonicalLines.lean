import Mathlib.Data.List.Chain
import StepFlow.Proofs.Normalization

/-! # The layout of a normalized text

Comments, list items, declarations that are split off, transitions and conditions each reach their canonical form on a
way of their own. All of them end in one layout: nothing, or the text of the line in uniform spacing, perhaps after the
mark of an indented line. A line with the mark of a condition is not indented, and neither is the line of a declaration
or of a transition.
-/

namespace StepFlow

open Text Pattern

namespace Layout

/-- A text in uniform spacing: no blank at its ends, no tab, no two spaces in a row. -/
structure IsSpaced (body : List Char) : Prop where
  nonempty : body ≠ []
  starts : ∀ c ∈ body.head?, isBlank c = false
  ends : ∀ c ∈ body.getLast?, isBlank c = false
  no_tab : '\t' ∉ body
  single : ¬[' ', ' '] <:+: body

/-- The line that is written for a transition or for a declaration. -/
inductive IsHeadLine (dialect : Dialect) : List Char → Prop
  | transition {body form : List Char} : transitionForm? dialect body = some form → IsHeadLine dialect form
  | declaration {body form : List Char} : declarationForm? dialect body = some form →
      IsHeadLine dialect (spacedBody form)

/-- The indentation and the text of a line in canonical layout. -/
structure IsLaidOut (dialect : Dialect) (indent body : List Char) : Prop where
  isIndent : indent = [] ∨ indent = [' ', ' ']
  spaced : IsSpaced body
  unindented : body.head? = some '-' ∨ body.head? = some '+' ∨ IsHeadLine dialect body → indent = []

section Squeeze

theorem tab_notMem_squeezeFrom (inGap : Bool) (text : List Char) : '\t' ∉ squeezeFrom inGap text := by
  induction text generalizing inGap with
  | nil => exact List.not_mem_nil
  | cons c text ih =>
    rw [squeezeFrom]
    split
    · split
      · exact ih true
      · exact List.not_mem_cons_of_ne_of_not_mem (by decide) (ih true)
    · rename_i solid
      refine List.not_mem_cons_of_ne_of_not_mem ?_ (ih false)
      rintro rfl
      exact solid (by decide)

/-- After a space of a gap, the rest of the gap is left out. -/
theorem isChain_squeezeFrom (inGap : Bool) (text : List Char) :
    (squeezeFrom inGap text).IsChain (fun c d => c = ' ' → d ≠ ' ') ∧
      (inGap = true → (squeezeFrom inGap text).head? ≠ some ' ') := by
  induction text generalizing inGap with
  | nil => exact ⟨.nil, fun _ => by simp [squeezeFrom]⟩
  | cons c text ih =>
    rw [squeezeFrom]
    by_cases gap : isGap c
    · obtain ⟨chain, first⟩ := ih true
      rw [if_pos gap]
      cases inGap with
      | true => exact ⟨chain, first⟩
      | false =>
        refine ⟨List.isChain_cons.mpr ⟨fun d isNext _ same => ?_, chain⟩, by simp⟩
        exact first rfl (same ▸ isNext)
    · have differs : c ≠ ' ' := by
        rintro rfl
        exact gap (by decide)
      rw [if_neg gap]
      refine ⟨List.isChain_cons.mpr ⟨fun _ _ same => absurd same differs, (ih false).1⟩, fun _ => ?_⟩
      simpa using differs

theorem ends_trim (text : List Char) :
    (∀ c ∈ (trim text).head?, isBlank c = false) ∧ ∀ c ∈ (trim text).getLast?, isBlank c = false :=
  ends_reverse_dropWhile isBlank text

theorem IsClean.isSpaced {body : List Char} (clean : IsClean body) (nonempty : body ≠ []) : IsSpaced body := by
  obtain ⟨trimmed, squeezed⟩ := clean
  obtain ⟨starts, ends⟩ := ends_trim body
  rw [trimmed] at starts ends
  refine ⟨nonempty, starts, ends, squeezed ▸ tab_notMem_squeezeFrom false body, fun twice => ?_⟩
  have chain := (isChain_squeezeFrom false body).1
  rw [← squeeze, squeezed] at chain
  have pair := chain.infix twice
  simp at pair

end Squeeze

section Readable

variable {dialect : Dialect} (readable : dialect.Readable)
include readable

/-- The canonical form of a line with the mark of a condition is not indented. -/
theorem startsBlank_lineForm_mark {indent rest : List Char} {c : Char} (isIndent : IsIndent indent) (mark : isMark c) :
    startsBlank (lineForm dialect (indent ++ c :: rest)) = false := by
  have isSign : c = '-' ∨ c = '+' := by simpa [isMark] using mark
  have solid : startsBlank (c :: rest) = false := by
    rw [startsBlank]
    rcases isSign with rfl | rfl <;> decide
  have noComment : dialect.isComment (c :: rest) = false :=
    isComment_eq_false readable (by rcases isSign with rfl | rfl <;> decide) rest
  have undeclared : declared? dialect indent (c :: rest) = none := by
    rw [declared?, declarationForm?_of_isMark readable mark, ite_self]
  rw [lineForm_append readable isIndent solid (List.cons_ne_nil c rest), noComment, undeclared]
  cases transition : transitionForm? dialect (c :: rest) with
  | some form => exact (transitionForm?_transitionForm? readable transition).1
  | none => simpa [mark] using startsBlank_spacedBody solid

/-- The canonical form of a declaration or a transition is not indented. -/
theorem IsHeadLine.lineForm_append {indent body : List Char} (isIndent : IsIndent indent)
    (isHeadLine : IsHeadLine dialect body) : lineForm dialect (indent ++ body) = body := by
  cases isHeadLine with
  | transition found => exact lineForm_transitionForm? readable isIndent found
  | declaration found => exact (isForm_of_declarationForm? readable found).lineForm_indented readable isIndent

theorem IsCanonical.isLaidOut {line : List Char} (canonical : IsCanonical dialect line) :
    ∃ indent body, line = indent ++ body ∧ IsLaidOut dialect indent body := by
  obtain ⟨indent, body, isIndent, solid, nonempty, clean, same⟩ := exists_lineForm readable canonical.piece
  rw [canonical.form] at same
  refine ⟨indent, body, same, isIndent, clean.isSpaced nonempty, fun headed => ?_⟩
  have form := canonical.form
  rw [same] at form
  have starts : startsBlank (indent ++ body) = false := by
    rw [← or_assoc] at headed
    rcases headed with marked | isHeadLine
    · obtain ⟨c, rest, rfl⟩ := List.exists_cons_of_ne_nil nonempty
      rw [← form]
      exact startsBlank_lineForm_mark readable isIndent (by simpa [isMark] using marked)
    · rw [← form, isHeadLine.lineForm_append readable isIndent, solid]
  rcases isIndent with rfl | rfl
  · rfl
  · exact absurd starts (by simp [startsBlank, indentMark, show isBlank ' ' = true by decide])

end Readable

end Layout

open Layout

/-- A normalized text is made of lines in canonical form. -/
theorem exists_laid_normalize (source : SourceKind) (text : String) :
    ∃ pieces, (normalize {} source text).toList = unlines pieces ∧ Laid {} source pieces := by
  have laid := laid_canonicalLines Dialect.readable_default source text.toList
  refine ⟨_, ?_, laid.of_subset (trimLines_subset _)⟩
  rw [normalize, String.toList_ofList, trimLineFeeds_unlines laid.areLines]

/-- A normalized text starts and ends with no line feed and has plain characters only, and each of its lines is empty or
in canonical layout. -/
theorem isLaidOut_normalize (source : SourceKind) (text : String) :
    (normalize {} source text).toList.head? ≠ some '\n' ∧ (normalize {} source text).toList.getLast? ≠ some '\n' ∧
      (∀ c ∈ (normalize {} source text).toList, c ≠ '\r' ∧ plainChar c = [c]) ∧
      ∀ line ∈ lines (normalize {} source text).toList,
        line = [] ∨ ∃ indent body, line = indent ++ body ∧ IsLaidOut {} indent body := by
  obtain ⟨first, last⟩ := ends_reverse_dropWhile (· == '\n') (unlines (canonicalLines {} source text.toList))
  rw [← trimLineFeeds, ← String.toList_ofList (l := trimLineFeeds _), ← normalize] at first last
  refine ⟨fun starts => absurd (first '\n' starts) (by decide), fun ends => absurd (last '\n' ends) (by decide), ?_⟩
  obtain ⟨pieces, normalized, laid⟩ := exists_laid_normalize source text
  rw [normalized]
  constructor
  · intro c member
    rcases mem_unlines member with rfl | ⟨line, isLine, inLine⟩
    · decide
    · have plain := laid.plain line isLine c inLine
      exact ⟨fun same => plain (by rw [same]; cases source <;> decide), plainChar_of_plain plain⟩
  · intro line isLine
    have laidOut : line = [] ∨ IsCanonical {} line := by
      by_cases empty : pieces = []
      · rw [empty] at isLine
        exact .inl (List.mem_singleton.mp isLine)
      · rw [lines_unlines laid.areLines empty] at isLine
        exact laid.canonical line isLine
    exact laidOut.imp_right (·.isLaidOut Dialect.readable_default)

end StepFlow
