import Mathlib.Data.List.DropRight
import StepFlow.Layout
import StepFlow.Proofs.Text.Class

/-! # Lines as cells

A line is a sequence of solid characters with gaps of blanks between them. The passes over a line that space
its signs, squeeze it and trim it change nothing but gaps, so they are functions on cells: a solid character
with the gap after it.
-/

namespace StepFlow.Layout

open Text

/-- A run of blanks, perhaps empty. -/
@[ext] structure Gap where
  blanks : List Char
  blank : blanks.all isBlank

/-- A solid character with the gap after it. -/
@[ext] structure Cell where
  char : Char
  gap : Gap
  solid : isBlank char = false

theorem mem_squeezeFrom {inGap : Bool} {text : List Char} {c : Char} (member : c ∈ squeezeFrom inGap text) :
    c = ' ' ∨ c ∈ text := by
  induction text generalizing inGap with
  | nil => exact absurd member List.not_mem_nil
  | cons d text ih =>
    unfold squeezeFrom at member
    split at member
    · split at member
      · exact (ih member).imp_right (.tail _)
      · rcases List.mem_cons.mp member with same | later
        · exact .inl same
        · exact (ih later).imp_right (.tail _)
    · rcases List.mem_cons.mp member with same | later
      · exact .inr (same ▸ .head _)
      · exact (ih later).imp_right (.tail _)

theorem squeezeFrom_squeezeFrom (inGap : Bool) (text : List Char) :
    squeezeFrom inGap (squeezeFrom inGap text) = squeezeFrom inGap text := by
  induction text generalizing inGap with
  | nil => rfl
  | cons c text ih =>
    by_cases gap : isGap c
    · cases inGap with
      | true => simpa [squeezeFrom, gap] using ih true
      | false => simpa [squeezeFrom, gap, show isGap ' ' = true by decide] using ih true
    · simpa [squeezeFrom, gap] using ih false

theorem squeeze_squeeze (text : List Char) : squeeze (squeeze text) = squeeze text :=
  squeezeFrom_squeezeFrom false text

theorem isEmpty_squeeze (text : List Char) : (squeeze text).isEmpty = text.isEmpty := by
  cases text with
  | nil => rfl
  | cons c text => by_cases gap : isGap c <;> simp [squeeze, squeezeFrom, gap]

theorem isGap_of_not_isBlank {c : Char} (solid : isBlank c = false) : isGap c = false := by
  rw [isGap, Bool.or_eq_false_iff, beq_eq_false_iff_ne, beq_eq_false_iff_ne]
  constructor
  · rintro rfl
    exact absurd solid (by decide)
  · rintro rfl
    exact absurd solid (by decide)

/-- A solid character ends the gap before it. -/
theorem squeezeFrom_append_cons (inGap : Bool) (text : List Char) {c : Char} (solid : isBlank c = false)
    (rest : List Char) :
    squeezeFrom inGap (text ++ c :: rest) = squeezeFrom inGap text ++ c :: squeeze rest := by
  induction text generalizing inGap with
  | nil => simp [squeezeFrom, isGap_of_not_isBlank solid, squeeze]
  | cons d text ih =>
    by_cases gap : isGap d
    · cases inGap <;> simp [squeezeFrom, gap, ih]
    · simp [squeezeFrom, gap, ih]

namespace Gap

/-- No blanks. -/
def none : Gap := ⟨[], rfl⟩

/-- One space. -/
def one : Gap := ⟨[' '], by decide⟩

/-- The first blank of a gap, and a space. -/
def widen (gap : Gap) : Gap where
  blanks := gap.blanks.take 1 ++ [' ']
  blank := by
    have all := List.all_eq_true.mp gap.blank
    rw [List.all_eq_true]
    intro c member
    rcases List.mem_append.mp member with early | late
    · exact all c (List.mem_of_mem_take early)
    · rw [List.mem_singleton.mp late]
      decide

/-- A gap with each run of spaces and tabs as one space. -/
def squeezed (gap : Gap) : Gap where
  blanks := squeeze gap.blanks
  blank := by
    rw [List.all_eq_true]
    intro c member
    rcases mem_squeezeFrom member with rfl | inside
    · decide
    · exact List.all_eq_true.mp gap.blank c inside

/-- Whether there are no blanks. -/
def isEmpty (gap : Gap) : Bool := gap.blanks.isEmpty

@[simp] theorem isEmpty_none : none.isEmpty = true := rfl

@[simp] theorem isEmpty_one : one.isEmpty = false := rfl

@[simp] theorem isEmpty_widen (gap : Gap) : gap.widen.isEmpty = false := by
  simp [isEmpty, widen]

@[simp] theorem isEmpty_squeezed (gap : Gap) : gap.squeezed.isEmpty = gap.isEmpty := isEmpty_squeeze _

@[simp] theorem squeezed_none : none.squeezed = none := rfl

@[simp] theorem squeezed_one : one.squeezed = one := rfl

@[simp] theorem squeezed_squeezed (gap : Gap) : gap.squeezed.squeezed = gap.squeezed :=
  Gap.ext (squeeze_squeeze _)

theorem eq_none_of_isEmpty {gap : Gap} (empty : gap.isEmpty) : gap = none :=
  Gap.ext (List.isEmpty_iff.mp empty)

/-- A widened gap keeps its form when it is widened again. -/
@[simp] theorem squeezed_widen_widen (gap : Gap) : gap.widen.widen.squeezed = gap.widen.squeezed := by
  apply Gap.ext
  simp only [widen, squeezed]
  cases gap.blanks <;> rfl

/-- Squeezing a gap first makes no difference when it is widened. -/
@[simp] theorem squeezed_widen_squeezed (gap : Gap) : gap.squeezed.widen.squeezed = gap.widen.squeezed := by
  have space : isGap ' ' = true := by decide
  apply Gap.ext
  simp only [widen, squeezed]
  cases gap.blanks with
  | nil => rfl
  | cons c rest => by_cases gap : isGap c <;> simp [squeeze, squeezeFrom, gap, space]

end Gap

/-- The text of solid characters with their gaps. -/
def render (cells : List Cell) : List Char := cells.flatMap fun cell => cell.char :: cell.gap.blanks

@[simp] theorem render_nil : render [] = [] := rfl

@[simp] theorem render_cons (cell : Cell) (cells : List Cell) :
    render (cell :: cells) = cell.char :: (cell.gap.blanks ++ render cells) := rfl

@[simp] theorem render_append (front back : List Cell) : render (front ++ back) = render front ++ render back :=
  List.flatMap_append

/-- Every text is a gap with cells after it. -/
theorem exists_cells (text : List Char) : ∃ (gap : Gap) (cells : List Cell), text = gap.blanks ++ render cells := by
  induction text with
  | nil => exact ⟨.none, [], rfl⟩
  | cons c text ih =>
    obtain ⟨gap, cells, rfl⟩ := ih
    cases blank : isBlank c with
    | true => exact ⟨⟨c :: gap.blanks, by simp [blank, gap.blank]⟩, cells, rfl⟩
    | false => exact ⟨.none, ⟨c, gap, blank⟩ :: cells, rfl⟩

/-- A text that does not start with a blank is made of cells. -/
theorem exists_render {text : List Char} (solid : startsBlank text = false) :
    ∃ cells, text = render cells := by
  obtain ⟨gap, cells, rfl⟩ := exists_cells text
  refine ⟨cells, ?_⟩
  cases blanks : gap.blanks with
  | nil => rfl
  | cons c rest =>
    have blank := List.all_eq_true.mp gap.blank c (by simp [blanks])
    rw [blanks] at solid
    exact absurd blank (by simpa [startsBlank] using solid)

/-- The character that follows a gap. -/
def nextChar (cells : List Cell) : Option Char := cells.head?.map Cell.char

theorem dropWhile_blanks (gap : Gap) (text : List Char) :
    (gap.blanks ++ text).dropWhile isBlank = text.dropWhile isBlank :=
  List.dropWhile_append_of_pos (List.all_eq_true.mp gap.blank)

@[simp] theorem dropWhile_render (cells : List Cell) : (render cells).dropWhile isBlank = render cells := by
  cases cells with
  | nil => rfl
  | cons cell cells => rw [render_cons, List.dropWhile_cons, cell.solid, if_neg Bool.false_ne_true]

@[simp] theorem dropWhile_blanks_render (gap : Gap) (cells : List Cell) :
    (gap.blanks ++ render cells).dropWhile isBlank = render cells := by
  rw [dropWhile_blanks, dropWhile_render]

@[simp] theorem head?_render (cells : List Cell) : (render cells).head? = nextChar cells := by
  cases cells <;> rfl

/-- A cell with its gap squeezed. -/
def Cell.squeezed (cell : Cell) : Cell := { cell with gap := cell.gap.squeezed }

theorem squeeze_render (gap : Gap) (cells : List Cell) :
    squeeze (gap.blanks ++ render cells) = gap.squeezed.blanks ++ render (cells.map Cell.squeezed) := by
  induction cells generalizing gap with
  | nil => simp [Gap.squeezed]
  | cons cell cells ih =>
    rw [render_cons, squeeze, squeezeFrom_append_cons _ _ cell.solid, ih]
    rfl

/-- The cells of a line without the blanks at its end. -/
def closeLast : List Cell → List Cell
  | [] => []
  | [cell] => [{ cell with gap := .none }]
  | cell :: next :: rest => cell :: closeLast (next :: rest)

theorem trimEnd_append {front back : List Char} (solid : trimEnd back ≠ []) :
    trimEnd (front ++ back) = front ++ trimEnd back := by
  simp only [trimEnd, ne_eq, List.reverse_eq_nil_iff] at solid
  rw [trimEnd, List.reverse_append, List.dropWhile_append, if_neg (by simpa using solid)]
  simp [trimEnd]

theorem closeLast_ne_nil {cells : List Cell} (nonempty : cells ≠ []) : closeLast cells ≠ [] := by
  cases cells with
  | nil => exact absurd rfl nonempty
  | cons cell rest => cases rest <;> simp [closeLast]

theorem trimEnd_render (cells : List Cell) : trimEnd (render cells) = render (closeLast cells) := by
  induction cells with
  | nil => rfl
  | cons cell cells ih =>
    cases cells with
    | nil =>
      have blank : ∀ c ∈ cell.gap.blanks.reverse, isBlank c := fun c member =>
        List.all_eq_true.mp cell.gap.blank c (List.mem_reverse.mp member)
      simp [trimEnd, closeLast, Gap.none, List.dropWhile_append_of_pos blank, cell.solid]
    | cons next rest =>
      have nonempty : trimEnd (render (next :: rest)) ≠ [] := by
        rw [ih]
        cases closed : closeLast (next :: rest) with
        | nil => exact absurd closed (closeLast_ne_nil (by simp))
        | cons first more => simp
      rw [render_cons, ← List.cons_append, trimEnd_append nonempty, ih]
      rfl

theorem trim_render (gap : Gap) (cells : List Cell) :
    trim (gap.blanks ++ render cells) = render (closeLast cells) := by
  rw [trim, trimStart, dropWhile_blanks_render, trimEnd_render]

end StepFlow.Layout
