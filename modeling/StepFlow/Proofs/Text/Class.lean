import StepFlow.Text.Class

/-! # Blanks and runs of characters

The blanks are few, so what holds of all of them is checked one by one: none is a digit or a word character,
and none is a sign of the layout of a line. A text that is a run of characters of one class, next to something outside
the class, is taken apart in one way only.
-/

namespace StepFlow.Text

/-- The code points of blanks. -/
def blankCodes : List Nat :=
  blankRanges.flatMap fun range => List.range' range.1 (range.2 + 1 - range.1)

/-- The signs that have a meaning of their own in the layout of a line. -/
def layoutSigns : List Char := ":=<>!-+().*/".toList

theorem exists_of_inRanges {ranges : List (Nat × Nat)} {code : Nat} (inside : inRanges ranges code) :
    ∃ range ∈ ranges, range.1 ≤ code ∧ code ≤ range.2 := by
  induction ranges with
  | nil => exact absurd inside Bool.false_ne_true
  | cons range ranges ih =>
    unfold inRanges at inside
    split at inside
    · exact absurd inside Bool.false_ne_true
    · split at inside
      · exact ⟨range, .head _, by omega, by omega⟩
      · obtain ⟨other, member, bounds⟩ := ih inside
        exact ⟨other, .tail _ member, bounds⟩

theorem toNat_mem_blankCodes {c : Char} (blank : isBlank c) : c.toNat ∈ blankCodes := by
  obtain ⟨range, member, low, high⟩ := exists_of_inRanges blank
  refine List.mem_flatMap.mpr ⟨range, member, List.mem_range'_1.mpr ?_⟩
  omega

/-- What is true of every blank in the table is true of every blank. -/
theorem forall_blank {P : Char → Prop} (all : ∀ code ∈ blankCodes, P (Char.ofNat code)) {c : Char}
    (blank : isBlank c) : P c := by
  simpa using all c.toNat (toNat_mem_blankCodes blank)

theorem isDecimal_of_isBlank {c : Char} (blank : isBlank c) : isDecimal c = false :=
  forall_blank (P := fun c => isDecimal c = false) (by decide +kernel) blank

theorem isWordChar_of_isBlank {c : Char} (blank : isBlank c) : isWordChar c = false :=
  forall_blank (P := fun c => isWordChar c = false) (by decide +kernel) blank

theorem not_mem_layoutSigns_of_isBlank {c : Char} (blank : isBlank c) : c ∉ layoutSigns :=
  forall_blank (P := fun c => c ∉ layoutSigns) (by decide +kernel) blank

theorem isBlank_of_isDecimal {c : Char} (decimal : isDecimal c) : isBlank c = false := by
  cases blank : isBlank c with
  | false => rfl
  | true => exact absurd decimal (by simp [isDecimal_of_isBlank blank])

/-! ## Runs of characters -/

section Boundaries

variable {p : Char → Bool} {first first' second second' : List Char}

/-- Where two texts start with a run of one class and go on outside it, the runs are the same. -/
theorem append_inj_of_head (inside : ∀ c ∈ first, p c = true) (inside' : ∀ c ∈ first', p c = true)
    (stops : second.head?.any p = false) (stops' : second'.head?.any p = false)
    (same : first ++ second = first' ++ second') : first = first' ∧ second = second' := by
  have taken {run rest : List Char} (inside : ∀ c ∈ run, p c = true) (stops : rest.head?.any p = false) :
      (run ++ rest).takeWhile p = run := by
    rw [List.takeWhile_append_of_pos inside]
    cases rest with
    | nil => simp
    | cons c rest => simp_all
  have runs : first = first' := by rw [← taken inside stops, same, taken inside' stops']
  exact ⟨runs, List.append_cancel_left (runs ▸ same)⟩

/-- Where two texts end with a run of one class after something outside it, the runs are the same. -/
theorem append_inj_of_last (inside : ∀ c ∈ second, p c = true) (inside' : ∀ c ∈ second', p c = true)
    (stops : first.getLast?.any p = false) (stops' : first'.getLast?.any p = false)
    (same : first ++ second = first' ++ second') : first = first' ∧ second = second' := by
  have reversed : second.reverse ++ first.reverse = second'.reverse ++ first'.reverse := by
    rw [← List.reverse_append, same, List.reverse_append]
  obtain ⟨runs, rests⟩ := append_inj_of_head (by simpa using inside) (by simpa using inside')
    (by simpa using stops) (by simpa using stops') reversed
  exact ⟨List.reverse_inj.mp rests, List.reverse_inj.mp runs⟩

/-- A character that closes a text, and does not occur before, is found at its end. -/
theorem append_inj_of_closed {c : Char} (absent : c ∉ first') (same : first ++ c :: second = first' ++ [c]) :
    first = first' ∧ second = [] := by
  rcases List.eq_nil_or_concat second with rfl | ⟨front, d, rfl⟩
  · exact ⟨List.append_cancel_right same, rfl⟩
  · have split : (first ++ c :: front) ++ [d] = first' ++ [c] := by simpa using same
    exact absurd (by simp [← (List.append_inj' split rfl).1]) absent

end Boundaries

end StepFlow.Text
