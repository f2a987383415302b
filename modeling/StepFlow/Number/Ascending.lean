/-! # Sets of numbers

A set of integers is kept as the list of its members in ascending order.
-/

namespace StepFlow

/-- Puts a number in its place, once. -/
def insertNumber (n : Int) : List Int → List Int
  | [] => [n]
  | m :: rest => if n < m then n :: m :: rest else if n = m then m :: rest else m :: insertNumber n rest

/-- The numbers of a list, each once, in ascending order. -/
def ascending (numbers : List Int) : List Int := numbers.foldr insertNumber []

@[simp] theorem mem_insertNumber {n m : Int} {numbers : List Int} :
    m ∈ insertNumber n numbers ↔ m = n ∨ m ∈ numbers := by
  induction numbers with
  | nil => simp [insertNumber]
  | cons k rest ih =>
    by_cases less : n < k
    · simp [insertNumber, less]
    · by_cases same : n = k
      · subst same
        simp [insertNumber]
      · simp [insertNumber, less, same, ih, or_left_comm]

@[simp] theorem mem_ascending {m : Int} {numbers : List Int} : m ∈ ascending numbers ↔ m ∈ numbers := by
  induction numbers with
  | nil => simp [ascending]
  | cons n rest ih => simpa [ascending] using or_congr Iff.rfl ih

theorem pairwise_insertNumber (n : Int) {numbers : List Int} (sorted : numbers.Pairwise (· < ·)) :
    (insertNumber n numbers).Pairwise (· < ·) := by
  induction numbers with
  | nil => exact List.pairwise_singleton _ n
  | cons m rest ih =>
    obtain ⟨least, later⟩ := List.pairwise_cons.mp sorted
    rw [insertNumber]
    split
    · rename_i less
      refine List.pairwise_cons.mpr ⟨List.forall_mem_cons.mpr ⟨less, fun k member => ?_⟩, sorted⟩
      exact Int.lt_trans less (least k member)
    · split
      · exact sorted
      · refine List.pairwise_cons.mpr ⟨fun k member => ?_, ih later⟩
        rcases mem_insertNumber.mp member with rfl | old
        · omega
        · exact least k old

theorem pairwise_ascending (numbers : List Int) : (ascending numbers).Pairwise (· < ·) := by
  induction numbers with
  | nil => exact .nil
  | cons n rest ih => exact pairwise_insertNumber n ih

end StepFlow
