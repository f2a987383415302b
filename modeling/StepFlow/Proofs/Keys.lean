import Mathlib.Data.List.Nodup

/-! # Lists with distinct keys

Where no two members of a list have the same key, a key finds its member and nothing else.
-/

namespace StepFlow

variable {α κ : Type} [BEq κ] [LawfulBEq κ] {key : α → κ} {members : List α} {member : α}

theorem filter_key_eq (distinct : (members.map key).Nodup) (present : member ∈ members) :
    members.filter (fun other => key other == key member) = [member] := by
  induction members with
  | nil => exact absurd present List.not_mem_nil
  | cons head rest ih =>
    obtain ⟨fresh, distinct⟩ := List.nodup_cons.mp distinct
    rcases List.mem_cons.mp present with rfl | later
    · have others : rest.filter (fun other => key other == key member) = [] := by
        apply List.filter_eq_nil_iff.mpr
        intro other found
        have differs : key other ≠ key member := fun same => fresh (same ▸ List.mem_map_of_mem found)
        simpa using differs
      simp [others]
    · have other : key head ≠ key member := fun same => fresh (same ▸ List.mem_map_of_mem later)
      rw [List.filter_cons_of_neg (by simpa using other)]
      exact ih distinct later

theorem find?_key_eq (distinct : (members.map key).Nodup) (present : member ∈ members) :
    members.find? (fun other => key other == key member) = some member := by
  rw [← List.head?_filter, filter_key_eq distinct present]
  rfl

end StepFlow
