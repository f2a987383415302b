import StepFlow.Proofs.Text.Case

/-! # Alphabets

A text is over a set of characters if it has no others. An alphabet is such a set that has the digits and the signs of
program lines, and that changes of case do not leave. Taking away some characters without case leaves an alphabet.
-/

namespace StepFlow.Text

/-- A text without other characters than the allowed ones. -/
def Over (allowed : Char → Prop) (text : List Char) : Prop := ∀ c ∈ text, allowed c

section Over

variable {allowed : Char → Prop}

instance [DecidablePred allowed] (text : List Char) : Decidable (Over allowed text) :=
  -- Named, as the characters are finitely many and could be tried one by one.
  List.decidableBAll _ _

@[simp] theorem over_nil : Over allowed [] := List.forall_mem_nil _

@[simp] theorem over_cons {c : Char} {text : List Char} : Over allowed (c :: text) ↔ allowed c ∧ Over allowed text :=
  List.forall_mem_cons

@[simp] theorem over_append {front back : List Char} :
    Over allowed (front ++ back) ↔ Over allowed front ∧ Over allowed back := List.forall_mem_append

theorem over_flatten {parts : List (List Char)} : Over allowed parts.flatten ↔ ∀ part ∈ parts, Over allowed part := by
  induction parts with
  | nil => simp
  | cons part rest ih => rw [List.flatten_cons, over_append, ih, List.forall_mem_cons]

theorem Over.of_subset {text part : List Char} (given : Over allowed text) (subset : part ⊆ text) : Over allowed part :=
  fun c member => given c (subset member)

end Over

/-- A set of characters that holds what is written of a program beside its own words. -/
structure Alphabet (allowed : Char → Prop) : Prop where
  signs : ∀ c ∈ [' ', '-', '+', ':', '='], allowed c
  digits : ∀ {c : Char}, c.isDigit = true → allowed c
  /-- Upper case does not lead out of the set. -/
  upper : ∀ {c d : Char}, allowed c → d ∈ upperOf c → allowed d
  /-- What differs from an allowed character in case only is allowed. -/
  folded : ∀ {c d : Char}, sameFolded c d = true → allowed d → allowed c

/-- A character that is neither the upper-case form of another one nor agrees with another one in all but case. -/
def IsCaseless (c : Char) : Prop := IsOwnCapitalOnly c ∧ ∀ code ∈ Folding.full.variants c, code = c.toNat

instance (c : Char) : Decidable (IsCaseless c) := inferInstanceAs (Decidable (_ ∧ _))

/-- All characters but some without case, none of which is a digit or a sign, are an alphabet. -/
theorem alphabet_notMem {others : List Char} (caseless : Over IsCaseless others)
    (noDigit : Over (·.isDigit = false) others) (noSign : Over (· ∉ others) [' ', '-', '+', ':', '=']) :
    Alphabet (· ∉ others) where
  signs := noSign
  digits := by
    intro c digit member
    rw [noDigit c member] at digit
    cases digit
  upper := by
    intro c d allowed isUpper member
    rw [eq_of_mem_upperOf (caseless d member).1 isUpper] at allowed
    exact allowed member
  folded := by
    intro c d same allowed member
    have code := (caseless c member).2 d.toNat (toNat_mem_variants same)
    exact allowed (Char.toNat_inj.mp code ▸ member)

namespace Alphabet

variable {allowed : Char → Prop} (alphabet : Alphabet allowed)
include alphabet

theorem upperChars {text : List Char} (given : Over allowed text) : Over allowed (upperChars text) := by
  intro d member
  obtain ⟨c, isText, isUpper⟩ := List.mem_flatMap.mp member
  exact alphabet.upper (given c isText) isUpper

end Alphabet

end StepFlow.Text
