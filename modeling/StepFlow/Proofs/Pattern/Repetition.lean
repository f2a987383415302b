import StepFlow.Proofs.Pattern.Search

/-! # Parts that are repeated

What a repeated part reads is made up of what it reads in each round, and it can go past any texts that it passes one by
one. The search for all numerals gives a list of numbers back: a numeral goes on as far as there are digits, and the
next search starts where it ended.
-/

namespace StepFlow.Pattern

open Text

section Rounds

variable {body : Pattern} {parts : List (List Char)}

theorem exists_parts_of_mem_morePlaces {greedy : Bool} {fuel : Nat} {most last : Option Nat} {place reached : Place}
    (member : reached ∈ morePlaces body.ends greedy fuel most last place) :
    ∃ parts : List (List Char), place.after = parts.flatten ++ reached.after ∧ ∀ part ∈ parts, body.Reads part := by
  have nothing (place : Place) : ∃ parts : List (List Char), place.after = parts.flatten ++ place.after ∧
      ∀ part ∈ parts, body.Reads part :=
    ⟨[], rfl, List.forall_mem_nil _⟩
  induction fuel generalizing most last place with
  | zero => exact List.mem_singleton.mp member ▸ nothing place
  | succ fuel ih =>
    rw [morePlaces] at member
    split at member
    · exact List.mem_singleton.mp member ▸ nothing place
    · have split : reached ∈ (body.ends place).flatMap
          (morePlaces body.ends greedy fuel (most.map (· - 1)) (some place.after.length)) ∨ reached = place := by
        cases greedy with
        | true => simpa using member
        | false => simpa [or_comm] using member
      rcases split with more | rfl
      · obtain ⟨next, isNext, later⟩ := List.mem_flatMap.mp more
        obtain ⟨part, after, -⟩ := advances_of_mem_ends isNext
        obtain ⟨parts, rest, read⟩ := ih later
        refine ⟨part :: parts, ?_, List.forall_mem_cons.mpr ⟨⟨place, next, isNext, after⟩, read⟩⟩
        rw [after, rest, List.flatten_cons, List.append_assoc]
      · exact nothing reached

/-- What is read in any number of rounds is what the rounds read, one after another. -/
theorem Reads.loop {greedy : Bool} {taken : List Char} (reads : (Pattern.loop body .anyNumber greedy).Reads taken) :
    ∃ parts : List (List Char), taken = parts.flatten ∧ ∀ part ∈ parts, body.Reads part := by
  obtain ⟨place, reached, member, split⟩ := reads
  obtain ⟨_, isStart, repeated⟩ := List.mem_flatMap.mp member
  obtain rfl := List.mem_singleton.mp isStart
  obtain ⟨parts, after, read⟩ := exists_parts_of_mem_morePlaces repeated
  exact ⟨parts, List.append_cancel_right (split.symm.trans after), read⟩

theorem exists_mem_morePlaces (passed : ∀ part ∈ parts, part ≠ [] ∧ body.Passes part) {fuel : Nat} {last : Option Nat}
    {before rest : List Char} (enough : parts.length < fuel) (moved : last ≠ some (parts.flatten ++ rest).length)
    (captures : List Capture) :
    ∃ captures', ⟨parts.flatten.reverse ++ before, rest, captures'⟩ ∈
      morePlaces body.ends true fuel none last ⟨before, parts.flatten ++ rest, captures⟩ := by
  induction parts generalizing fuel last before captures with
  | nil =>
    obtain ⟨fuel, rfl⟩ := Nat.exists_eq_add_of_lt enough
    refine ⟨captures, ?_⟩
    rw [morePlaces, if_neg (by simpa using moved)]
    exact List.mem_append_right _ (List.mem_singleton.mpr rfl)
  | cons part parts ih =>
    obtain ⟨⟨given, passes⟩, later⟩ := List.forall_mem_cons.mp passed
    cases fuel with
    | zero => exact absurd enough (Nat.not_lt_zero _)
    | succ fuel =>
      rw [List.flatten_cons, List.append_assoc] at moved ⊢
      obtain ⟨captures₁, isMiddle⟩ := passes before (parts.flatten ++ rest) captures
      have shorter : some (part ++ (parts.flatten ++ rest)).length ≠ some (parts.flatten ++ rest).length := by
        have positive := List.length_pos_iff.mpr given
        simp only [List.length_append, ne_eq, Option.some.injEq]
        omega
      obtain ⟨captures₂, member⟩ := @ih later fuel _ (part.reverse ++ before)
        (Nat.lt_of_succ_lt_succ enough) shorter captures₁
      refine ⟨captures₂, ?_⟩
      rw [morePlaces, if_neg (by simpa using moved), List.reverse_append, List.append_assoc]
      exact List.mem_append_left _ (List.mem_flatMap.mpr ⟨_, isMiddle, member⟩)

/-- A repeated part goes past texts that it passes one by one. -/
theorem Passes.loop (passed : ∀ part ∈ parts, part ≠ [] ∧ body.Passes part) :
    (Pattern.loop body .anyNumber true).Passes parts.flatten := by
  intro before rest captures
  have few : parts.length ≤ parts.flatten.length := by
    clear rest
    induction parts with
    | nil => exact Nat.le_refl 0
    | cons part parts ih =>
      obtain ⟨⟨given, -⟩, later⟩ := List.forall_mem_cons.mp passed
      have positive := List.length_pos_iff.mpr given
      have shorter := ih later
      rw [List.flatten_cons, List.length_append, List.length_cons]
      omega
  have enough : parts.length < (parts.flatten ++ rest).length + 2 := by
    rw [List.length_append]
    omega
  obtain ⟨captures', member⟩ := @exists_mem_morePlaces body parts passed _ none before rest enough
    (Option.some_ne_none _).symm captures
  exact ⟨captures', List.mem_flatMap.mpr ⟨_, List.mem_singleton.mpr rfl, member⟩⟩

theorem Passes.seq {first second : Pattern} {taken more : List Char} (passes : first.Passes taken)
    (goesOn : second.Passes more) : (Pattern.seq first second).Passes (taken ++ more) := by
  intro before rest captures
  obtain ⟨captures₁, isMiddle⟩ := passes before (more ++ rest) captures
  obtain ⟨captures₂, isReached⟩ := goesOn (taken.reverse ++ before) rest captures₁
  refine ⟨captures₂, ?_⟩
  rw [List.reverse_append, List.append_assoc, List.append_assoc]
  exact List.mem_flatMap.mpr ⟨_, isMiddle, isReached⟩

end Rounds

/-! ## All numerals of a text -/

section Numerals

variable {before digits rest : List Char}

theorem findAllFrom_length (pattern : Pattern) (before taken rest : List Char) :
    pattern.findAllFrom taken.length before (taken ++ rest) =
      pattern.findAllFrom 0 (taken.reverse ++ before) rest := by
  induction taken generalizing before with
  | nil => rfl
  | cons c taken ih =>
    rw [List.length_cons, List.cons_append, findAllFrom, ih, List.reverse_cons, List.append_assoc]
    rfl

theorem findAllFrom_numeral_of_not {c : Char} (other : isDecimal c = false) :
    numeral.findAllFrom 0 before (c :: rest) = numeral.findAllFrom 0 (c :: before) rest := by
  have unmatched : numeral.matchAt? before (c :: rest) = none := by
    rw [matchAt?_eq, numeral, andThen?_someSpan_of_not _ _ _ (by simpa using other)]
    rfl
  rw [findAllFrom, unmatched]
  rfl

/-- A numeral is found up to its last digit, and the search goes on behind it. -/
theorem findAllFrom_numeral (given : digits ≠ []) (decimal : ∀ c ∈ digits, isDecimal c = true)
    (ended : rest.head?.any isDecimal = false) :
    numeral.findAllFrom 0 before (digits ++ rest) =
      digits :: numeral.findAllFrom 0 (digits.reverse ++ before) rest := by
  have taken : (digits ++ rest).takeWhile isDecimal = digits ∧ (digits ++ rest).dropWhile isDecimal = rest := by
    rw [List.takeWhile_append_of_pos decimal, List.dropWhile_append_of_pos decimal]
    cases rest with
    | nil => simp
    | cons c rest => simp_all
  have matched : numeral.matchAt? before (digits ++ rest) =
      some ⟨before, digits ++ rest, ⟨digits.reverse ++ before, rest, []⟩⟩ := by
    rw [matchAt?_eq, numeral, andThen?_someSpan _ _ _ _ _ (fun failed => absurd failed (Option.some_ne_none _)),
      CharTest.decimal_holds_eq, taken.1, taken.2, if_neg (by simpa using given)]
    rfl
  obtain ⟨c, digits, rfl⟩ := List.exists_cons_of_ne_nil given
  have text : (numeral.matchAt? before (c :: (digits ++ rest))).map Match.text = some (c :: digits) := by
    rw [← List.cons_append, matched, Option.map_some, Match.text, List.length_append, Nat.add_sub_cancel_right,
      List.take_left]
  rw [List.cons_append, findAllFrom, text]
  simp only [findAllFrom_length, List.reverse_cons, List.append_assoc, List.singleton_append]

end Numerals

end StepFlow.Pattern
