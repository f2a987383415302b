import StepFlow.Proofs.Pattern.Reads

/-! # Where a pattern is found

A search tries the places of a text from left to right. So a pattern is found if and only if it goes through from some
place of the text. Whether it goes through can depend on what stands before the place, since a part may ask for an edge
of a word.
-/

namespace StepFlow.Pattern

open Text

section Search

variable {pattern : Pattern} {before text left right : List Char}

/-- A pattern goes through from a place on, whatever has been kept on the way there. -/
def GoesFrom (pattern : Pattern) (before after : List Char) : Prop :=
  ∀ captures, ∃ reached, reached ∈ pattern.ends ⟨before, after, captures⟩

theorem GoesFrom.isSome_matchAt? (goes : pattern.GoesFrom before text) :
    (pattern.matchAt? before text).isSome = true := by
  obtain ⟨reached, member⟩ := goes []
  rw [matchAt?, Option.isSome_map, List.isSome_head?]
  exact List.ne_nil_of_mem member

theorem GoesFrom.occursIn (goes : pattern.GoesFrom left.reverse right) : pattern.occursIn (left ++ right) = true :=
  isSome_searchFrom? (by simpa using goes.isSome_matchAt?)

/-- A match that is searched for ends at a place that the pattern reaches from its start. -/
theorem exists_mem_ends_of_search? {found : Match} (searched : pattern.search? text = some found) :
    ∃ left right, text = left ++ right ∧ found.before = left.reverse ∧ found.opened = right ∧
      found.stop ∈ pattern.ends ⟨left.reverse, right, []⟩ := by
  obtain ⟨left, right, matched, rfl⟩ := exists_matchAt?_of_search? searched
  obtain ⟨stop, first, rfl⟩ := Option.map_eq_some_iff.mp matched
  refine ⟨left.reverse, right, rfl, left.reverse_reverse.symm, rfl, ?_⟩
  rw [List.reverse_reverse]
  exact List.mem_of_head? first

end Search

section Parts

variable {first : Pattern} {parts : List Pattern} {before taken rest : List Char}

theorem Passes.goesFrom (passes : first.Passes taken)
    (goesOn : (concat parts).GoesFrom (taken.reverse ++ before) rest) :
    (concat (first :: parts)).GoesFrom before (taken ++ rest) := by
  intro captures
  obtain ⟨captures', isMiddle⟩ := passes before rest captures
  obtain ⟨reached, isReached⟩ := goesOn captures'
  exact ⟨reached, mem_ends_concat_cons.mpr ⟨_, isMiddle, isReached⟩⟩

theorem GoesThrough.goesFrom {pattern : Pattern} {after : List Char} (goes : pattern.GoesThrough after)
    (before : List Char) : pattern.GoesFrom before after :=
  goes before

theorem goesThrough_nil (after : List Char) : (concat []).GoesThrough after :=
  fun _ _ => ⟨_, List.mem_singleton.mpr rfl⟩

/-- The first part of a pattern reads a text and moves past it, and the other parts go on from there. -/
theorem exists_advance_of_mem_concat {place reached : Place} (member : reached ∈ (concat (first :: parts)).ends place) :
    ∃ taken middle, place.after = taken ++ middle.after ∧ middle.before = taken.reverse ++ place.before ∧
      first.Reads taken ∧ middle ∈ first.ends place ∧ reached ∈ (concat parts).ends middle := by
  obtain ⟨middle, isMiddle, isReached⟩ := mem_ends_concat_cons.mp member
  obtain ⟨taken, after, before⟩ := advances_of_mem_ends isMiddle
  exact ⟨taken, middle, after, before, ⟨place, middle, isMiddle, after⟩, isMiddle, isReached⟩

/-- A group at the start of a pattern keeps what it moves past, where no later part uses its number again. -/
theorem exists_kept_advance_of_mem_concat {index : Nat} {body : Pattern} {place reached : Place}
    (unused : index ∉ (concat parts).indices) (member : reached ∈ (concat (.group index body :: parts)).ends place) :
    ∃ taken middle, place.after = taken ++ middle.after ∧ middle.before = taken.reverse ++ place.before ∧
      body.Reads taken ∧ reached.kept? index = some taken ∧ reached ∈ (concat parts).ends middle := by
  obtain ⟨taken, middle, after, before, -, isMiddle, isReached⟩ := exists_advance_of_mem_concat member
  obtain ⟨other, after', reads, kept⟩ := of_mem_ends_group isMiddle
  obtain rfl : taken = other := List.append_cancel_right (after.symm.trans after')
  exact ⟨taken, middle, after, before, reads, (kept?_of_mem_ends _ unused isReached).trans kept, isReached⟩

/-- A part that may be left out is tried first. -/
theorem ends_maybe (body : Pattern) (place : Place) : (maybe body).ends place = body.ends place ++ [place] := by
  cases body with
  | one test =>
    obtain ⟨before, after, captures⟩ := place
    cases after with
    | nil => rfl
    | cons c rest =>
      have stop (before : List Char) : spanPlaces test (some 0) before captures rest = [⟨before, rest, captures⟩] := by
        cases rest <;> simp [spanPlaces]
      by_cases holds : test.holds c = true
      · simp [maybe, times, ends, Bounds.optional, spanPlaces, Place.step?, holds, stop]
      · simp [maybe, times, ends, Bounds.optional, spanPlaces, Place.step?, holds]
  | _ => simp [maybe, times, ends, Bounds.optional, roundPlaces, morePlaces]

theorem Reads.maybe {body : Pattern} {part : List Char} (reads : (Pattern.maybe body).Reads part) :
    part = [] ∨ body.Reads part := by
  obtain ⟨place, reached, member, split⟩ := reads
  rw [ends_maybe] at member
  rcases List.mem_append.mp member with isThere | isLeftOut
  · exact .inr ⟨place, reached, isThere, split⟩
  · obtain rfl := List.mem_singleton.mp isLeftOut
    exact .inl (List.self_eq_append_left.mp split)

theorem Passes.maybe {body : Pattern} {part : List Char} (optional : part = [] ∨ body.Passes part) :
    (Pattern.maybe body).Passes part := by
  intro before rest captures
  rw [ends_maybe]
  rcases optional with rfl | passes
  · exact ⟨captures, List.mem_append_right _ (List.mem_singleton.mpr rfl)⟩
  · obtain ⟨captures', member⟩ := passes before rest captures
    exact ⟨captures', List.mem_append_left _ member⟩

end Parts

/-! ## Edges of words -/

/-- Either the last character before a place or the first one after it is a word character, but not both. -/
def AtWordEdge (before after : List Char) : Prop :=
  before.getLast?.any isWordChar ≠ after.head?.any isWordChar

theorem holds_wordEdge_iff {place : Place} :
    (Edge.wordEdge false true).holds place = true ↔ AtWordEdge place.before.reverse place.after := by
  have holds : (fun c => CharKind.holds .word false c) = isWordChar := by
    funext c
    simp [CharKind.holds]
  rw [Edge.holds, AtWordEdge, List.getLast?_reverse, holds]
  cases place.before with
  | nil => cases place.after <;> simp
  | cons c before => simp

theorem mem_ends_wordEdge {place reached : Place} :
    reached ∈ wordEdge.ends place ↔ reached = place ∧ AtWordEdge place.before.reverse place.after := by
  rw [wordEdge, ends, ← holds_wordEdge_iff]
  split
  · rename_i holds
    simp [holds]
  · rename_i fails
    simp [fails]

theorem AtWordEdge.goesFrom {parts : List Pattern} {before after : List Char} (isEdge : AtWordEdge before.reverse after)
    (goesOn : (concat parts).GoesFrom before after) : (concat (wordEdge :: parts)).GoesFrom before after := by
  intro captures
  obtain ⟨reached, member⟩ := goesOn captures
  exact ⟨reached, mem_ends_concat_cons.mpr ⟨_, mem_ends_wordEdge.mpr ⟨rfl, isEdge⟩, member⟩⟩

/-! ## Lists of keywords that may be empty -/

/-- What a list of keywords reads: one of its words or, if it has none, the empty text. -/
def IsReading (words : List String) (taken : List Char) : Prop :=
  IsKeyword words taken ∨ words = [] ∧ taken = []

theorem Reads.isReading {words : List String} {part : List Char} (reads : (Pattern.keyword words).Reads part) :
    IsReading words part := by
  by_cases given : words = []
  · subst given
    obtain ⟨place, reached, member, split⟩ := reads
    obtain rfl := List.mem_singleton.mp member
    exact .inr ⟨rfl, List.self_eq_append_left.mp split⟩
  · exact .inl (reads.keyword given)

theorem IsReading.passes {words : List String} {taken : List Char} (reading : IsReading words taken) :
    (keyword words).Passes taken := by
  rcases reading with isKeyword | ⟨rfl, rfl⟩
  · exact .keyword isKeyword
  · exact fun before rest captures => ⟨captures, List.mem_singleton.mpr rfl⟩

theorem IsReading.eq_nil {taken : List Char} (reading : IsReading [] taken) : taken = [] := by
  rcases reading with ⟨word, member, -⟩ | ⟨-, rfl⟩
  · exact absurd member List.not_mem_nil
  · rfl

end StepFlow.Pattern
