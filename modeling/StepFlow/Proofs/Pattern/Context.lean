import StepFlow.Proofs.Pattern.Search

/-! # Matches in a longer text

What stands before a place matters to a pattern in few ways: it can ask for the start of the text or of a line, for an
edge of a word, or for characters right before the place. A pattern that asks for neither of the first two, and whose
other questions have the same answer after a given character as at the start of a text, is blind to that character. It
reaches the same places of a text when that character and any text before it are put in front. So what is found in a
text is also found in the longer one.
-/

namespace StepFlow

/-- The place with more text before it, nearest character first. -/
def Place.onto (outer : List Char) (place : Place) : Place := { place with before := place.before ++ outer }

/-- An edge that is after a character exactly where it is at the start of a text. -/
def Edge.blindTo (gap : Char) : Edge → Bool
  | .textStart | .lineStart => false
  | .textEnd | .lastLineEnd | .lineEnd => true
  | .wordEdge ascii wanted => wanted && !CharKind.holds .word ascii gap

/-- A pattern that does not tell a place after a character from the start of a text. Of the text before a place it sees
one character at most. -/
def Pattern.blindTo (gap : Char) : Pattern → Bool
  | .empty | .one _ | .span .. | .recall .. => true
  | .seq first second | .either first second | .ifKept _ first second => first.blindTo gap && second.blindTo gap
  | .loop body .. | .group _ body | .ahead _ body | .commit body => body.blindTo gap
  | .edge wanted => wanted.blindTo gap
  | .behind _ 1 (.one test) => !test.holds gap
  | .behind .. => false

/-! ## Moving places -/

section Onto

variable (outer : List Char)

theorem Place.step?_onto (test : CharTest) (place : Place) :
    (place.onto outer).step? test = (place.step? test).map (onto outer) := by
  obtain ⟨before, after, captures⟩ := place
  cases after with
  | nil => rfl
  | cons c rest =>
    simp only [step?, onto]
    split <;> rfl

theorem Place.skip?_onto (folding : Folding) (wanted : List Char) (place : Place) :
    (place.onto outer).skip? folding wanted = (place.skip? folding wanted).map (onto outer) := by
  induction wanted generalizing place with
  | nil => rfl
  | cons c wanted ih =>
    obtain ⟨before, after, captures⟩ := place
    cases after with
    | nil => rfl
    | cons d rest =>
      simp only [skip?, onto]
      split
      · exact ih ⟨d :: before, rest, captures⟩
      · rfl

theorem spanPlaces_onto (test : CharTest) (most : Option Nat) (before : List Char) (captures : List Capture)
    (after : List Char) :
    spanPlaces test most (before ++ outer) captures after =
      (spanPlaces test most before captures after).map (Place.onto outer) := by
  induction after generalizing most before with
  | nil => rfl
  | cons c rest ih =>
    rw [spanPlaces, spanPlaces, List.map_cons]
    split
    · exact congrArg (_ :: ·) (ih _ (c :: before))
    · rfl

section Rounds

variable {outer} {round : Place → List Place}
  (moves : ∀ place, round (place.onto outer) = (round place).map (Place.onto outer))
include moves

theorem roundPlaces_onto (count : Nat) (place : Place) :
    roundPlaces round count (place.onto outer) = (roundPlaces round count place).map (Place.onto outer) := by
  induction count generalizing place with
  | zero => rfl
  | succ count ih => simp only [roundPlaces, moves, List.flatMap_map, List.map_flatMap, ih]

theorem morePlaces_onto (greedy : Bool) (fuel : Nat) (most last : Option Nat) (place : Place) :
    morePlaces round greedy fuel most last (place.onto outer) =
      (morePlaces round greedy fuel most last place).map (Place.onto outer) := by
  induction fuel generalizing most last place with
  | zero => rfl
  | succ fuel ih =>
    have same : (place.onto outer).after = place.after := rfl
    simp only [morePlaces, same, moves, List.flatMap_map, ih]
    split
    · rfl
    · split <;> simp only [List.map_append, List.map_cons, List.map_flatMap, List.map_nil]

end Rounds

end Onto

/-! ## Blind patterns -/

theorem Edge.holds_onto {gap : Char} {edge : Edge} (blind : edge.blindTo gap = true) (outer : List Char)
    (place : Place) : edge.holds (place.onto (gap :: outer)) = edge.holds place := by
  cases edge with
  | textStart | lineStart => exact absurd blind Bool.false_ne_true
  | textEnd | lastLineEnd | lineEnd => rfl
  | wordEdge ascii wanted =>
    obtain ⟨rfl, apart⟩ : wanted = true ∧ CharKind.holds .word ascii gap = false := by simpa [blindTo] using blind
    obtain ⟨before, after, captures⟩ := place
    cases before with
    | nil =>
      -- Neither nothing nor the character before the place is part of a word.
      cases after <;> simp [holds, Place.onto, apart]
    | cons c before => rfl

namespace Pattern

variable {gap : Char} {pattern : Pattern}

theorem of_blindTo_behind {wanted : Bool} {width : Nat} {body : Pattern}
    (blind : (behind wanted width body).blindTo gap = true) :
    ∃ test, width = 1 ∧ body = .one test ∧ test.holds gap = false := by
  unfold blindTo at blind
  split at blind <;> simp_all

/-- A blind pattern reaches the same places when its character and more text stand before them. -/
theorem ends_onto (blind : pattern.blindTo gap = true) (outer : List Char) (place : Place) :
    pattern.ends (place.onto (gap :: outer)) = (pattern.ends place).map (Place.onto (gap :: outer)) := by
  induction pattern generalizing place with
  | empty => rfl
  | one test => rw [ends, ends, Place.step?_onto, Option.toList_map]
  | seq first second ihFirst ihSecond =>
    obtain ⟨isFirst, isSecond⟩ := Bool.and_eq_true_iff.mp blind
    simp only [ends, ihFirst isFirst, ihSecond isSecond, List.flatMap_map, List.map_flatMap]
  | either first second ihFirst ihSecond =>
    obtain ⟨isFirst, isSecond⟩ := Bool.and_eq_true_iff.mp blind
    simp only [ends, ihFirst isFirst, ihSecond isSecond, List.map_append]
  | span test bounds greedy =>
    have moved := spanPlaces_onto (gap :: outer) test bounds.most place.before place.captures place.after
    simp only [ends, Place.onto] at moved ⊢
    rw [moved]
    split <;> simp only [List.map_reverse, List.map_drop]
  | loop body bounds greedy ih =>
    have moves := ih blind
    simp only [ends, roundPlaces_onto moves, List.flatMap_map, List.map_flatMap, morePlaces_onto moves]
    rfl
  | group index body ih =>
    rw [ends, ends, ih blind, List.map_map, List.map_map]
    rfl
  | «recall» index folding =>
    have same : (place.onto (gap :: outer)).kept? index = place.kept? index := rfl
    rw [ends, ends, same]
    split
    · rfl
    · rw [Place.skip?_onto, Option.toList_map]
  | edge wanted =>
    rw [ends, ends, Edge.holds_onto blind]
    split <;> rfl
  | ahead wanted body ih =>
    rw [ends, ends, ih blind]
    cases body.ends place <;> cases wanted <;> rfl
  | behind wanted width body =>
    obtain ⟨test, rfl, rfl, fails⟩ := of_blindTo_behind blind
    obtain ⟨before, after, captures⟩ := place
    cases before with
    | nil =>
      -- At the start of the text nothing is before the place; in the longer text the character fails the test.
      cases wanted <;> simp [ends, Place.onto, Place.back?, Place.step?, fails]
    | cons c before =>
      by_cases holds : test.holds c = true <;> cases wanted <;> simp [ends, Place.onto, Place.back?, Place.step?, holds]
  | commit body ih => rw [ends, ends, ih blind, List.map_take]
  | ifKept index yes no ihYes ihNo =>
    obtain ⟨isYes, isNo⟩ := Bool.and_eq_true_iff.mp blind
    have same : (place.onto (gap :: outer)).kept? index = place.kept? index := rfl
    rw [ends, ends, same, ihYes isYes, ihNo isNo]
    split <;> rfl

/-- What is found in a text is found in a longer one, where the pattern is blind to the character before the text. -/
theorem occursIn_of_blindTo (blind : pattern.blindTo gap = true) (front : List Char) {text : List Char}
    (occurs : pattern.occursIn text = true) : pattern.occursIn (front ++ gap :: text) = true := by
  obtain ⟨found, searched⟩ := Option.isSome_iff_exists.mp occurs
  obtain ⟨left, right, rfl, -, -, member⟩ := exists_mem_ends_of_search? searched
  have reached := List.mem_map_of_mem (f := Place.onto (gap :: front.reverse)) member
  rw [← ends_onto blind] at reached
  have whole : front ++ gap :: (left ++ right) = (front ++ gap :: left) ++ right := by simp
  rw [whole]
  apply isSome_searchFrom?
  rw [matchAt?, Option.isSome_map, List.isSome_head?]
  apply List.ne_nil_of_mem
  simpa [Place.onto] using reached

/-! ## The parts of patterns -/

theorem blindTo_concat (parts : List Pattern) : (concat parts).blindTo gap = parts.all (blindTo gap) := by
  induction parts with
  | nil => rfl
  | cons first parts ih =>
    cases parts with
    | nil => simp [concat]
    | cons next parts => simp [concat, blindTo, ih]

theorem blindTo_anyOf (parts : List Pattern) : (anyOf parts).blindTo gap = parts.all (blindTo gap) := by
  induction parts with
  | nil => rfl
  | cons first parts ih =>
    cases parts with
    | nil => simp [anyOf]
    | cons next parts => simp [anyOf, blindTo, ih]

theorem blindTo_literal (folding : Folding) (text : String) : (literal folding text).blindTo gap = true := by
  simp [literal, blindTo_concat, blindTo]

theorem blindTo_keyword (words : List String) : (keyword words).blindTo gap = true := by
  simp [keyword, blindTo_anyOf, blindTo_literal]

theorem blindTo_times (body : Pattern) (bounds : Bounds) (greedy : Bool) :
    (times body bounds greedy).blindTo gap = body.blindTo gap := by
  cases body <;> rfl

end Pattern

end StepFlow
