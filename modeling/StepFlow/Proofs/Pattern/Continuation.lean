import Mathlib.Data.List.TakeWhile
import StepFlow.Pattern.Grammar

/-! # Matching as a search

`Pattern.ends` lists every place where a pattern may end. A match needs less: the first of them from
which the rest of the pattern goes through. `andThen?` is that search. It has one equation for each form
of pattern, and a greedy run of characters leaves it wherever the rest of the pattern cannot start within
the run.
-/

namespace StepFlow

open Text

namespace CharTest

@[simp] theorem setItem_blank_holds (folding : Folding) (c : Char) :
    (SetItem.ofKind .blank false false).holds folding c = isBlank c := by
  simp [SetItem.holds, CharKind.holds]

@[simp] theorem setItem_decimal_holds (folding : Folding) (c : Char) :
    (SetItem.ofKind .decimal false false).holds folding c = isDecimal c := by
  simp [SetItem.holds, CharKind.holds]

@[simp] theorem blank_holds (c : Char) : blank.holds c = isBlank c := by
  simp [blank, holds]

@[simp] theorem decimal_holds (c : Char) : decimal.holds c = isDecimal c := by
  simp [decimal, holds]

@[simp] theorem char_exact_holds (c d : Char) : (CharTest.char c .exact).holds d = (c == d) := rfl

@[simp] theorem char_full_holds (c d : Char) : (CharTest.char c .full).holds d = sameFolded c d := rfl

theorem blank_holds_eq : blank.holds = isBlank := funext blank_holds

theorem decimal_holds_eq : decimal.holds = isDecimal := funext decimal_holds

/-- A set of one character holds that character only. -/
@[simp] theorem setItem_char_holds (c d : Char) : (SetItem.char d).holds .exact c = (c == d) := by
  simp only [SetItem.char, SetItem.holds, Folding.variants, List.any_cons, List.any_nil, Bool.or_false]
  rw [Bool.eq_iff_iff]
  simp only [Bool.and_eq_true, decide_eq_true_eq, beq_iff_eq]
  exact ⟨fun bounds => Char.toNat_inj.mp (by omega), fun same => by simp [same]⟩

@[simp] theorem oneOf_holds (chars : String) (c : Char) :
    (oneOf chars).holds c = chars.toList.contains c := by
  simp only [oneOf, holds, List.any_map, Function.comp_def, setItem_char_holds, Bool.bne_false]
  exact List.any_beq

end CharTest

namespace Pattern

/-- The first place that `next` gives at an end of the pattern, ends in order of preference. -/
def andThen? (pattern : Pattern) (next : Place → Option Place) (place : Place) : Option Place :=
  (pattern.ends place).findSome? next

theorem matchAt?_eq (pattern : Pattern) (before after : List Char) :
    pattern.matchAt? before after =
      (pattern.andThen? some ⟨before, after, []⟩).map (⟨before, after, ·⟩) := by
  have first : ∀ places : List Place, places.findSome? some = places.head? := by
    intro places
    cases places <;> simp
  rw [matchAt?, andThen?, first]

section Forms

variable (next : Place → Option Place) (place : Place)

@[simp] theorem andThen?_empty : Pattern.empty.andThen? next place = next place := by
  simp [andThen?, ends]

@[simp] theorem andThen?_seq (first second : Pattern) :
    (seq first second).andThen? next place = first.andThen? (second.andThen? next) place := by
  simp only [andThen?, ends]
  induction first.ends place with
  | nil => rfl
  | cons reached places ih =>
    simp only [List.flatMap_cons, List.findSome?_append, List.findSome?_cons, ih, andThen?]
    cases (second.ends reached).findSome? next <;> rfl

@[simp] theorem andThen?_either (first second : Pattern) :
    (either first second).andThen? next place =
      (first.andThen? next place).or (second.andThen? next place) := by
  simp only [andThen?, ends, List.findSome?_append]

@[simp] theorem andThen?_group (index : Nat) (body : Pattern) :
    (group index body).andThen? next place =
      body.andThen? (fun reached =>
        next { reached with captures := ⟨index, place.after, reached.after⟩ :: reached.captures })
        place := by
  simp only [andThen?, ends, List.findSome?_map, Function.comp_def]

@[simp] theorem andThen?_edge (wanted : Edge) :
    (edge wanted).andThen? next place = if wanted.holds place then next place else none := by
  simp only [andThen?, ends]
  split <;> simp

@[simp] theorem andThen?_ahead_false (body : Pattern) :
    (ahead false body).andThen? next place =
      if (body.andThen? some place).isSome then none else next place := by
  simp only [andThen?, ends]
  split <;> rename_i found <;> simp [found]

@[simp] theorem andThen?_ahead_true (body : Pattern) :
    (ahead true body).andThen? next place =
      (body.andThen? some place).bind fun reached =>
        next { place with captures := reached.captures } := by
  simp only [andThen?, ends]
  split <;> rename_i found <;> simp [found]

/-- A part that may be left out is tried first. -/
@[simp] theorem andThen?_optional (body : Pattern) :
    (loop body .optional true).andThen? next place = (body.andThen? next place).or (next place) := by
  simp [andThen?, ends, Bounds.optional, roundPlaces, morePlaces]

end Forms

section Characters

variable (next : Place → Option Place) (before : List Char) (captures : List Capture)

@[simp] theorem andThen?_one_cons (test : CharTest) (c : Char) (after : List Char) :
    (one test).andThen? next ⟨before, c :: after, captures⟩ =
      if test.holds c then next ⟨c :: before, after, captures⟩ else none := by
  simp only [andThen?, ends, Place.step?]
  split <;> simp

@[simp] theorem andThen?_one_nil (test : CharTest) :
    (one test).andThen? next ⟨before, [], captures⟩ = none := rfl

@[simp] theorem andThen?_behind_nil (body : Pattern) (after : List Char) :
    (behind false 1 body).andThen? next ⟨[], after, captures⟩ = next ⟨[], after, captures⟩ := by
  simp [andThen?, ends, Place.back?]

@[simp] theorem andThen?_behind_cons (body : Pattern) (c : Char) (after : List Char) :
    (behind false 1 body).andThen? next ⟨c :: before, after, captures⟩ =
      if (body.andThen? some ⟨before, c :: after, captures⟩).isSome then none
      else next ⟨c :: before, after, captures⟩ := by
  simp only [andThen?, ends, Place.back?, Option.map_some]
  split <;> rename_i found <;> simp_all

/-- The search through a run, longest first, ends at the end of the run, if `next` fails within the run
whenever it fails at its end. -/
theorem findSome?_spanPlaces (test : CharTest) (after : List Char)
    (backtrack : next ⟨(after.takeWhile test.holds).reverse ++ before, after.dropWhile test.holds,
        captures⟩ = none →
      ∀ taken c rest, after = taken ++ c :: rest → taken.all test.holds → test.holds c →
        next ⟨taken.reverse ++ before, c :: rest, captures⟩ = none) :
    (spanPlaces test none before captures after).reverse.findSome? next =
      next ⟨(after.takeWhile test.holds).reverse ++ before, after.dropWhile test.holds, captures⟩ := by
  induction after generalizing before with
  | nil => simp [spanPlaces]
  | cons c after ih =>
    by_cases passes : test.holds c
    · have shift := ih (c :: before) (by
        intro failed taken d rest same all holds
        have := backtrack (by simpa [passes] using failed) (c :: taken) d rest (by simp [same])
          (by simp [passes, all]) holds
        simpa using this)
      simp only [spanPlaces, passes, Option.map_none, ne_eq, reduceCtorEq, not_false_eq_true, and_self, if_true,
        List.reverse_cons, List.findSome?_append, shift, List.takeWhile_cons, List.dropWhile_cons,
        List.append_assoc, List.singleton_append]
      cases reached : next ⟨(after.takeWhile test.holds).reverse ++ c :: before,
          after.dropWhile test.holds, captures⟩ with
      | some place => rfl
      | none =>
        have stays := backtrack (by simpa [passes] using reached) [] c after rfl rfl passes
        simpa using stays
    · simp [spanPlaces, passes]

/-- A greedy run is passed as a whole. -/
theorem andThen?_span (test : CharTest) (after : List Char)
    (backtrack : next ⟨(after.takeWhile test.holds).reverse ++ before, after.dropWhile test.holds,
        captures⟩ = none →
      ∀ taken c rest, after = taken ++ c :: rest → taken.all test.holds → test.holds c →
        next ⟨taken.reverse ++ before, c :: rest, captures⟩ = none) :
    (span test .anyNumber true).andThen? next ⟨before, after, captures⟩ =
      next ⟨(after.takeWhile test.holds).reverse ++ before, after.dropWhile test.holds, captures⟩ := by
  rw [← findSome?_spanPlaces next before captures test after backtrack]
  rfl

/-- A greedy run is passed as a whole if what follows cannot start with one of its characters. -/
theorem andThen?_span_of_stuck (test : CharTest) (after : List Char)
    (stuck : ∀ before c rest, test.holds c → next ⟨before, c :: rest, captures⟩ = none) :
    (span test .anyNumber true).andThen? next ⟨before, after, captures⟩ =
      next ⟨(after.takeWhile test.holds).reverse ++ before, after.dropWhile test.holds, captures⟩ :=
  andThen?_span next before captures test after fun _ _ _ _ _ _ holds => stuck _ _ _ holds

/-- A greedy run of at least one character is passed as a whole. -/
theorem andThen?_someSpan (test : CharTest) (after : List Char)
    (backtrack : next ⟨(after.takeWhile test.holds).reverse ++ before, after.dropWhile test.holds,
        captures⟩ = none →
      ∀ taken c rest, after = taken ++ c :: rest → taken.all test.holds → test.holds c →
        next ⟨taken.reverse ++ before, c :: rest, captures⟩ = none) :
    (span test .onceOrMore true).andThen? next ⟨before, after, captures⟩ =
      if (after.takeWhile test.holds).isEmpty then none
      else next ⟨(after.takeWhile test.holds).reverse ++ before, after.dropWhile test.holds, captures⟩ := by
  cases after with
  | nil => simp [andThen?, ends, spanPlaces, Bounds.onceOrMore]
  | cons c after =>
    by_cases passes : test.holds c
    · have rest := findSome?_spanPlaces next (c :: before) captures test after (by
        intro failed taken d rest same all holds
        have := backtrack (by simpa [passes] using failed) (c :: taken) d rest (by simp [same])
          (by simp [passes, all]) holds
        simpa using this)
      simpa [andThen?, ends, spanPlaces, Bounds.onceOrMore, passes] using rest
    · simp [andThen?, ends, spanPlaces, Bounds.onceOrMore, passes]

/-- A greedy run of at least one character is passed as a whole if what follows cannot start with one of
its characters. -/
theorem andThen?_someSpan_of_stuck (test : CharTest) (after : List Char)
    (stuck : ∀ before c rest, test.holds c → next ⟨before, c :: rest, captures⟩ = none) :
    (span test .onceOrMore true).andThen? next ⟨before, after, captures⟩ =
      if (after.takeWhile test.holds).isEmpty then none
      else next ⟨(after.takeWhile test.holds).reverse ++ before, after.dropWhile test.holds, captures⟩ :=
  andThen?_someSpan next before captures test after fun _ _ _ _ _ _ holds => stuck _ _ _ holds

/-- A run of at least one character does not start with any other character. -/
theorem andThen?_someSpan_of_not {test : CharTest} {c : Char} (fails : test.holds c = false) (rest : List Char) :
    (span test .onceOrMore true).andThen? next ⟨before, c :: rest, captures⟩ = none := by
  simp [andThen?, ends, spanPlaces, Bounds.onceOrMore, fails]

/-- Blanks are passed as a whole if what follows fails among them whenever it fails after them. -/
theorem andThen?_blanks_of_backtrack (after : List Char)
    (backtrack : next ⟨(after.takeWhile isBlank).reverse ++ before, after.dropWhile isBlank, captures⟩ = none →
      ∀ taken c rest, after = taken ++ c :: rest → taken.all isBlank → isBlank c →
        next ⟨taken.reverse ++ before, c :: rest, captures⟩ = none) :
    blanks.andThen? next ⟨before, after, captures⟩ =
      next ⟨(after.takeWhile isBlank).reverse ++ before, after.dropWhile isBlank, captures⟩ := by
  have passed := andThen?_span next before captures .blank after
  rw [CharTest.blank_holds_eq] at passed
  exact passed backtrack

/-- Blanks are passed as a whole if what follows cannot start with a blank. -/
theorem andThen?_blanks (after : List Char)
    (stuck : ∀ before c rest, isBlank c → next ⟨before, c :: rest, captures⟩ = none) :
    blanks.andThen? next ⟨before, after, captures⟩ =
      next ⟨(after.takeWhile isBlank).reverse ++ before, after.dropWhile isBlank, captures⟩ :=
  andThen?_blanks_of_backtrack next before captures after fun _ _ _ _ _ _ blank => stuck _ _ _ blank

theorem andThen?_someBlanks (after : List Char)
    (stuck : ∀ before c rest, isBlank c → next ⟨before, c :: rest, captures⟩ = none) :
    someBlanks.andThen? next ⟨before, after, captures⟩ =
      if (after.takeWhile isBlank).isEmpty then none
      else next ⟨(after.takeWhile isBlank).reverse ++ before, after.dropWhile isBlank, captures⟩ := by
  rw [someBlanks, andThen?_someSpan_of_stuck _ _ _ _ _ (by simpa using stuck), CharTest.blank_holds_eq]

theorem andThen?_numeral (after : List Char)
    (stuck : ∀ before c rest, isDecimal c → next ⟨before, c :: rest, captures⟩ = none) :
    numeral.andThen? next ⟨before, after, captures⟩ =
      if (after.takeWhile isDecimal).isEmpty then none
      else next ⟨(after.takeWhile isDecimal).reverse ++ before, after.dropWhile isDecimal, captures⟩ := by
  rw [numeral, andThen?_someSpan_of_stuck _ _ _ _ _ (by simpa using stuck), CharTest.decimal_holds_eq]

/-- A pattern may end with a run, which is then taken as a whole. -/
@[simp] theorem andThen?_span_some (test : CharTest) (after : List Char) :
    (span test .anyNumber true).andThen? some ⟨before, after, captures⟩ =
      some ⟨(after.takeWhile test.holds).reverse ++ before, after.dropWhile test.holds, captures⟩ :=
  andThen?_span some before captures test after fun failed => absurd failed (by simp)

@[simp] theorem andThen?_blanks_some (after : List Char) :
    blanks.andThen? some ⟨before, after, captures⟩ =
      some ⟨(after.takeWhile isBlank).reverse ++ before, after.dropWhile isBlank, captures⟩ := by
  rw [blanks, andThen?_span_some, CharTest.blank_holds_eq]

omit next before captures in
/-- The first character after the blanks is none. -/
theorem isBlank_of_dropWhile {text rest : List Char} {c : Char} (dropped : text.dropWhile isBlank = c :: rest) :
    isBlank c = false := by
  simpa [dropped] using List.head?_dropWhile_not isBlank text

omit next before captures in
/-- Nothing is left of blanks with a line feed at their end. -/
theorem dropWhile_lineFeed {taken : List Char} (blank : taken.all isBlank) :
    (taken ++ ['\n']).dropWhile isBlank = [] := by
  rw [List.dropWhile_eq_nil_iff]
  intro c member
  rcases List.mem_append.mp member with early | late
  · exact List.all_eq_true.mp blank c early
  · rw [List.mem_singleton.mp late]
    decide

/-- The end of the line is where nothing follows but perhaps a line feed. -/
theorem lastLineEnd_dropWhile (after : List Char) :
    Edge.lastLineEnd.holds ⟨before, after.dropWhile isBlank, captures⟩ = (after.dropWhile isBlank).isEmpty := by
  cases dropped : after.dropWhile isBlank with
  | nil => rfl
  | cons c rest =>
    have differs : c ≠ '\n' := by
      rintro rfl
      exact absurd (isBlank_of_dropWhile dropped) (by decide)
    simp [Edge.holds, differs]

/-- Blanks up to the end of the line. -/
theorem andThen?_blanks_finish (after : List Char) :
    blanks.andThen? (finish.andThen? some) ⟨before, after, captures⟩ =
      if (after.dropWhile isBlank).isEmpty then some ⟨after.reverse ++ before, [], captures⟩ else none := by
  rw [andThen?_blanks_of_backtrack, finish, andThen?_edge, lastLineEnd_dropWhile]
  · split
    · rename_i ended
      have all := List.takeWhile_append_dropWhile (p := isBlank) (l := after)
      rw [List.isEmpty_iff.mp ended] at all ⊢
      rw [List.append_nil] at all
      rw [all]
    · rfl
  · -- A place before the last blank is an end of the line only if that blank is a line feed.
    intro failed taken c rest split all blank
    rw [finish, andThen?_edge, lastLineEnd_dropWhile] at failed
    rw [finish, andThen?_edge]
    split
    · rename_i ended
      simp only [Edge.holds, List.isEmpty_cons, Bool.false_or, beq_iff_eq] at ended
      rw [split, ended, dropWhile_lineFeed all] at failed
      exact absurd failed (by simp)
    · rfl

end Characters

section Replacement

variable (pattern : Pattern) (change : Match → List Char) (before : List Char)

/-- Characters that are already matched are passed over. -/
theorem replaceFrom_length (taken rest : List Char) :
    pattern.replaceFrom change taken.length before (taken ++ rest) =
      pattern.replaceFrom change 0 (taken.reverse ++ before) rest := by
  induction taken generalizing before with
  | nil => rfl
  | cons c taken ih =>
    rw [List.cons_append, List.length_cons, replaceFrom, ih, List.reverse_cons, List.append_assoc]
    rfl

theorem replaceFrom_of_none {c : Char} {rest : List Char} (unmatched : pattern.matchAt? before (c :: rest) = none) :
    pattern.replaceFrom change 0 before (c :: rest) = c :: pattern.replaceFrom change 0 (c :: before) rest := by
  simp only [replaceFrom, unmatched]

theorem replaceFrom_of_some {c : Char} {taken rest : List Char} {found : Match}
    (matched : pattern.matchAt? before (c :: (taken ++ rest)) = some found) (stops : found.rest = rest) :
    pattern.replaceFrom change 0 before (c :: (taken ++ rest)) =
      change found ++ pattern.replaceFrom change 0 (taken.reverse ++ c :: before) rest := by
  have opened : found.opened = c :: (taken ++ rest) := by
    rw [matchAt?_eq] at matched
    obtain ⟨place, -, rfl⟩ := Option.map_eq_some_iff.mp matched
    rfl
  have length : found.text.length = taken.length + 1 := by
    have : found.stop.after = rest := stops
    simp only [Match.text, opened, this, List.length_take, List.length_cons, List.length_append]
    omega
  simp only [replaceFrom, matched, length, replaceFrom_length]

end Replacement

end Pattern

end StepFlow
