import StepFlow.Pattern.Basic

/-! # What a match keeps

A pattern moves through a text and keeps parts of it. What holds between the place where a pattern starts and the
places that it reaches is shown once for every pattern, from what it can do: read a character, keep a text under a
number, look around from the place or from one before it. Two consequences: whatever holds of every character of the
text holds of the characters that a match keeps or leaves, and a text kept under a number stays kept unless the
pattern keeps another one under it.
-/

namespace StepFlow

/-- Going back moves characters from before a place to after it. -/
theorem Place.eq_of_back? {count : Nat} {place start : Place} (moved : place.back? count = some start) :
    ∃ taken, place.before = taken ++ start.before ∧ start.after = taken.reverse ++ place.after ∧
      start.captures = place.captures := by
  induction count generalizing place with
  | zero =>
    cases moved
    exact ⟨[], rfl, rfl, rfl⟩
  | succ count ih =>
    obtain ⟨before, after, captures⟩ := place
    cases before with
    | nil => exact absurd moved (by simp [Place.back?])
    | cons c rest =>
      have moved' : Place.back? count ⟨rest, c :: after, captures⟩ = some start := moved
      obtain ⟨taken, isBefore, isAfter, same⟩ := ih moved'
      exact ⟨c :: taken, congrArg (c :: ·) isBefore, by simpa using isAfter, same⟩

/-- A relation between places that holds along everything a pattern can do, with the numbers under which it keeps
texts and the patterns of these texts. -/
structure Travels (grouped : Nat → Pattern → Prop) (related : Place → Place → Prop) : Prop where
  refl : ∀ place, related place place
  trans : ∀ {place middle reached}, related place middle → related middle reached → related place reached
  read : ∀ before c after captures, related ⟨before, c :: after, captures⟩ ⟨c :: before, after, captures⟩
  keep : ∀ {place reached index body}, grouped index body → reached ∈ body.ends place → related place reached →
    related place { reached with captures := ⟨index, place.after, reached.after⟩ :: reached.captures }
  look : ∀ {place reached}, related place reached → related place { place with captures := reached.captures }
  lookBack : ∀ {width place start reached}, place.back? width = some start → related start reached →
    related place { place with captures := reached.captures }

namespace Travels

variable {grouped : Nat → Pattern → Prop} {related : Place → Place → Prop} (travels : Travels grouped related)
include travels

theorem step? {test : CharTest} {place reached : Place} (stepped : place.step? test = some reached) :
    related place reached := by
  obtain ⟨before, after, captures⟩ := place
  cases after with
  | nil => exact absurd stepped (by simp [Place.step?])
  | cons c rest =>
    simp only [Place.step?] at stepped
    split at stepped
    · exact Option.some.inj stepped ▸ travels.read before c rest captures
    · exact absurd stepped (by simp)

theorem skip? {folding : Folding} {wanted : List Char} {place reached : Place}
    (skipped : place.skip? folding wanted = some reached) : related place reached := by
  induction wanted generalizing place with
  | nil => exact Option.some.inj skipped ▸ travels.refl place
  | cons c wanted ih =>
    obtain ⟨before, after, captures⟩ := place
    cases after with
    | nil => exact absurd skipped (by simp [Place.skip?])
    | cons d rest =>
      simp only [Place.skip?] at skipped
      split at skipped
      · exact travels.trans (travels.read before d rest captures) (ih skipped)
      · exact absurd skipped (by simp)

theorem of_mem_spanPlaces {test : CharTest} {most : Option Nat} {before after : List Char} {captures : List Capture}
    {reached : Place} (member : reached ∈ spanPlaces test most before captures after) :
    related ⟨before, after, captures⟩ reached := by
  induction after generalizing before most with
  | nil => exact List.mem_singleton.mp member ▸ travels.refl _
  | cons c rest ih =>
    rw [spanPlaces] at member
    rcases List.mem_cons.mp member with rfl | later
    · exact travels.refl _
    · split at later
      · exact travels.trans (travels.read before c rest captures) (ih later)
      · exact absurd later List.not_mem_nil

section Rounds

variable {round : Place → List Place} (kept : ∀ {place reached}, reached ∈ round place → related place reached)
include kept

theorem of_mem_roundPlaces {count : Nat} {place reached : Place} (member : reached ∈ roundPlaces round count place) :
    related place reached := by
  induction count generalizing place with
  | zero => exact List.mem_singleton.mp member ▸ travels.refl place
  | succ count ih =>
    obtain ⟨next, isNext, later⟩ := List.mem_flatMap.mp member
    exact travels.trans (kept isNext) (ih later)

theorem of_mem_morePlaces {greedy : Bool} {fuel : Nat} {most last : Option Nat} {place reached : Place}
    (member : reached ∈ morePlaces round greedy fuel most last place) : related place reached := by
  induction fuel generalizing most last place with
  | zero => exact List.mem_singleton.mp member ▸ travels.refl place
  | succ fuel ih =>
    rw [morePlaces] at member
    split at member
    · exact List.mem_singleton.mp member ▸ travels.refl place
    · have split : reached ∈ (round place).flatMap
          (morePlaces round greedy fuel (most.map (· - 1)) (some place.after.length)) ∨ reached = place := by
        cases greedy with
        | true => simpa using member
        | false => simpa [or_comm] using member
      rcases split with more | rfl
      · obtain ⟨next, isNext, later⟩ := List.mem_flatMap.mp more
        exact travels.trans (kept isNext) (ih later)
      · exact travels.refl reached

end Rounds

end Travels

namespace Pattern

/-- The numbers under which a pattern keeps texts. -/
def indices : Pattern → List Nat
  | .group index body => index :: body.indices
  | .seq first second => first.indices ++ second.indices
  | .either first second => first.indices ++ second.indices
  | .ifKept _ yes no => yes.indices ++ no.indices
  | .loop body _ _ => body.indices
  | .ahead _ body => body.indices
  | .behind _ _ body => body.indices
  | .commit body => body.indices
  | _ => []

/-- The numbers under which a pattern keeps texts, with the patterns of these texts. -/
def groups : Pattern → List (Nat × Pattern)
  | .group index body => (index, body) :: body.groups
  | .seq first second => first.groups ++ second.groups
  | .either first second => first.groups ++ second.groups
  | .ifKept _ yes no => yes.groups ++ no.groups
  | .loop body _ _ => body.groups
  | .ahead _ body => body.groups
  | .behind _ _ body => body.groups
  | .commit body => body.groups
  | _ => []

theorem indices_eq (pattern : Pattern) : pattern.indices = pattern.groups.map Prod.fst := by
  induction pattern <;> simp_all [indices, groups]

/-- A relation that holds along everything a pattern can do holds between its start and the places it reaches. -/
theorem related_of_mem_ends {grouped : Nat → Pattern → Prop} {related : Place → Place → Prop}
    (travels : Travels grouped related) (pattern : Pattern)
    (numbers : ∀ group ∈ pattern.groups, grouped group.1 group.2) {place reached : Place}
    (member : reached ∈ pattern.ends place) : related place reached := by
  induction pattern generalizing place reached with
  | empty => exact List.mem_singleton.mp member ▸ travels.refl place
  | one test => exact travels.step? (Option.mem_toList.mp member)
  | seq first second ihFirst ihSecond =>
    obtain ⟨isFirst, isSecond⟩ := List.forall_mem_append.mp numbers
    obtain ⟨middle, isMiddle, later⟩ := List.mem_flatMap.mp member
    exact travels.trans (ihFirst isFirst isMiddle) (ihSecond isSecond later)
  | either first second ihFirst ihSecond =>
    obtain ⟨isFirst, isSecond⟩ := List.forall_mem_append.mp numbers
    rcases List.mem_append.mp member with reachesFirst | reachesSecond
    · exact ihFirst isFirst reachesFirst
    · exact ihSecond isSecond reachesSecond
  | span test bounds greedy =>
    have place : reached ∈ (spanPlaces test bounds.most place.before place.captures place.after).drop bounds.least := by
      cases greedy with
      | true => exact List.mem_reverse.mp member
      | false => exact member
    exact travels.of_mem_spanPlaces (List.mem_of_mem_drop place)
  | loop body bounds greedy ih =>
    obtain ⟨middle, isMiddle, later⟩ := List.mem_flatMap.mp member
    have rounds := travels.of_mem_roundPlaces (ih numbers) isMiddle
    exact travels.trans rounds (travels.of_mem_morePlaces (ih numbers) later)
  | group index body ih =>
    obtain ⟨isNumber, inner⟩ := List.forall_mem_cons.mp numbers
    obtain ⟨stop, isStop, rfl⟩ := List.mem_map.mp member
    exact travels.keep isNumber isStop (ih inner isStop)
  | «recall» index folding =>
    rw [ends] at member
    split at member
    · exact absurd member List.not_mem_nil
    · exact travels.skip? (Option.mem_toList.mp member)
  | edge wanted =>
    rw [ends] at member
    split at member
    · exact List.mem_singleton.mp member ▸ travels.refl place
    · exact absurd member List.not_mem_nil
  | ahead wanted body ih =>
    rw [ends] at member
    split at member <;> split at member
    · exact absurd member List.not_mem_nil
    · exact List.mem_singleton.mp member ▸ travels.refl place
    · rename_i inner others reaches _
      have isInner : inner ∈ body.ends place := by simp [reaches]
      exact List.mem_singleton.mp member ▸ travels.look (ih numbers isInner)
    · exact absurd member List.not_mem_nil
  | behind wanted width body ih =>
    rw [ends] at member
    split at member <;> split at member
    · exact absurd member List.not_mem_nil
    · exact List.mem_singleton.mp member ▸ travels.refl place
    · exact absurd member List.not_mem_nil
    · exact List.mem_singleton.mp member ▸ travels.refl place
    · rename_i inner others reaches _
      obtain ⟨start, moved, reaches⟩ := Option.map_eq_some_iff.mp reaches
      have isInner : inner ∈ body.ends start := by simp [reaches]
      exact List.mem_singleton.mp member ▸ travels.lookBack moved (ih numbers isInner)
    · exact absurd member List.not_mem_nil
  | commit body ih => exact ih numbers (List.mem_of_mem_take member)
  | ifKept index yes no ihYes ihNo =>
    obtain ⟨isYes, isNo⟩ := List.forall_mem_append.mp numbers
    rw [ends] at member
    split at member
    · exact ihYes isYes member
    · exact ihNo isNo member

end Pattern

/-- All characters around a place, and all that followed the start of a kept text, are allowed. -/
structure Place.Within (allowed : Char → Prop) (place : Place) : Prop where
  before : ∀ c ∈ place.before, allowed c
  after : ∀ c ∈ place.after, allowed c
  captures : ∀ capture ∈ place.captures, ∀ c ∈ capture.opened, allowed c

variable {allowed : Char → Prop}

theorem Place.Within.back? {count : Nat} {place start : Place} (within : place.Within allowed)
    (moved : place.back? count = some start) : start.Within allowed := by
  obtain ⟨taken, before, after, captures⟩ := Place.eq_of_back? moved
  obtain ⟨isTaken, isBefore⟩ := List.forall_mem_append.mp (before ▸ within.before)
  refine ⟨isBefore, ?_, captures ▸ within.captures⟩
  rw [after]
  exact List.forall_mem_append.mpr ⟨fun c member => isTaken c (List.mem_reverse.mp member), within.after⟩

theorem travels_within :
    Travels (fun _ _ => True) fun place reached => place.Within allowed → reached.Within allowed where
  refl _ within := within
  trans first second within := second (first within)
  read before c after captures within := by
    obtain ⟨here, later⟩ := List.forall_mem_cons.mp within.after
    exact ⟨List.forall_mem_cons.mpr ⟨here, within.before⟩, later, within.captures⟩
  keep _ _ reaches within :=
    ⟨(reaches within).before, (reaches within).after,
      List.forall_mem_cons.mpr ⟨within.after, (reaches within).captures⟩⟩
  look reaches within := ⟨within.before, within.after, (reaches within).captures⟩
  lookBack moved reaches within := ⟨within.before, within.after, (reaches (within.back? moved)).captures⟩

theorem Place.Within.kept? {place : Place} {index : Nat} {text : List Char} (within : place.Within allowed)
    (kept : place.kept? index = some text) : ∀ c ∈ text, allowed c := by
  obtain ⟨capture, found, rfl⟩ := Option.map_eq_some_iff.mp kept
  intro c member
  exact within.captures capture (List.mem_of_find?_eq_some found) c (List.mem_of_mem_take member)

namespace Pattern

/-- A pattern leaves alone what is kept under a number that it does not use. -/
theorem kept?_of_mem_ends (pattern : Pattern) {index : Nat} (unused : index ∉ pattern.indices) {place reached : Place}
    (member : reached ∈ pattern.ends place) : reached.kept? index = place.kept? index := by
  have travels : Travels (fun number _ => number ≠ index) fun place reached =>
      reached.kept? index = place.kept? index := {
    refl := fun _ => rfl
    trans := fun first second => second.trans first
    read := fun _ _ _ _ => rfl
    keep := fun differs _ same => by
      rw [← same]
      simp [Place.kept?, differs]
    look := fun same => same
    lookBack := fun moved same => by
      obtain ⟨-, -, -, captures⟩ := Place.eq_of_back? moved
      exact same.trans (by rw [Place.kept?, captures, Place.kept?]) }
  rw [indices_eq] at unused
  have apart : ∀ group ∈ pattern.groups, group.1 ≠ index := fun group isGroup same =>
    unused (same ▸ List.mem_map_of_mem isGroup)
  exact related_of_mem_ends travels pattern apart member

variable {pattern : Pattern} {before text : List Char} {found : Match}

/-- Where a match ends is within the characters of the text. -/
theorem within_of_matchAt? (matched : pattern.matchAt? before text = some found) (isBefore : ∀ c ∈ before, allowed c)
    (isText : ∀ c ∈ text, allowed c) : found.stop.Within allowed := by
  obtain ⟨stop, first, rfl⟩ := Option.map_eq_some_iff.mp matched
  have start : (Place.mk before text []).Within allowed :=
    ⟨isBefore, isText, fun _ none => absurd none List.not_mem_nil⟩
  exact related_of_mem_ends travels_within pattern (fun _ _ => trivial) (List.mem_of_head? first) start

theorem within_of_matchStart? (matched : pattern.matchStart? text = some found) (isText : ∀ c ∈ text, allowed c) :
    found.stop.Within allowed :=
  within_of_matchAt? matched (fun _ none => absurd none List.not_mem_nil) isText

/-- What a match keeps is within the characters of the text. -/
theorem allowed_of_mem_kept (within : found.stop.Within allowed) (index : Nat) :
    ∀ c ∈ found.kept index, allowed c := by
  intro c member
  rw [Match.kept] at member
  cases kept : found.kept? index with
  | none =>
    rw [kept] at member
    exact absurd member List.not_mem_nil
  | some part =>
    rw [kept] at member
    exact within.kept? kept c member

/-- The characters of a replaced text are those of the text and those of the replacements. -/
theorem allowed_of_mem_replaceFrom {change : Match → List Char}
    (changed : ∀ found : Match, found.stop.Within allowed → ∀ c ∈ change found, allowed c) {skip : Nat}
    (isBefore : ∀ c ∈ before, allowed c) (isText : ∀ c ∈ text, allowed c) :
    ∀ c ∈ pattern.replaceFrom change skip before text, allowed c := by
  induction text generalizing before skip with
  | nil =>
    intro c member
    rw [replaceFrom] at member
    exact absurd member List.not_mem_nil
  | cons d text ih =>
    obtain ⟨here, later⟩ := List.forall_mem_cons.mp isText
    have isBefore' : ∀ c ∈ d :: before, allowed c := List.forall_mem_cons.mpr ⟨here, isBefore⟩
    cases skip with
    | succ skip => exact ih isBefore' later
    | zero =>
      intro c member
      rw [replaceFrom] at member
      have passed : c ∈ d :: pattern.replaceFrom change 0 (d :: before) text → allowed c := fun member =>
        List.forall_mem_cons.mpr ⟨here, ih isBefore' later⟩ c member
      split at member
      · exact passed member
      · rename_i found matched
        split at member
        · exact passed member
        · rcases List.mem_append.mp member with replaced | rest
          · exact changed found (within_of_matchAt? matched isBefore isText) c replaced
          · exact ih isBefore' later c rest

end Pattern

end StepFlow
