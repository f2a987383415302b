import StepFlow.Proofs.Pattern.Captures
import StepFlow.Proofs.Pattern.Keyword

/-! # What a pattern reads

A pattern moves forward only, so the texts that it can read are a relation between patterns and texts, which follows
the form of the pattern. A text kept under a number was read by the pattern of a group of that number, and it is a part
of the text that was searched.
-/

namespace StepFlow

open Text

namespace Place

/-- The text around a place. -/
def whole (place : Place) : List Char := place.before.reverse ++ place.after

/-- A place further on in the same text. -/
def Advances (place reached : Place) : Prop :=
  ∃ taken, place.after = taken ++ reached.after ∧ reached.before = taken.reverse ++ place.before

theorem whole_of_back? {count : Nat} {place start : Place} (moved : place.back? count = some start) :
    start.whole = place.whole := by
  obtain ⟨taken, before, after, -⟩ := eq_of_back? moved
  simp [whole, before, after]

end Place

namespace Pattern

/-- A pattern moves forward only. -/
theorem advances_of_mem_ends {pattern : Pattern} {place reached : Place} (member : reached ∈ pattern.ends place) :
    place.Advances reached := by
  have travels : Travels (fun _ _ => True) Place.Advances := {
    refl := fun _ => ⟨[], rfl, rfl⟩
    trans := by
      rintro place middle reached ⟨first, after, before⟩ ⟨second, after', before'⟩
      exact ⟨first ++ second, by simp [after, after'], by simp [before, before']⟩
    read := fun before c after captures => ⟨[c], rfl, rfl⟩
    keep := fun _ _ advances => advances
    look := fun _ => ⟨[], rfl, rfl⟩
    lookBack := fun _ _ => ⟨[], rfl, rfl⟩ }
  exact related_of_mem_ends travels pattern (fun _ _ => trivial) member

/-- A text that a pattern reads on its way from some place to another one. -/
def Reads (pattern : Pattern) (part : List Char) : Prop :=
  ∃ place reached, reached ∈ pattern.ends place ∧ place.after = part ++ reached.after

theorem reads_of_mem_ends {pattern : Pattern} {place reached : Place} (member : reached ∈ pattern.ends place) :
    pattern.Reads (place.after.take (place.after.length - reached.after.length)) ∧
      place.after.take (place.after.length - reached.after.length) <:+: place.whole := by
  obtain ⟨taken, after, -⟩ := advances_of_mem_ends member
  have part : place.after.take (place.after.length - reached.after.length) = taken := by simp [after]
  rw [part]
  exact ⟨⟨place, reached, member, after⟩, place.before.reverse, reached.after, by simp [Place.whole, after]⟩

/-! ## The forms of patterns -/

theorem Reads.one {test : CharTest} {part : List Char} (reads : (one test).Reads part) :
    ∃ c, part = [c] ∧ test.holds c = true := by
  obtain ⟨⟨before, after, captures⟩, reached, member, split⟩ := reads
  cases after with
  | nil => exact absurd member (by simp [ends, Place.step?])
  | cons c rest =>
    simp only [ends, Place.step?] at member
    split at member
    · rename_i holds
      obtain rfl : reached = _ := by simpa using member
      have split : [c] ++ rest = part ++ rest := split
      exact ⟨c, (List.append_cancel_right split).symm, holds⟩
    · exact absurd member (by simp)

theorem Reads.seq {first second : Pattern} {part : List Char} (reads : (seq first second).Reads part) :
    ∃ left right, part = left ++ right ∧ first.Reads left ∧ second.Reads right := by
  obtain ⟨place, reached, member, split⟩ := reads
  obtain ⟨middle, isMiddle, isReached⟩ := List.mem_flatMap.mp member
  obtain ⟨left, after, -⟩ := advances_of_mem_ends isMiddle
  obtain ⟨right, after', -⟩ := advances_of_mem_ends isReached
  refine ⟨left, right, ?_, ⟨place, middle, isMiddle, after⟩, middle, reached, isReached, after'⟩
  rw [after, after', ← List.append_assoc] at split
  exact (List.append_cancel_right split).symm

theorem Reads.either {first second : Pattern} {part : List Char} (reads : (either first second).Reads part) :
    first.Reads part ∨ second.Reads part := by
  obtain ⟨place, reached, member, split⟩ := reads
  rcases List.mem_append.mp member with isFirst | isSecond
  · exact .inl ⟨place, reached, isFirst, split⟩
  · exact .inr ⟨place, reached, isSecond, split⟩

theorem Reads.group {index : Nat} {body : Pattern} {part : List Char} (reads : (group index body).Reads part) :
    body.Reads part := by
  obtain ⟨place, reached, member, after⟩ := reads
  obtain ⟨stop, isStop, rfl⟩ := List.mem_map.mp member
  exact ⟨place, stop, isStop, after⟩

theorem Reads.anyOf {parts : List Pattern} (nonempty : parts ≠ []) {part : List Char}
    (reads : (anyOf parts).Reads part) : ∃ pattern ∈ parts, pattern.Reads part := by
  induction parts with
  | nil => exact absurd rfl nonempty
  | cons first others ih =>
    cases others with
    | nil => exact ⟨first, .head _, reads⟩
    | cons next others =>
      rcases Reads.either reads with isFirst | later
      · exact ⟨first, .head _, isFirst⟩
      · obtain ⟨pattern, member, reads⟩ := ih (List.cons_ne_nil _ _) later
        exact ⟨pattern, .tail _ member, reads⟩

/-- A given text is read character by character. -/
theorem Reads.letters {folding : Folding} {word part : List Char}
    (reads : (concat (word.map fun c => .one (.char c folding))).Reads part) :
    List.Forall₂ (fun c d => folding.same c d = true) word part := by
  induction word generalizing part with
  | nil =>
    obtain ⟨place, reached, member, split⟩ := reads
    obtain rfl := List.mem_singleton.mp member
    rw [List.self_eq_append_left.mp split]
    exact .nil
  | cons c rest ih =>
    cases rest with
    | nil =>
      obtain ⟨d, rfl, same⟩ := Reads.one reads
      exact .cons same .nil
    | cons next rest =>
      obtain ⟨left, right, rfl, isFirst, later⟩ := Reads.seq reads
      obtain ⟨d, rfl, same⟩ := Reads.one isFirst
      exact .cons same (ih later)

/-- A keyword is one of its words. -/
theorem Reads.keyword {words : List String} (nonempty : words ≠ []) {part : List Char}
    (reads : (keyword words).Reads part) : IsKeyword words part := by
  have given : (keywordOrder words).map (literal .full) ≠ [] := by
    obtain ⟨word, isWord⟩ := List.exists_mem_of_ne_nil words nonempty
    exact List.ne_nil_of_mem (List.mem_map_of_mem (mem_keywordOrder.mpr isWord))
  obtain ⟨pattern, member, reads⟩ := Reads.anyOf given reads
  obtain ⟨word, isWord, rfl⟩ := List.mem_map.mp member
  exact ⟨word, mem_keywordOrder.mp isWord, reads.letters⟩

/-- The places of a run of characters come in order: after none of them, after one, and so on. -/
theorem getElem?_spanPlaces {test : CharTest} {most : Option Nat} {before after : List Char} {captures : List Capture}
    {count : Nat} {reached : Place}
    (found : (spanPlaces test most before captures after)[count]? = some reached) :
    ∃ taken, after = taken ++ reached.after ∧ taken.length = count ∧ ∀ c ∈ taken, test.holds c = true := by
  induction after generalizing most before count with
  | nil =>
    cases count with
    | zero =>
      cases found
      exact ⟨[], rfl, rfl, nofun⟩
    | succ count => cases found
  | cons c rest ih =>
    cases count with
    | zero =>
      cases found
      exact ⟨[], rfl, rfl, nofun⟩
    | succ count =>
      rw [spanPlaces, List.getElem?_cons_succ] at found
      split at found
      · rename_i passes
        obtain ⟨taken, split, length, all⟩ := ih found
        exact ⟨c :: taken, congrArg (c :: ·) split, congrArg (· + 1) length,
          List.forall_mem_cons.mpr ⟨passes.2, all⟩⟩
      · cases found

/-- The places of a run of characters have less and less text after them. -/
theorem pairwise_spanPlaces (test : CharTest) (most : Option Nat) (before : List Char) (captures : List Capture)
    (after : List Char) :
    (spanPlaces test most before captures after).Pairwise fun first second =>
      second.after.length < first.after.length := by
  induction after generalizing most before with
  | nil => exact List.pairwise_singleton _ _
  | cons c rest ih =>
    rw [spanPlaces]
    split
    · refine .cons (fun place member => ?_) (ih _ _)
      obtain ⟨index, found⟩ := List.getElem?_of_mem member
      obtain ⟨taken, split, -⟩ := getElem?_spanPlaces found
      have length := congrArg List.length split
      rw [List.length_append] at length
      rw [List.length_cons]
      omega
    · exact List.pairwise_singleton _ _

theorem Reads.span {test : CharTest} {bounds : Bounds} {greedy : Bool} {part : List Char}
    (reads : (span test bounds greedy).Reads part) :
    (∀ c ∈ part, test.holds c = true) ∧ bounds.least ≤ part.length := by
  obtain ⟨place, reached, member, split⟩ := reads
  have member : reached ∈ (spanPlaces test bounds.most place.before place.captures place.after).drop bounds.least := by
    cases greedy with
    | true => exact List.mem_reverse.mp member
    | false => exact member
  obtain ⟨index, found⟩ := List.getElem?_of_mem member
  rw [List.getElem?_drop] at found
  obtain ⟨taken, after, length, all⟩ := getElem?_spanPlaces found
  obtain rfl : part = taken := List.append_cancel_right (split.symm.trans after)
  exact ⟨all, by omega⟩

/-- A numeral has digits, and nothing else. -/
theorem Reads.numeral {part : List Char} (reads : numeral.Reads part) :
    part ≠ [] ∧ ∀ c ∈ part, isDecimal c = true := by
  obtain ⟨all, least⟩ := Reads.span reads
  refine ⟨List.ne_nil_of_length_pos least, fun c member => ?_⟩
  rw [← CharTest.decimal_holds]
  exact all c member

theorem Reads.isBlank {bounds : Bounds} {greedy : Bool} {gap : List Char}
    (reads : (Pattern.span .blank bounds greedy).Reads gap) : ∀ c ∈ gap, Text.isBlank c = true := by
  simpa using reads.span.1

/-! ## Kept texts -/

/-- A text that the pattern of a group of the given pattern has read somewhere in the given text. -/
def Holds (pattern : Pattern) (whole : List Char) (capture : Capture) : Prop :=
  ∃ body, (capture.index, body) ∈ pattern.groups ∧ body.Reads capture.text ∧ capture.text <:+: whole

/-- A pattern that starts with nothing kept keeps only what its groups have read. -/
theorem holds_of_mem_ends {pattern : Pattern} {before text : List Char} {reached : Place}
    (member : reached ∈ pattern.ends ⟨before, text, []⟩) :
    ∀ capture ∈ reached.captures, pattern.Holds (before.reverse ++ text) capture := by
  -- The text around the place never changes, so what a group reads on the way lies within it.
  have travels : Travels (fun index body => (index, body) ∈ pattern.groups) fun place reached =>
      reached.whole = place.whole ∧ ((∀ capture ∈ place.captures, pattern.Holds place.whole capture) →
        ∀ capture ∈ reached.captures, pattern.Holds place.whole capture) := {
    refl := fun _ => ⟨rfl, id⟩
    trans := by
      rintro place middle reached ⟨same, first⟩ ⟨same', second⟩
      exact ⟨same'.trans same, fun held => same ▸ second (same.symm ▸ first held)⟩
    read := fun before c after captures => ⟨by simp [Place.whole], id⟩
    keep := by
      rintro place reached index body isGroup reaches ⟨same, held⟩
      exact ⟨same, fun before => List.forall_mem_cons.mpr ⟨⟨body, isGroup, reads_of_mem_ends reaches⟩, held before⟩⟩
    look := fun ⟨_, held⟩ => ⟨rfl, held⟩
    lookBack := by
      rintro width place start reached moved ⟨-, held⟩
      obtain ⟨-, -, -, captures⟩ := Place.eq_of_back? moved
      rw [Place.whole_of_back? moved, captures] at held
      exact ⟨rfl, held⟩ }
  exact (related_of_mem_ends travels pattern (fun _ isGroup => isGroup) member).2 nofun

section Match

variable {pattern : Pattern} {index : Nat} {before text part : List Char} {found : Match}

/-- A kept text was read by the pattern of a group of its number, somewhere in the text. -/
theorem reads_of_kept? (matched : pattern.matchAt? before text = some found) (kept : found.kept? index = some part) :
    ∃ body, (index, body) ∈ pattern.groups ∧ body.Reads part ∧ part <:+: before.reverse ++ text := by
  obtain ⟨stop, first, rfl⟩ := Option.map_eq_some_iff.mp matched
  obtain ⟨capture, member, rfl⟩ := Option.map_eq_some_iff.mp kept
  obtain ⟨body, isGroup, reads⟩ :=
    holds_of_mem_ends (List.mem_of_head? first) capture (List.mem_of_find?_eq_some member)
  obtain rfl : capture.index = index := by simpa using List.find?_some member
  exact ⟨body, isGroup, reads⟩

theorem mem_ends_concat_cons {first : Pattern} {parts : List Pattern} {place reached : Place} :
    reached ∈ (concat (first :: parts)).ends place ↔
      ∃ middle ∈ first.ends place, reached ∈ (concat parts).ends middle := by
  cases parts with
  | nil => simp [concat, ends]
  | cons next rest => exact List.mem_flatMap

/-- What is kept stays kept, if not under the same text. -/
theorem isSome_kept?_of_mem_ends {place reached : Place} (member : reached ∈ pattern.ends place)
    (kept : (place.kept? index).isSome = true) : (reached.kept? index).isSome = true := by
  have travels : Travels (fun _ _ => True) fun place reached =>
      (place.kept? index).isSome = true → (reached.kept? index).isSome = true := {
    refl := fun _ => id
    trans := fun first second kept => second (first kept)
    read := fun _ _ _ _ => id
    keep := by
      rintro place reached number body - - held kept
      have held := held kept
      simp only [Place.kept?, Option.isSome_map, List.find?_isSome] at held ⊢
      obtain ⟨capture, member, same⟩ := held
      exact ⟨capture, .tail _ member, same⟩
    look := fun held => held
    lookBack := by
      rintro width place start reached moved held kept
      obtain ⟨-, -, -, captures⟩ := Place.eq_of_back? moved
      rw [Place.kept?, captures] at held
      exact held kept }
  exact related_of_mem_ends travels pattern (fun _ _ => trivial) member kept

/-- A group that is one of the parts of a pattern keeps a text. -/
theorem isSome_kept?_of_mem_concat {body : Pattern} {parts : List Pattern} (present : .group index body ∈ parts)
    {place reached : Place} (member : reached ∈ (concat parts).ends place) : (reached.kept? index).isSome = true := by
  induction parts generalizing place with
  | nil => exact absurd present List.not_mem_nil
  | cons first parts ih =>
    obtain ⟨middle, isMiddle, isReached⟩ := mem_ends_concat_cons.mp member
    rcases List.mem_cons.mp present with rfl | later
    · obtain ⟨stop, -, rfl⟩ := List.mem_map.mp isMiddle
      exact isSome_kept?_of_mem_ends isReached (by simp [Place.kept?])
    · exact ih later isReached

/-- The only group of a number has read what is kept under that number, if anything is. -/
theorem reads_kept_of_isSome {body : Pattern} (matched : pattern.matchAt? before text = some found)
    (kept : (found.kept? index).isSome = true) (only : ∀ other, (index, other) ∈ pattern.groups → other = body) :
    body.Reads (found.kept index) ∧ found.kept index <:+: before.reverse ++ text := by
  obtain ⟨part, kept⟩ := Option.isSome_iff_exists.mp kept
  obtain ⟨other, isGroup, reads⟩ := reads_of_kept? matched kept
  have same : found.kept index = part := by
    rw [Match.kept, kept]
    rfl
  rwa [same, ← only other isGroup]

/-- A group that is one of the parts of a pattern, and the only one of its number, has read what is kept under that
number. -/
theorem reads_kept {body : Pattern} {parts : List Pattern} (matched : pattern.matchAt? before text = some found)
    (shape : pattern = concat parts) (present : .group index body ∈ parts)
    (only : ∀ other, (index, other) ∈ pattern.groups → other = body) :
    body.Reads (found.kept index) ∧ found.kept index <:+: before.reverse ++ text := by
  obtain ⟨stop, first, rfl⟩ := Option.map_eq_some_iff.mp matched
  have member : stop ∈ (concat parts).ends ⟨before, text, []⟩ := shape ▸ List.mem_of_head? first
  exact reads_kept_of_isSome matched (isSome_kept?_of_mem_concat present member) only

theorem exists_matchAt?_of_searchFrom? (searched : pattern.searchFrom? before text = some found) :
    ∃ left right, pattern.matchAt? left right = some found ∧ left.reverse ++ right = before.reverse ++ text := by
  induction text generalizing before with
  | nil => exact ⟨before, [], searched, rfl⟩
  | cons c rest ih =>
    rw [searchFrom?] at searched
    split at searched
    · rename_i here matched
      exact ⟨before, c :: rest, matched.trans searched, rfl⟩
    · obtain ⟨left, right, matched, whole⟩ := ih searched
      exact ⟨left, right, matched, by simpa using whole⟩

/-- A match that is searched for is found at some place of the text. -/
theorem exists_matchAt?_of_search? (searched : pattern.search? text = some found) :
    ∃ left right, pattern.matchAt? left right = some found ∧ left.reverse ++ right = text :=
  exists_matchAt?_of_searchFrom? searched

theorem reads_kept_start {body : Pattern} {parts : List Pattern} (matched : pattern.matchStart? text = some found)
    (shape : pattern = concat parts) (present : .group index body ∈ parts)
    (only : ∀ other, (index, other) ∈ pattern.groups → other = body) :
    body.Reads (found.kept index) ∧ found.kept index <:+: text :=
  reads_kept matched shape present only

/-- The only group of a number has read what is kept under that number, unless that is empty. -/
theorem reads_kept_start_of_ne_nil {body : Pattern} (matched : pattern.matchStart? text = some found)
    (given : found.kept index ≠ []) (only : ∀ other, (index, other) ∈ pattern.groups → other = body) :
    body.Reads (found.kept index) ∧ found.kept index <:+: text := by
  refine reads_kept_of_isSome matched ?_ only
  cases kept : found.kept? index with
  | none => exact absurd (by rw [Match.kept, kept]; rfl) given
  | some part => rfl

theorem reads_kept_search {body : Pattern} {parts : List Pattern} (searched : pattern.search? text = some found)
    (shape : pattern = concat parts) (present : .group index body ∈ parts)
    (only : ∀ other, (index, other) ∈ pattern.groups → other = body) :
    body.Reads (found.kept index) ∧ found.kept index <:+: text := by
  obtain ⟨left, right, matched, rfl⟩ := exists_matchAt?_of_search? searched
  exact reads_kept matched shape present only

/-- The text of a match was read at its place. -/
theorem reads_text (matched : pattern.matchAt? before text = some found) :
    pattern.Reads found.text ∧ found.text <+: text := by
  obtain ⟨stop, first, rfl⟩ := Option.map_eq_some_iff.mp matched
  exact ⟨(reads_of_mem_ends (List.mem_of_head? first)).1, List.take_prefix ..⟩

/-- Each of the texts of all matches was read somewhere in the text, and is not empty. -/
theorem reads_of_mem_findAllFrom {skip : Nat} (member : part ∈ pattern.findAllFrom skip before text) :
    part ≠ [] ∧ pattern.Reads part ∧ part <:+: text := by
  induction text generalizing before skip with
  | nil => exact absurd member (by simp [findAllFrom])
  | cons c rest ih =>
    have later {skip : Nat} (member : part ∈ pattern.findAllFrom skip (c :: before) rest) :
        part ≠ [] ∧ pattern.Reads part ∧ part <:+: c :: rest := by
      obtain ⟨nonempty, reads, inside⟩ := ih member
      exact ⟨nonempty, reads, inside.trans (List.suffix_cons c rest).isInfix⟩
    cases skip with
    | succ skip => exact later member
    | zero =>
      rw [findAllFrom] at member
      split at member
      · exact later member
      · exact later member
      · rename_i d more matched
        rcases List.mem_cons.mp member with rfl | member
        · obtain ⟨found, matched, text⟩ := Option.map_eq_some_iff.mp matched
          obtain ⟨reads, inside⟩ := reads_text matched
          exact ⟨List.cons_ne_nil _ _, text ▸ reads, text ▸ inside.isInfix⟩
        · exact later member

end Match

theorem spanPlaces_ne_nil (test : CharTest) (most : Option Nat) (before : List Char) (captures : List Capture)
    (after : List Char) : spanPlaces test most before captures after ≠ [] := by
  cases after <;> simp [spanPlaces]

/-- Where a digit stands, a numeral is found. -/
theorem findAll_numeral_ne_nil {c : Char} (decimal : isDecimal c = true) (rest : List Char) :
    numeral.findAll (c :: rest) ≠ [] := by
  have goesOn : numeral.ends ⟨[], c :: rest, []⟩ ≠ [] := by
    simp [numeral, ends, spanPlaces, Bounds.onceOrMore, decimal, spanPlaces_ne_nil]
  obtain ⟨stop, places, ends⟩ := List.exists_cons_of_ne_nil goesOn
  have matched : numeral.matchAt? [] (c :: rest) = some ⟨[], c :: rest, stop⟩ := by
    rw [matchAt?, ends]
    rfl
  obtain ⟨d, more, text⟩ := List.exists_cons_of_ne_nil (Reads.numeral (reads_text matched).1).1
  rw [findAll, findAllFrom, matched, Option.map_some, text]
  exact List.cons_ne_nil _ _

/-! ## Going through -/

theorem startsIn_iff {pattern : Pattern} {text : List Char} :
    pattern.startsIn text = true ↔ ∃ stop, stop ∈ pattern.ends ⟨[], text, []⟩ := by
  rw [startsIn, matchStart?, matchAt?, Option.isSome_map, List.isSome_head?]
  constructor
  · exact List.exists_mem_of_ne_nil _
  · rintro ⟨stop, member⟩
    exact List.ne_nil_of_mem member

/-- The first part of a pattern reads a text, and the other parts go on after it. -/
theorem exists_reads_of_mem_concat {first : Pattern} {parts : List Pattern} {place reached : Place}
    (member : reached ∈ (concat (first :: parts)).ends place) :
    ∃ taken middle, place.after = taken ++ middle.after ∧ first.Reads taken ∧ reached ∈ (concat parts).ends middle := by
  obtain ⟨middle, isMiddle, isReached⟩ := mem_ends_concat_cons.mp member
  obtain ⟨taken, after, -⟩ := advances_of_mem_ends isMiddle
  exact ⟨taken, middle, after, ⟨place, middle, isMiddle, after⟩, isReached⟩

/-- Every part of a pattern reads something within the text. -/
theorem exists_reads_infix {part : Pattern} {parts : List Pattern} (present : part ∈ parts) {place reached : Place}
    (member : reached ∈ (concat parts).ends place) : ∃ taken, part.Reads taken ∧ taken <:+: place.after := by
  induction parts generalizing place with
  | nil => exact absurd present List.not_mem_nil
  | cons first parts ih =>
    obtain ⟨taken, middle, after, reads, isReached⟩ := exists_reads_of_mem_concat member
    rw [after]
    rcases List.mem_cons.mp present with rfl | later
    · exact ⟨taken, reads, (List.prefix_append _ _).isInfix⟩
    · obtain ⟨found, reads, inside⟩ := ih later isReached
      exact ⟨found, reads, inside.trans (List.suffix_append _ _).isInfix⟩

/-- A group reads a text and keeps it. -/
theorem of_mem_ends_group {index : Nat} {body : Pattern} {place reached : Place}
    (member : reached ∈ (group index body).ends place) :
    ∃ taken, place.after = taken ++ reached.after ∧ body.Reads taken ∧ reached.kept? index = some taken := by
  obtain ⟨stop, isStop, rfl⟩ := List.mem_map.mp member
  obtain ⟨taken, after, -⟩ := advances_of_mem_ends isStop
  exact ⟨taken, after, ⟨place, stop, isStop, after⟩, by simp [Place.kept?, Capture.text, after]⟩

/-- A text that a group has read stays kept under its number where no later part uses the number again. -/
theorem exists_kept_of_mem_concat {index : Nat} {body : Pattern} {parts : List Pattern} {place reached : Place}
    (unused : index ∉ (concat parts).indices) (member : reached ∈ (concat (.group index body :: parts)).ends place) :
    ∃ taken middle, place.after = taken ++ middle.after ∧ body.Reads taken ∧ reached.kept? index = some taken ∧
      reached ∈ (concat parts).ends middle := by
  obtain ⟨middle, isMiddle, isReached⟩ := mem_ends_concat_cons.mp member
  obtain ⟨taken, after, reads, kept⟩ := of_mem_ends_group isMiddle
  exact ⟨taken, middle, after, reads, (kept?_of_mem_ends _ unused isReached).trans kept, isReached⟩

/-- A pattern can go past a text, whatever stands around it. -/
def Passes (pattern : Pattern) (taken : List Char) : Prop :=
  ∀ before rest captures, ∃ captures', ⟨taken.reverse ++ before, rest, captures'⟩ ∈
    pattern.ends ⟨before, taken ++ rest, captures⟩

/-- A run may end after any number of its characters that is not too small. -/
theorem Passes.span {test : CharTest} {taken : List Char} (all : ∀ c ∈ taken, test.holds c = true) {least : Nat}
    (enough : least ≤ taken.length) (greedy : Bool) : (span test ⟨least, none⟩ greedy).Passes taken := by
  intro before rest captures
  have places : (spanPlaces test none before captures (taken ++ rest))[taken.length]? =
      some ⟨taken.reverse ++ before, rest, captures⟩ := by
    clear enough
    induction taken generalizing before with
    | nil => cases rest <;> rfl
    | cons c taken ih =>
      obtain ⟨here, later⟩ := List.forall_mem_cons.mp all
      rw [List.cons_append, spanPlaces, List.length_cons, List.getElem?_cons_succ,
        if_pos ⟨(Option.some_ne_none 0).symm, here⟩, Option.map_none, ih later]
      simp
  have member : ⟨taken.reverse ++ before, rest, captures⟩ ∈
      (spanPlaces test none before captures (taken ++ rest)).drop least := by
    refine List.mem_of_getElem? (i := taken.length - least) ?_
    rw [List.getElem?_drop, Nat.add_sub_cancel' enough, places]
  refine ⟨captures, ?_⟩
  cases greedy with
  | true => exact List.mem_reverse.mpr member
  | false => exact member

theorem Passes.blanks {gap : List Char} (blank : ∀ c ∈ gap, isBlank c = true) : Pattern.blanks.Passes gap :=
  .span (by simpa using blank) (Nat.zero_le _) true

theorem Passes.numeral {digits : List Char} (given : digits ≠ []) (decimal : ∀ c ∈ digits, isDecimal c = true) :
    Pattern.numeral.Passes digits :=
  .span (by simpa using decimal) (List.length_pos_iff.mpr given) true

theorem Passes.letters {word taken : List Char} (spells : Spells word taken) :
    (concat (word.map fun c => one (.char c .full))).Passes taken := by
  intro before rest captures
  refine ⟨captures, ?_⟩
  induction spells generalizing before with
  | nil => exact List.mem_singleton.mpr rfl
  | @cons c d word taken same spells ih =>
    refine mem_ends_concat_cons.mpr ⟨⟨d :: before, taken ++ rest, captures⟩, ?_, ?_⟩
    · simp [ends, Place.step?, same]
    · simpa using ih (d :: before)

theorem Passes.group {body : Pattern} {taken : List Char} (passes : body.Passes taken) (index : Nat) :
    (group index body).Passes taken := by
  intro before rest captures
  obtain ⟨captures', member⟩ := passes before rest captures
  exact ⟨_, List.mem_map_of_mem member⟩

theorem Passes.one {test : CharTest} {c : Char} (holds : test.holds c = true) : (one test).Passes [c] := by
  intro before rest captures
  exact ⟨captures, by simp [ends, Place.step?, holds]⟩

theorem Passes.anyOf {pattern : Pattern} {parts : List Pattern} (present : pattern ∈ parts) {taken : List Char}
    (passes : pattern.Passes taken) : (anyOf parts).Passes taken := by
  intro before rest captures
  induction parts with
  | nil => exact absurd present List.not_mem_nil
  | cons first parts ih =>
    obtain ⟨captures', member⟩ := passes before rest captures
    cases parts with
    | nil => exact ⟨captures', List.mem_singleton.mp present ▸ member⟩
    | cons next parts =>
      rcases List.mem_cons.mp present with rfl | later
      · exact ⟨captures', List.mem_append_left _ member⟩
      · obtain ⟨captures', member⟩ := ih later
        exact ⟨captures', List.mem_append_right _ member⟩

theorem Passes.keyword {words : List String} {taken : List Char} (keyword : IsKeyword words taken) :
    (Pattern.keyword words).Passes taken := by
  obtain ⟨word, isWord, spells⟩ := keyword
  exact .anyOf (List.mem_map_of_mem (mem_keywordOrder.mpr isWord)) (.letters spells)

/-- A search finds a match wherever there is one. -/
theorem isSome_searchFrom? {pattern : Pattern} {before left right : List Char}
    (present : (pattern.matchAt? (left.reverse ++ before) right).isSome) :
    (pattern.searchFrom? before (left ++ right)).isSome := by
  induction left generalizing before with
  | nil =>
    cases right with
    | nil => exact present
    | cons c rest =>
      obtain ⟨found, matched⟩ := Option.isSome_iff_exists.mp present
      rw [List.nil_append, searchFrom?, show pattern.matchAt? before (c :: rest) = some found from matched]
      rfl
  | cons c left ih =>
    rw [List.cons_append, searchFrom?]
    split
    · rfl
    · exact ih (by simpa using present)

theorem Passes.occursIn {pattern : Pattern} {taken text : List Char} (passes : pattern.Passes taken)
    (inside : taken <:+: text) : pattern.occursIn text = true := by
  obtain ⟨left, right, rfl⟩ := inside
  obtain ⟨captures, member⟩ := passes left.reverse right []
  rw [Pattern.occursIn, search?, List.append_assoc]
  refine isSome_searchFrom? ?_
  rw [List.append_nil, matchAt?, Option.isSome_map, List.isSome_head?]
  exact List.ne_nil_of_mem member

/-- A pattern goes through from a text on, whatever stands before it. -/
def GoesThrough (pattern : Pattern) (after : List Char) : Prop :=
  ∀ before captures, ∃ reached, reached ∈ pattern.ends ⟨before, after, captures⟩

theorem Passes.goesThrough {first : Pattern} {parts : List Pattern} {taken rest : List Char}
    (passes : first.Passes taken) (goesOn : (concat parts).GoesThrough rest) :
    (concat (first :: parts)).GoesThrough (taken ++ rest) := by
  intro before captures
  obtain ⟨captures', isMiddle⟩ := passes before rest captures
  obtain ⟨reached, isReached⟩ := goesOn (taken.reverse ++ before) captures'
  exact ⟨reached, mem_ends_concat_cons.mpr ⟨_, isMiddle, isReached⟩⟩

/-! ## Groups -/

theorem groups_concat (parts : List Pattern) : (concat parts).groups = parts.flatMap groups := by
  induction parts with
  | nil => rfl
  | cons first parts ih =>
    cases parts with
    | nil => simp [concat]
    | cons next parts => simp [concat, groups, ih]

theorem groups_anyOf (parts : List Pattern) : (anyOf parts).groups = parts.flatMap groups := by
  induction parts with
  | nil => rfl
  | cons first parts ih =>
    cases parts with
    | nil => simp [anyOf]
    | cons next parts => simp [anyOf, groups, ih]

theorem groups_literal (folding : Folding) (text : String) : (literal folding text).groups = [] := by
  simp [literal, groups_concat, groups]

theorem groups_keyword (words : List String) : (keyword words).groups = [] := by
  simp [keyword, groups_anyOf, groups_literal]

theorem groups_times (body : Pattern) (bounds : Bounds) (greedy : Bool) :
    (times body bounds greedy).groups = body.groups := by
  cases body <;> rfl

end Pattern

end StepFlow
