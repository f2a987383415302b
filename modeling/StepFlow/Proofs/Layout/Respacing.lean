import Mathlib.Data.List.DropRight
import StepFlow.Proofs.Layout.Tidy

/-! # Heads of lines and their spacing

Two texts are respaced if they have the same solid characters in the same order and, away from the signs of the
layout, gaps in the same places. A tidy line is its line respaced, and the heads of declarations, transitions and
comments are read alike from respaced lines.
-/

namespace StepFlow.Layout

open Text Pattern

/-- The signs around which gaps may come and go. -/
def movableSigns : List Char := [':', '=', '-', '+']

/-- Two texts differ in spacing only, and in whether there is a gap only next to a sign. -/
inductive Respaced : List Char → List Char → Prop
  | blanks (left right : Gap) : Respaced left.blanks right.blanks
  | solid {c : Char} {x y : List Char} : isBlank c = false → Respaced x y → Respaced (c :: x) (c :: y)
  | space {c : Char} {x y : List Char} (left right : Gap) : left.isEmpty = false → right.isEmpty = false →
      isBlank c = false → Respaced x y → Respaced (left.blanks ++ c :: x) (right.blanks ++ c :: y)
  | sign {c : Char} {x y : List Char} (left right left' right' : Gap) : c ∈ movableSigns → Respaced x y →
      Respaced (left.blanks ++ c :: (left'.blanks ++ x)) (right.blanks ++ c :: (right'.blanks ++ y))

theorem isBlank_of_mem_movableSigns {c : Char} (sign : c ∈ movableSigns) : isBlank c = false :=
  List.forall_iff_forall_mem.mp (by decide : movableSigns.Forall (isBlank · = false)) c sign

theorem not_movable_of_isDecimal {c : Char} (digit : isDecimal c) : c ∉ movableSigns := by
  intro sign
  have all : ∀ c ∈ movableSigns, isDecimal c = false := List.forall_iff_forall_mem.mp (by decide)
  rw [all c sign] at digit
  exact absurd digit Bool.false_ne_true

theorem not_movable_of_spellsLetter {letter c : Char} (spells : SpellsLetter letter c) : c ∉ movableSigns := by
  intro sign
  have subset : ∀ c ∈ movableSigns, c ∈ layoutSigns := List.forall_iff_forall_mem.mp (by decide)
  exact spells.not_sign (subset c sign)

/-- A gap before a solid character has the character at its end only. -/
theorem eq_none_of_solid {gap : Gap} {c d : Char} {x y : List Char} (solid : isBlank d = false)
    (same : gap.blanks ++ c :: x = d :: y) : gap = .none ∧ c = d ∧ x = y := by
  cases blanks : gap.blanks with
  | nil =>
    rw [blanks, List.nil_append, List.cons.injEq] at same
    exact ⟨Gap.ext blanks, same.1, same.2⟩
  | cons b more =>
    have blank := List.all_eq_true.mp gap.blank b (by simp [blanks])
    rw [blanks, List.cons_append, List.cons.injEq] at same
    rw [same.1, solid] at blank
    exact absurd blank Bool.false_ne_true

namespace Respaced

variable {x y : List Char}

theorem symm (respaced : Respaced x y) : Respaced y x := by
  induction respaced with
  | blanks left right => exact .blanks right left
  | solid isSolid _ ih => exact .solid isSolid ih
  | space left right leftGap rightGap isSolid _ ih => exact .space right left rightGap leftGap isSolid ih
  | sign left right left' right' isSign _ ih => exact .sign right left right' left' isSign ih

/-- What follows the gaps at the start is respaced too, and starts with the same character. -/
theorem dropWhile (respaced : Respaced x y) :
    Respaced (x.dropWhile isBlank) (y.dropWhile isBlank) ∧
      (x.dropWhile isBlank).head? = (y.dropWhile isBlank).head? := by
  cases respaced with
  | blanks left right =>
    rw [List.dropWhile_eq_nil_iff.mpr (List.all_eq_true.mp left.blank),
      List.dropWhile_eq_nil_iff.mpr (List.all_eq_true.mp right.blank)]
    exact ⟨.blanks .none .none, rfl⟩
  | solid isSolid rest =>
    rw [List.dropWhile_cons, List.dropWhile_cons, isSolid]
    exact ⟨.solid isSolid rest, rfl⟩
  | space left right _ _ isSolid rest =>
    rw [dropWhile_blanks, dropWhile_blanks, List.dropWhile_cons, List.dropWhile_cons, isSolid]
    exact ⟨.solid isSolid rest, rfl⟩
  | sign left right left' right' isSign rest =>
    rw [dropWhile_blanks, dropWhile_blanks, List.dropWhile_cons, List.dropWhile_cons,
      isBlank_of_mem_movableSigns isSign]
    exact ⟨.sign .none .none left' right' isSign rest, rfl⟩

/-- A solid character that is no sign stands directly before what follows it. -/
theorem cons {c : Char} (isSolid : isBlank c = false) (noSign : c ∉ movableSigns)
    (respaced : Respaced (c :: x) y) : ∃ rest, y = c :: rest ∧ Respaced x rest := by
  generalize start : c :: x = text at respaced
  cases respaced with
  | blanks left right =>
    have blank := List.all_eq_true.mp left.blank c (start ▸ .head _)
    rw [isSolid] at blank
    exact absurd blank Bool.false_ne_true
  | solid _ rest =>
    obtain ⟨rfl, rfl⟩ := List.cons.inj start
    exact ⟨_, rfl, rest⟩
  | space left right leftGap _ _ _ =>
    obtain ⟨rfl, -, -⟩ := eq_none_of_solid isSolid start.symm
    exact absurd leftGap (by simp)
  | sign left right left' right' isSign _ =>
    obtain ⟨-, rfl, -⟩ := eq_none_of_solid isSolid start.symm
    exact absurd isSign noSign

theorem append {taken : List Char} (isSolid : ∀ c ∈ taken, isBlank c = false)
    (noSign : ∀ c ∈ taken, c ∉ movableSigns) (respaced : Respaced (taken ++ x) y) :
    ∃ rest, y = taken ++ rest ∧ Respaced x rest := by
  induction taken generalizing y with
  | nil => exact ⟨y, rfl, respaced⟩
  | cons c taken ih =>
    obtain ⟨rest, rfl, later⟩ := cons (isSolid c (.head _)) (noSign c (.head _)) respaced
    obtain ⟨last, rfl, final⟩ := ih (fun d member => isSolid d (.tail _ member))
      (fun d member => noSign d (.tail _ member)) later
    exact ⟨last, rfl, final⟩

/-- After a sign, what follows the gap is respaced. -/
theorem afterSolid {c : Char} (respaced : Respaced x y) {rest : List Char} (dropped : x.dropWhile isBlank = c :: rest) :
    ∃ rest', y.dropWhile isBlank = c :: rest' ∧
      Respaced (rest.dropWhile isBlank) (rest'.dropWhile isBlank) := by
  cases respaced with
  | blanks left right =>
    rw [List.dropWhile_eq_nil_iff.mpr (List.all_eq_true.mp left.blank)] at dropped
    exact absurd dropped (by simp)
  | @solid d x y isSolid respaced =>
    rw [List.dropWhile_cons, isSolid, if_neg Bool.false_ne_true, List.cons.injEq] at dropped
    refine ⟨y, ?_, dropped.2 ▸ respaced.dropWhile.1⟩
    rw [List.dropWhile_cons, isSolid, if_neg Bool.false_ne_true, dropped.1]
  | @space d x y left right _ _ isSolid respaced =>
    rw [dropWhile_blanks, List.dropWhile_cons, isSolid, if_neg Bool.false_ne_true, List.cons.injEq] at dropped
    refine ⟨y, ?_, dropped.2 ▸ respaced.dropWhile.1⟩
    rw [dropWhile_blanks, List.dropWhile_cons, isSolid, if_neg Bool.false_ne_true, dropped.1]
  | @sign d x y left right left' right' isSign respaced =>
    have isSolid := isBlank_of_mem_movableSigns isSign
    rw [dropWhile_blanks, List.dropWhile_cons, isSolid, if_neg Bool.false_ne_true, List.cons.injEq] at dropped
    refine ⟨right'.blanks ++ y, ?_, ?_⟩
    · rw [dropWhile_blanks, List.dropWhile_cons, isSolid, if_neg Bool.false_ne_true, dropped.1]
    · rw [← dropped.2, dropWhile_blanks, dropWhile_blanks]
      exact respaced.dropWhile.1

/-- Before a character that is no sign, there is a gap in both texts or in none. -/
theorem startsBlank_eq {c : Char} (respaced : Respaced x y) {rest : List Char}
    (dropped : x.dropWhile isBlank = c :: rest) (noSign : c ∉ movableSigns) : startsBlank x = startsBlank y := by
  have starts : ∀ (gap : Gap) (text : List Char), gap.isEmpty = false → startsBlank (gap.blanks ++ text) = true := by
    intro gap text nonempty
    cases blanks : gap.blanks with
    | nil => simp [Gap.isEmpty, blanks] at nonempty
    | cons b more => exact List.all_eq_true.mp gap.blank b (by simp [blanks])
  cases respaced with
  | blanks left right =>
    rw [List.dropWhile_eq_nil_iff.mpr (List.all_eq_true.mp left.blank)] at dropped
    exact absurd dropped (by simp)
  | solid => rfl
  | space left right leftGap rightGap _ _ => rw [starts left _ leftGap, starts right _ rightGap]
  | sign left right left' right' isSign _ =>
    rw [dropWhile_blanks, List.dropWhile_cons, isBlank_of_mem_movableSigns isSign, if_neg Bool.false_ne_true,
      List.cons.injEq] at dropped
    exact absurd isSign (dropped.1 ▸ noSign)

/-- A number is read alike. -/
theorem digits (respaced : Respaced x y) :
    x.takeWhile isDecimal = y.takeWhile isDecimal ∧
      Respaced (x.dropWhile isDecimal) (y.dropWhile isDecimal) := by
  have split := List.takeWhile_append_dropWhile (p := isDecimal) (l := x)
  have numeral : ∀ c ∈ x.takeWhile isDecimal, isDecimal c := fun c member => List.mem_takeWhile_imp member
  obtain ⟨rest, same, later⟩ := append (fun c member => isBlank_of_isDecimal (numeral c member))
    (fun c member => not_movable_of_isDecimal (numeral c member)) (split.symm ▸ respaced)
  -- The rest of the second text starts with no digit, or the first text would go on with it.
  have ends : rest.takeWhile isDecimal = [] := by
    cases rest with
    | nil => rfl
    | cons c more =>
      cases digit : isDecimal c with
      | false => rw [List.takeWhile_cons, digit]; rfl
      | true =>
        obtain ⟨tail, started, -⟩ := cons (isBlank_of_isDecimal digit) (not_movable_of_isDecimal digit) later.symm
        have := List.head?_dropWhile_not isDecimal x
        rw [started] at this
        simp [digit] at this
  have dropped : rest.dropWhile isDecimal = rest := by
    have whole := List.takeWhile_append_dropWhile (p := isDecimal) (l := rest)
    rwa [ends, List.nil_append] at whole
  rw [same, List.takeWhile_append_of_pos numeral, List.dropWhile_append_of_pos numeral, ends, dropped, List.append_nil]
  exact ⟨rfl, later⟩

/-- What stands before the number of a declaration is passed alike. -/
theorem head?_dropWhile_isLoose (respaced : Respaced x y) :
    (x.dropWhile isLoose).head? = (y.dropWhile isLoose).head? := by
  have loose : ∀ (gap : Gap) (text : List Char), (gap.blanks ++ text).dropWhile isLoose = text.dropWhile isLoose :=
    fun gap text => dropWhile_isLoose_append gap.blank text
  induction respaced with
  | blanks left right =>
    have gone : ∀ gap : Gap, gap.blanks.dropWhile isLoose = [] := fun gap => by
      simpa using loose gap []
    rw [gone, gone]
  | @solid c x y _ _ ih =>
    rw [List.dropWhile_cons, List.dropWhile_cons]
    split
    · exact ih
    · rfl
  | @space c x y left right _ _ _ _ ih =>
    rw [loose, loose, List.dropWhile_cons, List.dropWhile_cons]
    split
    · exact ih
    · rfl
  | @sign c x y left right left' right' _ _ ih =>
    rw [loose, loose, List.dropWhile_cons, List.dropWhile_cons]
    split
    · rw [loose, loose]
      exact ih
    · rfl

section Readers

variable {dialect : Dialect} (readable : dialect.Readable) (respaced : Respaced x y)
include respaced

/-- A keyword is read alike, and what follows it is respaced. -/
theorem keyword? {words : List String} (known : Readable words) {word rest : List Char}
    (found : StepFlow.keyword? words x = some (word, rest)) :
    ∃ rest', StepFlow.keyword? words y = some (word, rest') ∧ Respaced rest rest' := by
  obtain ⟨isKeyword, rfl⟩ := (keyword?_eq_some_iff known.prefixFree).mp found
  have solid : ∀ c ∈ word, isBlank c = false := by
    intro c member
    obtain ⟨letter, spells⟩ := isKeyword.letter_of_mem known member
    exact spells.not_blank
  have noSign : ∀ c ∈ word, c ∉ movableSigns := by
    intro c member
    obtain ⟨letter, spells⟩ := isKeyword.letter_of_mem known member
    exact not_movable_of_spellsLetter spells
  obtain ⟨rest', rfl, later⟩ := append solid noSign respaced
  exact ⟨rest', (keyword?_eq_some_iff known.prefixFree).mpr ⟨isKeyword, rfl⟩, later⟩

include readable

theorem isSome_readRestHead? (found : (readRestHead? dialect x).isSome) : (readRestHead? dialect y).isSome := by
  rw [readRestHead?] at found ⊢
  cases read : StepFlow.keyword? dialect.stepWords.rest x with
  | none => simp [read] at found
  | some reading =>
    obtain ⟨word, rest⟩ := reading
    obtain ⟨rest', read', later⟩ := respaced.keyword? readable.rest read
    rw [read, Option.bind_some] at found
    rw [read', Option.bind_some]
    have head := later.dropWhile.2
    cases dropped : rest.dropWhile isBlank with
    | nil =>
      rw [dropped, eq_comm, List.head?_nil, List.head?_eq_none_iff] at head
      simp [head]
    | cons c tail =>
      rw [dropped, eq_comm, List.head?_cons, List.head?_eq_some_iff] at head
      obtain ⟨tail', dropped'⟩ := head
      simp only [dropped] at found
      simp only [dropped']
      split
      · rfl
      · split
        · rfl
        · simp_all

theorem isSome_readNumberedHead? (found : (readNumberedHead? dialect x).isSome) :
    (readNumberedHead? dialect y).isSome := by
  have starts : ∀ text : List Char, (text.takeWhile isDecimal).isEmpty = !text.head?.any isDecimal := by
    intro text
    cases text with
    | nil => rfl
    | cons c rest => cases digit : isDecimal c <;> simp [digit]
  rw [readNumberedHead?] at found ⊢
  cases read : StepFlow.keyword? dialect.stepWords.step x with
  | none => simp [read] at found
  | some reading =>
    obtain ⟨word, rest⟩ := reading
    obtain ⟨rest', read', later⟩ := respaced.keyword? readable.step read
    rw [read, Option.bind_some] at found
    rw [read', Option.bind_some]
    simp only [starts, later.head?_dropWhile_isLoose] at found
    simp only [starts]
    split
    · simp_all
    · rfl

theorem isSome_readUnnumberedHead? (found : (readUnnumberedHead? dialect x).isSome) :
    (readUnnumberedHead? dialect y).isSome := by
  rw [readUnnumberedHead?] at found ⊢
  cases read : StepFlow.keyword? dialect.stepWords.step x with
  | none => simp [read] at found
  | some reading =>
    obtain ⟨word, rest⟩ := reading
    obtain ⟨rest', read', later⟩ := respaced.keyword? readable.step read
    rw [read, Option.bind_some] at found
    rw [read', Option.bind_some]
    cases dropped : rest.dropWhile isBlank with
    | nil => simp [dropped] at found
    | cons c tail =>
      obtain ⟨tail', dropped', last⟩ := later.afterSolid dropped
      have next := last.dropWhile.2
      rw [List.dropWhile_idempotent, List.dropWhile_idempotent] at next
      simp only [dropped, next] at found
      simp only [dropped']
      split
      · rfl
      · simp_all

theorem hasDeclarationHead (found : Layout.hasDeclarationHead dialect x) : Layout.hasDeclarationHead dialect y := by
  rw [Layout.hasDeclarationHead] at found ⊢
  cases read : StepFlow.keyword? dialect.declarationWords x with
  | none => simp [read] at found
  | some reading =>
    obtain ⟨word, rest⟩ := reading
    obtain ⟨rest', read', later⟩ := respaced.keyword? readable.declaring read
    simp only [read, Option.any_some, later.dropWhile.1.digits.2.dropWhile.2] at found
    simpa only [read', Option.any_some] using found

theorem readTransition? {reading : List Char × List Char} (found : Layout.readTransition? dialect x = some reading) :
    Layout.readTransition? dialect y = some reading := by
  rw [Layout.readTransition?] at found ⊢
  cases read : stripWord? dialect.conditions.transition.toList x with
  | none => simp [read] at found
  | some start =>
    obtain ⟨word, rest⟩ := start
    -- The word of transitions is the only keyword of its list.
    have known := (keyword?_eq_some_iff readable.transition.prefixFree).mpr
      ⟨⟨_, .head _, (stripWord?_eq_some_iff.mp read).1⟩, (stripWord?_eq_some_iff.mp read).2⟩
    obtain ⟨rest', known', later⟩ := respaced.keyword? readable.transition known
    have read' : stripWord? dialect.conditions.transition.toList y = some (word, rest') := by
      obtain ⟨-, split⟩ := (keyword?_eq_some_iff readable.transition.prefixFree).mp known'
      exact stripWord?_eq_some_iff.mpr ⟨(stripWord?_eq_some_iff.mp read).1, split⟩
    rw [read, Option.bind_some] at found
    rw [read', Option.bind_some]
    simp only at found ⊢
    split at found
    · rename_i spaced
      cases stepRead : StepFlow.keyword? dialect.stepWords.step (rest.dropWhile isBlank) with
      | none => simp [stepRead] at found
      | some step =>
        obtain ⟨step, tail⟩ := step
        obtain ⟨tail', stepRead', last⟩ := later.dropWhile.1.keyword? readable.step stepRead
        have spaced' : startsBlank rest' := by
          obtain ⟨isKeyword, split⟩ := (keyword?_eq_some_iff readable.step.prefixFree).mp stepRead
          cases letters : step with
          | nil => exact absurd letters (isKeyword.ne_nil readable.step)
          | cons c more =>
            rw [letters] at isKeyword split
            obtain ⟨letter, spells⟩ := isKeyword.letter_of_mem readable.step (.head _)
            rw [← later.startsBlank_eq split (not_movable_of_spellsLetter spells), spaced]
        simp only [stepRead, Option.bind_some] at found
        simp only [spaced', if_true, stepRead', Option.bind_some]
        split at found
        · rename_i ended
          have numbers := last.dropWhile.1.digits
          have gap : startsBlank tail' := by
            cases numbered : tail.dropWhile isBlank with
            | nil => simp [numbered] at ended
            | cons c more =>
              have digit : isDecimal c := by
                by_contra other
                simp [numbered, other] at ended
              rw [← last.startsBlank_eq numbered (not_movable_of_isDecimal digit), ended.1]
          have close : ((tail'.dropWhile isBlank).dropWhile isDecimal).dropWhile isBlank = [] := by
            rw [← List.head?_eq_none_iff, ← numbers.2.dropWhile.2, List.head?_eq_none_iff]
            exact List.isEmpty_iff.mp ended.2.2
          rw [if_pos, ← numbers.1, found]
          rw [← numbers.1, close]
          exact ⟨gap, ended.2.1, rfl⟩
        · exact absurd found (by simp)
    · exact absurd found (by simp)

end Readers

/-- The plus sign of a transition is read alike. -/
theorem readPlus (respaced : Respaced x y) (solid : startsBlank x = false) (solid' : startsBlank y = false) :
    (Layout.readPlus x).1 = (Layout.readPlus y).1 ∧ Respaced (Layout.readPlus x).2 (Layout.readPlus y).2 := by
  have whole : ∀ {text : List Char}, startsBlank text = false → text.dropWhile isBlank = text := by
    intro text solid
    cases text with
    | nil => rfl
    | cons c rest => rw [List.dropWhile_cons, show isBlank c = false from solid, if_neg Bool.false_ne_true]
  have head := respaced.dropWhile.2
  rw [whole solid, whole solid'] at head
  cases x with
  | nil =>
    rw [List.head?_nil, eq_comm, List.head?_eq_none_iff] at head
    rw [head]
    exact ⟨rfl, .blanks .none .none⟩
  | cons c rest =>
    rw [List.head?_cons, eq_comm, List.head?_eq_some_iff] at head
    obtain ⟨rest', rfl⟩ := head
    by_cases plus : c = '+'
    · subst plus
      obtain ⟨tail, same, later⟩ := respaced.afterSolid (whole solid)
      rw [whole solid', List.cons.injEq] at same
      rw [← same.2] at later
      exact ⟨rfl, later⟩
    · rw [readPlus_of_ne plus, readPlus_of_ne plus]
      exact ⟨rfl, respaced⟩

theorem isComment {dialect : Dialect} (readable : dialect.Readable) (respaced : Respaced x y)
    (found : dialect.isComment x) : dialect.isComment y := by
  rw [Dialect.isComment, Bool.and_eq_true, List.isPrefixOf_iff_prefix] at found ⊢
  obtain ⟨nonempty, rest, rfl⟩ := found
  refine ⟨nonempty, ?_⟩
  have solid : ∀ c ∈ dialect.commentMark.toList, isBlank c = false := fun c member => by
    rw [readable.comment c member]
    decide
  have noSign : ∀ c ∈ dialect.commentMark.toList, c ∉ movableSigns := fun c member => by
    rw [readable.comment c member]
    decide
  obtain ⟨rest', rfl, -⟩ := append solid noSign respaced
  exact ⟨rest', rfl⟩

end Respaced

theorem openGap_of_not_movable (prev : Option Char) (joined : Bool) {cell : Cell} (rest : List Cell)
    (noSign : cell.char ∉ movableSigns) : openGap prev joined cell rest = cell.gap.squeezed := by
  simp only [movableSigns, List.mem_cons, List.not_mem_nil, or_false, not_or] at noSign
  simp [openGap, opensGap, spacedEquals, isMark, noSign]

/-- Away from signs, a gap is squeezed only. -/
theorem tidyGap_of_not_movable (prev : Option Char) (joined : Bool) {cell next : Cell} (after : List Cell)
    (noSign : cell.char ∉ movableSigns) (noSign' : next.char ∉ movableSigns) :
    tidyGap prev joined cell (next :: after) = cell.gap.squeezed := by
  rw [tidyGap, openGap_of_not_movable prev joined _ noSign]
  simp only [movableSigns, List.mem_cons, List.not_mem_nil, or_false, not_or] at noSign'
  rw [leadGap_of_ne (by simp [nextChar, noSign'])]
  simp [spacedColon, noSign']

/-- A tidy line is its line respaced. -/
theorem respaced_tidyFrom (cells : List Cell) (prev : Option Char) (joined : Bool) (left right : Gap)
    (agree : ∀ cell ∈ cells.head?, cell.char ∉ movableSigns → left.isEmpty = right.isEmpty) :
    Respaced (left.blanks ++ render cells) (right.blanks ++ render (tidyFrom prev joined cells)) := by
  induction cells generalizing prev joined left right with
  | nil => simpa [tidyFrom] using Respaced.blanks left right
  | cons cell rest ih =>
    rw [tidyFrom, render_cons, render_cons]
    by_cases isSign : cell.char ∈ movableSigns
    · exact .sign left right _ _ isSign (ih _ _ .none .none fun _ _ _ => rfl)
    · have later := ih (some cell.char) (isRelational cell.char && (openGap prev joined cell rest).isEmpty) cell.gap
        (tidyGap prev joined cell rest) (by
          intro next isNext noSign
          obtain ⟨after, rfl⟩ := List.head?_eq_some_iff.mp isNext
          rw [tidyGap_of_not_movable prev joined after isSign noSign, Gap.isEmpty_squeezed])
      have gaps := agree cell rfl isSign
      cases empty : left.isEmpty with
      | true =>
        have none : left = .none := Gap.eq_none_of_isEmpty empty
        have none' : right = .none := Gap.eq_none_of_isEmpty (gaps.symm.trans empty)
        rw [none, none']
        exact .solid cell.solid later
      | false => exact .space left right empty (gaps.symm.trans empty) cell.solid later

theorem respaced_tidy (cells : List Cell) : Respaced (render cells) (render (tidy cells)) :=
  respaced_tidyFrom cells none false .none .none fun _ _ _ => rfl

end StepFlow.Layout
