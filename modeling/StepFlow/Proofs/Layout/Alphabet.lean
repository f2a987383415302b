import StepFlow.Proofs.Layout.Pieces
import StepFlow.Proofs.Pattern.Reads
import StepFlow.Proofs.Text.Alphabet
import StepFlow.Proofs.Text.Lines

/-! # The characters of laid out lines

After the first pass, the layout takes the characters of its lines from the text, puts some of them in upper case and
writes a few signs. So lines over an alphabet stay over it.
-/

namespace StepFlow

open Text Pattern

section Match

variable {allowed : Char → Prop} {pattern : Pattern} {text : List Char} {found : Match} (given : Over allowed text)
  (matched : pattern.matchStart? text = some found)
include given matched

theorem Text.Over.kept (index : Nat) : Over allowed (found.kept index) :=
  allowed_of_mem_kept (within_of_matchStart? matched given) index

theorem Text.Over.rest : Over allowed found.rest := (within_of_matchStart? matched given).after

end Match

namespace Layout

theorem trim_subset (text : List Char) : trim text ⊆ text := reverse_dropWhile_subset _ text

section Passes

variable {allowed : Char → Prop} (alphabet : Alphabet allowed)
include alphabet

theorem over_squeeze {text : List Char} (given : Over allowed text) : Over allowed (squeeze text) := by
  intro c member
  rcases mem_squeezeFrom member with rfl | inText
  · exact alphabet.signs ' ' (by decide)
  · exact given c inText

theorem over_cleanLine {line : List Char} (given : Over allowed line) : Over allowed (cleanLine line) := by
  have space : allowed ' ' := alphabet.signs ' ' (by decide)
  rw [cleanLine]
  split
  · exact over_nil
  · refine over_append.mpr ⟨?_, over_squeeze alphabet (given.of_subset (trim_subset line))⟩
    split
    · simp [indentMark, space]
    · exact over_nil

omit alphabet in
theorem over_splitIndent {line : List Char} (given : Over allowed line) :
    Over allowed (splitIndent line).1 ∧ Over allowed (splitIndent line).2 := by
  rwa [← (append_splitIndent line).2, over_append] at given

/-- A list item's text follows its marker. -/
theorem over_unmarkItem {line : List Char} (given : Over allowed line) : Over allowed (unmarkItem line) := by
  have body := (over_splitIndent given).2
  have marked {text : List Char} (given : Over allowed text) : Over allowed ('-' :: ' ' :: text) :=
    over_cons.mpr ⟨alphabet.signs '-' (by decide), over_cons.mpr ⟨alphabet.signs ' ' (by decide), given⟩⟩
  unfold unmarkItem
  cases isBullet : bullet.matchStart? (splitIndent line).2 with
  | some found =>
    simp only [isBullet]
    exact marked (body.rest isBullet)
  | none =>
    cases isNumber : itemNumber.matchStart? (splitIndent line).2 with
    | some found =>
      simp only [isBullet, isNumber]
      exact marked (body.rest isNumber)
    | none => simpa only [isBullet, isNumber] using given

theorem over_embedded? {dialect : Dialect} {body before declaration : List Char} (given : Over allowed body)
    (found : embedded? dialect body = some (before, declaration)) :
    Over allowed before ∧ Over allowed declaration := by
  obtain ⟨reading, -, rfl, ⟨matched, rfl⟩ | ⟨matched, rfl⟩⟩ := of_embedded? found
  all_goals
    have kept := given.kept matched
    refine ⟨(kept 1).of_subset (trim_subset _), ?_⟩
    simp [alphabet.upperChars (kept 2), kept, alphabet.signs]

theorem over_splitBody (dialect : Dialect) (fuel : Nat) {body : List Char} (given : Over allowed body) :
    ∀ piece ∈ splitBody dialect fuel body, Over allowed piece :=
  forall_mem_splitBody (fun given found => over_embedded? alphabet given found) fuel given

theorem over_splitLine {dialect : Dialect} {line : List Char} (given : Over allowed line) :
    ∀ piece ∈ splitLine dialect line, Over allowed piece := by
  obtain ⟨indent, body⟩ := over_splitIndent given
  have pieces := over_splitBody alphabet dialect (splitIndent line).2.length body
  unfold splitLine
  simp only
  split
  · exact List.forall_mem_singleton.mpr given
  · split
    · exact List.forall_mem_singleton.mpr indent
    · rename_i first rest split
      rw [split, List.forall_mem_cons] at pieces
      exact List.forall_mem_cons.mpr ⟨over_append.mpr ⟨indent, pieces.1⟩, pieces.2⟩

section Forms

variable {dialect : Dialect} {body : List Char} (given : Over allowed body)
include given

theorem over_declarationForm? {form : List Char} (found : declarationForm? dialect body = some form) :
    Over allowed form := by
  have one : allowed '1' := alphabet.digits (by decide)
  rw [declarationForm?] at found
  split at found
  · rename_i reading matched
    obtain rfl := Option.some.inj found
    simp [alphabet.upperChars (given.kept matched 1), given.rest matched, alphabet.signs]
  · split at found
    · rename_i reading matched
      obtain rfl := Option.some.inj found
      simp [alphabet.upperChars (given.kept matched 1), given.kept matched 2, given.rest matched, alphabet.signs]
    · obtain ⟨reading, matched, rfl⟩ := Option.map_eq_some_iff.mp found
      simp [alphabet.upperChars (given.kept matched 1), given.rest matched, alphabet.signs, one]

omit given in
/-- A word that is found in a text over an alphabet is over it. -/
theorem over_literal {word : String} {place reached : Place} (within : place.Within allowed)
    (member : reached ∈ (literal .full word).ends place) : Over allowed word.toList := by
  rw [literal] at member
  generalize word.toList = letters at member ⊢
  induction letters generalizing place with
  | nil => exact over_nil
  | cons letter letters ih =>
    obtain ⟨middle, first, later⟩ := mem_ends_concat_cons.mp member
    have next : middle.Within allowed := related_of_mem_ends travels_within _ (fun _ _ => trivial) first within
    refine over_cons.mpr ⟨?_, ih next later⟩
    simp only [ends, Option.mem_toList, Place.step?] at first
    split at first
    · cases first
    · rename_i c rest after
      split at first
      · rename_i agrees
        exact alphabet.folded agrees (within.after c (after ▸ .head _))
      · cases first

theorem over_transitionForm? {form : List Char} (found : transitionForm? dialect body = some form) :
    Over allowed form := by
  obtain ⟨reading, matched, rfl⟩ := Option.map_eq_some_iff.mp found
  have word : Over allowed dialect.conditions.transition.toList := by
    obtain ⟨stop, first, -⟩ := Option.map_eq_some_iff.mp matched
    obtain ⟨start, isStart, later⟩ := mem_ends_concat_cons.mp (List.mem_of_head? first)
    obtain ⟨marked, isMarked, later⟩ := mem_ends_concat_cons.mp later
    obtain ⟨_, read, -⟩ := mem_ends_concat_cons.mp later
    have within : (Place.mk [] body []).Within allowed := ⟨nofun, given, nofun⟩
    have within := related_of_mem_ends travels_within _ (fun _ _ => trivial) isStart within
    have within := related_of_mem_ends travels_within _ (fun _ _ => trivial) isMarked within
    exact over_literal alphabet within read
  have parts := given.kept matched
  simp only [over_append, over_cons, over_nil, alphabet.upperChars word, alphabet.upperChars (parts 2), parts 3,
    and_true, alphabet.signs ' ' (by decide)]
  split <;> simp [alphabet.signs]

theorem over_spaceSigns : Over allowed (spaceSigns body) := by
  have colons : Over allowed (colon.replace (fun found =>
      (if (found.kept 1).isEmpty then found.kept 2 else found.kept 1) ++ [':', ' ']) body) := by
    refine allowed_of_mem_replaceFrom ?_ (fun _ none => absurd none List.not_mem_nil) given
    intro found within
    have kept (index : Nat) : Over allowed (found.kept index) := allowed_of_mem_kept within index
    refine over_append.mpr ⟨?_, by simp [alphabet.signs]⟩
    split
    · exact kept 2
    · exact kept 1
  refine allowed_of_mem_replaceFrom ?_ (fun _ none => absurd none List.not_mem_nil) colons
  intro found _
  exact (by simp [alphabet.signs] : Over allowed [' ', '=', ' '])

theorem over_spaceMark {indent : List Char} (isIndent : Over allowed indent) :
    Over allowed (spaceMark indent body).1 ∧ Over allowed (spaceMark indent body).2 := by
  rw [spaceMark]
  split
  · rename_i reading matched
    exact ⟨over_nil, by simp [given.rest matched, alphabet.signs]⟩
  · split
    · rename_i reading matched
      exact ⟨over_nil, by simp [given.rest matched, alphabet.signs]⟩
    · exact ⟨isIndent, given⟩

theorem over_spacedLine {indent : List Char} (isIndent : Over allowed indent) :
    Over allowed (spacedLine indent body) := by
  have marked := over_spaceMark alphabet (over_spaceSigns alphabet given) isIndent
  rw [spacedLine]
  split
  · exact over_nil
  · exact over_append.mpr ⟨marked.1, (over_squeeze alphabet marked.2).of_subset (trim_subset _)⟩

end Forms

theorem over_lineForm {dialect : Dialect} {line : List Char} (given : Over allowed line) :
    Over allowed (lineForm dialect line) := by
  obtain ⟨isIndent, body⟩ := over_splitIndent given
  unfold lineForm
  simp only
  split
  · exact over_nil
  · split
    · exact given
    · split
      · rename_i form found
        exact over_transitionForm? alphabet body found
      · split
        · rename_i form found
          split at found
          · exact over_spacedLine alphabet (over_declarationForm? alphabet body found) over_nil
          · exact absurd found (by simp)
        · exact over_spacedLine alphabet body isIndent

/-- Lines that are over an alphabet after the first pass are over it in canonical layout. -/
theorem over_canonicalLines {dialect : Dialect} {source : SourceKind} {text : List Char}
    (plain : ∀ line ∈ lines (plainText source text), Over allowed line) :
    ∀ line ∈ canonicalLines dialect source text, Over allowed line := by
  intro line isLine
  obtain ⟨piece, isPiece, rfl⟩ := List.mem_map.mp isLine
  obtain ⟨whole, isWhole, split⟩ := List.mem_flatMap.mp isPiece
  have cleaned : ∀ line ∈ (lines (plainText source text)).map cleanLine, Over allowed line := by
    intro line member
    obtain ⟨original, isOriginal, rfl⟩ := List.mem_map.mp member
    exact over_cleanLine alphabet (plain original isOriginal)
  have given : Over allowed whole := by
    cases source with
    | directEntry => exact cleaned whole isWhole
    | documentImport =>
      obtain ⟨clean, isClean, rfl⟩ := List.mem_map.mp isWhole
      exact over_unmarkItem alphabet (cleaned clean isClean)
  exact over_lineForm alphabet (over_splitLine alphabet given piece split)

end Passes

end Layout

end StepFlow
