import StepFlow.Proofs.Xml.RoundTrip

/-! # Escaping in one pass

A text is escaped by replacing one character after another in the whole text. No entity holds a character that is
replaced after the one it stands for, so no entity is changed again, and all replacements can be made at once, character
by character. An ampersand of the result is then always the start of an entity, and decoding gives the text back.
-/

namespace StepFlow.Xml

/-! ## Replacing several characters -/

/-- The text with characters replaced one after another, each in the whole text. -/
def replaceInTurn (changes : List (Char × String)) (text : List Char) : List Char :=
  changes.foldl (fun text change => replaceChar change.1 change.2 text) text

/-- What stands for a character: the first replacement that is given for it, or else the character itself. -/
def substitute (changes : List (Char × String)) (c : Char) : List Char :=
  match changes.lookup c with
  | some replacement => replacement.toList
  | none => [c]

/-- No replacement holds a character that is replaced later. -/
def Settled (changes : List (Char × String)) : Prop :=
  changes.Pairwise fun earlier later => later.1 ∉ earlier.2.toList

instance (changes : List (Char × String)) : Decidable (Settled changes) :=
  inferInstanceAs (Decidable (List.Pairwise _ _))

section Changes

variable {changes : List (Char × String)}

theorem substitute_cons_self (c : Char) (replacement : String) :
    substitute ((c, replacement) :: changes) c = replacement.toList := by
  rw [substitute, List.lookup_cons_self]

theorem substitute_cons_of_ne {c d : Char} (differs : d ≠ c) (replacement : String) :
    substitute ((c, replacement) :: changes) d = substitute changes d := by
  rw [substitute, substitute, List.lookup_cons, beq_false_of_ne differs]

theorem substitute_of_unchanged {c : Char} (unchanged : ∀ change ∈ changes, change.1 ≠ c) :
    substitute changes c = [c] := by
  have absent : changes.lookup c = none :=
    List.lookup_eq_none_iff.mpr fun change member => bne_iff_ne.mpr (unchanged change member).symm
  rw [substitute, absent]

theorem flatMap_substitute_of_unchanged {text : List Char} (unchanged : ∀ change ∈ changes, change.1 ∉ text) :
    text.flatMap (substitute changes) = text := by
  have each : ∀ c ∈ text, substitute changes c = [c] := fun c inText =>
    substitute_of_unchanged fun change member same => unchanged change member (same ▸ inText)
  rw [List.flatMap_congr each, List.flatMap_singleton']

/-- Replacements that leave each other alone can be made at once. -/
theorem Settled.replaceInTurn_eq (settled : Settled changes) (text : List Char) :
    replaceInTurn changes text = text.flatMap (substitute changes) := by
  induction changes generalizing text with
  | nil => exact (flatMap_substitute_of_unchanged (List.forall_mem_nil _)).symm
  | cons change later ih =>
    obtain ⟨spared, laterSettled⟩ := List.pairwise_cons.mp settled
    obtain ⟨c, replacement⟩ := change
    calc replaceInTurn ((c, replacement) :: later) text
      _ = (replaceChar c replacement text).flatMap (substitute later) := ih laterSettled _
      _ = text.flatMap fun d => (if d = c then replacement.toList else [d]).flatMap (substitute later) :=
        List.flatMap_assoc
      _ = text.flatMap (substitute ((c, replacement) :: later)) := by
        apply List.flatMap_congr
        intro d _
        split
        · rename_i same
          rw [same, substitute_cons_self, flatMap_substitute_of_unchanged spared]
        · rename_i differs
          rw [substitute_cons_of_ne differs, List.flatMap_singleton]

end Changes

/-! ## Entities -/

/-- The characters that are escaped and their entities, in the order of replacement. -/
def entities : List (Char × String) :=
  [('&', "&amp;"), ('>', "&gt;"), ('<', "&lt;"), ('"', "&quot;"), ('\'', "&apos;")]

theorem settled_entities : Settled entities := by decide

-- With the ampersand last, the entities before it would be replaced again.
example : ¬Settled [('<', "&lt;"), ('&', "&amp;")] := by decide

theorem escape_eq_flatMap (text : List Char) : escape text = text.flatMap (substitute entities) :=
  settled_entities.replaceInTurn_eq text

/-- What stands for a character is an entity, whose only ampersand is its start, or a text without ampersand. -/
theorem substitute_entities_cases (c : Char) :
    (∃ entity ∈ entities, ∃ letters, entity.2.toList = '&' :: letters ∧ '&' ∉ letters ∧
      substitute entities c = '&' :: letters) ∨ '&' ∉ substitute entities c := by
  have opening : ∀ entity ∈ entities, ∃ letters, entity.2.toList = '&' :: letters ∧ '&' ∉ letters := by
    simp [entities]
  cases found : entities.lookup c with
  | some replacement =>
    obtain ⟨front, back, split, -⟩ := List.lookup_eq_some_iff.mp found
    have isEntity : (c, replacement) ∈ entities := split ▸ List.mem_append_right _ (.head _)
    obtain ⟨letters, spelled, single⟩ := opening _ isEntity
    exact .inl ⟨_, isEntity, letters, spelled, single, by rw [substitute, found, ← spelled]⟩
  | none =>
    refine .inr fun member => ?_
    rw [substitute, found, List.mem_singleton] at member
    subst member
    cases found

/-- A character that is not in the first part of a text starts a suffix of the second part only. -/
theorem suffix_of_suffix_append {c : Char} {first second rest : List Char} (absent : c ∉ first)
    (suffix : c :: rest <:+ first ++ second) : c :: rest <:+ second := by
  induction first with
  | nil => exact suffix
  | cons d first ih =>
    rw [List.mem_cons, not_or] at absent
    rcases List.suffix_cons_iff.mp suffix with whole | later
    · exact absurd (List.cons.inj whole).1 absent.1
    · exact ih absent.2 later

/-- Every ampersand of an escaped text starts an entity. -/
theorem entity_of_suffix_escape {text rest : List Char} (suffix : '&' :: rest <:+ escape text) :
    ∃ entity ∈ entities, entity.2.toList <+: '&' :: rest := by
  rw [escape_eq_flatMap] at suffix
  induction text with
  | nil => cases List.suffix_nil.mp suffix
  | cons c text ih =>
    rw [List.flatMap_cons] at suffix
    rcases substitute_entities_cases c with ⟨entity, isEntity, letters, spelled, single, stands⟩ | plain
    · rw [stands, List.cons_append] at suffix
      rcases List.suffix_cons_iff.mp suffix with whole | later
      · exact ⟨entity, isEntity, _, by rw [spelled, List.cons_append, whole]⟩
      · exact ih (suffix_of_suffix_append single later)
    · exact ih (suffix_of_suffix_append plain suffix)

/-- Escaping puts an entity or the character itself for each character. The result has no angle brackets and no quotes,
its ampersands start entities, and decoding it gives the text back. -/
theorem escape_in_one_pass (text : List Char) :
    escape text = text.flatMap (substitute entities) ∧
      (∀ c ∈ ['<', '>', '"', '\''], c ∉ escape text) ∧
      (∀ rest, '&' :: rest <:+ escape text → ∃ entity ∈ entities, entity.2.toList <+: '&' :: rest) ∧
      decode (escape text) = some text := by
  refine ⟨escape_eq_flatMap text, ?_, fun rest => entity_of_suffix_escape, decode_escape text⟩
  intro c member
  have special : isSpecial c = true ∧ c ≠ '&' := by
    simp only [List.mem_cons, List.not_mem_nil, or_false] at member
    rcases member with rfl | rfl | rfl | rfl <;> decide
  exact not_mem_escape special.1 special.2 text

end StepFlow.Xml
