import StepFlow.Proofs.Text.Alphabet
import StepFlow.Proofs.Text.Lines
import StepFlow.Proofs.Xml.RoundTrip

/-! # The characters of XML

A document may hold the tab, the line breaks, and all characters from the space on but two. Nothing stands for the
others, escaped or not. Writing a tree adds admitted characters only and leaves none out, so the text of a tree is legal
exactly if all names and texts in the tree are.
-/

namespace StepFlow.Xml

open Text

/-- The characters that a document may hold. -/
def IsChar (c : Char) : Prop :=
  c = '\t' ∨ c = '\n' ∨ c = '\r' ∨ (0x20 ≤ c.toNat ∧ c.toNat ≤ 0xD7FF) ∨ (0xE000 ≤ c.toNat ∧ c.toNat ≤ 0xFFFD) ∨
    (0x10000 ≤ c.toNat ∧ c.toNat ≤ 0x10FFFF)

instance (c : Char) : Decidable (IsChar c) := inferInstanceAs (Decidable (_ ∨ _))

/-- The characters that no document may hold. -/
def foreignChars : List Char :=
  (((List.range 0x20).filter fun code => code ∉ [0x09, 0x0A, 0x0D]) ++ [0xFFFE, 0xFFFF]).map Char.ofNat

theorem isChar_iff_notMem_foreignChars (c : Char) : IsChar c ↔ c ∉ foreignChars := by
  refine ⟨fun isChar foreign => ?_, fun admitted => ?_⟩
  · have none : Over (¬IsChar ·) foreignChars := by decide
    exact none c foreign isChar
  · by_contra foreign
    refine admitted (List.mem_map.mpr ⟨c.toNat, ?_, Char.ofNat_toNat c⟩)
    have valid : c.toNat < 0xD800 ∨ 0xDFFF < c.toNat ∧ c.toNat < 0x110000 := c.valid
    have breaks : c.toNat ≠ 0x09 ∧ c.toNat ≠ 0x0A ∧ c.toNat ≠ 0x0D :=
      ⟨fun same => foreign (.inl (Char.toNat_inj.mp same)), fun same => foreign (.inr (.inl (Char.toNat_inj.mp same))),
        fun same => foreign (.inr (.inr (.inl (Char.toNat_inj.mp same))))⟩
    simp only [IsChar, not_or, not_and_or, Nat.not_le] at foreign
    have outside : c.toNat < 0x20 ∨ c.toNat = 0xFFFE ∨ c.toNat = 0xFFFF := by omega
    simpa [breaks] using outside

/-- A text that a document may hold. -/
def LegalText (text : String) : Prop := Over IsChar text.toList

instance (text : String) : Decidable (LegalText text) := inferInstanceAs (Decidable (Over IsChar _))

mutual

/-- A tree of which all names and texts are legal. -/
def Legal : Xml → Prop
  | .element name attributes children =>
    LegalText name ∧ (∀ pair ∈ attributes, LegalText pair.1 ∧ LegalText pair.2) ∧ AllLegal children
  | .text content => LegalText content
  | .raw markup => LegalText markup

/-- Trees of which all names and texts are legal. -/
def AllLegal : List Xml → Prop
  | [] => True
  | child :: rest => child.Legal ∧ AllLegal rest

end

/-! ## Writing -/

/-- Escapes are made of legal characters and stand for legal ones. -/
theorem isChar_escape {text : List Char} : Over IsChar (escape text) ↔ Over IsChar text := by
  induction text with
  | nil => exact Iff.rfl
  | cons c text ih =>
    have first : Over IsChar (escape [c]) ↔ IsChar c := by
      cases special : isSpecial c with
      | false => simp [escape_singleton special]
      | true => rcases isSpecial_cases special with rfl | rfl | rfl | rfl | rfl <;> decide
    rw [← List.singleton_append, escape_append, over_append, ih, first]
    exact over_cons.symm

theorem isChar_margin (pretty : Bool) (level : Int) : Over IsChar (margin pretty level) := by
  unfold margin
  split
  · intro c member
    rw [List.eq_of_mem_replicate member]
    decide
  · exact over_nil

theorem isChar_writeAttributes {attributes : List (String × String)} :
    Over IsChar (writeAttributes attributes) ↔ ∀ pair ∈ attributes, LegalText pair.1 ∧ LegalText pair.2 := by
  have signs : IsChar ' ' ∧ IsChar '=' ∧ IsChar '"' := by decide
  refine List.forall_mem_flatMap.trans (forall₂_congr fun pair _ => ?_)
  change Over IsChar _ ↔ _
  simp [signs, isChar_escape, LegalText]

theorem isChar_unlines {parts : List (List Char)} :
    Over IsChar (unlines parts) ↔ ∀ part ∈ parts, Over IsChar part := by
  have lineFeed : IsChar '\n' := by decide
  induction parts with
  | nil => simp [unlines, joinWith]
  | cons part rest ih =>
    cases rest with
    | nil => simp
    | cons next rest =>
      simp only [unlines_cons_cons, over_append, over_cons, lineFeed, true_and, ih,
        List.forall_mem_cons]

/-- The text of an element is legal if its names, its values and the texts of its children are. -/
theorem isChar_write_element {pretty : Bool} {level : Int} {children : List Xml} (name : String)
    (attributes : List (String × String))
    (inner : (∀ part ∈ writeAll pretty (level + 1) children, Over IsChar part) ↔ AllLegal children) :
    Over IsChar (write pretty level (.element name attributes children)) ↔
      Legal (.element name attributes children) := by
  have signs : IsChar '<' ∧ IsChar '>' ∧ IsChar '/' ∧ IsChar ' ' ∧ IsChar '\n' := by decide
  have stop : Over IsChar (closeTag name) ↔ LegalText name := by
    simp [closeTag, signs, LegalText]
  have head : Over IsChar (openTag name attributes) ↔
      LegalText name ∧ ∀ pair ∈ attributes, LegalText pair.1 ∧ LegalText pair.2 := by
    rw [← isChar_writeAttributes]
    simp [openTag, signs, LegalText]
  have margins := isChar_margin pretty level
  rw [Legal]
  unfold write
  dsimp only
  split
  · simp only [over_append, over_cons, over_nil, head, margins, signs, AllLegal, true_and, and_true]
  · simp only [over_append, over_cons, over_nil, head, stop, margins, signs, AllLegal, Legal,
      isChar_escape, LegalText]
    tauto
  · rw [← inner]
    split
    · simp only [over_append, over_cons, over_nil, head, stop, margins, signs, isChar_unlines]
      tauto
    · simp only [over_append, over_cons, over_nil, head, stop, margins, signs, over_flatten]
      tauto

mutual

theorem isChar_write (pretty : Bool) (level : Int) :
    (tree : Xml) → (Over IsChar (write pretty level tree) ↔ tree.Legal)
  | .element name attributes children =>
    isChar_write_element name attributes (isChar_writeAll pretty (level + 1) children)
  | .text content => by
    rw [write, over_append, isChar_escape, iff_true_intro (isChar_margin pretty level), true_and]
    rfl
  | .raw markup => Iff.rfl

theorem isChar_writeAll (pretty : Bool) (level : Int) :
    (trees : List Xml) → ((∀ part ∈ writeAll pretty level trees, Over IsChar part) ↔ AllLegal trees)
  | [] => by simp [writeAll, AllLegal]
  | child :: rest => by
    rw [writeAll, List.forall_mem_cons, AllLegal, isChar_write pretty level child,
      isChar_writeAll pretty level rest]

end

end StepFlow.Xml
