import StepFlow.Proofs.Layout.Alphabet

/-! # Plain characters

The first pass replaces typographic characters and line breaks. No later pass brings them back, so the first pass
changes nothing in a text that is in canonical layout.
-/

namespace StepFlow.Layout

open Text Pattern

/-- The characters that the first pass replaces, and the line feed. -/
def specialChars (source : SourceKind) : List Char :=
  ['“', '”', '„', '‘', '’', '‚', '–', '—', '…', Char.ofNat 0xA0, '\r', '\n'] ++
    match source with
    | .documentImport => ['\x0c', '\x0b']
    | .directEntry => []

/-- A text of one line whose characters the first pass leaves alone. -/
def AllPlain (source : SourceKind) (text : List Char) : Prop := ∀ c ∈ text, c ∉ specialChars source

variable {source : SourceKind}

@[simp] theorem allPlain_nil : AllPlain source [] := fun _ none => absurd none List.not_mem_nil

@[simp] theorem allPlain_cons {c : Char} {text : List Char} :
    AllPlain source (c :: text) ↔ c ∉ specialChars source ∧ AllPlain source text := List.forall_mem_cons

@[simp] theorem allPlain_append {front back : List Char} :
    AllPlain source (front ++ back) ↔ AllPlain source front ∧ AllPlain source back := List.forall_mem_append

theorem plainChar_of_plain {c : Char} (plain : c ∉ specialChars source) : plainChar c = [c] := by
  unfold plainChar
  split
  case h_10 =>
    rw [if_neg]
    rintro rfl
    exact absurd (List.mem_append_left _ (by decide)) plain
  all_goals exact absurd (List.mem_append_left _ (by decide)) plain

theorem documentChar_of_plain {c : Char} (plain : c ∉ specialChars .documentImport) : documentChar c = [c] := by
  simp only [specialChars, List.mem_append, List.mem_cons, List.not_mem_nil, or_false, not_or] at plain
  rw [documentChar, if_neg plain.2.1, if_neg plain.2.2]

theorem unifyBreaks_eq_self {text : List Char} (unbroken : '\r' ∉ text) : unifyBreaks text = text := by
  induction text with
  | nil => rfl
  | cons c text ih =>
    have differs : c ≠ '\r' := fun same => unbroken (same ▸ .head _)
    have later := ih fun member => unbroken (.tail _ member)
    unfold unifyBreaks
    split <;> simp_all

/-- The first pass changes nothing in lines of plain characters. -/
theorem plainText_eq_self {text : List Char} (plain : ∀ c ∈ text, c = '\n' ∨ c ∉ specialChars source) :
    plainText source text = text := by
  have unbroken : '\r' ∉ text := by
    intro member
    rcases plain '\r' member with lineFeed | isPlain
    · exact absurd lineFeed (by decide)
    · exact isPlain (by cases source <;> decide)
  have kept : text.flatMap plainChar = text := by
    rw [List.flatMap_congr fun c member => ?_, List.flatMap_singleton']
    rcases plain c member with rfl | isPlain
    · rfl
    · exact plainChar_of_plain isPlain
  cases source with
  | directEntry => rw [plainText, unifyBreaks_eq_self unbroken, kept]
  | documentImport =>
    rw [plainText, unifyBreaks_eq_self unbroken, kept]
    rw [List.flatMap_congr fun c member => ?_, List.flatMap_singleton']
    rcases plain c member with rfl | isPlain
    · rfl
    · exact documentChar_of_plain isPlain

theorem mem_unifyBreaks {c : Char} {text : List Char} (member : c ∈ unifyBreaks text) :
    c = '\n' ∨ c ≠ '\r' ∧ c ∈ text := by
  fun_induction unifyBreaks text with
  | case1 => exact absurd member List.not_mem_nil
  | case2 rest ih =>
    rcases List.mem_cons.mp member with rfl | later
    · exact .inl rfl
    · exact (ih later).imp_right fun ⟨differs, inText⟩ => ⟨differs, .tail _ (.tail _ inText)⟩
  | case3 rest _ ih =>
    rcases List.mem_cons.mp member with rfl | later
    · exact .inl rfl
    · exact (ih later).imp_right fun ⟨differs, inText⟩ => ⟨differs, .tail _ inText⟩
  | case4 d rest _ differs ih =>
    rcases List.mem_cons.mp member with rfl | later
    · exact .inr ⟨differs, .head _⟩
    · exact (ih later).imp_right fun ⟨differs, inText⟩ => ⟨differs, .tail _ inText⟩

/-- The characters that typographic characters are replaced with. -/
def substitutes : List Char := ['"', '\'', '-', '.', ' ']

theorem mem_plainChar {c d : Char} (member : d ∈ plainChar c) :
    d ∈ substitutes ∨ d = c ∧ (c ∈ ['\r', '\n'] ∨ c ∉ specialChars .directEntry) := by
  unfold plainChar at member
  split at member
  case h_10 =>
    split at member
    · exact .inl (List.mem_singleton.mp member ▸ by decide)
    · refine .inr ⟨List.mem_singleton.mp member, ?_⟩
      simp_all [specialChars, or_iff_not_imp_left]
  all_goals
    simp only [List.mem_cons, List.not_mem_nil, or_false, or_self] at member
    exact .inl (member ▸ by decide)

theorem substitutes_plain : Over (· ∉ specialChars .directEntry) substitutes := by decide

theorem mem_documentChar {c d : Char} (member : d ∈ documentChar c) :
    d = '\n' ∨ d = c ∧ c ∉ ['\x0c', '\x0b'] := by
  unfold documentChar at member
  split at member
  · exact absurd member List.not_mem_nil
  · split at member
    · exact .inl (List.mem_singleton.mp member)
    · exact .inr ⟨List.mem_singleton.mp member, by simp [*]⟩

/-- After the first pass, the lines of a text have plain characters only. -/
theorem plain_of_mem_plainText {c : Char} {text : List Char} (member : c ∈ plainText source text) :
    c = '\n' ∨ c ∉ specialChars source := by
  have direct : ∀ d ∈ (unifyBreaks text).flatMap plainChar, d = '\n' ∨ d ∉ specialChars .directEntry := by
    intro d member
    obtain ⟨e, isText, replaced⟩ := List.mem_flatMap.mp member
    have unbroken : e ≠ '\r' := by
      rcases mem_unifyBreaks isText with rfl | ⟨differs, _⟩
      · decide
      · exact differs
    rcases mem_plainChar replaced with substitute | ⟨rfl, lineBreak | plain⟩
    · exact .inr (substitutes_plain d substitute)
    · simp_all
    · exact .inr plain
  cases source with
  | directEntry => exact direct c member
  | documentImport =>
    obtain ⟨d, isPlain, replaced⟩ := List.mem_flatMap.mp member
    rcases mem_documentChar replaced with lineFeed | ⟨rfl, differs⟩
    · exact .inl lineFeed
    · exact (direct c isPlain).imp_right fun plain => by simp_all [specialChars]

theorem allPlain_of_mem_lines {text line : List Char} (isLine : line ∈ lines (plainText source text)) :
    AllPlain source line := by
  intro c member
  obtain ⟨inText, noLineFeed⟩ := mem_of_mem_splitAt isLine member
  exact (plain_of_mem_plainText inText).resolve_left noLineFeed

/-- No later pass writes a character that the first pass replaces. -/
theorem alphabet_plain (source : SourceKind) : Alphabet (· ∉ specialChars source) := by
  cases source <;> exact alphabet_notMem (by decide +kernel) (by decide) (by decide)

theorem AllPlain.of_subset {text part : List Char} (plain : AllPlain source text) (subset : part ⊆ text) :
    AllPlain source part := fun c member => plain c (subset member)

/-- The lines of a text in canonical layout are plain. -/
theorem allPlain_canonicalLines {dialect : Dialect} {text line : List Char}
    (isLine : line ∈ canonicalLines dialect source text) : AllPlain source line :=
  over_canonicalLines (alphabet_plain source) (fun _ => allPlain_of_mem_lines) line isLine

end StepFlow.Layout
