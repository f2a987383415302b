import StepFlow.Pattern.CharTest

/-! # What the case maps send to a character

A case map is a table of ranges, so the characters that it sends to a given one are few and can be listed.
The characters that agree with a letter in all but case are among the variants of that letter. And no
character gets a control character or a typographic one by being put in upper case.
-/

namespace StepFlow.Text

namespace CaseRange

/-- The images of a range are code points of characters. -/
def IsSound (range : CaseRange) : Prop :=
  0 ≤ range.first + range.shift ∧
    (range.last + range.shift < 0xD800 ∨
      0xDFFF < range.first + range.shift ∧ range.last + range.shift < 0x110000)

instance (range : CaseRange) : Decidable range.IsSound := by
  unfold IsSound
  infer_instance

/-- A code point is its own image or one of the sources of its image. -/
theorem apply_eq_self_or_mem {ranges : List CaseRange} (sound : ∀ range ∈ ranges, range.IsSound)
    (code : Nat) :
    apply ranges code = code ∨ code ∈ ranges.filterMap (Folding.sources (apply ranges code)) := by
  induction ranges with
  | nil => exact .inl rfl
  | cons range ranges ih =>
    have next := ih fun other member => sound other (.tail _ member)
    have later : apply ranges code = code ∨
        code ∈ (range :: ranges).filterMap (Folding.sources (apply ranges code)) := by
      refine next.imp_right fun member => ?_
      obtain ⟨other, isMember, source⟩ := List.mem_filterMap.mp member
      exact List.mem_filterMap.mpr ⟨other, .tail _ isMember, source⟩
    unfold apply
    split
    · exact .inl rfl
    · split
      · split
        · right
          refine List.mem_filterMap.mpr ⟨range, .head _, ?_⟩
          have := (sound range (.head _)).1
          have back : (((code + range.shift).toNat : Int) - range.shift).toNat = code := by omega
          simp only [Folding.sources, back]
          simp_all
        · exact later
      · exact later

/-- A case map sends characters to characters. -/
theorem isValidChar_apply {ranges : List CaseRange} (sound : ∀ range ∈ ranges, range.IsSound) {code : Nat}
    (valid : code.isValidChar) : (apply ranges code).isValidChar := by
  induction ranges with
  | nil => exact valid
  | cons range ranges ih =>
    have next := ih fun other member => sound other (.tail _ member)
    unfold apply
    split
    · exact valid
    · split
      · split
        · have := sound range (.head _)
          simp only [IsSound] at this
          simp only [Nat.isValidChar] at valid ⊢
          omega
        · exact next
      · exact next

end CaseRange

theorem lowerRanges_isSound : ∀ range ∈ lowerRanges, range.IsSound := by decide +kernel

theorem upperRanges_isSound : ∀ range ∈ upperRanges, range.IsSound := by decide +kernel

theorem toNat_ofNat_apply {ranges : List CaseRange} (sound : ∀ range ∈ ranges, range.IsSound) (c : Char) :
    (Char.ofNat (CaseRange.apply ranges c.toNat)).toNat = CaseRange.apply ranges c.toNat := by
  have valid : (CaseRange.apply ranges c.toNat).isValidChar := CaseRange.isValidChar_apply sound c.valid
  rw [Char.ofNat, dif_pos valid]
  rfl

/-- The variants of a character are all characters that agree with it. -/
theorem toNat_mem_variants {c d : Char} (same : sameFolded c d) :
    d.toNat ∈ Folding.full.variants c := by
  have peers : ∀ peer ∈ casePeers, (Char.ofNat peer.2).toNat = peer.2 := by decide +kernel
  have agree : foldChar d = foldChar c := (beq_iff_eq.mp same).symm
  -- The lower-case form is the root of the class or a peer of it.
  have low : (lowerChar d).toNat ∈
      (foldChar c).toNat :: (casePeers.filter (·.2 == (foldChar c).toNat)).map (·.1) := by
    rw [← agree, foldChar]
    cases found : casePeers.lookup (lowerChar d).toNat with
    | none => simp
    | some peer =>
      have member : ((lowerChar d).toNat, peer) ∈ casePeers := by
        obtain ⟨front, back, split, -⟩ := List.lookup_eq_some_iff.mp found
        simp [split]
      refine List.mem_cons_of_mem _ (List.mem_map.mpr ⟨_, List.mem_filter.mpr ⟨member, ?_⟩, rfl⟩)
      simpa using (peers _ member).symm
  have image : CaseRange.apply lowerRanges d.toNat = (lowerChar d).toNat :=
    (toNat_ofNat_apply lowerRanges_isSound d).symm
  simp only [Folding.variants, List.mem_append, List.mem_flatMap]
  rcases CaseRange.apply_eq_self_or_mem lowerRanges_isSound d.toNat with fixed | moved
  · left
    rwa [← fixed, image]
  · right
    exact ⟨_, low, by rwa [← image]⟩

/-- A character is the upper-case form, or a part of it, of no other character. -/
def IsOwnCapitalOnly (d : Char) : Prop :=
  (∀ expansion ∈ upperExpansions, d.toNat ∉ expansion.2) ∧
    upperRanges.filterMap (Folding.sources d.toNat) = []

instance (d : Char) : Decidable (IsOwnCapitalOnly d) := by
  unfold IsOwnCapitalOnly
  infer_instance

theorem eq_of_mem_upperOf {c d : Char} (own : IsOwnCapitalOnly d) (member : d ∈ upperOf c) : c = d := by
  have codes : ∀ expansion ∈ upperExpansions, ∀ code ∈ expansion.2, (Char.ofNat code).toNat = code := by
    decide +kernel
  unfold upperOf at member
  split at member
  · rename_i expanded found
    obtain ⟨front, back, split, -⟩ := List.lookup_eq_some_iff.mp found
    have isMember : (c.toNat, expanded) ∈ upperExpansions := by simp [split]
    obtain ⟨code, inCodes, same⟩ := List.mem_map.mp member
    have := codes _ isMember code inCodes
    rw [same] at this
    exact absurd (this ▸ inCodes) (own.1 _ isMember)
  · have same : d.toNat = CaseRange.apply upperRanges c.toNat := by
      rw [List.mem_singleton.mp member, toNat_ofNat_apply upperRanges_isSound]
    rcases CaseRange.apply_eq_self_or_mem upperRanges_isSound c.toNat with fixed | moved
    · exact Char.toNat_inj.mp (by rw [same, fixed])
    · rw [← same, own.2] at moved
      exact absurd moved List.not_mem_nil

end StepFlow.Text
