import StepFlow.Proofs.Netlist.Bands
import StepFlow.Proofs.Netlist.Density

/-! # When generation fails

Under the scheme of bands the contents of a network have to fit into its band. How many identifiers they take depends
on nothing but the number of steps and of cultures, so it is known beforehand which programs are too large. Besides
these only a program without steps has no netlist.
-/

namespace StepFlow.Netlist

namespace Design

/-- How many identifiers the band of a network has. -/
def capacity : Design → Int
  | .rest .. => stepBandStart - restBandStart
  | .numbered .. => stepBandSize

/-- The contents of a network fit into its band. -/
def Fits (cultures : List String) (design : Design) : Prop := design.demand cultures ≤ design.capacity

end Design

/-- An outcome that the bands explain: there are networks and all designs fit, or one does not fit and its title is in
the fault. -/
def Settled {α : Type} (cultures : List String) (designs : List Design) (outcome : Except GenerationFault α) : Prop :=
  (∃ made, outcome = .ok made) ∧ (∀ design ∈ designs, design.Fits cultures) ∨
    ∃ design ∈ designs, ¬design.Fits cultures ∧ outcome = .error (.bandExhausted design.title)

section Networks

variable {cultures : List String} {plan : UidPlan}

/-- A design gives a network in a band of its own just if it fits. -/
theorem makeNetwork_own {design : Design} (short : design.width < 10 ^ Text.maxDigits) (start : Int) :
    (∃ network, makeNetwork plan (.own { start, limit := some (start + design.capacity) }) design.title cultures
        design.wiring = .ok (network, { plan with document := plan.document.advance })) ∧ design.Fits cultures ∨
      ¬design.Fits cultures ∧ makeNetwork plan (.own { start, limit := some (start + design.capacity) }) design.title
        cultures design.wiring = .error (.bandExhausted design.title) := by
  obtain ⟨network, made⟩ := makeNetwork_eq plan (.own { start, limit := some (start + design.capacity) }) cultures short
  have overflows : (Allocator.advanceBy { start, limit := some (start + design.capacity) }
      (design.demand cultures)).overflowed = true ↔ ¬design.Fits cultures := by
    rw [Allocator.overflowed, Design.Fits, not_le]
    simp [Allocator.advanceBy]
  rw [made]
  by_cases fits : design.Fits cultures
  · refine .inl ⟨⟨network, ?_⟩, fits⟩
    exact if_neg fun overflowed => overflows.mp overflowed fits
  · exact .inr ⟨fits, if_pos (overflows.mpr fits)⟩

/-- Networks that are made one after the other are settled if the first is and those after it are. -/
theorem Settled.cons {design : Design} {designs : List Design} (short : design.width < 10 ^ Text.maxDigits)
    (start : Int) {following : UidPlan → Except GenerationFault (List Network × UidPlan)}
    (bands : plan.scheme = .bands)
    (later : ∀ plan : UidPlan, plan.scheme = .bands → Settled cultures designs (following plan)) :
    Settled cultures (design :: designs) (do
      let (network, plan) ← makeNetwork plan (.own { start, limit := some (start + design.capacity) }) design.title
        cultures design.wiring
      let (networks, plan) ← following plan
      return (network :: networks, plan)) := by
  rcases makeNetwork_own short start with ⟨⟨network, made⟩, fits⟩ | ⟨large, failed⟩
  · rw [made]
    rcases later { plan with document := plan.document.advance } bands with
      ⟨⟨others, made⟩, fit⟩ | ⟨other, member, large, failed⟩
    · exact .inl ⟨⟨_, bind_of_eq_ok made _⟩, List.forall_mem_cons.mpr ⟨fits, fit⟩⟩
    · refine .inr ⟨other, .tail _ member, large, ?_⟩
      change (following _ >>= _) = _
      rw [failed]
      rfl
  · rw [failed]
    exact .inr ⟨design, .head _, large, rfl⟩

variable (bands : plan.scheme = .bands)
include bands

theorem stepNetworks_settled (previous index : Nat) (steps : List Step) :
    Settled cultures (stepDesigns previous steps) (stepNetworks cultures plan previous index steps) := by
  induction steps generalizing plan previous index with
  | nil => exact .inl ⟨⟨_, rfl⟩, nofun⟩
  | cons step rest ih =>
    have short : (Design.numbered previous step rest.head?).width < 10 ^ Text.maxDigits :=
      Text.lt_pow_maxDigits (by simp [Design.width, Text.maxDigits])
    rw [stepNetworks, plan.stepNetwork_of_bands bands]
    exact Settled.cons short _ bands fun plan bands => ih bands step.number (index + 1)

theorem programNetworks_settled {program : Program}
    (short : program.restStep?.isSome → program.sequentialSteps.length < 10 ^ Text.maxDigits) :
    Settled cultures (designsOf program) (programNetworks cultures plan program) := by
  rw [programNetworks, designsOf]
  cases found : program.restStep? with
  | none => exact stepNetworks_settled bands 0 0 program.sequentialSteps
  | some rest =>
    rw [plan.restNetwork_of_bands bands]
    have width : (Design.rest rest program.sequentialSteps).width < 10 ^ Text.maxDigits := short (by simp [found])
    exact Settled.cons width _ bands fun plan bands => stepNetworks_settled bands 0 0 program.sequentialSteps

end Networks

/-! ## Which designs are too large -/

section Sizes

variable (cultures : List String)

/-- The last of the numbered steps drives a coil, which takes less than the latches of the others. -/
theorem exists_stepDesign_too_large (previous : Nat) (steps : List Step) :
    (∃ design ∈ stepDesigns previous steps, ¬design.Fits cultures) ↔
      1 ≤ steps.length ∧ 100 < 2 * cultures.length + 13 ∨ 2 ≤ steps.length ∧ 100 < 2 * cultures.length + 15 := by
  induction steps generalizing previous with
  | nil => simp [stepDesigns]
  | cons step rest ih =>
    have here : ¬(Design.numbered previous step rest.head?).Fits cultures ↔
        100 < 2 * cultures.length + if rest.length = 0 then 13 else 15 := by
      rw [Design.Fits, Design.demand, Design.capacity, Design.size, stepBandSize]
      cases rest <;> simp [Design.width, Design.reset] <;> omega
    simp only [stepDesigns, List.mem_cons, exists_eq_or_imp, here, ih, List.length_cons]
    split <;> omega

theorem rest_too_large_iff (rest : Step) (sequential : List Step) :
    ¬(Design.rest rest sequential).Fits cultures ↔
      500 < 2 * sequential.length + 2 * cultures.length + 7 + if 0 < sequential.length then 2 else 0 := by
  rw [Design.Fits, Design.demand, Design.capacity, Design.size, stepBandStart, restBandStart]
  cases sequential <;> simp [Design.width, Design.reset] <;> omega

/-- What a program is too large for: the band of the rest network, that of the last step or that of a step before. -/
theorem exists_design_too_large (program : Program) :
    (∃ design ∈ designsOf program, ¬design.Fits cultures) ↔
      program.restStep?.isSome ∧ 500 < 2 * program.sequentialSteps.length + 2 * cultures.length + 7 +
          (if 0 < program.sequentialSteps.length then 2 else 0) ∨
        1 ≤ program.sequentialSteps.length ∧ 100 < 2 * cultures.length + 13 ∨
        2 ≤ program.sequentialSteps.length ∧ 100 < 2 * cultures.length + 15 := by
  rw [← exists_stepDesign_too_large cultures 0, designsOf]
  cases program.restStep? with
  | none => simp
  | some rest =>
    rw [← rest_too_large_iff cultures rest]
    simp

end Sizes

/-! ## Documents -/

section Documents

variable {options : GeneratorOptions} {program : Program} (nonempty : program.steps ≠ [])
  (short : program.restStep?.isSome → program.sequentialSteps.length < 10 ^ Text.maxDigits)
include nonempty short

theorem Document.exists_ofProgram_of_monotonic (monotonic : options.scheme = .monotonic) :
    ∃ document, ofProgram options program = .ok document := by
  have endless : (blockTitle options).2.limit = none := (blockTitle_issues options).limit_eq
  obtain ⟨networks, made⟩ : ∃ made,
      programNetworks options.cultures ⟨options.scheme, (blockTitle options).2⟩ program = .ok made := by
    cases found : program.restStep? with
    | none =>
      simp only [programNetworks, found]
      exact exists_stepNetworks monotonic endless 0 0 program.sequentialSteps
    | some rest => exact exists_programNetworks monotonic endless (short (by rw [found]; rfl))
  rw [ofProgram_eq (by simpa using nonempty), made]
  exact ⟨_, rfl⟩

theorem Document.ofProgram_settled (bands : options.scheme = .bands) :
    Settled options.cultures (designsOf program) (ofProgram options program) := by
  have settled : Settled options.cultures (designsOf program)
      (programNetworks options.cultures ⟨options.scheme, (blockTitle options).2⟩ program) :=
    programNetworks_settled bands short
  rw [ofProgram_eq (by simpa using nonempty)]
  rcases settled with ⟨⟨networks, made⟩, fit⟩ | ⟨design, member, large, failed⟩
  · rw [made]
    exact .inl ⟨⟨_, rfl⟩, fit⟩
  · rw [failed]
    exact .inr ⟨design, member, large, rfl⟩

end Documents

/-- Generation fails just for programs without steps and, under the scheme of bands, for those that are too large: for
the band of the rest network, for that of the last step or for that of a step before it. No fault tells of anything
else, such as ports or wires. -/
theorem Document.ofProgram_fails_iff (options : GeneratorOptions) (program : Program)
    (short : program.restStep?.isSome → program.sequentialSteps.length < 10 ^ Text.maxDigits) :
    ((¬∃ document, ofProgram options program = .ok document) ↔
      program.steps = [] ∨ options.scheme = .bands ∧
        (program.restStep?.isSome ∧ 500 < 2 * program.sequentialSteps.length + 2 * options.cultures.length + 7 +
            (if 0 < program.sequentialSteps.length then 2 else 0) ∨
          1 ≤ program.sequentialSteps.length ∧ 100 < 2 * options.cultures.length + 13 ∨
          2 ≤ program.sequentialSteps.length ∧ 100 < 2 * options.cultures.length + 15)) ∧
      ∀ fault, ofProgram options program = .error fault → fault = .noSteps ∨ ∃ title, fault = .bandExhausted title := by
  rw [← exists_design_too_large]
  by_cases empty : program.steps = []
  · have failed : ofProgram options program = .error .noSteps := by
      simp only [ofProgram, empty, List.isEmpty_nil, if_true]
      rfl
    simp [failed, empty, eq_comm]
  · cases scheme : options.scheme with
    | monotonic =>
      obtain ⟨document, built⟩ := exists_ofProgram_of_monotonic empty short scheme
      simp [built, empty]
    | bands =>
      rcases ofProgram_settled empty short scheme with ⟨⟨document, built⟩, fit⟩ | ⟨design, member, large, failed⟩
      · simpa [built, empty] using fit
      · have isLarge : ∃ design ∈ designsOf program, ¬design.Fits options.cultures := ⟨design, member, large⟩
        simpa [failed, empty, eq_comm] using isLarge

/-- With two steps, 42 cultures fit into the bands. With 43 the last step still fits, but not the step before it. -/
theorem Document.ofProgram_fails_iff_twoStepProgram :
    twoStepProgram.sequentialSteps.length < 10 ^ Text.maxDigits ∧
      (∃ document, ofProgram { scheme := .bands, cultures := List.replicate 42 "nl-NL" } twoStepProgram =
        .ok document) ∧
      ¬∃ document, ofProgram { scheme := .bands, cultures := List.replicate 43 "nl-NL" } twoStepProgram =
        .ok document := by
  have short : twoStepProgram.sequentialSteps.length < 10 ^ Text.maxDigits := Text.lt_pow_maxDigits (by decide)
  refine ⟨short, ?_, ?_⟩
  · by_contra failed
    exact absurd ((ofProgram_fails_iff _ _ fun _ => short).1.mp failed) (by decide)
  · exact (ofProgram_fails_iff _ _ fun _ => short).1.mpr (.inr ⟨rfl, .inr (.inr (by decide))⟩)

end StepFlow.Netlist
