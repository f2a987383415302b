import StepFlow.Proofs.Netlist.Generation

/-! # One counter for the whole document

Under the monotonic scheme a document uses the identifiers from zero on without a gap. What is made first has the
smaller identifiers, so the parts of a network are numbered upwards, and so are its wires.
-/

namespace StepFlow.Netlist

/-- Every identifier below their number is used once, and each network numbers its parts and its wires upwards. -/
structure Document.DenselyNumbered (document : Document) : Prop where
  dense : document.uids.Perm ((List.range document.uids.length).map Int.ofNat)
  parts : ∀ network ∈ document.block.networks, (network.parts.map Part.uid).Pairwise (· < ·)
  wires : ∀ network ∈ document.block.networks, (network.wires.map Wire.uid).Pairwise (· < ·)

theorem pairwise_uidRun (first : Int) (count : Nat) : (uidRun first count).Pairwise (· < ·) := by
  rw [uidRun, List.pairwise_map]
  refine List.pairwise_lt_range.imp fun smaller => ?_
  omega

/-- The wires of a design are drawn in the order of their identifiers. -/
theorem Design.pairwise_wires (first : Int) (design : Design) :
    ((design.wires first).map Wire.uid).Pairwise (· < ·) := by
  have driven (gate driver : Int) : ((design.driverWires gate driver).map Wire.uid).Pairwise (· < ·) ∧
      ∀ uid ∈ (design.driverWires gate driver).map Wire.uid, driver < uid := by
    cases design with
    | rest step sequential => cases sequential <;> simp
    | numbered previous step next => cases next <;> simp
  rw [wires, List.map_append, map_uid_gateWires, length_inputs, List.pairwise_append]
  refine ⟨pairwise_uidRun .., (driven ..).1, ?_⟩
  intro uid atGate other atDriver
  have low := (mem_uidRun.mp atGate).2
  have high := (driven ..).2 other atDriver
  simp only [driver] at high
  omega

section Issues

variable {plan after : UidPlan} {cultures : List String}

theorem makeNetwork_issues_document (design : Design) {network : Network}
    (made : makeNetwork plan .document design.title cultures design.wiring = .ok (network, after)) :
    plan.document.Issues network.uids after.document ∧ after.scheme = plan.scheme := by
  obtain ⟨named, done, issued, -, rfl⟩ := makeNetwork_issues made
  refine ⟨?_, rfl⟩
  rw [Network.uids_eq, named]
  exact (Allocator.Issues.next _).append issued

variable (monotonic : plan.scheme = .monotonic)
include monotonic

theorem UidPlan.restNetwork_of_monotonic : plan.restNetwork = .document := by
  simp [restNetwork, monotonic]

theorem UidPlan.stepNetwork_of_monotonic (index : Int) : plan.stepNetwork index = .document := by
  simp [stepNetwork, monotonic]

theorem stepNetworks_issues {previous index : Nat} {steps : List Step} {networks : List Network}
    (made : stepNetworks cultures plan previous index steps = .ok (networks, after)) :
    plan.document.Issues (networks.flatMap Network.uids) after.document := by
  induction steps generalizing plan previous index networks with
  | nil =>
    cases made
    exact .nil _
  | cons step rest ih =>
    obtain ⟨network, between, others, rfl, first, following⟩ := stepNetworks_cons_eq_ok made
    rw [plan.stepNetwork_of_monotonic monotonic] at first
    obtain ⟨issued, scheme⟩ := makeNetwork_issues_document (.numbered previous step rest.head?) first
    exact issued.append (ih (scheme.trans monotonic) following)

theorem programNetworks_issues {program : Program} {networks : List Network}
    (made : programNetworks cultures plan program = .ok (networks, after)) :
    plan.document.Issues (networks.flatMap Network.uids) after.document := by
  rcases programNetworks_eq_ok made with ⟨-, made⟩ | ⟨rest, network, between, others, -, rfl, first, following⟩
  · exact stepNetworks_issues monotonic made
  · rw [plan.restNetwork_of_monotonic monotonic] at first
    obtain ⟨issued, scheme⟩ := makeNetwork_issues_document (.rest rest program.sequentialSteps) first
    exact issued.append (stepNetworks_issues (scheme.trans monotonic) following)

variable (unlimited : plan.document.limit = none)
include unlimited

/-- A counter without limit makes one network after the other. -/
theorem exists_makeNetwork_document (design : Design) (short : design.width < 10 ^ Text.maxDigits) :
    ∃ network after, makeNetwork plan .document design.title cultures design.wiring = .ok (network, after) ∧
      after.scheme = .monotonic ∧ after.document.limit = none := by
  obtain ⟨⟨network, after⟩, made⟩ := exists_makeNetwork unlimited short cultures
  obtain ⟨issued, scheme⟩ := makeNetwork_issues_document design made
  exact ⟨network, after, made, scheme.trans monotonic, issued.limit_eq.trans unlimited⟩

theorem exists_stepNetworks (previous index : Nat) (steps : List Step) :
    ∃ made, stepNetworks cultures plan previous index steps = .ok made := by
  induction steps generalizing plan previous index with
  | nil => exact ⟨_, rfl⟩
  | cons step rest ih =>
    obtain ⟨network, between, first, scheme, endless⟩ :=
      exists_makeNetwork_document monotonic unlimited (.numbered previous step rest.head?)
        (Text.lt_pow_maxDigits (by simp [Design.width, Text.maxDigits]))
    obtain ⟨⟨others, last⟩, following⟩ := ih scheme endless step.number (index + 1)
    refine ⟨(network :: others, last), ?_⟩
    rw [stepNetworks, plan.stepNetwork_of_monotonic monotonic]
    exact (bind_of_eq_ok first _).trans (bind_of_eq_ok following _)

theorem exists_programNetworks {program : Program} (short : program.sequentialSteps.length < 10 ^ Text.maxDigits) :
    ∃ made, programNetworks cultures plan program = .ok made := by
  simp only [programNetworks]
  cases program.restStep? with
  | none => exact exists_stepNetworks monotonic unlimited 0 0 program.sequentialSteps
  | some rest =>
    obtain ⟨network, between, first, scheme, endless⟩ :=
      exists_makeNetwork_document monotonic unlimited (.rest rest program.sequentialSteps) short
    obtain ⟨⟨others, last⟩, following⟩ := exists_stepNetworks scheme endless 0 0 program.sequentialSteps
    refine ⟨(network :: others, last), ?_⟩
    rw [plan.restNetwork_of_monotonic monotonic]
    exact (bind_of_eq_ok first _).trans (bind_of_eq_ok following _)

end Issues

/-- The parts and wires of a network that realizes a design are numbered upwards. -/
theorem Design.Realizes.pairwise_uids {cultures : List String} {design : Design} {network : Network}
    (realized : design.Realizes cultures network) :
    (network.parts.map Part.uid).Pairwise (· < ·) ∧ (network.wires.map Wire.uid).Pairwise (· < ·) := by
  obtain ⟨⟨first, parts, wires⟩, -⟩ := realized
  rw [parts, wires, List.pairwise_map]
  exact ⟨design.pairwise_parts first _, design.pairwise_wires first⟩

theorem Document.networks_pairwise_uids {options : GeneratorOptions} {program : Program} {document : Document}
    (built : ofProgram options program = .ok document) :
    ∀ network ∈ document.block.networks,
      (network.parts.map Part.uid).Pairwise (· < ·) ∧ (network.wires.map Wire.uid).Pairwise (· < ·) := by
  intro network member
  obtain ⟨-, realized⟩ := ofProgram_realizes built
  obtain ⟨index, bound, rfl⟩ := List.mem_iff_getElem.mp member
  exact (realized.get (realized.length_eq ▸ bound) bound).pairwise_uids

/-- From nothing on, the counter of the document hands out all identifiers of the document. -/
theorem Document.issues_uids {options : GeneratorOptions} {program : Program} {document : Document}
    (monotonic : options.scheme = .monotonic) (built : ofProgram options program = .ok document) :
    ∃ done, Allocator.Issues {} document.uids done := by
  obtain ⟨networks, plan, made, rfl⟩ := ofProgram_eq_ok built
  have inPlace : options.defersItems = false := by simp [GeneratorOptions.defersItems, monotonic]
  have issued := ((blockTitle_issues options).append (programNetworks_issues monotonic made)).append
    (draft_issues options program networks plan.document)
  simp only [inPlace, Bool.false_eq_true, ↓reduceIte]
  refine ⟨_, issued.perm ((perm_made _).trans (.of_eq ?_))⟩
  rw [draft_block]

/-- Under the monotonic scheme a document is numbered densely, and there is one unless its rest network has more
inputs than ports can be numbered for. -/
theorem Document.ofProgram_denselyNumbered {options : GeneratorOptions} {program : Program}
    (monotonic : options.scheme = .monotonic) (nonempty : program.steps ≠ []) :
    (∀ document, ofProgram options program = .ok document → document.DenselyNumbered) ∧
      (program.sequentialSteps.length < 10 ^ Text.maxDigits →
        ∃ document, ofProgram options program = .ok document) := by
  constructor
  · intro document built
    obtain ⟨done, -, permuted⟩ := issues_uids monotonic built
    have upwards := networks_pairwise_uids built
    refine ⟨?_, fun network member => (upwards network member).1, fun network member => (upwards network member).2⟩
    refine permuted.trans (.of_eq ?_)
    simp [uidRun]
  · intro short
    let plan : UidPlan := ⟨options.scheme, (blockTitle options).2⟩
    have endless : plan.document.limit = none := (blockTitle_issues options).limit_eq
    obtain ⟨⟨networks, last⟩, made⟩ : ∃ made, programNetworks options.cultures plan program = .ok made :=
      exists_programNetworks monotonic endless short
    rw [ofProgram_eq (by simpa using nonempty), made]
    exact ⟨_, rfl⟩

/-- Two steps with an instance, in one culture, use the identifiers from 0 to 59. -/
theorem Document.ofProgram_denselyNumbered_twoStepProgram :
    ∃ document, ofProgram { includeInstance := true, cultures := ["nl-NL"] } twoStepProgram = .ok document ∧
      document.uids.length = 60 ∧ document.DenselyNumbered := by
  obtain ⟨document, built, counted⟩ : ∃ document,
      ofProgram { includeInstance := true, cultures := ["nl-NL"] } twoStepProgram = .ok document ∧
        document.uids.length = 60 := ⟨_, rfl, rfl⟩
  exact ⟨document, built, counted, (ofProgram_denselyNumbered (by rfl) (by decide)).1 document built⟩

end StepFlow.Netlist
