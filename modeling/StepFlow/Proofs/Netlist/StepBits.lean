import StepFlow.Proofs.Checking.Numbering
import StepFlow.Proofs.Netlist.Meaning

/-! # Every step bit has one writer

Each network writes one step bit. Where no two steps of a program share a bit, no two networks of its netlist
write the same bit, and no step is without a network.
-/

namespace StepFlow.Netlist

/-- The network has one driver, and one wire from a step bit leads to the driver's operand. -/
def Network.Writes (network : Network) (number : Int) : Prop :=
  ∃ driver wire access, network.drivers = [driver] ∧ network.feeds driver.uid "operand" = [wire] ∧
    network.part? wire.source.uid = some (.local access) ∧ access.array = stepArray ∧ access.index = number

/-- The places of the step array that the interface comments on. -/
def Interface.stepPaths (interface : Interface) : List String :=
  ((interface.sections.flatMap InterfaceSection.members).filter fun member => member.name == stepArray).flatMap
    fun member => member.subelements.map Subelement.path

/-- One network for each step, each step bit written by one of them, and no place of the step array commented on
twice. -/
structure Document.WritesStepsOnce (program : Program) (document : Document) : Prop where
  networks : document.block.networks.length = program.steps.length
  writes : ∃ numbers, List.Forall₂ Network.Writes document.block.networks numbers ∧ numbers.Nodup ∧
    ∀ number, number ∈ numbers ↔ number ∈ program.stepNumbers
  paths : document.block.interface.stepPaths.length = program.steps.length ∧
    document.block.interface.stepPaths.Nodup

theorem Design.Realizes.writes {cultures : List String} {design : Design} {network : Network}
    (realized : design.Realizes cultures network) : network.Writes design.target := by
  obtain ⟨⟨first, parts, wires⟩, _⟩ := realized
  obtain ⟨wire, access, fed, found⟩ := Design.operand_fed parts wires
  exact ⟨_, wire, _, Design.drivers_eq parts, fed, found, rfl, rfl⟩

theorem map_target_stepDesigns (previous : Nat) (steps : List Step) :
    (stepDesigns previous steps).map Design.target = steps.map Step.number := by
  induction steps generalizing previous with
  | nil => rfl
  | cons step rest ih => simp only [stepDesigns, List.map_cons, Design.target, ih]

theorem map_target_designsOf (program : Program) :
    (designsOf program).map Design.target =
      (program.restStep?.toList ++ program.sequentialSteps).map Step.number := by
  rw [designsOf, List.map_append, List.map_append, map_target_stepDesigns]
  cases program.restStep? <;> rfl

theorem stepPaths_interfaceOf (program : Program) :
    (interfaceOf program).stepPaths = program.steps.map fun step => toString step.number := by
  simp [Interface.stepPaths, interfaceOf, SectionName.all, outputMembers, staticMembers, helperArrays, stepArray]

/-- Steps with different bits have their own networks, which write them. -/
theorem Document.writesStepsOnce {options : GeneratorOptions} {program : Program} {document : Document}
    (distinct : (program.steps.map Step.number).Nodup)
    (built : Document.ofProgram options program = .ok document) : document.WritesStepsOnce program := by
  obtain ⟨interface, realized⟩ := Document.ofProgram_realizes built
  have targets : ((designsOf program).map Design.target).Perm (program.steps.map Step.number) := by
    rw [map_target_designsOf]
    exact (Program.perm_of_nodup_number distinct).map Step.number
  refine ⟨?_, ⟨(designsOf program).map fun design => (design.target : Int), ?_, ?_, ?_⟩, ?_, ?_⟩
  · rw [← realized.length_eq]
    simpa using targets.length_eq
  · rw [List.forall₂_map_right_iff]
    exact (realized.imp fun _ _ realizes => realizes.writes).flip
  · have unique := (targets.nodup_iff.mpr distinct).map (f := ((↑) : Nat → Int)) Nat.cast_injective
    rwa [List.map_map] at unique
  · intro number
    have casts := (targets.map ((↑) : Nat → Int)).mem_iff (a := number)
    rw [List.map_map, List.map_map] at casts
    exact casts.trans mem_ascending.symm
  · rw [interface, stepPaths_interfaceOf, List.length_map]
  · rw [interface, stepPaths_interfaceOf]
    have unique := List.Nodup.map (f := Nat.repr) (fun _ _ => Nat.repr_injective) distinct
    rwa [List.map_map] at unique

end StepFlow.Netlist
