import StepFlow.Proofs.Keys
import StepFlow.Proofs.Netlist.Design

/-! # What a network computes

A network is read by following its wires: every end of a wire is found by its identifier. Accesses carry
the values of memory and a gate carries the conjunction of what its ports are fed. The driver of a network
is its latch or coil; what the network does is to drive one place of memory with the value at its input,
and perhaps with a value that resets it. The networks of a program do what their steps ask for.
-/

namespace StepFlow.Netlist

/-- The truth values in local arrays. -/
abbrev Memory := String → Int → Bool

/-- What a network does to memory: the place that its driver writes, the value at the driver's input, and
the value that resets it, if one is wired. -/
structure Drive where
  type : PartType
  operand : String × Int
  input : Bool
  reset : Option Bool
  deriving Repr, DecidableEq

/-- The value that an access carries; instructions carry none by themselves. -/
def Part.carried? (memory : Memory) : Part → Option Bool
  | .local access => some (memory access.array access.index)
  | .literal access => some (access.value == "true")
  | .instruction _ => none

/-- The port at which a latch or a coil takes the value that it drives. -/
def Instruction.drivenPort (driver : Instruction) : String := if driver.type = .coil then "in" else "s"

/-- The ports that a gate states to have. -/
def Instruction.inputPorts (part : Instruction) : List String := gatePorts (part.cardinality.getD 0).toNat

namespace Network

/-- The wires that end at a port. -/
def feeds (network : Network) (uid : Int) (port : String) : List Wire :=
  network.wires.filter fun wire => wire.target == ⟨uid, port⟩

/-- The ports of a part at which wires end. -/
def fedPorts (network : Network) (uid : Int) : List String :=
  (network.wires.filter fun wire => wire.target.uid == uid).map fun wire => wire.target.port

/-- The latches and coils. -/
def drivers (network : Network) : List Instruction :=
  network.parts.filterMap fun
    | .instruction part => if part.type = .and then none else some part
    | _ => none

/-- The values that the ports of a gate are fed, inverted where the gate says so. A port that is not fed by
exactly one wire has no value. -/
def portValues? (network : Network) (value : Source → Option Bool) (gate : Instruction) :
    Option (List Bool) :=
  gate.inputPorts.mapM fun port =>
    match network.feeds gate.uid port with
    | [wire] => (value wire.source).map fun fed => fed ^^ gate.negated.contains port
    | _ => none

/-- The value at the start of a wire, followed through at most the given number of parts. -/
def valueWithin (network : Network) (memory : Memory) : Nat → Source → Option Bool
  | 0, _ => none
  | depth + 1, source =>
    match network.part? source.uid with
    | some (.instruction part) =>
      if part.type = .and ∧ source.port = some "out" then
        (network.portValues? (network.valueWithin memory depth) part).map fun values => values.all id
      else none
    | some access => access.carried? memory
    | none => none

/-- The value at the start of a wire. A path that is longer than the network has parts is a loop, which
carries no value. -/
def value? (network : Network) (memory : Memory) : Source → Option Bool :=
  network.valueWithin memory network.parts.length

/-- The place of memory that a driver writes. -/
def operand? (network : Network) (driver : Instruction) : Option (String × Int) :=
  match network.feeds driver.uid "operand" with
  | [wire] =>
    match network.part? wire.source.uid with
    | some (.local access) => some (access.array, access.index)
    | _ => none
  | _ => none

/-- The value at a port of a driver, or that no wire ends there. -/
def fedValue? (network : Network) (memory : Memory) (driver : Instruction) (port : String) :
    Option (Option Bool) :=
  match network.feeds driver.uid port with
  | [] => some none
  | [wire] => (network.value? memory wire.source).map some
  | _ => none

/-- What a network with one driver does. -/
def drive? (network : Network) (memory : Memory) : Option Drive :=
  match network.drivers with
  | [driver] => do
    let operand ← network.operand? driver
    let input ← (← network.fedValue? memory driver driver.drivenPort)
    let reset ← network.fedValue? memory driver "r1"
    return ⟨driver.type, operand, input, reset⟩
  | _ => none

/-- A network in which no port is fed twice and its gates are fed at just the ports that they state. -/
structure WellWired (network : Network) : Prop where
  fedOnce : ∀ uid port, (network.feeds uid port).length ≤ 1
  gatesFed : ∀ gate ∈ network.instructionsOf .and,
    ∃ count : Nat, gate.cardinality = some (count : Int) ∧ network.fedPorts gate.uid = gatePorts count

/-- A network with one gate and one driver: the values that the gate's ports are fed, the gate's output as
the only input of the driver, and what the driver does. -/
structure Computes (network : Network) (values : Memory → List Bool) (drive : Memory → Drive) : Prop where
  gated : ∃ gate driver wire, network.instructionsOf .and = [gate] ∧ network.drivers = [driver] ∧
    network.feeds driver.uid driver.drivenPort = [wire] ∧ wire.source = ⟨gate.uid, some "out"⟩ ∧
    ∀ memory, network.portValues? (network.value? memory) gate = some (values memory)
  driven : ∀ memory, network.drive? memory = some (drive memory)

/-- Identifiers that are not repeated find the parts that have them. -/
theorem part?_uid {network : Network} {part : Part} (unique : (network.parts.map Part.uid).Nodup)
    (member : part ∈ network.parts) : network.part? part.uid = some part :=
  find?_key_eq unique member

/-- Where no port is fed twice, a wire is all that feeds its port. -/
theorem feeds_target {network : Network} {wire : Wire} (unique : (network.wires.map Wire.target).Nodup)
    (member : wire ∈ network.wires) : network.feeds wire.target.uid wire.target.port = [wire] :=
  filter_key_eq unique member

theorem valueWithin_access {network : Network} {memory : Memory} {depth : Nat} {part : Part}
    {port : Option String} {value : Bool} (found : network.part? part.uid = some part)
    (carried : part.carried? memory = some value) :
    network.valueWithin memory (depth + 1) ⟨part.uid, port⟩ = some value := by
  rcases part with part | access | access
  · cases carried
  · simpa only [valueWithin, found] using carried
  · simpa only [valueWithin, found] using carried

end Network

theorem uid_of_mem_bitParts {first : Int} {steps : List Step} {part : Part}
    (member : part ∈ bitParts first steps) : first ≤ part.uid ∧ part.uid < first + steps.length := by
  induction steps generalizing first with
  | nil => exact absurd member List.not_mem_nil
  | cons step rest ih =>
    rcases List.mem_cons.mp member with rfl | later
    · simp only [bitPart, Part.uid, List.length_cons]
      omega
    · have bounds := ih later
      simp only [List.length_cons]
      omega

theorem pairwise_bitParts (first : Int) (steps : List Step) :
    (bitParts first steps).Pairwise fun a b => a.uid < b.uid := by
  induction steps generalizing first with
  | nil => exact .nil
  | cons step rest ih =>
    refine .cons ?_ (ih (first + 1))
    intro part member
    have bounds := uid_of_mem_bitParts member
    simp only [bitPart, Part.uid] at bounds ⊢
    omega

theorem target_of_mem_gateWires {gate first : Int} {number : Nat} {inputs : List Part} {wire : Wire}
    (member : wire ∈ gateWires gate first number inputs) :
    wire.target.uid = gate ∧ ∃ index, number ≤ index ∧ wire.target.port = gatePort index := by
  induction inputs generalizing first number with
  | nil => exact absurd member List.not_mem_nil
  | cons input rest ih =>
    rcases List.mem_cons.mp member with rfl | later
    · exact ⟨rfl, number, le_rfl, rfl⟩
    · obtain ⟨uid, index, bound, port⟩ := ih later
      exact ⟨uid, index, by omega, port⟩

theorem nodup_target_gateWires (gate first : Int) (number : Nat) (inputs : List Part) :
    ((gateWires gate first number inputs).map Wire.target).Nodup := by
  induction inputs generalizing first number with
  | nil => exact .nil
  | cons input rest ih =>
    refine List.nodup_cons.mpr ⟨?_, ih (first + 1) (number + 1)⟩
    intro repeated
    obtain ⟨wire, member, same⟩ := List.mem_map.mp repeated
    obtain ⟨_, index, bound, port⟩ := target_of_mem_gateWires member
    rw [same] at port
    have := gatePort_injective port
    omega

theorem ports_gateWires (gate first : Int) (number : Nat) (inputs : List Part) :
    (gateWires gate first number inputs).map (fun wire => wire.target.port) =
      (List.range' number inputs.length).map gatePort := by
  induction inputs generalizing first number with
  | nil => rfl
  | cons input rest ih => simp only [gateWires, List.map_cons, ih, List.length_cons, List.range'_succ]

/-- The wire to an input of a gate comes from the part at that place. -/
theorem mem_gateWires {gate first : Int} {number index : Nat} {inputs : List Part} {input : Part}
    (present : inputs[index]? = some input) :
    ∃ uid, ⟨uid, ⟨input.uid, none⟩, ⟨gate, gatePort (number + index)⟩⟩ ∈
      gateWires gate first number inputs := by
  induction inputs generalizing first number index with
  | nil => cases present
  | cons head rest ih =>
    cases index with
    | zero =>
      cases present
      exact ⟨first, List.mem_cons_self⟩
    | succ index =>
      obtain ⟨uid, member⟩ := @ih (first + 1) (number + 1) index present
      exact ⟨uid, List.mem_cons_of_mem _ (by simpa only [Nat.add_assoc, Nat.add_comm 1] using member)⟩

theorem getElem?_bitParts (first : Int) (steps : List Step) (index : Nat) :
    (bitParts first steps)[index]? = steps[index]?.map fun step => bitPart (first + index) step.number := by
  induction steps generalizing first index with
  | nil => rfl
  | cons step rest ih =>
    cases index with
    | zero => simp [bitParts]
    | succ index =>
      simp only [bitParts, List.getElem?_cons_succ, ih, Nat.cast_add, Nat.cast_one]
      congr 2
      funext step
      congr 1
      omega

namespace Design

/-- The values that the gate of a design is fed, in the order of its ports. -/
def values (memory : Memory) : Design → List Bool
  | .rest _ sequential => sequential.map fun step => !memory stepArray step.number
  | .numbered previous step _ => [memory stepArray previous, !memory stepArray step.number, false]

/-- What the network of a design does: it drives the bit of its step by the conjunction of its values, and the
bit that the design names resets it. -/
def drive (memory : Memory) (design : Design) : Drive :=
  ⟨design.driverType, (stepArray, design.target), (design.values memory).all id,
    design.reset.map fun number : Nat => memory stepArray number⟩

theorem pairwise_parts (first : Int) (cardinality : Option Int) (design : Design) :
    (design.parts first cardinality).Pairwise fun a b => a.uid < b.uid := by
  have inputs : (design.inputs first).Pairwise fun a b => a.uid < b.uid := by
    cases design with
    | rest step sequential => exact pairwise_bitParts first sequential
    | numbered previous step next => simp [bitPart, Part.uid]
  have below : ∀ part ∈ design.inputs first, part.uid < first + design.width := by
    cases design with
    | rest step sequential => exact fun part member => (uid_of_mem_bitParts member).2
    | numbered previous step next => simp [bitPart, Part.uid]
  have accesses (driver : Int) : (design.accesses driver).Pairwise fun a b => a.uid < b.uid := by
    cases design with
    | rest step sequential => cases sequential <;> simp [bitPart, Part.uid]
    | numbered previous step next => cases next <;> simp [bitPart, Part.uid]
  have above (driver : Int) : ∀ part ∈ design.accesses driver, driver < part.uid := by
    cases design with
    | rest step sequential => cases sequential <;> simp [bitPart, Part.uid]
    | numbered previous step next => cases next <;> simp [bitPart, Part.uid]
  refine List.pairwise_append.mpr ⟨inputs, .cons ?_ (.cons (above _) (accesses _)), ?_⟩
  · intro part member
    rcases List.mem_cons.mp member with rfl | later
    · simp only [gate, driver, Part.uid]
      omega
    · have := above _ part later
      simp only [gate, driver, Part.uid] at this ⊢
      omega
  · intro part member other follows
    have small := below part member
    rcases List.mem_cons.mp follows with rfl | follows
    · exact small
    · rcases List.mem_cons.mp follows with rfl | later
      · simp only [driver, Part.uid] at small ⊢
        omega
      · have := above _ other later
        simp only [driver] at this
        omega

theorem nodup_uid_parts (first : Int) (cardinality : Option Int) (design : Design) :
    ((design.parts first cardinality).map Part.uid).Nodup := by
  rw [List.Nodup, List.pairwise_map]
  exact (design.pairwise_parts first cardinality).imp fun smaller => ne_of_lt smaller

theorem nodup_target_driverWires (gate driver : Int) (design : Design) :
    ((design.driverWires gate driver).map Wire.target).Nodup := by
  cases design with
  | rest step sequential => cases sequential <;> simp
  | numbered previous step next => cases next <;> simp

theorem nodup_target_wires (first : Int) (design : Design) : ((design.wires first).map Wire.target).Nodup := by
  rw [wires, List.map_append]
  refine List.Nodup.append (nodup_target_gateWires ..) (nodup_target_driverWires ..) ?_
  intro target atGate atDriver
  obtain ⟨wire, member, rfl⟩ := List.mem_map.mp atGate
  obtain ⟨other, follows, same⟩ := List.mem_map.mp atDriver
  have here := (target_of_mem_gateWires member).1
  rw [← same, target_uid_of_mem_driverWires follows] at here
  simp only [driver] at here
  omega

/-- The wires at the gate lead to its ports in order. -/
theorem fedPorts_wires (first : Int) (design : Design) :
    ((design.wires first).filter fun wire => wire.target.uid == first + design.width).map
      (fun wire => wire.target.port) = gatePorts design.width := by
  have kept : (gateWires (first + design.width) (first + design.width + 1) 1 (design.inputs first)).filter
      (fun wire => wire.target.uid == first + design.width) =
        gateWires (first + design.width) (first + design.width + 1) 1 (design.inputs first) := by
    apply List.filter_eq_self.mpr
    intro wire member
    simp [(target_of_mem_gateWires member).1]
  have dropped : (design.driverWires (first + design.width) (design.driver first).uid).filter
      (fun wire => wire.target.uid == first + design.width) = [] := by
    apply List.filter_eq_nil_iff.mpr
    intro wire member
    rw [target_uid_of_mem_driverWires member]
    simp only [driver, beq_iff_eq]
    omega
  rw [wires, List.filter_append, kept, dropped, List.append_nil, ports_gateWires, length_inputs, gatePorts,
    List.range'_eq_map_range, List.map_map]
  congr 1
  funext index
  simp [Nat.add_comm]

/-- Every input of the gate is an access, and with its inversion it gives the value at its place. -/
theorem carried_inputs (first : Int) (memory : Memory) {design : Design} {index : Nat}
    (bound : index < design.width) :
    ∃ input value, (design.inputs first)[index]? = some input ∧ input.carried? memory = some value ∧
      (design.values memory)[index]? = some (value ^^ design.negated.contains (gatePort (index + 1))) := by
  cases design with
  | rest step sequential =>
    obtain ⟨other, present⟩ : ∃ other, sequential[index]? = some other :=
      ⟨_, List.getElem?_eq_getElem bound⟩
    refine ⟨bitPart (first + index) other.number, memory stepArray other.number, ?_, rfl, ?_⟩
    · simp only [inputs, getElem?_bitParts, present, Option.map_some]
    · have inverted : (gatePorts sequential.length).contains (gatePort (index + 1)) = true := by
        simpa [gatePorts] using ⟨index, bound, rfl⟩
      simp only [values, List.getElem?_map, present, negated, inverted, Option.map_some, Bool.xor_true]
  | numbered previous step next =>
    match index, bound with
    | 0, _ => exact ⟨_, _, rfl, rfl, by simp [values, gatePort_numerals]⟩
    | 1, _ => exact ⟨_, _, rfl, rfl, by simp [values, gatePort_numerals]⟩
    | 2, _ => exact ⟨_, _, rfl, rfl, by simp [values, gatePort_numerals]⟩

end Design

/-- A computation on each element gives the list of their values. -/
theorem mapM_eq_some {α β : Type} {f : α → Option β} {inputs : List α} {outputs : List β}
    (pointwise : List.Forall₂ (fun input output => f input = some output) inputs outputs) :
    inputs.mapM f = some outputs := by
  induction pointwise with
  | nil => rfl
  | cons head _ ih => simp [List.mapM_cons, head, ih]

namespace Design

variable {design : Design} {network : Network} {first : Int}

/-- An access that a network has carries its value to wherever it is wired. -/
theorem valueWithin_of_mem {memory : Memory} {part : Part} {value : Bool} (depth : Nat)
    (parts : network.parts = design.parts first (some design.width))
    (member : part ∈ design.parts first (some design.width)) (carried : part.carried? memory = some value) :
    network.valueWithin memory (depth + 1) ⟨part.uid, none⟩ = some value :=
  Network.valueWithin_access (Network.part?_uid (parts ▸ design.nodup_uid_parts ..) (parts ▸ member)) carried

/-- A wire that a network has is all that feeds its port. -/
theorem feeds_of_mem {wire : Wire} (wires : network.wires = design.wires first)
    (member : wire ∈ design.wires first) : network.feeds wire.target.uid wire.target.port = [wire] :=
  Network.feeds_target (wires ▸ design.nodup_target_wires first) (wires ▸ member)

theorem portValues?_gate (memory : Memory) (depth : Nat)
    (parts : network.parts = design.parts first (some design.width))
    (wires : network.wires = design.wires first) :
    network.portValues? (network.valueWithin memory (depth + 1)) (design.gate first (some design.width)) =
      some (design.values memory) := by
  have length : (design.values memory).length = design.width := by
    cases design with
    | rest step sequential => exact List.length_map _
    | numbered previous step next => rfl
  apply mapM_eq_some
  apply List.forall₂_iff_get.mpr
  refine ⟨by simp [Instruction.inputPorts, gate, gatePorts, length], ?_⟩
  intro index inPorts inValues
  obtain ⟨input, value, present, carried, output⟩ := carried_inputs first memory (length ▸ inValues)
  obtain ⟨uid, member⟩ := @mem_gateWires (first + design.width) (first + design.width + 1) 1 index _ _ present
  have port : (design.gate first (some design.width)).inputPorts.get ⟨index, inPorts⟩ = gatePort (1 + index) := by
    simp [Instruction.inputPorts, gatePorts, Nat.add_comm]
  have fed : network.feeds (first + design.width) (gatePort (1 + index)) =
      [⟨uid, ⟨input.uid, none⟩, ⟨first + design.width, gatePort (1 + index)⟩⟩] :=
    feeds_of_mem wires (List.mem_append_left _ member)
  have known := valueWithin_of_mem depth parts
    (List.mem_append_left _ (List.mem_of_getElem? present)) carried
  rw [port]
  simp only [gate, fed, known, Option.map_some]
  rw [Nat.add_comm 1 index, List.get_eq_getElem]
  exact output.symm.trans (List.getElem?_eq_getElem inValues)

/-- The gate carries the conjunction of its values from its port. -/
theorem valueWithin_gate (memory : Memory) (depth : Nat)
    (parts : network.parts = design.parts first (some design.width))
    (wires : network.wires = design.wires first) :
    network.valueWithin memory (depth + 2) ⟨first + design.width, some "out"⟩ =
      some ((design.values memory).all id) := by
  have found : network.part? (first + design.width) =
      some (.instruction (design.gate first (some design.width))) :=
    @Network.part?_uid network (.instruction (design.gate first (some design.width)))
      (parts ▸ design.nodup_uid_parts ..) (parts ▸ by simp [Design.parts])
  have gated : (design.gate first (some design.width)).type = .and := rfl
  rw [Network.valueWithin]
  simp only [found, gated, and_self, ↓reduceIte, portValues?_gate memory depth parts wires, Option.map_some]

/-- A design has two instructions, which are its gate and its driver. -/
theorem filterMap_parts {α : Type} {read : Part → Option α} (first : Int) (cardinality : Option Int)
    (design : Design) (access : ∀ access, read (.local access) = none)
    (constant : ∀ access, read (.literal access) = none) :
    (design.parts first cardinality).filterMap read =
      (read (.instruction (design.gate first cardinality))).toList ++
        (read (.instruction (design.driver first))).toList := by
  have bits (first : Int) (steps : List Step) : (bitParts first steps).filterMap read = [] := by
    apply List.filterMap_eq_nil_iff.mpr
    intro part member
    obtain ⟨index, present⟩ := List.mem_iff_getElem?.mp member
    rw [getElem?_bitParts] at present
    obtain ⟨step, _, rfl⟩ := Option.map_eq_some_iff.mp present
    exact access _
  have inputs : (design.inputs first).filterMap read = [] := by
    cases design with
    | rest step sequential => exact bits first sequential
    | numbered previous step next => simp [bitPart, access, constant]
  have accesses (driver : Int) : (design.accesses driver).filterMap read = [] := by
    cases design with
    | rest step sequential => cases sequential <;> simp [bitPart, access]
    | numbered previous step next => cases next <;> simp [bitPart, access]
  rw [parts, List.filterMap_append, inputs, List.nil_append, List.filterMap_cons, List.filterMap_cons, accesses]
  cases read (.instruction (design.gate first cardinality)) <;>
    cases read (.instruction (design.driver first)) <;> rfl

theorem instructionsOf_and (parts : network.parts = design.parts first (some design.width)) :
    network.instructionsOf .and = [design.gate first (some design.width)] := by
  rw [Network.instructionsOf, parts, filterMap_parts first _ design (fun _ => rfl) (fun _ => rfl)]
  cases design with
  | rest step sequential => rfl
  | numbered previous step next => cases next <;> rfl

theorem drivers_eq (parts : network.parts = design.parts first (some design.width)) :
    network.drivers = [design.driver first] := by
  rw [Network.drivers, parts, filterMap_parts first _ design (fun _ => rfl) (fun _ => rfl)]
  cases design with
  | rest step sequential => rfl
  | numbered previous step next => cases next <;> rfl

/-- The driver writes the bit of the step. -/
theorem operand_wired (gate driver : Int) (design : Design) :
    ∃ uid access, ⟨uid, ⟨access, none⟩, ⟨driver, "operand"⟩⟩ ∈ design.driverWires gate driver ∧
      bitPart access design.target ∈ design.accesses driver := by
  cases design with
  | rest step sequential =>
    cases sequential with
    | nil => exact ⟨driver + 3, driver + 2, by simp⟩
    | cons first others => exact ⟨driver + 5, driver + 4, by simp⟩
  | numbered previous step next =>
    cases next with
    | none => exact ⟨driver + 3, driver + 1, by simp⟩
    | some next => exact ⟨driver + 5, driver + 2, by simp⟩

/-- The bit that a design names for it is wired to the reset of the driver. -/
theorem reset_wired (gate driver : Int) {design : Design} {number : Nat} (named : design.reset = some number) :
    ∃ uid access, ⟨uid, ⟨access, none⟩, ⟨driver, "r1"⟩⟩ ∈ design.driverWires gate driver ∧
      bitPart access number ∈ design.accesses driver := by
  cases design with
  | rest step sequential =>
    cases sequential with
    | nil => cases named
    | cons first others => cases named; exact ⟨driver + 2, driver + 1, by simp⟩
  | numbered previous step next =>
    cases next with
    | none => cases named
    | some next => cases named; exact ⟨driver + 4, driver + 1, by simp⟩

/-- A driver that nothing resets has no wire at its reset. -/
theorem port_ne_of_reset_eq_none {gate driver : Int} {design : Design} {wire : Wire}
    (unnamed : design.reset = none) (member : wire ∈ design.driverWires gate driver) :
    wire.target.port ≠ "r1" := by
  cases design with
  | rest step sequential =>
    cases sequential with
    | nil => rcases List.mem_pair.mp member with rfl | rfl <;> simp
    | cons first others => cases unnamed
  | numbered previous step next =>
    cases next with
    | none => rcases List.mem_pair.mp member with rfl | rfl <;> simp
    | some next => cases unnamed

/-- The gate is wired to the port at which the driver takes its value. -/
theorem input_wired (gate first : Int) (design : Design) :
    ∃ uid, ⟨uid, ⟨gate, some "out"⟩,
      ⟨(design.driver first).uid, (design.driver first).drivenPort⟩⟩ ∈
        design.driverWires gate (design.driver first).uid := by
  cases design with
  | rest step sequential =>
    cases sequential with
    | nil => exact ⟨_, List.mem_cons_self⟩
    | cons head others => exact ⟨_, List.mem_cons_of_mem _ List.mem_cons_self⟩
  | numbered previous step next =>
    cases next with
    | none => exact ⟨_, List.mem_cons_self⟩
    | some next => exact ⟨_, List.mem_cons_self⟩

theorem operand_fed (parts : network.parts = design.parts first (some design.width))
    (wires : network.wires = design.wires first) :
    ∃ wire access, network.feeds (design.driver first).uid "operand" = [wire] ∧
      network.part? wire.source.uid = some (bitPart access design.target) := by
  obtain ⟨uid, access, wired, present⟩ := design.operand_wired (first + design.width) (design.driver first).uid
  have found : network.part? access = some (bitPart access design.target) :=
    @Network.part?_uid network (bitPart access design.target) (parts ▸ design.nodup_uid_parts ..)
      (parts ▸ List.mem_append_right _ (List.mem_cons_of_mem _ (List.mem_cons_of_mem _ present)))
  exact ⟨_, access, feeds_of_mem wires (List.mem_append_right _ wired), found⟩

theorem operand?_driver (parts : network.parts = design.parts first (some design.width))
    (wires : network.wires = design.wires first) :
    network.operand? (design.driver first) = some (stepArray, (design.target : Int)) := by
  obtain ⟨wire, access, fed, found⟩ := operand_fed parts wires
  simp only [Network.operand?, fed, found, bitPart]

/-- There are more parts than the gate and what feeds it, so no value is out of reach. -/
theorem exists_depth (parts : network.parts = design.parts first (some design.width)) :
    ∃ depth, network.parts.length = depth + 2 :=
  ⟨(design.inputs first).length + (design.accesses (design.driver first).uid).length, by
    rw [parts, Design.parts, List.length_append, List.length_cons, List.length_cons]; omega⟩

theorem fedValue?_input (memory : Memory) (parts : network.parts = design.parts first (some design.width))
    (wires : network.wires = design.wires first) :
    network.fedValue? memory (design.driver first) (design.driver first).drivenPort =
      some (some ((design.values memory).all id)) := by
  obtain ⟨depth, deep⟩ := exists_depth parts
  obtain ⟨uid, wired⟩ := design.input_wired (first + design.width) first
  have fed : network.feeds (design.driver first).uid _ = [_] :=
    feeds_of_mem wires (List.mem_append_right _ wired)
  have known := valueWithin_gate memory depth parts wires
  simp only [Network.fedValue?, fed, Network.value?, deep, known, Option.map_some]

theorem fedValue?_reset (memory : Memory) (parts : network.parts = design.parts first (some design.width))
    (wires : network.wires = design.wires first) :
    network.fedValue? memory (design.driver first) "r1" =
      some (design.reset.map fun number : Nat => memory stepArray number) := by
  cases named : design.reset with
  | none =>
    have unfed : network.feeds (design.driver first).uid "r1" = [] := by
      apply List.filter_eq_nil_iff.mpr
      intro wire member same
      have target : wire.target = ⟨(design.driver first).uid, "r1"⟩ := by simpa using same
      rw [wires] at member
      rcases List.mem_append.mp member with atGate | atDriver
      · have here := (target_of_mem_gateWires atGate).1
        simp only [target, driver] at here
        omega
      · exact port_ne_of_reset_eq_none named atDriver (by rw [target])
    simp only [Network.fedValue?, unfed, Option.map_none]
  | some number =>
    obtain ⟨depth, deep⟩ := exists_depth parts
    obtain ⟨uid, access, wired, present⟩ := reset_wired (first + design.width) (design.driver first).uid named
    have fed : network.feeds (design.driver first).uid "r1" = [_] :=
      feeds_of_mem wires (List.mem_append_right _ wired)
    have known : network.valueWithin memory (depth + 1 + 1) ⟨access, none⟩ = some (memory stepArray number) :=
      @valueWithin_of_mem _ _ _ memory (bitPart access number) _ (depth + 1) parts
        (List.mem_append_right _ (List.mem_cons_of_mem _ (List.mem_cons_of_mem _ present))) rfl
    simp only [Network.fedValue?, fed, Network.value?, deep, known, Option.map_some]

theorem drive?_eq (memory : Memory) (parts : network.parts = design.parts first (some design.width))
    (wires : network.wires = design.wires first) :
    network.drive? memory = some (design.drive memory) := by
  simp only [Network.drive?, drivers_eq parts, operand?_driver parts wires, fedValue?_input memory parts wires,
    fedValue?_reset memory parts wires, Option.bind_eq_bind, Option.bind_some, Option.pure_def]
  rfl

theorem Realizes.wellWired {cultures : List String} (realized : design.Realizes cultures network) :
    network.WellWired := by
  obtain ⟨⟨first, parts, wires⟩, _⟩ := realized
  refine ⟨?_, ?_⟩
  · intro uid port
    cases fed : network.feeds uid port with
    | nil => exact Nat.zero_le 1
    | cons wire others =>
      have kept : wire ∈ network.feeds uid port := fed ▸ List.mem_cons_self
      obtain ⟨member, same⟩ := List.mem_filter.mp kept
      have target : wire.target = ⟨uid, port⟩ := by simpa using same
      have alone := feeds_of_mem wires (wires ▸ member)
      rw [target] at alone
      rw [← fed, alone]
      exact le_rfl
  · intro gate member
    rw [instructionsOf_and parts, List.mem_singleton] at member
    subst member
    refine ⟨design.width, rfl, ?_⟩
    rw [Network.fedPorts, wires]
    exact design.fedPorts_wires first

theorem Realizes.computes {cultures : List String} (realized : design.Realizes cultures network) :
    network.Computes (design.values ·) (design.drive ·) := by
  obtain ⟨⟨first, parts, wires⟩, _⟩ := realized
  obtain ⟨uid, wired⟩ := design.input_wired (first + design.width) first
  refine ⟨⟨_, _, _, instructionsOf_and parts, drivers_eq parts,
    feeds_of_mem wires (List.mem_append_right _ wired), rfl, ?_⟩, ?_⟩
  · intro memory
    obtain ⟨depth, deep⟩ := exists_depth parts
    rw [Network.value?, deep]
    exact portValues?_gate memory (depth + 1) parts wires
  · intro memory
    exact drive?_eq memory parts wires

end Design

/-- The number of the step before a place, and before the first place the given one. -/
def numberBefore (start : Nat) (steps : List Step) : Nat → Nat
  | 0 => start
  | index + 1 => (steps[index]?.map Step.number).getD 0

theorem getElem?_stepDesigns (previous : Nat) (steps : List Step) (index : Nat) :
    (stepDesigns previous steps)[index]? = steps[index]?.map fun step =>
      .numbered (numberBefore previous steps index) step steps[index + 1]? := by
  induction steps generalizing previous index with
  | nil => rfl
  | cons step rest ih =>
    cases index with
    | zero => simp [stepDesigns, numberBefore, List.head?_eq_getElem?]
    | succ index =>
      have shifted : numberBefore previous (step :: rest) (index + 1) = numberBefore step.number rest index := by
        cases index <;> rfl
      simp only [stepDesigns, List.getElem?_cons_succ, ih, shifted]

theorem length_stepDesigns (previous : Nat) (steps : List Step) :
    (stepDesigns previous steps).length = steps.length := by
  induction steps generalizing previous with
  | nil => rfl
  | cons step rest ih => simp only [stepDesigns, List.length_cons, ih]

/-- The meaning of the rest network: its gate waits until no numbered step is active, and sets the rest bit; the
first numbered step resets it. -/
def Network.ComputesRest (sequential : List Step) (network : Network) : Prop :=
  network.Computes (fun memory => sequential.map fun step => !memory stepArray step.number) fun memory =>
    { type := .latch
      operand := (stepArray, 0)
      input := sequential.all fun step => !memory stepArray step.number
      reset := sequential.head?.map fun first => memory stepArray first.number }

/-- The meaning of the network of the numbered step at a place: its gate waits for the step before, for the step
itself not to be active, and for the conditions, in whose place stands a constant. The next step resets the latch,
and the last step drives a coil. -/
def Network.ComputesStep (sequential : List Step) (index : Nat) (step : Step) (network : Network) : Prop :=
  network.Computes
    (fun memory => [memory stepArray (numberBefore 0 sequential index), !memory stepArray step.number, false])
    fun memory =>
      { type := if index + 1 = sequential.length then .coil else .latch
        operand := (stepArray, step.number)
        input := memory stepArray (numberBefore 0 sequential index) && !memory stepArray step.number && false
        reset := sequential[index + 1]?.map fun next => memory stepArray next.number }

theorem Design.Realizes.computesRest {cultures : List String} {rest : Step} {sequential : List Step}
    {network : Network} (resting : rest.number = 0)
    (realized : (Design.rest rest sequential).Realizes cultures network) : network.ComputesRest sequential := by
  have computed := realized.computes
  simp only [Design.values, Design.drive, Design.driverType, Design.target, Design.reset, resting, List.all_map,
    Option.map_map] at computed
  exact computed

theorem Design.Realizes.computesStep {cultures : List String} {sequential : List Step} {index : Nat} {step : Step}
    {network : Network} (present : sequential[index]? = some step)
    (realized : (Design.numbered (numberBefore 0 sequential index) step sequential[index + 1]?).Realizes
      cultures network) : network.ComputesStep sequential index step := by
  have computed := realized.computes
  have inside := (List.getElem?_eq_some_iff.mp present).1
  cases next : sequential[index + 1]? with
  | none =>
    have last : index + 1 = sequential.length := by
      have := List.getElem?_eq_none_iff.mp next
      omega
    simp [next, Design.values, Design.drive] at computed
    simpa [Network.ComputesStep, next, last] using computed
  | some following =>
    have notLast : index + 1 ≠ sequential.length := by
      have := (List.getElem?_eq_some_iff.mp next).1
      omega
    simp [next, Design.values, Design.drive] at computed
    simpa [Network.ComputesStep, next, notLast] using computed

/-- Networks that realize the designs of a program are that of the rest step and those of the numbered steps. -/
theorem networks_split {cultures : List String} {program : Program} {networks : List Network}
    (realized : List.Forall₂ (Design.Realizes cultures) (designsOf program) networks) :
    ∃ restNetworks stepNetworks, networks = restNetworks ++ stepNetworks ∧
      List.Forall₂ (fun rest => (Design.rest rest program.sequentialSteps).Realizes cultures)
        program.restStep?.toList restNetworks ∧
      List.Forall₂ (Design.Realizes cultures) (stepDesigns 0 program.sequentialSteps) stepNetworks := by
  rw [designsOf] at realized
  cases found : program.restStep? with
  | none =>
    rw [found] at realized
    exact ⟨[], networks, rfl, .nil, realized⟩
  | some rest =>
    rw [found] at realized
    obtain ⟨network, others, resting, stepping, rfl⟩ := List.forall₂_cons_left_iff.mp realized
    exact ⟨[network], others, rfl, .cons resting .nil, stepping⟩

/-- The networks of a document compute what the steps of its program ask for, whatever memory holds. The network of
the first rest step, if there is one, comes first; then each numbered step has its network, in order. -/
theorem Document.networks_compute {options : GeneratorOptions} {program : Program} {document : Document}
    (built : Document.ofProgram options program = .ok document) :
    (∀ network ∈ document.block.networks, network.WellWired) ∧
      ∃ restNetworks stepNetworks, document.block.networks = restNetworks ++ stepNetworks ∧
        List.Forall₂ (fun rest (network : Network) => network.title.Shows options.cultures rest.label ∧
          network.ComputesRest program.sequentialSteps) program.restStep?.toList restNetworks ∧
        stepNetworks.length = program.sequentialSteps.length ∧
        ∀ index step (network : Network),
          program.sequentialSteps[index]? = some step → stepNetworks[index]? = some network →
          network.title.Shows options.cultures step.label ∧
            network.ComputesStep program.sequentialSteps index step := by
  have realized := (Document.ofProgram_realizes built).2
  refine ⟨?_, ?_⟩
  · intro network member
    obtain ⟨index, bound, rfl⟩ := List.getElem_of_mem member
    exact (realized.get (realized.length_eq ▸ bound) bound).wellWired
  · obtain ⟨restNetworks, stepNetworks, split, resting, stepping⟩ := networks_split realized
    refine ⟨restNetworks, stepNetworks, split, ?_, ?_, ?_⟩
    · cases found : program.restStep? with
      | none =>
        rw [found] at resting
        cases resting
        exact .nil
      | some rest =>
        rw [found] at resting
        obtain ⟨network, _, realizes, none, rfl⟩ := List.forall₂_cons_left_iff.mp resting
        cases none
        exact .cons ⟨realizes.2, realizes.computesRest (Step.number_eq_zero_of_isRest (List.find?_some found))⟩ .nil
    · rw [← stepping.length_eq, length_stepDesigns]
    · intro index step network present placed
      have design := getElem?_stepDesigns 0 program.sequentialSteps index
      rw [present] at design
      have realizes := stepping.get (List.getElem?_eq_some_iff.mp design).1 (List.getElem?_eq_some_iff.mp placed).1
      simp only [List.get_eq_getElem, (List.getElem?_eq_some_iff.mp design).2, (List.getElem?_eq_some_iff.mp placed).2] at realizes
      exact ⟨realizes.2, realizes.computesStep present⟩

/-- A rest step and two numbered steps. -/
def twoStepProgram : Program :=
  { steps := [{ keyword := "RUST", kind := .rest }, { keyword := "STAP", kind := .sequential 1 },
      { keyword := "STAP", kind := .sequential 2 }] }

/-- Two steps give three networks, of which the last drives the coil of the second step. -/
theorem Document.networks_compute_twoStepProgram :
    ∃ document, Document.ofProgram {} twoStepProgram = .ok document ∧
      (∀ network ∈ document.block.networks, network.WellWired) ∧
      ∃ rest first second, document.block.networks = [rest, first, second] ∧
        ∀ memory, second.drive? memory = some
          { type := .coil, operand := ("Stap", 2)
            input := memory "Stap" 1 && !memory "Stap" 2 && false, reset := none } := by
  obtain ⟨document, built⟩ : ∃ document, Document.ofProgram {} twoStepProgram = .ok document := ⟨_, rfl⟩
  obtain ⟨wired, restNetworks, stepNetworks, split, resting, counted, stepping⟩ :=
    Document.networks_compute built
  refine ⟨document, built, wired, ?_⟩
  obtain ⟨rest, rfl⟩ := List.length_eq_one_iff.mp resting.length_eq.symm
  obtain ⟨first, second, rfl⟩ := List.length_eq_two.mp counted
  exact ⟨rest, first, second, split, (stepping 1 _ second rfl rfl).2.driven⟩

end StepFlow.Netlist
