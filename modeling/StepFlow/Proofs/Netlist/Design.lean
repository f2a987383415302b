import StepFlow.Netlist.OfProgram
import StepFlow.Proofs.Success
import Mathlib

/-! # The networks of a program in closed form

Every generated network has one gate and one driver, which is a latch or a coil. A design says which
parts and wires a network has once its first identifier is known. Generation realizes the designs of a
program in order, whatever the scheme of identifiers; success is all that is assumed of it.
-/

namespace StepFlow.Netlist

/-- A text that says the same in each culture. -/
def MultilingualText.Shows (cultures : List String) (shown : String) (text : MultilingualText) : Prop :=
  text.items.map (fun item => (item.culture, item.text)) = cultures.map (·, shown)

/-- The source after a number of identifiers. -/
def Allocator.advanceBy (allocator : Allocator) (count : Nat) : Allocator :=
  { allocator with next := allocator.next + count }

theorem Allocator.advanceBy_zero (allocator : Allocator) : allocator.advanceBy 0 = allocator := by
  simp [advanceBy]

theorem Allocator.advanceBy_advance (allocator : Allocator) (count : Nat) :
    allocator.advance.advanceBy count = allocator.advanceBy (count + 1) := by
  simp only [advance, advanceBy, Nat.cast_add, Nat.cast_one, Allocator.mk.injEq, true_and]
  omega

/-- The builder after a wire was drawn, whatever the ports. -/
def Builder.withWire (source : Part) (sourcePort : Option String) (target : Instruction)
    (targetPort : String) (negated : Bool) (builder : Builder) : Builder :=
  { builder with
    allocator := builder.allocator.advance
    wires := builder.wires ++ [⟨builder.allocator.next, ⟨source.uid, sourcePort⟩, ⟨target.uid, targetPort⟩⟩]
    parts := if negated then builder.parts.map (Part.modify target.uid (Instruction.negate targetPort))
      else builder.parts }

theorem Builder.eq_withWire_of_connect {source : Part} {sourcePort : Option String}
    {target : Instruction} {targetPort : String} {negated : Bool} {builder after : Builder} {wire : Wire}
    (joined : builder.connect source sourcePort target targetPort negated = .ok (wire, after)) :
    after = builder.withWire source sourcePort target targetPort negated := by
  simp only [connect, bind, Except.bind, pure, Except.pure] at joined
  split at joined
  · cases joined
  · split at joined
    · cases joined
    · cases joined
      rfl

/-- The port of a gate's numbered input. -/
def gatePort (number : Nat) : String := s!"in{number}"

/-- The ports of a gate with a number of inputs. -/
def gatePorts (count : Nat) : List String := (List.range count).map fun index => gatePort (index + 1)

theorem gatePort_numerals : gatePort 1 = "in1" ∧ gatePort 2 = "in2" ∧ gatePort 3 = "in3" := ⟨rfl, rfl, rfl⟩

theorem gatePort_injective : Function.Injective gatePort := by
  intro a b same
  exact Nat.repr_injective (String.append_right_inj "in" |>.mp same)

theorem gatePorts_succ (count : Nat) : gatePorts (count + 1) = gatePorts count ++ [gatePort (count + 1)] := by
  simp [gatePorts, List.range_succ]

theorem gatePort_notMem (count : Nat) : gatePort (count + 1) ∉ gatePorts count := by
  intro member
  obtain ⟨index, bound, same⟩ := List.mem_map.mp member
  have := gatePort_injective same
  have := List.mem_range.mp bound
  omega

/-- A part that reads or writes a step bit. -/
def bitPart (uid : Int) (number : Nat) : Part := .local ⟨uid, stepArray, number⟩

/-- Accesses to the bits of steps, with consecutive identifiers. -/
def bitParts (first : Int) : List Step → List Part
  | [] => []
  | step :: rest => bitPart first step.number :: bitParts (first + 1) rest

/-- The wires from parts to the inputs of a gate, from a number on, with consecutive identifiers. -/
def gateWires (gate first : Int) (number : Nat) : List Part → List Wire
  | [] => []
  | input :: rest =>
    ⟨first, ⟨input.uid, none⟩, ⟨gate, gatePort number⟩⟩ :: gateWires gate (first + 1) (number + 1) rest

theorem length_bitParts (first : Int) (steps : List Step) : (bitParts first steps).length = steps.length := by
  induction steps generalizing first with
  | nil => rfl
  | cons step rest ih => simp only [bitParts, List.length_cons, ih]

/-- Accesses are no instructions, so nothing about instructions changes them. -/
theorem map_modify_bitParts (uid : Int) (change : Instruction → Instruction) (first : Int)
    (steps : List Step) : (bitParts first steps).map (Part.modify uid change) = bitParts first steps := by
  induction steps generalizing first with
  | nil => rfl
  | cons step rest ih => simp only [bitParts, List.map_cons, ih, bitPart, Part.modify]

theorem map_withCardinality_bitParts (wires : List Wire) (first : Int) (steps : List Step) :
    (bitParts first steps).map (Part.withCardinality wires) = bitParts first steps := by
  induction steps generalizing first with
  | nil => rfl
  | cons step rest ih => simp only [bitParts, List.map_cons, ih, bitPart, Part.withCardinality]

namespace Build

variable {α β : Type} {builder after : Builder}

theorem run_bind_eq_ok {action : Build α} {next : α → Build β} {result : β}
    (ran : (action >>= next).run builder = .ok (result, after)) :
    ∃ value between, action.run builder = .ok (value, between) ∧
      (next value).run between = .ok (result, after) := by
  rw [StateT.run_bind] at ran
  cases done : action.run builder with
  | error fault => rw [done] at ran; cases ran
  | ok reached => rw [done] at ran; exact ⟨reached.1, reached.2, rfl, ran⟩

theorem run_join_eq_ok {source : Part} {sourcePort : Option String} {target : Instruction}
    {targetPort : String} {negated : Bool} {result : Unit}
    (ran : (join source sourcePort target targetPort negated).run builder = .ok (result, after)) :
    after = builder.withWire source sourcePort target targetPort negated := by
  obtain ⟨_, _, ⟨⟩, ran⟩ := run_bind_eq_ok ran
  cases joined : builder.connect source sourcePort target targetPort negated with
  | error fault => rw [joined] at ran; cases ran
  | ok reached =>
    rw [joined] at ran
    cases ran
    exact Builder.eq_withWire_of_connect joined

/-- A wire that was drawn leaves the rest of the wiring to run on the builder with that wire. -/
theorem run_join_bind_eq_ok {source : Part} {sourcePort : Option String} {target : Instruction}
    {targetPort : String} {negated : Bool} {next : Unit → Build β} {result : β}
    (ran : (join source sourcePort target targetPort negated >>= next).run builder = .ok (result, after)) :
    (next ()).run (builder.withWire source sourcePort target targetPort negated) = .ok (result, after) := by
  obtain ⟨_, between, joined, rest⟩ := run_bind_eq_ok ran
  rwa [run_join_eq_ok joined] at rest

theorem run_stepBits_eq_ok {steps : List Step} {bits : List Part}
    (ran : (stepBits steps).run builder = .ok (bits, after)) :
    bits = bitParts builder.allocator.next steps ∧
      after = { builder with
        allocator := builder.allocator.advanceBy steps.length
        parts := builder.parts ++ bitParts builder.allocator.next steps } := by
  induction steps generalizing builder bits with
  | nil =>
    cases ran
    simp [bitParts, Allocator.advanceBy]
  | cons step rest ih =>
    obtain ⟨_, _, ⟨⟩, ran⟩ := run_bind_eq_ok ran
    obtain ⟨others, between, restRan, ⟨⟩⟩ := run_bind_eq_ok ran
    obtain ⟨rfl, rfl⟩ := ih restRan
    simp [bitParts, bitPart, Builder.addPart, Allocator.advanceBy_advance]
    simp [Allocator.advance]

/-- Joining inverted inputs draws their wires in order and notes each port once at the gate. -/
theorem run_joinNegated_eq_ok {gate : Instruction} {count : Nat} {inputs : List Part} {first : Int}
    {steps : List Step} {result : Unit}
    (parts : builder.parts =
      bitParts first steps ++ [.instruction { gate with negated := gatePorts count }])
    (ran : (joinNegated gate (count + 1) inputs).run builder = .ok (result, after)) :
    after = { builder with
      allocator := builder.allocator.advanceBy inputs.length
      parts := bitParts first steps ++
        [.instruction { gate with negated := gatePorts (count + inputs.length) }]
      wires := builder.wires ++ gateWires gate.uid builder.allocator.next (count + 1) inputs } := by
  induction inputs generalizing builder count with
  | nil =>
    cases ran
    simp [gateWires, Allocator.advanceBy_zero, ← parts]
  | cons input rest ih =>
    have noted : (builder.withWire input none gate (gatePort (count + 1)) true).parts =
        bitParts first steps ++ [.instruction { gate with negated := gatePorts (count + 1) }] := by
      simp only [Builder.withWire, ↓reduceIte, parts, List.map_append, map_modify_bitParts]
      simp [Part.modify, Instruction.negate, gatePort_notMem, gatePorts_succ]
    have shift : count + 1 + rest.length = count + (rest.length + 1) := by omega
    rw [ih noted (run_join_bind_eq_ok ran), shift]
    simp only [Builder.withWire, Allocator.advanceBy_advance, gateWires, List.append_assoc,
      List.cons_append, List.nil_append, List.length_cons]
    rfl

end Build

/-- What a network is made for: the rest step among the numbered steps, or a numbered step between the
number of the step before and the step after. -/
inductive Design where
  | rest (step : Step) (sequential : List Step)
  | numbered (previous : Nat) (step : Step) (next : Option Step)

namespace Design

/-- The wiring that realizes a design. -/
@[simp] def wiring : Design → Build Unit
  | .rest step sequential => Build.restWiring step sequential
  | .numbered previous step next => Build.stepWiring previous step next

/-- The title of the network. -/
@[simp] def title : Design → String
  | .rest step _ | .numbered _ step _ => step.label

/-- The number of the step bit that the network writes. -/
@[simp] def target : Design → Nat
  | .rest step _ | .numbered _ step _ => step.number

/-- The number of the step bit that resets the driver, if there is one. -/
@[simp] def reset : Design → Option Nat
  | .rest _ sequential => sequential.head?.map Step.number
  | .numbered _ _ next => next.map Step.number

/-- The parts that feed the gate, from the first identifier on. -/
@[simp] def inputs (first : Int) : Design → List Part
  | .rest _ sequential => bitParts first sequential
  | .numbered previous step _ =>
    [bitPart first previous, bitPart (first + 1) step.number, .literal { uid := first + 2 }]

/-- The number of inputs of the gate. -/
@[simp] def width : Design → Nat
  | .rest _ sequential => sequential.length
  | .numbered .. => 3

/-- The inverted inputs of the gate. -/
@[simp] def negated : Design → List String
  | .rest _ sequential => gatePorts sequential.length
  | .numbered .. => ["in2"]

/-- The gate, whose number of inputs is not known before the wiring is complete. -/
def gate (first : Int) (cardinality : Option Int) (design : Design) : Instruction :=
  { uid := first + design.width, type := .and, cardinality, negated := design.negated }

/-- Whether a latch or a coil is driven. Nothing resets the bit of the last step, so it has a coil. -/
@[simp] def driverType : Design → PartType
  | .numbered _ _ none => .coil
  | .numbered _ _ (some _) | .rest .. => .latch

/-- The latch or coil. -/
def driver (first : Int) (design : Design) : Instruction :=
  { uid := first + 2 * design.width + 1, type := design.driverType }

/-- The accesses to the bit that resets and to the bit that is written. -/
@[simp] def accesses (driver : Int) : Design → List Part
  | .rest step [] => [bitPart (driver + 2) step.number]
  | .rest step (first :: _) => [bitPart (driver + 1) first.number, bitPart (driver + 4) step.number]
  | .numbered _ step none => [bitPart (driver + 1) step.number]
  | .numbered _ step (some next) => [bitPart (driver + 1) next.number, bitPart (driver + 2) step.number]

/-- The wires that end at the driver. -/
@[simp] def driverWires (gate driver : Int) : Design → List Wire
  | .rest _ [] =>
    [⟨driver + 1, ⟨gate, some "out"⟩, ⟨driver, "s"⟩⟩, ⟨driver + 3, ⟨driver + 2, none⟩, ⟨driver, "operand"⟩⟩]
  | .rest _ (_ :: _) =>
    [⟨driver + 2, ⟨driver + 1, none⟩, ⟨driver, "r1"⟩⟩, ⟨driver + 3, ⟨gate, some "out"⟩, ⟨driver, "s"⟩⟩,
      ⟨driver + 5, ⟨driver + 4, none⟩, ⟨driver, "operand"⟩⟩]
  | .numbered _ _ none =>
    [⟨driver + 2, ⟨gate, some "out"⟩, ⟨driver, "in"⟩⟩, ⟨driver + 3, ⟨driver + 1, none⟩, ⟨driver, "operand"⟩⟩]
  | .numbered _ _ (some _) =>
    [⟨driver + 3, ⟨gate, some "out"⟩, ⟨driver, "s"⟩⟩, ⟨driver + 4, ⟨driver + 1, none⟩, ⟨driver, "r1"⟩⟩,
      ⟨driver + 5, ⟨driver + 2, none⟩, ⟨driver, "operand"⟩⟩]

/-- All parts, given the number of inputs that the gate states. -/
def parts (first : Int) (cardinality : Option Int) (design : Design) : List Part :=
  design.inputs first ++ .instruction (design.gate first cardinality) ::
    .instruction (design.driver first) :: design.accesses (design.driver first).uid

/-- All wires. -/
def wires (first : Int) (design : Design) : List Wire :=
  gateWires (first + design.width) (first + design.width + 1) 1 (design.inputs first) ++
    design.driverWires (first + design.width) (design.driver first).uid

/-- The number of identifiers of parts and wires. -/
def size (design : Design) : Nat := 2 * design.width + if design.reset.isSome then 7 else 5

end Design

theorem Build.run_restWiring_eq_ok {step : Step} {sequential : List Step} {builder after : Builder}
    {result : Unit} (noParts : builder.parts = []) (noWires : builder.wires = [])
    (ran : (restWiring step sequential).run builder = .ok (result, after)) :
    after = { builder with
      allocator := builder.allocator.advanceBy (Design.rest step sequential).size
      parts := (Design.rest step sequential).parts builder.allocator.next none
      wires := (Design.rest step sequential).wires builder.allocator.next } := by
  obtain ⟨bits, _, bitsRan, ran⟩ := run_bind_eq_ok ran
  obtain ⟨rfl, rfl⟩ := run_stepBits_eq_ok bitsRan
  obtain ⟨gate, gated, made, ran⟩ := run_bind_eq_ok ran
  obtain ⟨_, _, gateRan, ran⟩ := run_bind_eq_ok ran
  have plain : gated.parts =
      bitParts builder.allocator.next sequential ++ [.instruction { gate with negated := gatePorts 0 }] := by
    cases made
    simp [Builder.addPart, noParts, gatePorts]
  rw [run_joinNegated_eq_ok plain gateRan] at ran
  cases made
  obtain ⟨_, _, ⟨⟩, ran⟩ := run_bind_eq_ok ran
  cases sequential with
  | nil =>
    replace ran := run_join_bind_eq_ok ran
    obtain ⟨_, _, ⟨⟩, ran⟩ := run_bind_eq_ok ran
    rw [run_join_eq_ok ran]
    simp [Builder.addPart, Builder.withWire, noWires, Allocator.advance, Allocator.advanceBy, Design.size,
      Design.parts, Design.wires, Design.gate, Design.driver, bitParts, bitPart, gateWires, Part.uid]
    omega
  | cons first rest =>
    obtain ⟨_, _, ⟨⟩, ran⟩ := run_bind_eq_ok ran
    replace ran := run_join_bind_eq_ok (run_join_bind_eq_ok ran)
    obtain ⟨_, _, ⟨⟩, ran⟩ := run_bind_eq_ok ran
    rw [run_join_eq_ok ran]
    simp [Builder.addPart, Builder.withWire, noWires, Allocator.advance, Allocator.advanceBy, Design.size,
      Design.parts, Design.wires, Design.gate, Design.driver, length_bitParts, bitPart, Part.uid]
    omega

theorem Build.run_stepWiring_eq_ok {previous : Nat} {step : Step} {next : Option Step}
    {builder after : Builder} {result : Unit} (noParts : builder.parts = []) (noWires : builder.wires = [])
    (ran : (stepWiring previous step next).run builder = .ok (result, after)) :
    after = { builder with
      allocator := builder.allocator.advanceBy (Design.numbered previous step next).size
      parts := (Design.numbered previous step next).parts builder.allocator.next none
      wires := (Design.numbered previous step next).wires builder.allocator.next } := by
  obtain ⟨_, _, ⟨⟩, ran⟩ := run_bind_eq_ok ran
  obtain ⟨_, _, ⟨⟩, ran⟩ := run_bind_eq_ok ran
  obtain ⟨_, _, ⟨⟩, ran⟩ := run_bind_eq_ok ran
  obtain ⟨_, _, ⟨⟩, ran⟩ := run_bind_eq_ok ran
  replace ran := run_join_bind_eq_ok (run_join_bind_eq_ok (run_join_bind_eq_ok ran))
  cases next with
  | none =>
    obtain ⟨_, _, ⟨⟩, ran⟩ := run_bind_eq_ok ran
    obtain ⟨_, _, ⟨⟩, ran⟩ := run_bind_eq_ok ran
    rw [run_join_eq_ok (run_join_bind_eq_ok ran)]
    simp [Builder.addPart, Builder.withWire, noParts, noWires, Allocator.advance, Allocator.advanceBy, Design.size,
      Design.parts, Design.wires, Design.gate, Design.driver, bitPart, gateWires, Part.uid, Part.modify,
      Instruction.negate, gatePort_numerals]
    omega
  | some next =>
    obtain ⟨_, _, ⟨⟩, ran⟩ := run_bind_eq_ok ran
    obtain ⟨_, _, ⟨⟩, ran⟩ := run_bind_eq_ok ran
    obtain ⟨_, _, ⟨⟩, ran⟩ := run_bind_eq_ok ran
    rw [run_join_eq_ok (run_join_bind_eq_ok (run_join_bind_eq_ok ran))]
    simp [Builder.addPart, Builder.withWire, noParts, noWires, Allocator.advance, Allocator.advanceBy, Design.size,
      Design.parts, Design.wires, Design.gate, Design.driver, bitPart, gateWires, Part.uid, Part.modify,
      Instruction.negate, gatePort_numerals]
    omega

theorem incoming_append (first second : List Wire) (uid : Int) :
    Network.incoming (first ++ second) uid = Network.incoming first uid + Network.incoming second uid :=
  List.countP_append

theorem incoming_gateWires (gate first : Int) (number : Nat) (inputs : List Part) :
    Network.incoming (gateWires gate first number inputs) gate = inputs.length := by
  induction inputs generalizing first number with
  | nil => rfl
  | cons input rest ih =>
    have step := ih (first + 1) (number + 1)
    simp only [Network.incoming] at step
    simp [Network.incoming, gateWires, step]

namespace Design

theorem length_inputs (first : Int) (design : Design) : (design.inputs first).length = design.width := by
  cases design with
  | rest step sequential => exact length_bitParts first sequential
  | numbered previous step next => rfl

/-- Every wire outside of the gate's own ends at the driver. -/
theorem target_uid_of_mem_driverWires {gate driver : Int} {design : Design} {wire : Wire}
    (member : wire ∈ design.driverWires gate driver) : wire.target.uid = driver := by
  cases design with
  | rest step sequential => cases sequential <;> simp at member <;> aesop
  | numbered previous step next => cases next <;> simp at member <;> aesop

theorem incoming_wires (first : Int) (design : Design) :
    Network.incoming (design.wires first) (first + design.width) = design.width := by
  have away : Network.incoming (design.driverWires (first + design.width) (design.driver first).uid)
      (first + design.width) = 0 := by
    apply List.countP_eq_zero.mpr
    intro wire member
    rw [target_uid_of_mem_driverWires member]
    simp only [driver, beq_iff_eq]
    omega
  rw [wires, incoming_append, incoming_gateWires, length_inputs, away, Nat.add_zero]

/-- Counting the wires completes the gate and leaves everything else as it is. -/
theorem map_withCardinality_parts (first : Int) (design : Design) :
    (design.parts first none).map (Part.withCardinality (design.wires first)) =
      design.parts first (some design.width) := by
  have counted := incoming_wires first design
  have plainInputs : (design.inputs first).map (Part.withCardinality (design.wires first)) =
      design.inputs first := by
    cases design with
    | rest step sequential => exact map_withCardinality_bitParts _ first sequential
    | numbered previous step next => rfl
  have plainAccesses (driver : Int) : (design.accesses driver).map (Part.withCardinality (design.wires first)) =
      design.accesses driver := by
    cases design with
    | rest step sequential => cases sequential <;> rfl
    | numbered previous step next => cases next <;> rfl
  have noGate : (design.driver first).type ≠ .and := by
    cases design with
    | rest step sequential => exact nofun
    | numbered previous step next => cases next <;> exact nofun
  simp only [parts, List.map_append, List.map_cons, plainInputs, plainAccesses, Part.withCardinality, noGate,
    ↓reduceIte, gate, counted]

theorem run_wiring_eq_ok {design : Design} {builder after : Builder} {result : Unit}
    (noParts : builder.parts = []) (noWires : builder.wires = [])
    (ran : design.wiring.run builder = .ok (result, after)) :
    after = { builder with
      allocator := builder.allocator.advanceBy design.size
      parts := design.parts builder.allocator.next none
      wires := design.wires builder.allocator.next } := by
  cases design with
  | rest step sequential => exact Build.run_restWiring_eq_ok noParts noWires ran
  | numbered previous step next => exact Build.run_stepWiring_eq_ok noParts noWires ran

/-- A network that has the parts and the wires of a design, and its title in each culture. -/
def Realizes (cultures : List String) (design : Design) (network : Network) : Prop :=
  (∃ first, network.parts = design.parts first (some design.width) ∧ network.wires = design.wires first) ∧
    network.title.Shows cultures design.title

end Design

/-- There is one item for each culture, in the order of the cultures. -/
theorem textItems_shown (allocator : Allocator) (text : String) (cultures : List String) :
    (textItems allocator text cultures).1.map (fun item => (item.culture, item.text)) =
      cultures.map (·, text) := by
  induction cultures generalizing allocator with
  | nil => rfl
  | cons culture rest ih => exact congrArg ((culture, text) :: ·) (ih allocator.advance)

theorem newText_shows (allocator : Allocator) (role : TextRole) (text : String) (cultures : List String) :
    (newText allocator role text cultures false).1.Shows cultures text :=
  textItems_shown ..

theorem Builder.completeTexts_wires (builder : Builder) : builder.completeTexts.wires = builder.wires := by
  unfold completeTexts
  split <;> rfl

theorem Builder.completeTexts_shows {builder : Builder}
    (given : builder.defersItems = false →
      builder.title.Shows builder.cultures builder.titleText ∧ builder.comment.Shows builder.cultures "") :
    builder.completeTexts.title.Shows builder.cultures builder.titleText ∧
      builder.completeTexts.comment.Shows builder.cultures "" := by
  unfold completeTexts
  split
  · exact ⟨textItems_shown .., textItems_shown ..⟩
  · exact given (by simpa using ‹¬builder.defersItems = true›)

theorem Builder.build_eq {builder done : Builder} {network : Network}
    (built : builder.build = .ok (network, done)) :
    network = {
      uid := builder.completeTexts.uid, title := builder.completeTexts.title
      comment := builder.completeTexts.comment
      parts := builder.parts.map (Part.withCardinality builder.wires)
      wires := builder.completeTexts.wires } ∧
    done.allocator = builder.completeTexts.allocator := by
  simp only [build] at built
  split at built
  · cases built
  · cases built
    exact ⟨rfl, rfl⟩

theorem Builder.build_eq_ok {builder done : Builder} {network : Network}
    (built : builder.build = .ok (network, done)) :
    network.parts = builder.parts.map (Part.withCardinality builder.wires) ∧
      network.wires = builder.wires ∧ network.title = builder.completeTexts.title := by
  obtain ⟨rfl, -⟩ := build_eq built
  exact ⟨rfl, builder.completeTexts_wires, rfl⟩

/-- The builder after the wiring of a design. -/
def Design.wired (start : Builder) (design : Design) : Builder :=
  { start with
    allocator := start.allocator.advanceBy design.size
    parts := design.parts start.allocator.next none
    wires := design.wires start.allocator.next }

/-- The source that a network's contents are made from. -/
def UidSource.allocator (counter : Allocator) : UidSource → Allocator
  | .document => counter
  | .own allocator => allocator

/-- The counter of the document after a network's contents were made, given the counter before and the source
after. -/
def UidSource.counter (counter done : Allocator) : UidSource → Allocator
  | .document => done
  | .own _ => counter

/-- What is made of a design is built from its own parts and wires, and its source reaches that far. -/
theorem makeNetwork_eq_ok {plan after : UidPlan} {source : UidSource} {cultures : List String} {design : Design}
    {network : Network}
    (made : makeNetwork plan source design.title cultures design.wiring = .ok (network, after)) :
    ∃ done : Builder,
      (design.wired (Builder.start plan.document.next (source.allocator plan.document.advance) design.title cultures
        plan.defersItems)).build = .ok (network, done) ∧
      done.allocator.overflowed = false ∧
      after = { plan with document := source.counter plan.document.advance done.allocator } := by
  obtain ⟨⟨_, wired⟩, ran, made⟩ := bind_eq_ok made
  obtain ⟨⟨built, done⟩, building, made⟩ := bind_eq_ok made
  dsimp only at made
  split at made
  · cases made
  rename_i fits
  cases made
  obtain rfl := Design.run_wiring_eq_ok rfl rfl ran
  refine ⟨done, ?_, by simpa using fits, ?_⟩
  · rw [← mapError_eq_ok building]
    cases source <;> rfl
  · cases source <;> rfl

/-- A network shows its title in each culture, and an empty comment. -/
theorem makeNetwork_shows {plan after : UidPlan} {source : UidSource} {cultures : List String} {design : Design}
    {network : Network}
    (made : makeNetwork plan source design.title cultures design.wiring = .ok (network, after)) :
    network.title.Shows cultures design.title ∧ network.comment.Shows cultures "" := by
  obtain ⟨done, built, -, -⟩ := makeNetwork_eq_ok made
  obtain ⟨rfl, -⟩ := Builder.build_eq built
  refine Builder.completeTexts_shows fun atOnce => ?_
  change plan.defersItems = false at atOnce
  simp only [Design.wired, Builder.start, atOnce]
  exact ⟨newText_shows .., newText_shows ..⟩

theorem makeNetwork_realizes {plan after : UidPlan} {source : UidSource} {cultures : List String}
    {design : Design} {network : Network}
    (made : makeNetwork plan source design.title cultures design.wiring = .ok (network, after)) :
    design.Realizes cultures network := by
  obtain ⟨done, built, -, -⟩ := makeNetwork_eq_ok made
  obtain ⟨parts, wires, -⟩ := Builder.build_eq_ok built
  exact ⟨⟨_, parts.trans (Design.map_withCardinality_parts _ design), wires⟩, (makeNetwork_shows made).1⟩

/-- The designs of numbered steps, given the number of the step before. -/
def stepDesigns (previous : Nat) : List Step → List Design
  | [] => []
  | step :: rest => .numbered previous step rest.head? :: stepDesigns step.number rest

/-- The designs of a program: that of the first rest step, then those of the numbered steps. -/
def designsOf (program : Program) : List Design :=
  (program.restStep?.map fun rest => Design.rest rest program.sequentialSteps).toList ++
    stepDesigns 0 program.sequentialSteps

section Networks

variable {cultures : List String} {plan after : UidPlan} {networks : List Network}

/-- The networks of numbered steps are made one after the other. -/
theorem stepNetworks_cons_eq_ok {previous index : Nat} {step : Step} {rest : List Step}
    (made : stepNetworks cultures plan previous index (step :: rest) = .ok (networks, after)) :
    ∃ network between others, networks = network :: others ∧
      makeNetwork plan (plan.stepNetwork index) (Design.numbered previous step rest.head?).title cultures
        (Design.numbered previous step rest.head?).wiring = .ok (network, between) ∧
      stepNetworks cultures between step.number (index + 1) rest = .ok (others, after) := by
  obtain ⟨⟨network, between⟩, first, made⟩ := bind_eq_ok made
  obtain ⟨⟨others, last⟩, following, made⟩ := bind_eq_ok made
  cases made
  exact ⟨network, between, others, rfl, first, following⟩

/-- The network of a rest step is made before those of the numbered steps. -/
theorem programNetworks_eq_ok {program : Program}
    (made : programNetworks cultures plan program = .ok (networks, after)) :
    program.restStep? = none ∧ stepNetworks cultures plan 0 0 program.sequentialSteps = .ok (networks, after) ∨
      ∃ rest network between others, program.restStep? = some rest ∧ networks = network :: others ∧
        makeNetwork plan plan.restNetwork (Design.rest rest program.sequentialSteps).title cultures
          (Design.rest rest program.sequentialSteps).wiring = .ok (network, between) ∧
        stepNetworks cultures between 0 0 program.sequentialSteps = .ok (others, after) := by
  simp only [programNetworks] at made
  cases found : program.restStep? with
  | none =>
    simp only [found] at made
    exact .inl ⟨rfl, made⟩
  | some rest =>
    simp only [found] at made
    obtain ⟨⟨network, between⟩, first, made⟩ := bind_eq_ok made
    obtain ⟨⟨others, last⟩, following, made⟩ := bind_eq_ok made
    cases made
    exact .inr ⟨rest, network, between, others, rfl, rfl, first, following⟩

end Networks

theorem stepNetworks_realize {cultures : List String} {plan after : UidPlan} {previous index : Nat}
    {steps : List Step} {networks : List Network}
    (made : stepNetworks cultures plan previous index steps = .ok (networks, after)) :
    List.Forall₂ (Design.Realizes cultures) (stepDesigns previous steps) networks := by
  induction steps generalizing plan previous index networks with
  | nil => cases made; exact .nil
  | cons step rest ih =>
    obtain ⟨network, between, others, rfl, first, following⟩ := stepNetworks_cons_eq_ok made
    exact .cons (makeNetwork_realizes first) (ih following)

theorem programNetworks_realize {cultures : List String} {plan after : UidPlan} {program : Program}
    {networks : List Network} (made : programNetworks cultures plan program = .ok (networks, after)) :
    List.Forall₂ (Design.Realizes cultures) (designsOf program) networks := by
  rcases programNetworks_eq_ok made with ⟨found, made⟩ | ⟨rest, network, between, others, found, rfl, first, following⟩
  · simp only [designsOf, found]
    exact stepNetworks_realize made
  · simp only [designsOf, found]
    exact .cons (makeNetwork_realizes first) (stepNetworks_realize following)

theorem fillTexts_block (cultures : List String) (allocator : Allocator) (document : Document) :
    (fillTexts cultures allocator document).block.interface = document.block.interface ∧
      (fillTexts cultures allocator document).block.networks = document.block.networks := by
  unfold fillTexts
  cases document.instanceBlock <;> exact ⟨rfl, rfl⟩

/-- A document of a program has the program's interface and realizes the program's designs in order. -/
theorem Document.ofProgram_realizes {options : GeneratorOptions} {program : Program} {document : Document}
    (built : Document.ofProgram options program = .ok document) :
    document.block.interface = interfaceOf program ∧
      List.Forall₂ (Design.Realizes options.cultures) (designsOf program) document.block.networks := by
  cases empty : program.steps.isEmpty with
  | true =>
    simp only [Document.ofProgram, empty, ↓reduceIte] at built
    cases built
  | false =>
    simp only [Document.ofProgram, empty, Bool.false_eq_true, ↓reduceIte] at built
    obtain ⟨⟨networks, plan⟩, made, built⟩ := bind_eq_ok built
    have realized := programNetworks_realize made
    dsimp only at built
    split at built
    · cases built
      rw [(fillTexts_block ..).1, (fillTexts_block ..).2]
      exact ⟨rfl, realized⟩
    · cases built
      exact ⟨rfl, realized⟩

end StepFlow.Netlist
