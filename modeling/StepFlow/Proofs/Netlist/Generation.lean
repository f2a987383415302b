import StepFlow.Proofs.Netlist.Identifiers
import StepFlow.Proofs.Text.Numeral

/-! # When generation succeeds

A wiring joins ports that exist, so it never fails, unless a gate has more inputs than a port can be numbered for.
The wires of a finished network end at its parts, and its gates state the number of their wires. So nothing but a
source with too few identifiers could stop generation, and a counter that has no limit never does.
-/

namespace StepFlow.Netlist

/-- A part that is no instruction. Every port of it can be the source of a wire. -/
def Part.IsAccess (part : Part) : Prop := ∀ instruction, part ≠ .instruction instruction

theorem isAccess_local (access : LocalAccess) : (Part.local access).IsAccess := nofun

theorem isAccess_literal (access : LiteralAccess) : (Part.literal access).IsAccess := nofun

theorem Part.IsAccess.checkSource {part : Part} (access : part.IsAccess) (port : Option String) :
    Builder.checkSource part port = .ok () := by
  cases part with
  | instruction part => exact absurd rfl (access part)
  | «local» access => rfl
  | literal access => rfl

/-- A gate has every input whose number is positive and can be read. -/
theorem hasInput_gatePort {number : Nat} (positive : 0 < number) (short : number < 10 ^ Text.maxDigits) :
    PartType.and.hasInput (gatePort number) = .ok true := by
  have chars : (gatePort number).toList = 'i' :: 'n' :: Nat.toDigits 10 number := by
    change ("in" ++ Nat.repr number).toList = _
    rw [String.toList_append, Nat.toList_repr]
    rfl
  have digitLike : (Nat.toDigits 10 number).all Text.isDigitLike = true := by
    apply List.all_eq_true.mpr
    intro c member
    have digit := Text.isDigit_of_mem_toDigits member
    simp [Text.isDigitLike, Text.isDecimal_of_isDigit digit]
  have nonempty : (Nat.toDigits 10 number).isEmpty = false := by
    simp [Nat.toDigits_ne_nil]
  simp only [PartType.hasInput, PartType.isGateInput, chars, digitLike, nonempty, Text.readNumeral_toDigits short]
  simp [positive, Functor.map, Except.map, Nat.succ_le_iff]

namespace Build

variable {α β : Type}

/-- An action that succeeds on every builder and gives a value of which something holds. -/
def Gives (action : Build α) (holds : α → Prop) : Prop :=
  ∀ builder, ∃ value after, action.run builder = .ok (value, after) ∧ holds value

theorem Gives.pure {value : α} {holds : α → Prop} (here : holds value) : Gives (pure value) holds :=
  fun builder => ⟨value, builder, rfl, here⟩

theorem Gives.bind {action : Build α} {next : α → Build β} {holds : α → Prop} {holds' : β → Prop}
    (first : Gives action holds) (second : ∀ value, holds value → Gives (next value) holds') :
    Gives (action >>= next) holds' := by
  intro builder
  obtain ⟨value, between, ran, here⟩ := first builder
  obtain ⟨result, after, ran', there⟩ := second value here between
  refine ⟨result, after, ?_, there⟩
  rw [StateT.run_bind, ran]
  exact ran'

theorem gives_stepBit (number : Nat) : Gives (stepBit number) Part.IsAccess :=
  fun _ => ⟨_, _, rfl, isAccess_local _⟩

theorem gives_constant (value : Bool) : Gives (constant value) Part.IsAccess :=
  fun _ => ⟨_, _, rfl, isAccess_literal _⟩

theorem gives_instruction (type : PartType) : Gives (instruction type) fun part => part.type = type :=
  fun _ => ⟨_, _, rfl, rfl⟩

theorem gives_join {source : Part} {sourcePort : Option String} {target : Instruction} {targetPort : String}
    (negated : Bool) (leaves : Builder.checkSource source sourcePort = .ok ())
    (arrives : target.type.hasInput targetPort = .ok true) :
    Gives (join source sourcePort target targetPort negated) fun _ => True := by
  intro builder
  have enters : Builder.checkTarget target targetPort = .ok () := by
    rw [Builder.checkTarget, arrives]
    rfl
  have joined : ∃ wire after, builder.connect source sourcePort target targetPort negated = .ok (wire, after) := by
    rw [Builder.connect, leaves, enters]
    exact ⟨_, _, rfl⟩
  obtain ⟨wire, after, joined⟩ := joined
  refine ⟨(), after, ?_, trivial⟩
  simp only [join, StateT.run_bind, StateT.run_get, pure_bind, joined]
  rfl

theorem gives_stepBits (steps : List Step) :
    Gives (stepBits steps) fun bits => bits.length = steps.length ∧ ∀ bit ∈ bits, bit.IsAccess := by
  induction steps with
  | nil => exact .pure ⟨rfl, nofun⟩
  | cons step rest ih =>
    refine (gives_stepBit step.number).bind fun bit access => ih.bind fun bits ⟨counted, accesses⟩ => .pure ?_
    exact ⟨by simp [counted], List.forall_mem_cons.mpr ⟨access, accesses⟩⟩

theorem gives_joinNegated {gate : Instruction} (isGate : gate.type = .and) {number : Nat} {bits : List Part}
    (positive : 0 < number) (short : number + bits.length ≤ 10 ^ Text.maxDigits)
    (accesses : ∀ bit ∈ bits, bit.IsAccess) : Gives (joinNegated gate number bits) fun _ => True := by
  induction bits generalizing number with
  | nil => exact .pure trivial
  | cons bit rest ih =>
    rw [List.length_cons] at short
    obtain ⟨access, later⟩ := List.forall_mem_cons.mp accesses
    have arrives : gate.type.hasInput (gatePort number) = .ok true := by
      rw [isGate]
      exact hasInput_gatePort positive (by omega)
    exact (gives_join true (access.checkSource _) arrives).bind fun _ _ => ih (by omega) (by omega) later

theorem gives_restWiring (rest : Step) {sequential : List Step}
    (short : sequential.length < 10 ^ Text.maxDigits) : Gives (restWiring rest sequential) fun _ => True := by
  refine (gives_stepBits sequential).bind fun bits ⟨counted, accesses⟩ => ?_
  refine (gives_instruction .and).bind fun gate isGate => ?_
  refine (gives_joinNegated isGate Nat.one_pos (by omega) accesses).bind fun _ _ => ?_
  refine (gives_instruction .latch).bind fun latch isLatch => ?_
  have set : Builder.checkSource (.instruction gate) (some "out") = .ok () := by
    simp [Builder.checkSource, isGate, PartType.hasOutput]
  have lastWires : Gives (do
      join (.instruction gate) (some "out") latch "s" false
      join (← stepBit rest.number) none latch "operand" false) fun _ => True := by
    refine (gives_join false set (by rw [isLatch]; rfl)).bind fun _ _ => ?_
    refine (gives_stepBit rest.number).bind fun bit access => ?_
    exact gives_join false (access.checkSource _) (by rw [isLatch]; rfl)
  cases sequential with
  | nil => exact lastWires
  | cons first others =>
    refine (gives_stepBit first.number).bind fun bit access => ?_
    exact (gives_join false (access.checkSource _) (by rw [isLatch]; rfl)).bind fun _ _ => lastWires

theorem gives_stepWiring (previous : Nat) (step : Step) (next : Option Step) :
    Gives (stepWiring previous step next) fun _ => True := by
  refine (gives_stepBit previous).bind fun previousBit previousAccess => ?_
  refine (gives_stepBit step.number).bind fun ownBit ownAccess => ?_
  refine (gives_constant false).bind fun placeholder placeholderAccess => ?_
  refine (gives_instruction .and).bind fun gate isGate => ?_
  have enters (number : Nat) (positive : 0 < number) (small : number ≤ Text.maxDigits) :
      gate.type.hasInput (gatePort number) = .ok true := by
    rw [isGate]
    exact hasInput_gatePort positive (Text.lt_pow_maxDigits small)
  refine (gives_join false (previousAccess.checkSource _) (enters 1 (by decide) (by decide))).bind fun _ _ => ?_
  refine (gives_join true (ownAccess.checkSource _) (enters 2 (by decide) (by decide))).bind fun _ _ => ?_
  refine (gives_join false (placeholderAccess.checkSource _) (enters 3 (by decide) (by decide))).bind fun _ _ => ?_
  have leaves : Builder.checkSource (.instruction gate) (some "out") = .ok () := by
    simp [Builder.checkSource, isGate, PartType.hasOutput]
  cases next with
  | none =>
    refine (gives_instruction .coil).bind fun coil isCoil => ?_
    refine (gives_stepBit step.number).bind fun operand access => ?_
    refine (gives_join false leaves (by rw [isCoil]; rfl)).bind fun _ _ => ?_
    exact gives_join false (access.checkSource _) (by rw [isCoil]; rfl)
  | some next =>
    refine (gives_instruction .latch).bind fun latch isLatch => ?_
    refine (gives_stepBit next.number).bind fun resetBit resetAccess => ?_
    refine (gives_stepBit step.number).bind fun operand access => ?_
    refine (gives_join false leaves (by rw [isLatch]; rfl)).bind fun _ _ => ?_
    refine (gives_join false (resetAccess.checkSource _) (by rw [isLatch]; rfl)).bind fun _ _ => ?_
    exact gives_join false (access.checkSource _) (by rw [isLatch]; rfl)

end Build

theorem source_of_mem_gateWires {gate first : Int} {number : Nat} {inputs : List Part} {wire : Wire}
    (member : wire ∈ gateWires gate first number inputs) : ∃ input ∈ inputs, wire.source.uid = input.uid := by
  induction inputs generalizing first number with
  | nil => exact absurd member List.not_mem_nil
  | cons input rest ih =>
    rcases List.mem_cons.mp member with rfl | later
    · exact ⟨input, .head _, rfl⟩
    · obtain ⟨other, isInput, same⟩ := ih later
      exact ⟨other, .tail _ isInput, same⟩

namespace Design

theorem gives_wiring {design : Design} (short : design.width < 10 ^ Text.maxDigits) :
    Build.Gives design.wiring fun _ => True := by
  cases design with
  | rest step sequential => exact Build.gives_restWiring step short
  | numbered previous step next => exact Build.gives_stepWiring previous step next

/-- Wires at the driver come from the gate or from an access. -/
theorem source_of_mem_driverWires {gate driver : Int} {design : Design} {wire : Wire}
    (member : wire ∈ design.driverWires gate driver) :
    wire.source.uid = gate ∨ ∃ part ∈ design.accesses driver, part.uid = wire.source.uid := by
  cases design with
  | rest step sequential => cases sequential <;> simp at member <;> aesop
  | numbered previous step next => cases next <;> simp at member <;> aesop

/-- Every wire of a design starts and ends at a part of it. -/
theorem ends_of_mem_wires {first : Int} {design : Design} {wire : Wire} (cardinality : Option Int)
    (member : wire ∈ design.wires first) :
    (∃ part ∈ design.parts first cardinality, part.uid = wire.source.uid) ∧
      ∃ part ∈ design.parts first cardinality, part.uid = wire.target.uid := by
  have gatePart : .instruction (design.gate first cardinality) ∈ design.parts first cardinality := by
    simp [parts]
  have driverPart : .instruction (design.driver first) ∈ design.parts first cardinality := by
    simp [parts]
  rcases List.mem_append.mp member with atGate | atDriver
  · obtain ⟨input, isInput, same⟩ := source_of_mem_gateWires atGate
    refine ⟨⟨input, List.mem_append_left _ isInput, same.symm⟩, _, gatePart, ?_⟩
    exact (target_of_mem_gateWires atGate).1.symm
  · refine ⟨?_, _, driverPart, (target_uid_of_mem_driverWires atDriver).symm⟩
    rcases source_of_mem_driverWires atDriver with fromGate | ⟨part, isAccess, same⟩
    · exact ⟨_, gatePart, fromGate.symm⟩
    · exact ⟨part, List.mem_append_right _ (.tail _ (.tail _ isAccess)), same⟩

end Design

/-- Gates state the number of their wires. -/
theorem Part.miscounted?_withCardinality (wires : List Wire) (part : Part) :
    Network.miscounted? wires (part.withCardinality wires) = none := by
  cases part with
  | instruction part =>
    simp only [withCardinality, Network.miscounted?]
    split <;> simp_all
  | «local» access => rfl
  | literal access => rfl

/-- A network is built if its wires start and end at parts. -/
theorem Builder.exists_build {builder : Builder}
    (attached : ∀ wire ∈ builder.wires, wire.source.uid ∈ builder.parts.map Part.uid ∧
      wire.target.uid ∈ builder.parts.map Part.uid) : ∃ built, builder.build = .ok built := by
  let network : Network :=
    { uid := builder.completeTexts.uid, title := builder.completeTexts.title
      comment := builder.completeTexts.comment
      parts := builder.parts.map (Part.withCardinality builder.wires), wires := builder.completeTexts.wires }
  have wires : network.wires = builder.wires := builder.completeTexts_wires
  have ends : network.wires.findSome? (Network.danglingEnd? network.parts) = none := by
    apply List.findSome?_eq_none_iff.mpr
    intro wire member
    obtain ⟨isSource, isTarget⟩ := attached wire (wires ▸ member)
    rw [← map_uid_withCardinality builder.wires] at isSource isTarget
    simp only [List.mem_map (f := Part.uid)] at isSource isTarget
    simpa only [Network.danglingEnd?, List.findSome?_eq_none_iff, List.forall_mem_cons, ite_eq_left_iff, reduceCtorEq,
      imp_false, not_not, List.any_eq_true, beq_iff_eq, List.not_mem_nil, false_implies, implies_true, and_true]
      using ⟨isSource, isTarget⟩
  have counted : network.parts.findSome? (Network.miscounted? network.wires) = none := by
    rw [wires, List.findSome?_map]
    exact List.findSome?_eq_none_iff.mpr fun part _ => part.miscounted?_withCardinality builder.wires
  have sound : network.wiringFault? = none := by
    simp only [Network.wiringFault?, ends, counted]
  refine ⟨(network, { builder.completeTexts with parts := network.parts }), ?_⟩
  simp only [build]
  split
  · rename_i fault found
    cases sound.symm.trans found
  · rfl

theorem textItems_allocator (allocator : Allocator) (text : String) (cultures : List String) :
    (textItems allocator text cultures).2 = allocator.advanceBy cultures.length := by
  rw [(textItems_issues allocator text cultures).1, List.length_map, length_textItems]

/-- How many identifiers the contents of a network take: parts and wires, and two texts with their items. -/
def Design.demand (cultures : List String) (design : Design) : Nat := design.size + 2 * (1 + cultures.length)

/-- Whether the items of its texts are numbered first or last, a network takes as many identifiers. -/
theorem Design.allocator_completeTexts (uid : Int) (source : Allocator) (cultures : List String) (deferred : Bool)
    (design : Design) :
    (design.wired (Builder.start uid source design.title cultures deferred)).completeTexts.allocator =
      source.advanceBy (design.demand cultures) := by
  cases deferred with
  | true =>
    have completed : (design.wired (Builder.start uid source design.title cultures true)).completeTexts.allocator =
        (textItems (textItems (source.advance.advance.advanceBy design.size) "" cultures).2
          design.title cultures).2 := rfl
    rw [completed, textItems_allocator, textItems_allocator]
    simp only [Allocator.advanceBy, Allocator.advance, demand, Allocator.mk.injEq, true_and]
    push_cast
    ring
  | false =>
    have completed : (design.wired (Builder.start uid source design.title cultures false)).completeTexts.allocator =
        (textItems (textItems source.advance design.title cultures).2.advance "" cultures).2.advanceBy
          design.size := rfl
    rw [completed, textItems_allocator, textItems_allocator]
    simp only [Allocator.advanceBy, Allocator.advance, demand, Allocator.mk.injEq, true_and]
    push_cast
    ring

/-- What comes of a design whose ports can be numbered: a network, unless its source has too few identifiers. -/
theorem makeNetwork_eq (plan : UidPlan) (source : UidSource) (cultures : List String) {design : Design}
    (short : design.width < 10 ^ Text.maxDigits) :
    ∃ network, makeNetwork plan source design.title cultures design.wiring =
      let done := (source.allocator plan.document.advance).advanceBy (design.demand cultures)
      if done.overflowed then .error (.bandExhausted design.title)
      else .ok (network, { plan with document := source.counter plan.document.advance done }) := by
  let start := Builder.start plan.document.next (source.allocator plan.document.advance) design.title cultures
    plan.defersItems
  obtain ⟨_, wired, ran, -⟩ := Design.gives_wiring short start
  obtain rfl : wired = design.wired start := Design.run_wiring_eq_ok rfl rfl ran
  obtain ⟨⟨network, done⟩, built⟩ : ∃ made, (design.wired start).build = .ok made := by
    refine Builder.exists_build fun wire member => ?_
    simp only [Design.wired, List.mem_map] at member ⊢
    exact Design.ends_of_mem_wires none member
  have stopped := (Builder.build_eq built).2.trans (Design.allocator_completeTexts ..)
  have building : ((design.wired start).build.mapError .wiring : Except GenerationFault _) = .ok (network, done) := by
    rw [built]
    rfl
  refine ⟨network, ?_⟩
  rw [← stopped]
  cases source with
  | document =>
    refine (bind_of_eq_ok ran _).trans ((bind_of_eq_ok building _).trans ?_)
    cases overflowed : done.allocator.overflowed <;> simp only [overflowed] <;> rfl
  | own allocator =>
    refine (bind_of_eq_ok ran _).trans ((bind_of_eq_ok building _).trans ?_)
    cases overflowed : done.allocator.overflowed <;> simp only [overflowed] <;> rfl

/-- A network is made from a counter without limit, whatever its design, as long as its ports can be numbered. -/
theorem exists_makeNetwork {plan : UidPlan} (unlimited : plan.document.limit = none) {design : Design}
    (short : design.width < 10 ^ Text.maxDigits) (cultures : List String) :
    ∃ made, makeNetwork plan .document design.title cultures design.wiring = .ok made := by
  obtain ⟨network, made⟩ := makeNetwork_eq plan .document cultures short
  have fits : ((UidSource.document.allocator plan.document.advance).advanceBy
      (design.demand cultures)).overflowed = false := by
    simp [UidSource.allocator, Allocator.overflowed, Allocator.advanceBy, Allocator.advance, unlimited]
  simp only [fits] at made
  exact ⟨_, made⟩

end StepFlow.Netlist
