import StepFlow.Proofs.Netlist.Generation

/-! # Building by any calls

A builder can be called in any order and with any ports. An assembly is a builder with what its calls have come to:
the parts that were returned, the wires that were drawn, and the faults of wires that were not drawn because of a port.
Every call keeps the assembly sound, so a network can be built at any time, whatever was called before.
-/

namespace StepFlow.Netlist

/-- A call to a builder. Where a wire starts and ends is given by the numbers of parts that earlier calls returned. -/
inductive Call where
  | access (array : String) (index : Int)
  | literal (value : Bool)
  | instruction (type : PartType)
  | connect (source : Nat) (sourcePort : Option String) (target : Nat) (targetPort : String) (negated : Bool)
  deriving Repr, DecidableEq

/-- A builder with what its calls have come to. -/
structure Assembly where
  builder : Builder
  /-- The parts as they were when they were made. -/
  returned : List Part := []
  /-- The wires, each with whether it inverts the input where it ends. -/
  drawn : List (Wire × Bool) := []
  faults : List PortFault := []
  deriving Repr, DecidableEq

namespace Assembly

/-- The assembly after a part was made. -/
def returns (part : Part) (builder : Builder) (assembly : Assembly) : Assembly :=
  { assembly with builder, returned := assembly.returned ++ [part] }

/-- Performs a call; a fault is kept, and the builder is as it was. No call can draw a wire from or to a part that was
not returned, or to an access. -/
def call? (assembly : Assembly) : Call → Option Assembly
  | .access array index =>
    let (access, builder) := assembly.builder.access array index
    some (assembly.returns (.local access) builder)
  | .literal value =>
    let (access, builder) := assembly.builder.literal value
    some (assembly.returns (.literal access) builder)
  | .instruction type =>
    let (part, builder) := assembly.builder.instruction type
    some (assembly.returns (.instruction part) builder)
  | .connect source sourcePort target targetPort negated =>
    match assembly.returned[source]?, assembly.returned[target]? with
    | some source, some (.instruction target) =>
      match assembly.builder.connect source sourcePort target targetPort negated with
      | .ok (wire, builder) => some { assembly with builder, drawn := assembly.drawn ++ [(wire, negated)] }
      | .error fault => some { assembly with faults := assembly.faults ++ [fault] }
    | _, _ => none

/-- An assembly before the first call. -/
def start (uid : Int) (allocator : Allocator) (title : String) (cultures : List String) (deferred : Bool) : Assembly :=
  { builder := Builder.start uid allocator title cultures deferred }

/-- Performs calls in order. -/
def run? (assembly : Assembly) (calls : List Call) : Option Assembly := calls.foldlM call? assembly

end Assembly

/-- A part as it is when it is made: neither its inputs counted nor any of them inverted. -/
def Part.outline : Part → Part
  | .instruction part => .instruction { part with cardinality := none, negated := [] }
  | other => other

namespace Part

theorem uid_outline (part : Part) : part.outline.uid = part.uid := by
  cases part <;> rfl

theorem outline_withCardinality (wires : List Wire) (part : Part) :
    (part.withCardinality wires).outline = part.outline := by
  cases part with
  | instruction part =>
    simp only [withCardinality]
    split <;> rfl
  | «local» access => rfl
  | literal access => rfl

/-- A part of which inputs were counted is a gate that states the number of wires that end there, or as it was. -/
theorem exists_of_withCardinality {wires : List Wire} {parts : List Part} {part : Instruction}
    (member : .instruction part ∈ parts.map (withCardinality wires)) :
    ∃ original, .instruction original ∈ parts ∧
      (part.type = .and →
        part.cardinality = some ((wires.filter fun wire => wire.target.uid = part.uid).length : Int)) ∧
      part.uid = original.uid ∧ part.negated = original.negated := by
  obtain ⟨original, isOriginal, counted⟩ := List.mem_map.mp member
  cases original with
  | «local» access => cases counted
  | literal access => cases counted
  | instruction original =>
    refine ⟨original, isOriginal, ?_⟩
    obtain rfl := Part.instruction.inj counted
    split
    · refine ⟨fun _ => ?_, rfl, rfl⟩
      simp [Network.incoming, List.countP_eq_length_filter, beq_eq_decide]
    · exact ⟨fun isGate => absurd isGate ‹_›, rfl, rfl⟩

end Part

namespace Instruction

variable (port : String) (part : Instruction)

theorem uid_negate : (part.negate port).uid = part.uid := by
  unfold negate
  split <;> rfl

theorem mem_negate {other : String} : other ∈ (part.negate port).negated ↔ other ∈ part.negated ∨ other = port := by
  unfold negate
  split
  · rename_i present
    have isMember : port ∈ part.negated := List.contains_iff_mem.mp present
    refine ⟨.inl, ?_⟩
    rintro (old | rfl)
    · exact old
    · exact isMember
  · rw [List.mem_append, List.mem_singleton]

theorem nodup_negate (nodup : part.negated.Nodup) : (part.negate port).negated.Nodup := by
  unfold negate
  split
  · exact nodup
  · rename_i missing
    refine nodup.append (List.nodup_singleton port) (List.disjoint_singleton.mpr ?_)
    rwa [List.contains_iff_mem] at missing

theorem outline_negate : (Part.instruction (part.negate port)).outline = (Part.instruction part).outline := by
  unfold negate
  split <;> rfl

end Instruction

theorem Part.outline_modify_negate (uid : Int) (port : String) (part : Part) :
    (part.modify uid (Instruction.negate port)).outline = part.outline := by
  cases part with
  | instruction part =>
    simp only [modify]
    split
    · exact part.outline_negate port
    · rfl
  | «local» access => rfl
  | literal access => rfl

/-- The identifier that a source hands out next is new. -/
theorem Allocator.Issues.next_notMem {before after : Allocator} {uids : List Int} (issued : before.Issues uids after) :
    after.next ∉ uids := by
  intro member
  have bounded := (issued.mem_iff.mp member).2
  have reached : after.next = before.next + uids.length := by rw [issued.1]; rfl
  omega

namespace Builder

/-- Drawing a wire changes nothing about parts but the inputs that are inverted. -/
theorem map_outline_withWire (source : Part) (sourcePort : Option String) (target : Instruction) (targetPort : String)
    (negated : Bool) (builder : Builder) :
    (builder.withWire source sourcePort target targetPort negated).parts.map Part.outline =
      builder.parts.map Part.outline := by
  simp only [withWire]
  split
  · rw [List.map_map]
    exact List.map_congr_left fun part _ => part.outline_modify_negate target.uid targetPort
  · rfl

/-- The wire that is drawn. -/
theorem eq_wire_of_connect {source : Part} {sourcePort : Option String} {target : Instruction} {targetPort : String}
    {negated : Bool} {builder after : Builder} {wire : Wire}
    (joined : builder.connect source sourcePort target targetPort negated = .ok (wire, after)) :
    wire = ⟨builder.allocator.next, ⟨source.uid, sourcePort⟩, ⟨target.uid, targetPort⟩⟩ := by
  obtain ⟨_, -, joined⟩ := bind_eq_ok joined
  obtain ⟨_, -, joined⟩ := bind_eq_ok joined
  cases joined
  rfl

end Builder

namespace Assembly

/-- The ways in which a call takes an assembly further. -/
inductive Advances (assembly : Assembly) : Assembly → Prop where
  /-- A part is made with the next identifier. -/
  | part {part : Part} (numbered : part.uid = assembly.builder.allocator.next) (plain : part.outline = part) :
    Advances assembly (assembly.returns part (assembly.builder.addPart part))
  /-- A wire is drawn between parts that were returned. -/
  | wire {source : Part} {sourcePort : Option String} {target : Instruction} {targetPort : String} (negated : Bool)
      (isSource : source ∈ assembly.returned) (isTarget : .instruction target ∈ assembly.returned) :
    Advances assembly { assembly with
      builder := assembly.builder.withWire source sourcePort target targetPort negated
      drawn := assembly.drawn ++
        [(⟨assembly.builder.allocator.next, ⟨source.uid, sourcePort⟩, ⟨target.uid, targetPort⟩⟩, negated)] }
  /-- A port does not exist. -/
  | fault (fault : PortFault) : Advances assembly { assembly with faults := assembly.faults ++ [fault] }

variable {assembly next : Assembly}

theorem advances_of_call? {call : Call} (called : assembly.call? call = some next) : assembly.Advances next := by
  cases call with
  | access array index =>
    cases called
    exact .part rfl rfl
  | literal value =>
    cases called
    exact .part rfl rfl
  | instruction type =>
    cases called
    exact .part rfl rfl
  | connect source sourcePort target targetPort negated =>
    simp only [call?] at called
    split at called
    · rename_i start stop isSource isTarget
      split at called
      · rename_i wire builder joined
        cases called
        rw [Builder.eq_withWire_of_connect joined, Builder.eq_wire_of_connect joined]
        exact .wire negated (List.mem_of_getElem? isSource) (List.mem_of_getElem? isTarget)
      · cases called
        exact .fault _
    · cases called

/-- A fault is all that a call which fails leaves behind. -/
theorem builder_eq_of_fault {call : Call} {fault : PortFault} (called : assembly.call? call = some next)
    (failed : next.faults = assembly.faults ++ [fault]) : next.builder = assembly.builder := by
  have grown : next.faults ≠ assembly.faults := by simp [failed]
  cases advances_of_call? called with
  | part => exact absurd rfl grown
  | wire => exact absurd rfl grown
  | fault => rfl

/-- What holds of an assembly whose builder numbers from a source: its texts, parts and wires use what the source has
handed out, its parts are those that were returned, its wires are those that were drawn and end at parts, and the
inverted inputs of each part are the ports of the wires that invert. -/
structure Sound (source : Allocator) (assembly : Assembly) : Prop where
  issued : source.Issues assembly.builder.contents assembly.builder.allocator
  bare : assembly.builder.defersItems = true →
    assembly.builder.title.items = [] ∧ assembly.builder.comment.items = []
  kept : assembly.builder.parts.map Part.outline = assembly.returned
  wired : assembly.builder.wires = assembly.drawn.map Prod.fst
  attached : ∀ wire ∈ assembly.builder.wires, wire.source.uid ∈ assembly.builder.parts.map Part.uid ∧
    wire.target.uid ∈ assembly.builder.parts.map Part.uid
  inverted : ∀ part, .instruction part ∈ assembly.builder.parts → part.negated.Nodup ∧
    ∀ port, port ∈ part.negated ↔ ∃ wire, (wire, true) ∈ assembly.drawn ∧ wire.target = ⟨part.uid, port⟩

theorem sound_start (uid : Int) (allocator : Allocator) (title : String) (cultures : List String) (deferred : Bool) :
    Sound allocator (start uid allocator title cultures deferred) where
  issued := by
    simpa [Builder.contents, start, Builder.start] using Builder.start_issues uid allocator title cultures deferred
  bare := Builder.start_bare
  kept := rfl
  wired := rfl
  attached := nofun
  inverted := nofun

namespace Sound

variable {source : Allocator} (sound : assembly.Sound source)
include sound

/-- What was returned has the identifier of a part. -/
theorem uid_mem {part : Part} (returned : part ∈ assembly.returned) :
    part.uid ∈ assembly.builder.parts.map Part.uid := by
  rw [← sound.kept] at returned
  obtain ⟨original, isPart, rfl⟩ := List.mem_map.mp returned
  exact List.mem_map.mpr ⟨original, isPart, original.uid_outline.symm⟩

/-- No wire ends at a part that is not made yet. -/
theorem target_ne_next {wire : Wire} {negated : Bool} (drawn : (wire, negated) ∈ assembly.drawn) :
    wire.target.uid ≠ assembly.builder.allocator.next := by
  intro same
  have isWire : wire ∈ assembly.builder.wires := sound.wired ▸ List.mem_map.mpr ⟨_, drawn, rfl⟩
  have isPart := (sound.attached wire isWire).2
  rw [same] at isPart
  apply sound.issued.next_notMem
  simp only [Builder.contents, List.mem_append]
  exact .inl (.inr isPart)

theorem part {part : Part} (numbered : part.uid = assembly.builder.allocator.next) (plain : part.outline = part) :
    (assembly.returns part (assembly.builder.addPart part)).Sound source where
  issued := by
    refine (sound.issued.append (.next assembly.builder.allocator)).perm (List.perm_iff_count.mpr fun uid => ?_)
    simp only [returns, Builder.addPart, Builder.contents, List.map_append, List.map_cons, List.map_nil, numbered,
      List.count_append]
    omega
  bare := sound.bare
  kept := by simp only [returns, Builder.addPart, List.map_append, List.map_cons, List.map_nil, sound.kept, plain]
  wired := sound.wired
  attached wire isWire := by
    simp only [returns, Builder.addPart, List.map_append, List.mem_append]
    exact ⟨.inl (sound.attached wire isWire).1, .inl (sound.attached wire isWire).2⟩
  inverted other isPart := by
    rcases List.mem_append.mp isPart with old | new
    · exact sound.inverted other old
    · obtain rfl := List.mem_singleton.mp new
      -- A new part has no inverted inputs, and no wire can end there yet.
      have none : other.negated = [] := congrArg Instruction.negated (Part.instruction.inj plain).symm
      rw [none]
      refine ⟨.nil, fun port => iff_of_false List.not_mem_nil ?_⟩
      rintro ⟨wire, drawn, ends⟩
      exact sound.target_ne_next drawn ((congrArg Target.uid ends).trans numbered)

/-- Only the part where a wire ends notes the port, and only if the wire inverts. -/
theorem inverted_withWire {start : Part} {sourcePort : Option String} {target : Instruction} {targetPort : String}
    {negated : Bool} {part : Instruction} {uid : Int}
    (isPart : .instruction part ∈ (assembly.builder.withWire start sourcePort target targetPort negated).parts) :
    part.negated.Nodup ∧ ∀ port, port ∈ part.negated ↔
      ∃ wire, (wire, true) ∈
          assembly.drawn ++ [(⟨uid, ⟨start.uid, sourcePort⟩, ⟨target.uid, targetPort⟩⟩, negated)] ∧
        wire.target = ⟨part.uid, port⟩ := by
  cases negated with
  | false => simpa [Builder.withWire] using sound.inverted part isPart
  | true =>
    obtain ⟨original, isOriginal, changed⟩ := List.mem_map.mp isPart
    cases original with
    | «local» access => cases changed
    | literal access => cases changed
    | instruction original =>
      obtain ⟨nodup, ports⟩ := sound.inverted original isOriginal
      obtain rfl := Part.instruction.inj changed
      by_cases here : original.uid = target.uid
      · rw [if_pos here]
        refine ⟨original.nodup_negate targetPort nodup, fun port => ?_⟩
        rw [Instruction.mem_negate, ports, Instruction.uid_negate]
        simp only [List.mem_append, List.mem_singleton, Prod.mk.injEq, and_true, or_and_right, exists_or,
          exists_eq_left, Target.mk.injEq, here, true_and, eq_comm]
      · rw [if_neg here]
        refine ⟨nodup, fun port => ?_⟩
        rw [ports]
        simp only [List.mem_append, List.mem_singleton, Prod.mk.injEq, and_true, or_and_right, exists_or,
          exists_eq_left, Target.mk.injEq, Ne.symm here, false_and, or_false]

theorem wire {start : Part} {sourcePort : Option String} {target : Instruction} {targetPort : String} (negated : Bool)
    (isSource : start ∈ assembly.returned) (isTarget : .instruction target ∈ assembly.returned) :
    Sound source { assembly with
      builder := assembly.builder.withWire start sourcePort target targetPort negated
      drawn := assembly.drawn ++
        [(⟨assembly.builder.allocator.next, ⟨start.uid, sourcePort⟩, ⟨target.uid, targetPort⟩⟩, negated)] } := by
  have outlines := assembly.builder.map_outline_withWire start sourcePort target targetPort negated
  have uids : (assembly.builder.withWire start sourcePort target targetPort negated).parts.map Part.uid =
      assembly.builder.parts.map Part.uid := by
    simpa only [List.map_map, Function.comp_def, Part.uid_outline] using congrArg (List.map Part.uid) outlines
  refine ⟨?_, sound.bare, outlines.trans sound.kept, ?_, ?_, fun part => sound.inverted_withWire⟩
  · refine (sound.issued.append (.next assembly.builder.allocator)).perm (List.perm_iff_count.mpr fun uid => ?_)
    simp only [Builder.contents, uids]
    simp only [Builder.withWire, List.map_append, List.map_cons, List.map_nil, List.count_append]
    omega
  · simp only [Builder.withWire, sound.wired, List.map_append, List.map_cons, List.map_nil]
  · intro wire isWire
    rw [uids]
    rcases List.mem_append.mp isWire with old | new
    · exact sound.attached wire old
    · obtain rfl := List.mem_singleton.mp new
      exact ⟨sound.uid_mem isSource, sound.uid_mem isTarget⟩

/-- A call keeps an assembly sound. -/
theorem call? {call : Call} (called : assembly.call? call = some next) : next.Sound source := by
  cases advances_of_call? called with
  | part numbered plain => exact sound.part numbered plain
  | wire negated isSource isTarget => exact sound.wire negated isSource isTarget
  | fault fault => exact ⟨sound.issued, sound.bare, sound.kept, sound.wired, sound.attached, sound.inverted⟩

/-- A run of calls keeps an assembly sound. -/
theorem run? {calls : List Call} (ran : assembly.run? calls = some next) : next.Sound source := by
  induction calls generalizing assembly with
  | nil =>
    cases ran
    exact sound
  | cons call rest ih =>
    rw [Assembly.run?, List.foldlM_cons] at ran
    obtain ⟨between, called, later⟩ := Option.bind_eq_some_iff.mp ran
    exact ih (sound.call? called) later

end Sound

/-- Whatever is called, a network can be built. Its parts are those that were returned and its wires those that were
drawn; gates state the number of wires that end there; texts, parts and wires are numbered without a gap from the start
of the source; the inverted inputs of a part are the ports of the wires that invert, each once. A call that fails leaves
the builder as it was. -/
theorem build_after_run {uid first : Int} {limit : Option Int} {title : String} {cultures : List String}
    {deferred : Bool} {calls : List Call}
    (ran : (start uid { start := first, limit } title cultures deferred).run? calls = some assembly) :
    (∃ network done, assembly.builder.build = .ok (network, done) ∧
      network.parts.map Part.outline = assembly.returned ∧ network.wires = assembly.drawn.map Prod.fst ∧
      network.contents.Nodup ∧
      (∀ id, id ∈ network.contents ↔ first ≤ id ∧ id < first + network.contents.length) ∧
      ∀ part, .instruction part ∈ network.parts →
        (part.type = .and →
          part.cardinality = some ((network.wires.filter fun wire => wire.target.uid = part.uid).length : Int)) ∧
        part.negated.Nodup ∧
        ∀ port, port ∈ part.negated ↔ ∃ wire, (wire, true) ∈ assembly.drawn ∧ wire.target = ⟨part.uid, port⟩) ∧
    ∀ (reached failed : Assembly) (call : Call) (fault : PortFault), reached.call? call = some failed →
      failed.faults = reached.faults ++ [fault] → failed.builder = reached.builder := by
  have sound := (sound_start uid { start := first, limit } title cultures deferred).run? ran
  refine ⟨?_, fun _ _ _ _ called failed => builder_eq_of_fault called failed⟩
  obtain ⟨⟨network, done⟩, built⟩ := Builder.exists_build sound.attached
  obtain ⟨parts, wires, -⟩ := Builder.build_eq_ok built
  have issued := Builder.build_issues sound.issued sound.bare built
  refine ⟨network, done, built, ?_, wires.trans sound.wired, issued.nodup, fun id => issued.mem_iff, ?_⟩
  · rw [parts, List.map_map, ← sound.kept]
    exact List.map_congr_left fun part _ => part.outline_withCardinality _
  · intro part isPart
    rw [parts] at isPart
    obtain ⟨original, isOriginal, counted, same⟩ := Part.exists_of_withCardinality isPart
    refine ⟨wires ▸ counted, ?_⟩
    rw [same.1, same.2]
    exact sound.inverted original isOriginal

/-- A gate of which one input is wired and inverted twice, a port with a digit that is no decimal, and a latch whose
output a gate lacks: four wires are drawn and two calls fail. -/
theorem build_after_run_repeated_port :
    let calls : List Call :=
      [.instruction .and, .access "Stap" 3, .connect 1 none 0 "in1" true, .connect 1 none 0 "in1" true,
        .connect 1 none 0 "in²" false, .instruction .latch, .connect 0 (some "q") 2 "s" false,
        .connect 0 (some "out") 2 "s" false, .connect 1 (some "x") 0 "in7" false]
    ∃ assembly, (start 0 { start := 5 } "t" ["nl-NL", "en-GB"] true).run? calls = some assembly ∧
      assembly.drawn.length = 4 ∧ assembly.faults = [.numeral (.notDecimal "²"), .noOutput .and (some "q")] ∧
      ∃ network done, assembly.builder.build = .ok (network, done) ∧
        network.parts.map Part.outline = assembly.returned ∧ network.contents.Nodup ∧
        network.contents.length = 13 ∧
        .instruction { uid := 7, type := .and, cardinality := some 3, negated := ["in1"] } ∈ network.parts := by
  intro calls
  have evaluated : ((start 0 { start := 5 } "t" ["nl-NL", "en-GB"] true).run? calls).map (fun assembly =>
      (assembly.drawn.length, assembly.faults, assembly.builder.build.toOption.map fun built =>
        (built.1.contents.length, built.1.parts.head?))) =
      some (4, [.numeral (.notDecimal "²"), .noOutput .and (some "q")],
        some (13, some (.instruction { uid := 7, type := .and, cardinality := some 3, negated := ["in1"] }))) := by
    decide +kernel
  obtain ⟨assembly, ran, shape⟩ := Option.map_eq_some_iff.mp evaluated
  simp only [Prod.mk.injEq] at shape
  obtain ⟨drawn, faults, networks⟩ := shape
  obtain ⟨⟨network, done, built, parts, -, nodup, -⟩, -⟩ := build_after_run ran
  rw [built] at networks
  simp only [Except.toOption, Option.map_some, Option.some.injEq, Prod.mk.injEq] at networks
  exact ⟨assembly, ran, drawn, faults, network, done, built, parts, nodup, networks.1, List.mem_of_head? networks.2⟩

end Assembly

end StepFlow.Netlist
