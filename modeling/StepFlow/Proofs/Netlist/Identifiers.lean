import StepFlow.Proofs.Netlist.Meaning

/-! # Which identifiers are handed out

A source hands out consecutive identifiers. Whatever is made from a source uses all the identifiers that the
source has handed out meanwhile, and each of them once: this holds of texts, of the contents of a network and
of the blocks, although the order in which they are made is not the order of the document. The schemes differ
only in the source from which a network's contents are made.
-/

namespace StepFlow.Netlist

/-- Consecutive identifiers, from the first one on. -/
def uidRun (first : Int) (count : Nat) : List Int := (List.range count).map fun index : Nat => first + index

theorem length_uidRun (first : Int) (count : Nat) : (uidRun first count).length = count := by
  simp [uidRun]

theorem uidRun_add (first : Int) (count more : Nat) :
    uidRun first (count + more) = uidRun first count ++ uidRun (first + count) more := by
  simp only [uidRun, List.range_add, List.map_append, List.map_map, Function.comp_def, Nat.cast_add, add_assoc]

theorem uidRun_succ (first : Int) (count : Nat) : uidRun first (count + 1) = first :: uidRun (first + 1) count := by
  rw [Nat.add_comm, uidRun_add]
  simp [uidRun]

theorem mem_uidRun {first uid : Int} {count : Nat} : uid ∈ uidRun first count ↔ first ≤ uid ∧ uid < first + count := by
  simp only [uidRun, List.mem_map, List.mem_range]
  constructor
  · rintro ⟨index, bound, rfl⟩
    omega
  · rintro ⟨low, high⟩
    exact ⟨(uid - first).toNat, by omega, by omega⟩

theorem nodup_uidRun (first : Int) (count : Nat) : (uidRun first count).Nodup :=
  List.nodup_range.map fun _ _ same => Nat.cast_injective (add_left_cancel same)

namespace Allocator

/-- Between two states of a source it has handed out the given identifiers, all of them and each once. -/
def Issues (before : Allocator) (uids : List Int) (after : Allocator) : Prop :=
  after = before.advanceBy uids.length ∧ uids.Perm (uidRun before.next uids.length)

namespace Issues

variable {before middle after : Allocator} {uids others : List Int}

theorem nil (allocator : Allocator) : allocator.Issues [] allocator :=
  ⟨allocator.advanceBy_zero.symm, .nil⟩

theorem next (allocator : Allocator) : allocator.Issues [allocator.next] allocator.advance := by
  refine ⟨?_, ?_⟩
  · rw [List.length_singleton, ← allocator.advanceBy_advance 0, advanceBy_zero]
  · simp [uidRun]

theorem append (first : before.Issues uids middle) (second : middle.Issues others after) :
    before.Issues (uids ++ others) after := by
  obtain ⟨rfl, early⟩ := first
  obtain ⟨rfl, late⟩ := second
  refine ⟨?_, ?_⟩
  · simp only [advanceBy, List.length_append, Nat.cast_add, add_assoc]
  · rw [List.length_append, uidRun_add]
    exact early.append late

theorem perm (issued : before.Issues uids after) (same : others.Perm uids) : before.Issues others after := by
  rw [Issues, same.length_eq]
  exact ⟨issued.1, same.trans issued.2⟩

/-- A source keeps its limit. -/
theorem limit_eq (issued : before.Issues uids after) : after.limit = before.limit := by
  rw [issued.1]
  rfl

theorem mem_iff (issued : before.Issues uids after) {uid : Int} :
    uid ∈ uids ↔ before.next ≤ uid ∧ uid < before.next + uids.length :=
  issued.2.mem_iff.trans mem_uidRun

theorem nodup (issued : before.Issues uids after) : uids.Nodup :=
  issued.2.nodup_iff.mpr (nodup_uidRun ..)

end Issues

end Allocator

/-! ## Texts -/

theorem length_textItems (allocator : Allocator) (text : String) (cultures : List String) :
    (textItems allocator text cultures).1.length = cultures.length := by
  have shown := congrArg List.length (textItems_shown allocator text cultures)
  simpa using shown

theorem textItems_issues (allocator : Allocator) (text : String) (cultures : List String) :
    allocator.Issues ((textItems allocator text cultures).1.map TextItem.uid)
      (textItems allocator text cultures).2 := by
  induction cultures generalizing allocator with
  | nil => exact .nil allocator
  | cons culture rest ih => exact (Allocator.Issues.next allocator).append (ih allocator.advance)

theorem newText_issues (allocator : Allocator) (role : TextRole) (text : String) (cultures : List String)
    (deferred : Bool) :
    allocator.Issues (newText allocator role text cultures deferred).1.uids
      (newText allocator role text cultures deferred).2 := by
  cases deferred with
  | true => exact .next allocator
  | false => exact (Allocator.Issues.next allocator).append (textItems_issues allocator.advance text cultures)

/-! ## Networks -/

/-- The identifiers within a network. -/
def Network.contents (network : Network) : List Int :=
  network.title.uids ++ network.comment.uids ++ network.parts.map Part.uid ++ network.wires.map Wire.uid

theorem Network.uids_eq (network : Network) : network.uids = network.uid :: network.contents := rfl

theorem map_uid_bitParts (first : Int) (steps : List Step) :
    (bitParts first steps).map Part.uid = uidRun first steps.length := by
  induction steps generalizing first with
  | nil => rfl
  | cons step rest ih => rw [bitParts, List.map_cons, ih, List.length_cons, uidRun_succ]; rfl

theorem map_uid_gateWires (gate first : Int) (number : Nat) (inputs : List Part) :
    (gateWires gate first number inputs).map Wire.uid = uidRun first inputs.length := by
  induction inputs generalizing first number with
  | nil => rfl
  | cons input rest ih => rw [gateWires, List.map_cons, ih, List.length_cons, uidRun_succ]

namespace Design

theorem map_uid_inputs (first : Int) (design : Design) :
    (design.inputs first).map Part.uid = uidRun first design.width := by
  cases design with
  | rest step sequential => exact map_uid_bitParts first sequential
  | numbered previous step next => simp [bitPart, Part.uid, uidRun, List.range_succ]

/-- What follows the driver, accesses and wires, is numbered without a gap. -/
theorem perm_uid_driven (gate driver : Int) (design : Design) :
    ((design.accesses driver).map Part.uid ++ (design.driverWires gate driver).map Wire.uid).Perm
      (uidRun (driver + 1) (if design.reset.isSome then 5 else 3)) := by
  have offsets (order : List Int) (count : Nat)
      (same : order.Perm ((List.range count).map fun index : Nat => 1 + (index : Int))) :
      (order.map (driver + ·)).Perm (uidRun (driver + 1) count) := by
    refine (same.map (driver + ·)).trans (.of_eq ?_)
    simp only [uidRun, List.map_map, Function.comp_def, add_assoc]
  cases design with
  | rest step sequential =>
    cases sequential with
    | nil => exact offsets [2, 1, 3] 3 (by decide)
    | cons first rest => exact offsets [1, 4, 2, 3, 5] 5 (by decide)
  | numbered previous step next =>
    cases next with
    | none => exact offsets [1, 2, 3] 3 (by decide)
    | some next => exact offsets [1, 2, 3, 4, 5] 5 (by decide)

/-- The parts and wires of a design take all identifiers from the first one on, as many as its size says. -/
theorem perm_uids (first : Int) (cardinality : Option Int) (design : Design) :
    ((design.parts first cardinality).map Part.uid ++ (design.wires first).map Wire.uid).Perm
      (uidRun first design.size) := by
  have driven := design.perm_uid_driven (first + design.width) (first + 2 * design.width + 1)
  have split : uidRun first design.size =
      uidRun first design.width ++ (first + design.width) :: uidRun (first + design.width + 1) design.width ++
        (first + 2 * design.width + 1) ::
          uidRun (first + 2 * design.width + 1 + 1) (if design.reset.isSome then 5 else 3) := by
    have total : design.size =
        design.width + (1 + (design.width + (1 + if design.reset.isSome then 5 else 3))) := by
      unfold size
      split <;> omega
    rw [total, uidRun_add, Nat.add_comm 1, uidRun_succ, uidRun_add, Nat.add_comm 1, uidRun_succ, List.append_assoc,
      List.cons_append]
    have after : first + design.width + 1 + design.width = first + 2 * design.width + 1 := by omega
    rw [after]
  rw [split]
  apply List.perm_iff_count.mpr
  intro uid
  have counted := List.perm_iff_count.mp driven uid
  simp only [parts, wires, List.map_append, List.map_cons, map_uid_inputs, map_uid_gateWires, length_inputs,
    List.count_append, List.count_cons, Part.uid, gate, driver] at counted ⊢
  omega

end Design

theorem Builder.start_issues (uid : Int) (allocator : Allocator) (title : String) (cultures : List String)
    (deferred : Bool) :
    allocator.Issues
      ((Builder.start uid allocator title cultures deferred).title.uids ++
        (Builder.start uid allocator title cultures deferred).comment.uids)
      (Builder.start uid allocator title cultures deferred).allocator :=
  (newText_issues ..).append (newText_issues ..)

theorem Builder.start_bare {uid : Int} {allocator : Allocator} {title : String} {cultures : List String}
    {deferred : Bool} (defers : (Builder.start uid allocator title cultures deferred).defersItems = true) :
    (Builder.start uid allocator title cultures deferred).title.items = [] ∧
      (Builder.start uid allocator title cultures deferred).comment.items = [] := by
  change deferred = true at defers
  rw [defers]
  exact ⟨rfl, rfl⟩

/-- Completing the texts adds the identifiers of the items that were deferred. -/
theorem Builder.completeTexts_issues (builder : Builder)
    (bare : builder.defersItems = true → builder.title.items = [] ∧ builder.comment.items = []) :
    ∃ items, builder.allocator.Issues items builder.completeTexts.allocator ∧
      (builder.completeTexts.title.uids ++ builder.completeTexts.comment.uids).Perm
        (builder.title.uids ++ builder.comment.uids ++ items) := by
  unfold completeTexts
  split
  · rename_i deferred
    obtain ⟨noTitle, noComment⟩ := bare deferred
    refine ⟨_, (textItems_issues _ "" _).append (textItems_issues _ builder.titleText _), ?_⟩
    apply List.perm_iff_count.mpr
    intro uid
    simp only [MultilingualText.uids, noTitle, noComment, List.map_nil, List.count_append, List.count_cons,
      List.count_nil]
    omega
  · exact ⟨[], .nil _, by simp⟩

theorem Builder.completeTexts_uid (builder : Builder) : builder.completeTexts.uid = builder.uid := by
  unfold completeTexts
  split <;> rfl

/-- Counting the inputs of gates changes no identifier. -/
theorem map_uid_withCardinality (wires : List Wire) (parts : List Part) :
    (parts.map (Part.withCardinality wires)).map Part.uid = parts.map Part.uid := by
  rw [List.map_map]
  apply List.map_congr_left
  intro part _
  cases part with
  | instruction part =>
    simp only [Function.comp_apply, Part.withCardinality, Part.uid]
    split <;> rfl
  | «local» access => rfl
  | literal access => rfl

/-- The identifiers of the texts, parts and wires so far. -/
def Builder.contents (builder : Builder) : List Int :=
  builder.title.uids ++ builder.comment.uids ++ builder.parts.map Part.uid ++ builder.wires.map Wire.uid

/-- A network that was built has just the identifiers that were handed out for it: those of its builder, and those of
the items that were deferred. -/
theorem Builder.build_issues {source : Allocator} {builder done : Builder} {network : Network}
    (issued : source.Issues builder.contents builder.allocator)
    (bare : builder.defersItems = true → builder.title.items = [] ∧ builder.comment.items = [])
    (built : builder.build = .ok (network, done)) : source.Issues network.contents done.allocator := by
  obtain ⟨rfl, stopped⟩ := build_eq built
  obtain ⟨items, completed, texts⟩ := completeTexts_issues builder bare
  rw [stopped]
  refine (issued.append completed).perm (List.perm_iff_count.mpr fun uid => ?_)
  have counted := List.perm_iff_count.mp texts uid
  simp only [Network.contents, contents, map_uid_withCardinality, completeTexts_wires, List.count_append] at counted ⊢
  omega

/-- The network of a design has just the identifiers that were handed out for its texts, parts and wires. -/
theorem Design.build_issues {source : Allocator} {start done : Builder} {design : Design} {network : Network}
    (opened : source.Issues (start.title.uids ++ start.comment.uids) start.allocator)
    (bare : start.defersItems = true → start.title.items = [] ∧ start.comment.items = [])
    (built : (design.wired start).build = .ok (network, done)) : source.Issues network.contents done.allocator := by
  have numbered := design.perm_uids start.allocator.next none
  have size := numbered.length_eq.trans (length_uidRun ..)
  have wired : start.allocator.Issues
      ((design.parts start.allocator.next none).map Part.uid ++ (design.wires start.allocator.next).map Wire.uid)
      (start.allocator.advanceBy design.size) :=
    ⟨by rw [size], by rwa [size]⟩
  have issued : source.Issues (design.wired start).contents (design.wired start).allocator := by
    simpa only [Builder.contents, Design.wired, List.append_assoc] using opened.append wired
  exact Builder.build_issues issued bare built

/-- A network takes its own identifier from the counter of the document, and its contents use what their source
hands out, which stays within its limit. -/
theorem makeNetwork_issues {plan after : UidPlan} {source : UidSource} {cultures : List String} {design : Design}
    {network : Network}
    (made : makeNetwork plan source design.title cultures design.wiring = .ok (network, after)) :
    network.uid = plan.document.next ∧ ∃ done : Allocator,
      (source.allocator plan.document.advance).Issues network.contents done ∧ done.overflowed = false ∧
      after = { plan with document := source.counter plan.document.advance done } := by
  obtain ⟨done, built, fits, rfl⟩ := makeNetwork_eq_ok made
  have named := congrArg Network.uid (Builder.build_eq built).1
  have issued := Design.build_issues (Builder.start_issues ..) Builder.start_bare built
  exact ⟨named.trans (Builder.completeTexts_uid _), done.allocator, issued, fits, rfl⟩

/-! ## Documents -/

/-- The identifiers of the instance of a block, if there is one. -/
def Document.instanceUids (document : Document) : List Int :=
  match document.instanceBlock with
  | none => []
  | some data => data.uid :: data.comment.uids ++ data.title.uids

/-- The identifiers of a document outside of its networks' contents. -/
def Document.ownUids (document : Document) : List Int :=
  document.block.uid :: document.block.comment.uids ++ document.block.title.uids ++
    document.block.networks.map Network.uid ++ document.instanceUids

theorem perm_flatMap_uids (networks : List Network) :
    (networks.flatMap Network.uids).Perm (networks.map Network.uid ++ networks.flatMap Network.contents) := by
  induction networks with
  | nil => exact .nil
  | cons network rest ih =>
    simp only [List.flatMap_cons, List.map_cons, Network.uids_eq, List.cons_append]
    refine .cons _ (List.perm_iff_count.mpr fun uid => ?_)
    have counted := List.perm_iff_count.mp ih uid
    simp only [List.count_append] at counted ⊢
    omega

/-- The identifiers of a document, in the order in which its elements are made. -/
theorem Document.perm_made (document : Document) :
    document.uids.Perm (document.block.uid :: document.block.comment.uids ++ document.block.title.uids ++
      document.block.networks.flatMap Network.uids ++ document.instanceUids) := by
  have placed : document.uids = document.block.uid :: document.block.comment.uids ++
      document.block.networks.flatMap Network.uids ++ document.block.title.uids ++ document.instanceUids := rfl
  rw [placed]
  apply List.perm_iff_count.mpr
  intro uid
  simp only [List.count_append, List.count_cons]
  omega

theorem Document.uids_perm (document : Document) :
    document.uids.Perm (document.ownUids ++ document.block.networks.flatMap Network.contents) := by
  refine document.perm_made.trans (List.perm_iff_count.mpr fun uid => ?_)
  have counted := List.perm_iff_count.mp (perm_flatMap_uids document.block.networks) uid
  simp only [ownUids, List.count_append, List.count_cons] at counted ⊢
  omega

theorem instanceOf_issues (allocator : Allocator) (program : Program) (cultures : List String) (deferred : Bool) :
    allocator.Issues
      ((instanceOf allocator program cultures deferred).1.uid ::
        (instanceOf allocator program cultures deferred).1.comment.uids ++
        (instanceOf allocator program cultures deferred).1.title.uids)
      (instanceOf allocator program cultures deferred).2 :=
  ((Allocator.Issues.next allocator).append (newText_issues ..)).append (newText_issues ..)

/-- Whether options defer the items of texts. -/
def GeneratorOptions.defersItems (options : GeneratorOptions) : Bool := options.scheme == .bands

/-- The comment of a program's block, with the counter of the document after it. -/
def blockComment (options : GeneratorOptions) : MultilingualText × Allocator :=
  newText (Allocator.advance {}) .comment "" options.cultures options.defersItems

/-- The title of a program's block, with the counter of the document after it. -/
def blockTitle (options : GeneratorOptions) : MultilingualText × Allocator :=
  newText (blockComment options).2 .title "" options.cultures options.defersItems

/-- A document with its networks whose deferred items are missing, with the counter of the document after it. -/
def Document.draft (options : GeneratorOptions) (program : Program) (networks : List Network) (counter : Allocator) :
    Document × Allocator :=
  let block : FunctionBlock :=
    { uid := 0, name := blockName program, number := blockNumber program, interface := interfaceOf program, networks
      comment := (blockComment options).1, title := (blockTitle options).1 }
  if options.includeInstance then
    let data := instanceOf counter program options.cultures options.defersItems
    ({ block, instanceBlock := some data.1 }, data.2)
  else ({ block }, counter)

/-- A document is made in order: the block and its texts, the networks, the instance, and at last the items of texts
if they were deferred. -/
theorem Document.ofProgram_eq {options : GeneratorOptions} {program : Program}
    (nonempty : program.steps.isEmpty = false) :
    Document.ofProgram options program =
      (programNetworks options.cultures ⟨options.scheme, (blockTitle options).2⟩ program).map fun (networks, plan) =>
        let (draft, counter) := Document.draft options program networks plan.document
        if options.defersItems then fillTexts options.cultures counter draft else draft := by
  simp only [ofProgram, nonempty, Bool.false_eq_true, ↓reduceIte]
  change (programNetworks options.cultures ⟨options.scheme, (blockTitle options).2⟩ program >>= _) = _
  cases programNetworks options.cultures ⟨options.scheme, (blockTitle options).2⟩ program with
  | error fault => rfl
  | ok made =>
    cases included : options.includeInstance with
    | false =>
      simp only [draft, included]
      rfl
    | true =>
      simp only [draft, included]
      rfl

/-- What a document is made of, if there is one. -/
theorem Document.ofProgram_eq_ok {options : GeneratorOptions} {program : Program} {document : Document}
    (built : Document.ofProgram options program = .ok document) :
    ∃ networks plan,
      programNetworks options.cultures ⟨options.scheme, (blockTitle options).2⟩ program = .ok (networks, plan) ∧
      document =
        let (draft, counter) := Document.draft options program networks plan.document
        if options.defersItems then fillTexts options.cultures counter draft else draft := by
  cases empty : program.steps.isEmpty with
  | true =>
    simp only [ofProgram, empty, ↓reduceIte] at built
    cases built
  | false =>
    rw [ofProgram_eq empty] at built
    cases made : programNetworks options.cultures ⟨options.scheme, (blockTitle options).2⟩ program with
    | error fault =>
      rw [made] at built
      cases built
    | ok pair =>
      rw [made] at built
      exact ⟨pair.1, pair.2, rfl, (Except.ok.inj built).symm⟩

theorem Document.draft_issues (options : GeneratorOptions) (program : Program) (networks : List Network)
    (counter : Allocator) :
    counter.Issues (draft options program networks counter).1.instanceUids
      (draft options program networks counter).2 := by
  unfold draft
  split
  · exact instanceOf_issues ..
  · exact .nil counter

theorem Document.draft_block (options : GeneratorOptions) (program : Program) (networks : List Network)
    (counter : Allocator) :
    (draft options program networks counter).1.block =
      { uid := 0, name := blockName program, number := blockNumber program, interface := interfaceOf program
        networks, comment := (blockComment options).1, title := (blockTitle options).1 } := by
  unfold draft
  split <;> rfl

theorem blockTitle_issues (options : GeneratorOptions) :
    Allocator.Issues {} ((0 : Int) :: (blockComment options).1.uids ++ (blockTitle options).1.uids)
      (blockTitle options).2 :=
  ((Allocator.Issues.next {}).append (newText_issues ..)).append (newText_issues ..)

end StepFlow.Netlist
