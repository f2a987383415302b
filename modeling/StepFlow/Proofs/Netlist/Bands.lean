import StepFlow.Proofs.Netlist.Identifiers

/-! # Bands of identifiers

Under the scheme of bands the contents of each network stay within a band of their own, and the bands lie one after
the other. The counter of the document numbers everything else, and it has no limit: nothing keeps it out of the
bands. So the identifiers of a document are unique exactly as long as the counter ends before the first band.
-/

namespace StepFlow.Netlist

/-- How many networks a program has. -/
def networkCount (program : Program) : Nat := program.restStep?.toList.length + program.sequentialSteps.length

/-- How many identifiers the counter of the document hands out under the scheme of bands: one for each network, and
for each block its own, those of its two texts and those of their items. -/
def documentUidCount (options : GeneratorOptions) (program : Program) : Nat :=
  (if options.includeInstance then 2 else 1) * (1 + 2 * (1 + options.cultures.length)) + networkCount program

/-- Where the first band of a program starts. -/
def firstBandStart (program : Program) : Int := if program.restStep?.isSome then restBandStart else stepBandStart

/-! ## Contents of networks -/

/-- Identifiers without repetition, of which the given one is the least. -/
structure StartAt (first : Int) (uids : List Int) : Prop where
  nodup : uids.Nodup
  first_le : ∀ uid ∈ uids, first ≤ uid
  starts : uids ≠ [] → first ∈ uids

theorem StartAt.append {first limit : Int} {uids others : List Int} (early : StartAt first uids) (some : uids ≠ [])
    (below : ∀ uid ∈ uids, uid < limit) (late : StartAt limit others) : StartAt first (uids ++ others) where
  nodup := early.nodup.append late.nodup fun uid isEarly isLate =>
    absurd (below uid isEarly) (not_lt.mpr (late.first_le uid isLate))
  first_le uid member := by
    have low := early.starts some
    rcases List.mem_append.mp member with isEarly | isLate
    · exact early.first_le uid isEarly
    · exact (below first low).le.trans (late.first_le uid isLate)
  starts _ := List.mem_append_left _ (early.starts some)

section Networks

variable {plan after : UidPlan} {cultures : List String}

/-- The contents of a network fill its band from the start, and stay within it. -/
theorem makeNetwork_inBand (design : Design) {start limit : Int} {network : Network}
    (made : makeNetwork plan (.own { start, limit := some limit }) design.title cultures design.wiring =
      .ok (network, after)) :
    plan.document.Issues [network.uid] after.document ∧ after.scheme = plan.scheme ∧
      StartAt start network.contents ∧ network.contents ≠ [] ∧ ∀ uid ∈ network.contents, uid < limit := by
  obtain ⟨named, done, issued, fits, rfl⟩ := makeNetwork_issues made
  have positive : 0 < network.contents.length := by
    simp [Network.contents, MultilingualText.uids]
  have within : start + network.contents.length ≤ limit := by
    rw [issued.1] at fits
    exact not_lt.mp (of_decide_eq_false fits)
  have range (uid : Int) : uid ∈ network.contents ↔ start ≤ uid ∧ uid < start + network.contents.length :=
    issued.mem_iff
  refine ⟨?_, rfl, ⟨issued.nodup, fun uid member => ((range uid).mp member).1, fun _ => ?_⟩, ?_, ?_⟩
  · rw [named]
    exact .next _
  · exact (range start).mpr ⟨le_rfl, by omega⟩
  · exact List.length_pos_iff.mp positive
  · intro uid member
    have := ((range uid).mp member).2
    omega

variable (bands : plan.scheme = .bands)
include bands

theorem UidPlan.restNetwork_of_bands :
    plan.restNetwork = .own { start := restBandStart, limit := some stepBandStart } := by
  simp [restNetwork, bands]

theorem UidPlan.stepNetwork_of_bands (index : Int) :
    plan.stepNetwork index = .own
      { start := stepBandStart + index * stepBandSize
        limit := some (stepBandStart + index * stepBandSize + stepBandSize) } := by
  simp [stepNetwork, bands]

theorem stepNetworks_inBands {previous index : Nat} {steps : List Step} {networks : List Network}
    (made : stepNetworks cultures plan previous index steps = .ok (networks, after)) :
    plan.document.Issues (networks.map Network.uid) after.document ∧
      StartAt (stepBandStart + index * stepBandSize) (networks.flatMap Network.contents) := by
  induction steps generalizing plan previous index networks with
  | nil =>
    cases made
    exact ⟨.nil _, ⟨.nil, nofun, fun some => absurd rfl some⟩⟩
  | cons step rest ih =>
    obtain ⟨network, between, others, rfl, first, following⟩ := stepNetworks_cons_eq_ok made
    rw [plan.stepNetwork_of_bands bands] at first
    obtain ⟨issued, scheme, starts, some, below⟩ := makeNetwork_inBand (.numbered previous step rest.head?) first
    obtain ⟨later, follows⟩ := ih (scheme.trans bands) following
    have next : stepBandStart + (index : Int) * stepBandSize + stepBandSize =
        stepBandStart + ((index + 1 : Nat) : Int) * stepBandSize := by
      push_cast
      ring
    rw [next] at below
    exact ⟨issued.append later, starts.append some below follows⟩

theorem programNetworks_inBands {program : Program} {networks : List Network}
    (made : programNetworks cultures plan program = .ok (networks, after)) :
    plan.document.Issues (networks.map Network.uid) after.document ∧
      StartAt (firstBandStart program) (networks.flatMap Network.contents) := by
  rcases programNetworks_eq_ok made with ⟨found, made⟩ | ⟨rest, network, between, others, found, rfl, first, following⟩
  · simpa [firstBandStart, found] using stepNetworks_inBands bands made
  · rw [plan.restNetwork_of_bands bands] at first
    obtain ⟨issued, scheme, starts, some, below⟩ := makeNetwork_inBand (.rest rest program.sequentialSteps) first
    obtain ⟨later, follows⟩ := stepNetworks_inBands (scheme.trans bands) following
    simp only [Nat.cast_zero, zero_mul, add_zero] at follows
    simp only [firstBandStart, found, Option.isSome_some, if_true]
    exact ⟨issued.append later, starts.append some below follows⟩

end Networks

/-! ## The counter of the document -/

/-- A document whose texts, other than those of networks, still wait for their items. -/
structure Document.Bare (document : Document) : Prop where
  block : document.block.comment.items = [] ∧ document.block.title.items = []
  instanceBlock : ∀ data, document.instanceBlock = some data → data.comment.items = [] ∧ data.title.items = []

/-- How many blocks a document has. -/
def Document.blockCount (document : Document) : Nat := if document.instanceBlock.isSome then 2 else 1

/-- Giving the two texts of a block their items adds as many identifiers as there are items. -/
theorem uids_fillText_fillText {comment title : MultilingualText} (bare : comment.items = [] ∧ title.items = [])
    (cultures : List String) (allocator : Allocator) :
    ∃ items : List Int, items.length = 2 * cultures.length ∧
      allocator.Issues items (fillText cultures (fillText cultures allocator comment).2 title).2 ∧
      ((fillText cultures allocator comment).1.uids ++
        (fillText cultures (fillText cultures allocator comment).2 title).1.uids).Perm
        (comment.uids ++ title.uids ++ items) := by
  refine ⟨_, ?_, (textItems_issues allocator "" cultures).append (textItems_issues _ "" cultures), ?_⟩
  · rw [List.length_append, List.length_map, List.length_map, length_textItems, length_textItems, two_mul]
  · apply List.perm_iff_count.mpr
    intro uid
    simp only [MultilingualText.uids, bare.1, bare.2, fillText, List.map_nil, List.count_append, List.count_cons,
      List.count_nil]
    omega

/-- Giving the texts of a document their items adds as many identifiers as there are items. -/
theorem Document.Bare.ownUids_fillTexts {document : Document} (bare : document.Bare) (cultures : List String)
    (allocator : Allocator) :
    ∃ items : List Int, items.length = document.blockCount * (2 * cultures.length) ∧
      (∃ done, allocator.Issues items done) ∧
      (fillTexts cultures allocator document).ownUids.Perm (document.ownUids ++ items) := by
  obtain ⟨items, counted, issued, uids⟩ := uids_fillText_fillText bare.block cultures allocator
  have blockUids := List.perm_iff_count.mp uids
  cases found : document.instanceBlock with
  | none =>
    refine ⟨items, ?_, ⟨_, issued⟩, List.perm_iff_count.mpr fun uid => ?_⟩
    · simp [blockCount, found, counted]
    · have same := blockUids uid
      simp only [fillTexts, found, ownUids, instanceUids, List.count_append, List.count_cons] at same ⊢
      omega
  | some data =>
    obtain ⟨more, counted', issued', uids'⟩ := uids_fillText_fillText (bare.instanceBlock data found) cultures _
    have dataUids := List.perm_iff_count.mp uids'
    refine ⟨items ++ more, ?_, ⟨_, issued.append issued'⟩, List.perm_iff_count.mpr fun uid => ?_⟩
    · simp only [List.length_append, counted, counted', blockCount, found, Option.isSome_some, if_true]
      ring
    · have same := blockUids uid
      have same' := dataUids uid
      simp only [fillTexts, found, ownUids, instanceUids, List.count_append, List.count_cons] at same same' ⊢
      omega

section Draft

variable {options : GeneratorOptions} (deferred : options.defersItems = true) (program : Program)
  (networks : List Network) (counter : Allocator)
include deferred

/-- A draft has no items while they are deferred. -/
theorem Document.draft_bare : (draft options program networks counter).1.Bare := by
  have block : (draft options program networks counter).1.block.comment.items = [] ∧
      (draft options program networks counter).1.block.title.items = [] := by
    simp [draft_block, blockComment, blockTitle, newText, deferred]
  refine ⟨block, fun data found => ?_⟩
  unfold draft at found
  split at found
  · cases found
    simp [instanceOf, newText, deferred]
  · cases found

theorem Document.length_ownUids_draft :
    (draft options program networks counter).1.ownUids.length =
      (draft options program networks counter).1.blockCount * 3 + networks.length := by
  obtain ⟨⟨bareComment, bareTitle⟩, bareData⟩ := draft_bare deferred program networks counter
  have inBlock : (draft options program networks counter).1.block.networks = networks := by rw [draft_block]
  have inInstance : (draft options program networks counter).1.instanceUids.length =
      3 * (draft options program networks counter).1.blockCount - 3 := by
    cases found : (draft options program networks counter).1.instanceBlock with
    | none => simp [instanceUids, blockCount, found]
    | some data =>
      obtain ⟨noComment, noTitle⟩ := bareData data found
      simp [instanceUids, blockCount, found, MultilingualText.uids, noComment, noTitle]
  have positive : 0 < (draft options program networks counter).1.blockCount := by
    unfold blockCount
    split <;> decide
  simp only [ownUids, List.length_append, List.length_cons, List.length_map, inInstance, inBlock,
    MultilingualText.uids, bareComment, bareTitle, List.length_nil]
  omega

end Draft

theorem Document.blockCount_draft (options : GeneratorOptions) (program : Program) (networks : List Network)
    (counter : Allocator) :
    (draft options program networks counter).1.blockCount = if options.includeInstance then 2 else 1 := by
  unfold draft
  split <;> rfl

theorem length_designsOf (program : Program) : (designsOf program).length = networkCount program := by
  rw [designsOf, List.length_append, length_stepDesigns, networkCount]
  cases program.restStep? <;> rfl

/-- The counter of the document numbers what is outside of the networks' contents. -/
theorem Document.issues_ownUids {options : GeneratorOptions} {program : Program} {document : Document}
    (bands : options.scheme = .bands) (built : ofProgram options program = .ok document) :
    (∃ done, Allocator.Issues {} document.ownUids done) ∧
      document.ownUids.length = documentUidCount options program ∧
      StartAt (firstBandStart program) (document.block.networks.flatMap Network.contents) := by
  obtain ⟨networks, plan, made, rfl⟩ := ofProgram_eq_ok built
  have deferred : options.defersItems = true := by simp [GeneratorOptions.defersItems, bands]
  obtain ⟨issued, starts⟩ := programNetworks_inBands bands made
  have drafted := ((blockTitle_issues options).append issued).append
    (draft_issues options program networks plan.document)
  have bare := draft_bare deferred program networks plan.document
  obtain ⟨items, counted, ⟨done, filled⟩, uids⟩ := bare.ownUids_fillTexts options.cultures
    (draft options program networks plan.document).2
  simp only [deferred, if_true]
  refine ⟨⟨done, ?_⟩, ?_, ?_⟩
  · refine (drafted.append filled).perm (uids.trans (.of_eq ?_))
    rw [ownUids, draft_block]
  · rw [uids.length_eq, List.length_append, counted, length_ownUids_draft deferred, blockCount_draft,
      ← (programNetworks_realize made).length_eq, length_designsOf, documentUidCount]
    ring
  · rwa [(fillTexts_block ..).2, draft_block]

/-- A program with steps has networks. -/
theorem networkCount_pos {program : Program} (nonempty : program.steps ≠ []) : 0 < networkCount program := by
  obtain ⟨step, member⟩ := List.exists_mem_of_ne_nil _ nonempty
  cases isRest : step.isRest with
  | true =>
    have found : program.restStep?.isSome := List.find?_isSome.mpr ⟨step, member, isRest⟩
    obtain ⟨rest, found⟩ := Option.isSome_iff_exists.mp found
    simp [networkCount, found]
  | false =>
    have sequential : step ∈ program.sequentialSteps := List.mem_filter.mpr ⟨member, by simp [isRest]⟩
    have := List.length_pos_of_mem sequential
    unfold networkCount
    omega

theorem Document.steps_ne_nil {options : GeneratorOptions} {program : Program} {document : Document}
    (built : ofProgram options program = .ok document) : program.steps ≠ [] := by
  intro empty
  simp only [ofProgram, empty, List.isEmpty_nil, if_true] at built
  cases built

/-- The first band of a document is in use. -/
theorem Document.firstBandStart_mem {options : GeneratorOptions} {program : Program} {document : Document}
    (built : ofProgram options program = .ok document)
    (starts : StartAt (firstBandStart program) (document.block.networks.flatMap Network.contents)) :
    firstBandStart program ∈ document.block.networks.flatMap Network.contents := by
  apply starts.starts
  have counted := (ofProgram_realizes built).2.length_eq
  rw [length_designsOf] at counted
  have positive := networkCount_pos (steps_ne_nil built)
  obtain ⟨network, member⟩ := List.exists_mem_of_length_pos (counted ▸ positive)
  have inside : network.title.uid ∈ document.block.networks.flatMap Network.contents :=
    List.mem_flatMap.mpr ⟨network, member, by simp [Network.contents, MultilingualText.uids]⟩
  exact List.ne_nil_of_mem inside

/-- Under the scheme of bands no identifier is used twice, exactly if the counter of the document ends before the first
band. -/
theorem Document.nodup_uids_iff_of_bands {options : GeneratorOptions} {program : Program} {document : Document}
    (bands : options.scheme = .bands) (built : ofProgram options program = .ok document) :
    document.uids.Nodup ↔ (documentUidCount options program : Int) ≤ firstBandStart program := by
  obtain ⟨⟨done, issued⟩, counted, starts⟩ := issues_ownUids bands built
  have used := firstBandStart_mem built starts
  have own (uid : Int) : uid ∈ document.ownUids ↔ 0 ≤ uid ∧ uid < documentUidCount options program := by
    rw [issued.mem_iff, counted]
    simp
  -- Both halves are free of repetition, so all depends on whether they meet.
  rw [document.uids_perm.nodup_iff, List.nodup_append']
  constructor
  · rintro ⟨-, -, apart⟩
    by_contra late
    have positive : 0 ≤ firstBandStart program := by
      unfold firstBandStart
      split <;> decide
    exact apart ((own _).mpr ⟨positive, not_le.mp late⟩) used
  · intro early
    refine ⟨issued.nodup, starts.nodup, fun uid isOwn isContent => ?_⟩
    have low := ((own uid).mp isOwn).2
    have high := starts.first_le uid isContent
    omega

/-- Two steps and an instance in two cultures: the counter ends at 17. -/
theorem Document.nodup_uids_iff_of_bands_twoStepProgram :
    ∃ document, ofProgram { scheme := .bands, includeInstance := true } twoStepProgram = .ok document ∧
      documentUidCount { scheme := .bands, includeInstance := true } twoStepProgram = 17 ∧ document.uids.Nodup := by
  obtain ⟨document, built⟩ : ∃ document,
      ofProgram { scheme := .bands, includeInstance := true } twoStepProgram = .ok document := ⟨_, rfl⟩
  exact ⟨document, built, rfl, (nodup_uids_iff_of_bands (by rfl) built).mpr (by decide)⟩

/-- A rest step alone, in so many cultures that the items of the blocks reach into the band of the rest network. -/
theorem Document.not_nodup_uids_many_cultures :
    ∃ document, ofProgram { scheme := .bands, includeInstance := true, cultures := List.replicate 124 "nl-NL" }
      { steps := [{ keyword := "RUST", kind := .rest }] } = .ok document ∧ ¬ document.uids.Nodup := by
  have built : ((ofProgram { scheme := .bands, includeInstance := true, cultures := List.replicate 124 "nl-NL" }
      { steps := [{ keyword := "RUST", kind := .rest }] }).toOption.map fun document => document.uids.count 500) =
        some 2 := by decide +kernel
  obtain ⟨document, built, twice⟩ := Option.map_eq_some_iff.mp built
  refine ⟨document, eq_ok_of_toOption_eq_some built, fun unique => ?_⟩
  have once := List.nodup_iff_count_le_one.mp unique 500
  omega

end StepFlow.Netlist
