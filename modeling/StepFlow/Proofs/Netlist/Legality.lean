import StepFlow.Proofs.Netlist.Identifiers
import StepFlow.Proofs.Netlist.Openness
import StepFlow.Proofs.Text.Numeral
import StepFlow.Proofs.Xml.Legality

/-! # Which documents are legal XML

The names of elements, the words of the netlist and all numbers are legal. What is left of a program in its document
are the labels of the steps, which comment on the step bits and are the titles of the networks, the cultures, and the
name of the instance. So these alone decide whether the text of the document is legal.
-/

namespace StepFlow.Netlist

open Xml

/-! ## Trees -/

section Trees

variable {name : String} {attributes : List (String × String)} {children : List Xml}

@[simp] theorem legal_element : Legal (.element name attributes children) ↔
    LegalText name ∧ (∀ pair ∈ attributes, LegalText pair.1 ∧ LegalText pair.2) ∧ AllLegal children := Iff.rfl

@[simp] theorem legal_node : (node name children).Legal ↔ LegalText name ∧ AllLegal children := by
  simp [node]

@[simp] theorem legal_leaf {content : String} : (leaf name content).Legal ↔ LegalText name ∧ LegalText content := by
  simp [leaf, AllLegal, Legal]

@[simp] theorem allLegal_nil : AllLegal [] ↔ True := Iff.rfl

@[simp] theorem allLegal_cons {child : Xml} : AllLegal (child :: children) ↔ child.Legal ∧ AllLegal children := Iff.rfl

@[simp] theorem allLegal_append {others : List Xml} :
    AllLegal (children ++ others) ↔ AllLegal children ∧ AllLegal others := by
  induction children with
  | nil => simp
  | cons child rest ih => simp [ih, and_assoc]

@[simp] theorem allLegal_map {α : Type} {f : α → Xml} {items : List α} :
    AllLegal (items.map f) ↔ ∀ item ∈ items, (f item).Legal := by
  induction items with
  | nil => simp
  | cons item rest ih => simp [ih]

end Trees

/-! ## Words and numbers -/

theorem legalText_append {front back : String} : LegalText (front ++ back) ↔ LegalText front ∧ LegalText back := by
  rw [LegalText, String.toList_append, Text.over_append]
  rfl

@[simp] theorem legalText_natRepr (number : Nat) : LegalText number.repr := by
  have digits : ∀ c : Char, c.isDigit = true → IsChar c := by
    intro c digit
    obtain ⟨low, high⟩ : 48 ≤ c.toNat ∧ c.toNat ≤ 57 := by
      simpa [Char.isDigit, UInt32.le_iff_toNat_le] using digit
    exact .inr (.inr (.inr (.inl ⟨by omega, by omega⟩)))
  rw [LegalText, Nat.toList_repr]
  exact fun c member => digits c (Text.isDigit_of_mem_toDigits member)

@[simp] theorem legalText_intRepr (number : Int) : LegalText number.repr := by
  cases number with
  | ofNat number => exact legalText_natRepr number
  | negSucc number => exact legalText_append.mpr ⟨by decide, legalText_natRepr (number + 1)⟩

@[simp] theorem TextRole.legalText_word (role : TextRole) : LegalText role.word := by
  cases role <;> decide

@[simp] theorem SectionName.legalText_word (name : SectionName) : LegalText name.word := by
  cases name <;> decide

@[simp] theorem PartType.legalText_word (type : PartType) : LegalText type.word := by
  cases type <;> decide

@[simp] theorem BlockType.legalText_letters (type : BlockType) : LegalText type.letters := by
  cases type <;> decide

theorem BlockTag.legalText_name (block : BlockTag) : LegalText block.name :=
  legalText_append.mpr ⟨BlockType.legalText_letters _, legalText_natRepr _⟩

/-! ## Texts and interfaces -/

theorem MultilingualText.legal_toXml {text : MultilingualText} :
    text.toXml.Legal ↔ ∀ item ∈ text.items, LegalText item.culture ∧ LegalText item.text := by
  have each (item : TextItem) : item.toXml.Legal ↔ LegalText item.culture ∧ LegalText item.text := by
    simp +decide [TextItem.toXml, idAttribute]
  simp +decide [MultilingualText.toXml, idAttribute, each]

theorem MultilingualText.Shows.legal_iff {cultures : List String} {shown : String} {text : MultilingualText}
    (shows : text.Shows cultures shown) :
    text.toXml.Legal ↔ ∀ culture ∈ cultures, LegalText culture ∧ LegalText shown := by
  have items : (∀ pair ∈ text.items.map fun item => (item.culture, item.text), LegalText pair.1 ∧ LegalText pair.2) ↔
      ∀ pair ∈ cultures.map (·, shown), LegalText pair.1 ∧ LegalText pair.2 := by rw [shows]
  rw [legal_toXml]
  simpa using items

theorem Member.legal_toXml {member : Member} :
    member.toXml.Legal ↔ LegalText member.name ∧ LegalText member.datatype ∧
      (∀ remanence ∈ member.remanence, LegalText remanence) ∧
      ∀ sub ∈ member.subelements, LegalText sub.path ∧ LegalText sub.lang ∧ LegalText sub.comment := by
  have each (sub : Subelement) : sub.toXml.Legal ↔ LegalText sub.path ∧ LegalText sub.lang ∧ LegalText sub.comment := by
    simp +decide [Subelement.toXml, Legal]
  cases remanence : member.remanence <;> simp +decide [Member.toXml, each, remanence, and_assoc]

theorem Interface.legal_toXml {interface : Interface} :
    interface.toXml.Legal ↔ ∀ part ∈ interface.sections, ∀ member ∈ part.members, member.toXml.Legal := by
  have each (part : InterfaceSection) : part.toXml.Legal ↔ ∀ member ∈ part.members, member.toXml.Legal := by
    simp +decide [InterfaceSection.toXml]
  simp +decide [Interface.toXml, each]

/-- The interface of a program shows the labels of all its steps. -/
theorem legal_interfaceOf {program : Program} :
    (interfaceOf program).toXml.Legal ↔ ∀ step ∈ program.steps, LegalText step.label := by
  simp +decide [Interface.legal_toXml, interfaceOf, SectionName.all, outputMembers, staticMembers, helperArrays,
    Member.legal_toXml, stepArray, stepArrayType]

/-! ## Networks -/

@[simp] theorem legalText_gatePort (number : Nat) : LegalText (gatePort number) :=
  legalText_append.mpr ⟨by decide, legalText_natRepr number⟩

theorem Instruction.legal_toXml {part : Instruction} :
    part.toXml.Legal ↔ ∀ port ∈ part.negated, LegalText port := by
  have counted (count : Int) : (cardinalityXml count).Legal := by
    simp +decide [cardinalityXml, Legal]
  simp +decide [Instruction.toXml_eq, uidAttribute, negatedXml, counted]

theorem legal_bitPart (uid : Int) (number : Nat) : (bitPart uid number).toXml.Legal := by
  simp +decide [bitPart, Part.toXml, LocalAccess.toXml, constantXml, uidAttribute, stepArray]

theorem legal_of_mem_bitParts {first : Int} {steps : List Step} {part : Part} (member : part ∈ bitParts first steps) :
    part.toXml.Legal := by
  induction steps generalizing first with
  | nil => exact absurd member List.not_mem_nil
  | cons step rest ih =>
    rcases List.mem_cons.mp member with rfl | later
    · exact legal_bitPart first step.number
    · exact ih later

theorem Design.legal_of_mem_inputs {design : Design} {first : Int} {part : Part} (member : part ∈ design.inputs first) :
    part.toXml.Legal := by
  cases design with
  | rest step sequential => exact legal_of_mem_bitParts member
  | numbered previous step next =>
    simp only [inputs, List.mem_cons, List.not_mem_nil, or_false] at member
    rcases member with rfl | rfl | rfl
    · exact legal_bitPart _ _
    · exact legal_bitPart _ _
    · simp +decide [Part.toXml, LiteralAccess.toXml, constantXml, uidAttribute]

theorem Design.legal_of_mem_accesses {design : Design} {driver : Int} {part : Part}
    (member : part ∈ design.accesses driver) : part.toXml.Legal := by
  have bits : ∀ part ∈ design.accesses driver, ∃ uid number, part = bitPart uid number := by
    unfold accesses
    split <;> simp
  obtain ⟨uid, number, rfl⟩ := bits part member
  exact legal_bitPart uid number

/-- The parts of a design hold words and numbers only. -/
theorem Design.legal_of_mem_parts {design : Design} {first : Int} {cardinality : Option Int} {part : Part}
    (member : part ∈ design.parts first cardinality) : part.toXml.Legal := by
  simp only [parts, List.mem_append, List.mem_cons] at member
  rcases member with input | rfl | rfl | access
  · exact legal_of_mem_inputs input
  · refine Instruction.legal_toXml.mpr fun port negated => ?_
    cases design with
    | rest step sequential =>
      obtain ⟨index, -, rfl⟩ := List.mem_map.mp negated
      exact legalText_gatePort (index + 1)
    | numbered previous step next =>
      rw [List.mem_singleton.mp negated]
      decide
  · exact Instruction.legal_toXml.mpr fun _ negated => absurd negated List.not_mem_nil
  · exact legal_of_mem_accesses access

theorem Wire.legal_toXml {wire : Wire} :
    wire.toXml.Legal ↔ (∀ port ∈ wire.source.port, LegalText port) ∧ LegalText wire.target.port := by
  cases port : wire.source.port <;> simp +decide [Wire.toXml, Source.toXml, port, uidAttribute]

theorem legal_of_mem_gateWires {gate first : Int} {number : Nat} {inputs : List Part} {wire : Wire}
    (member : wire ∈ gateWires gate first number inputs) : wire.toXml.Legal := by
  induction inputs generalizing first number with
  | nil => exact absurd member List.not_mem_nil
  | cons input rest ih =>
    rcases List.mem_cons.mp member with rfl | later
    · exact Wire.legal_toXml.mpr ⟨nofun, legalText_gatePort number⟩
    · exact ih later

theorem Design.legal_of_mem_wires {design : Design} {first : Int} {wire : Wire} (member : wire ∈ design.wires first) :
    wire.toXml.Legal := by
  rcases List.mem_append.mp member with input | drives
  · exact legal_of_mem_gateWires input
  · have fixed : ∀ gate driver, ∀ wire ∈ design.driverWires gate driver, wire.toXml.Legal := by
      intro gate driver
      unfold driverWires
      split <;> simp +decide [Wire.legal_toXml]
    exact fixed _ _ wire drives

theorem Network.legal_toXml {network : Network} :
    network.toXml.Legal ↔ (∀ part ∈ network.parts, part.toXml.Legal) ∧ (∀ wire ∈ network.wires, wire.toXml.Legal) ∧
      LegalText network.language ∧ network.comment.toXml.Legal ∧ network.title.toXml.Legal := by
  simp +decide [Network.toXml, idAttribute, and_assoc]

theorem FunctionBlock.legal_toXml {block : FunctionBlock} :
    block.toXml.Legal ↔ block.interface.toXml.Legal ∧ LegalText block.memoryLayout ∧ LegalText block.name ∧
      LegalText block.language ∧ block.comment.toXml.Legal ∧ (∀ network ∈ block.networks, network.toXml.Legal) ∧
      block.title.toXml.Legal := by
  simp +decide [FunctionBlock.toXml, idAttribute, and_assoc]

theorem legalText_instanceInterface : LegalText instanceInterface := by
  -- As in reading it, the characters are taken from each literal by itself.
  simp only [LegalText, instanceInterface, interfaceSpace, String.toList_intercalate, List.map_cons, List.map_nil,
    toString, String.toList_append]
  repeat rw [String.toList_ofList]
  decide +kernel

theorem InstanceBlock.legal_toXmlWith {interface : Xml} {data : InstanceBlock} :
    (data.toXmlWith interface).Legal ↔ interface.Legal ∧ LegalText data.blockName ∧ LegalText data.name ∧
      data.comment.toXml.Legal ∧ data.title.toXml.Legal := by
  simp +decide [InstanceBlock.toXmlWith, idAttribute]
  tauto

theorem Document.legal_toXml {document : Document} :
    document.toXml.Legal ↔ LegalText document.engineeringVersion ∧ document.block.toXml.Legal ∧
      ∀ data ∈ document.instanceBlock, LegalText data.blockName ∧ LegalText data.name ∧
        data.comment.toXml.Legal ∧ data.title.toXml.Legal := by
  have raw : Legal (.raw instanceInterface) := legalText_instanceInterface
  rw [Document.toXml_eq, Document.toXmlWith]
  generalize Xml.raw instanceInterface = interface at raw
  simp +decide [InstanceBlock.legal_toXmlWith, raw]

theorem Document.legalText_render {document : Document} {pretty : Bool} :
    LegalText (document.render pretty) ↔ document.toXml.Legal := by
  have declaration : LegalText Xml.declaration := by decide
  rw [Document.render, legalText_append, iff_true_intro declaration, true_and, Xml.render, LegalText,
    String.toList_ofList]
  exact isChar_write pretty 0 document.toXml

/-! ## Generated documents -/

section Generated

variable {cultures : List String} (spoken : ∀ culture ∈ cultures, LegalText culture)
include spoken

theorem MultilingualText.Shows.legal {shown : String} {text : MultilingualText} (shows : text.Shows cultures shown)
    (legalShown : LegalText shown) : text.toXml.Legal :=
  shows.legal_iff.mpr fun culture member => ⟨spoken culture member, legalShown⟩

theorem legal_of_makeNetwork {plan after : UidPlan} {source : UidSource} {design : Design} {network : Network}
    (made : makeNetwork plan source design.title cultures design.wiring = .ok (network, after))
    (titled : LegalText design.title) : network.toXml.Legal := by
  obtain ⟨⟨first, parts, wires⟩, title⟩ := makeNetwork_realizes made
  have comment := (makeNetwork_shows made).2
  have language : network.language = "FBD" := by
    obtain ⟨done, built, -, -⟩ := makeNetwork_eq_ok made
    rw [(Builder.build_eq built).1]
  refine Network.legal_toXml.mpr ⟨?_, ?_, ?_, comment.legal spoken (by decide), title.legal spoken titled⟩
  · rw [parts]
    exact fun part => Design.legal_of_mem_parts
  · rw [wires]
    exact fun wire => Design.legal_of_mem_wires
  · rw [language]
    decide

theorem legal_of_stepNetworks {plan after : UidPlan} {previous index : Nat} {steps : List Step}
    {networks : List Network} (made : stepNetworks cultures plan previous index steps = .ok (networks, after))
    (labels : ∀ step ∈ steps, LegalText step.label) : ∀ network ∈ networks, network.toXml.Legal := by
  induction steps generalizing plan previous index networks with
  | nil =>
    cases made
    exact nofun
  | cons step rest ih =>
    obtain ⟨label, others⟩ := List.forall_mem_cons.mp labels
    obtain ⟨network, between, later, rfl, first, following⟩ := stepNetworks_cons_eq_ok made
    exact List.forall_mem_cons.mpr ⟨legal_of_makeNetwork spoken first label, ih following others⟩

theorem legal_of_programNetworks {plan after : UidPlan} {program : Program} {networks : List Network}
    (made : programNetworks cultures plan program = .ok (networks, after))
    (labels : ∀ step ∈ program.steps, LegalText step.label) : ∀ network ∈ networks, network.toXml.Legal := by
  have sequential : ∀ step ∈ program.sequentialSteps, LegalText step.label :=
    fun step member => labels step (List.mem_filter.mp member).1
  rcases programNetworks_eq_ok made with ⟨-, made⟩ | ⟨rest, network, between, others, found, rfl, first, following⟩
  · exact legal_of_stepNetworks spoken made sequential
  · have label := labels rest (List.mem_of_find?_eq_some found)
    exact List.forall_mem_cons.mpr
      ⟨legal_of_makeNetwork spoken first label, legal_of_stepNetworks spoken following sequential⟩

end Generated

/-- The names of an instance. -/
def InstanceBlock.names (data : InstanceBlock) : String × String := (data.blockName, data.name)

/-- Items are all that deferred texts get. -/
theorem fillTexts_frame (cultures : List String) (allocator : Allocator) (document : Document) :
    (fillTexts cultures allocator document).engineeringVersion = document.engineeringVersion ∧
      (∃ comment title, (fillTexts cultures allocator document).block = { document.block with comment, title }) ∧
      (fillTexts cultures allocator document).instanceBlock.map InstanceBlock.names =
        document.instanceBlock.map InstanceBlock.names := by
  unfold fillTexts
  cases document.instanceBlock <;> exact ⟨rfl, ⟨_, _, rfl⟩, rfl⟩

theorem fillTexts_shows (cultures : List String) (allocator : Allocator) (document : Document) :
    ((fillTexts cultures allocator document).block.comment.Shows cultures "" ∧
        (fillTexts cultures allocator document).block.title.Shows cultures "") ∧
      ∀ data ∈ (fillTexts cultures allocator document).instanceBlock,
        data.comment.Shows cultures "" ∧ data.title.Shows cultures "" := by
  unfold fillTexts
  cases document.instanceBlock with
  | none => exact ⟨⟨textItems_shown .., textItems_shown ..⟩, nofun⟩
  | some data =>
    refine ⟨⟨textItems_shown .., textItems_shown ..⟩, ?_⟩
    rintro _ ⟨⟩
    exact ⟨textItems_shown .., textItems_shown ..⟩

namespace Document

variable {options : GeneratorOptions} {program : Program} {document : Document}

/-- What a document takes over from its program, beside the networks. -/
theorem ofProgram_frame (built : ofProgram options program = .ok document) :
    document.engineeringVersion = "V18" ∧
      (∃ networks plan, programNetworks options.cultures ⟨options.scheme, (blockTitle options).2⟩ program =
          .ok (networks, plan) ∧
        ∃ comment title, document.block =
          { uid := 0, name := blockName program, number := blockNumber program, interface := interfaceOf program
            networks, comment, title }) ∧
      document.instanceBlock.map InstanceBlock.names =
        if options.includeInstance then
          some (blockName program,
            if program.instanceName.isEmpty then s!"{blockName program}_DB" else program.instanceName)
        else none := by
  obtain ⟨networks, plan, made, rfl⟩ := ofProgram_eq_ok built
  have version : (draft options program networks plan.document).1.engineeringVersion = "V18" := by
    unfold draft
    split <;> rfl
  have names : (draft options program networks plan.document).1.instanceBlock.map InstanceBlock.names =
      if options.includeInstance then
        some (blockName program,
          if program.instanceName.isEmpty then s!"{blockName program}_DB" else program.instanceName)
      else none := by
    unfold draft
    split <;> rfl
  have block := draft_block options program networks plan.document
  dsimp only
  split
  · obtain ⟨sameVersion, ⟨comment, title, filled⟩, sameNames⟩ :=
      fillTexts_frame options.cultures (draft options program networks plan.document).2
        (draft options program networks plan.document).1
    rw [sameVersion, filled, sameNames, block]
    exact ⟨version, ⟨networks, plan, made, comment, title, rfl⟩, names⟩
  · exact ⟨version, ⟨networks, plan, made, _, _, block⟩, names⟩

/-- The texts of the blocks of a document are empty in each culture. -/
theorem ofProgram_shows (built : ofProgram options program = .ok document) :
    (document.block.comment.Shows options.cultures "" ∧ document.block.title.Shows options.cultures "") ∧
      ∀ data ∈ document.instanceBlock, data.comment.Shows options.cultures "" ∧
        data.title.Shows options.cultures "" := by
  obtain ⟨networks, plan, -, rfl⟩ := ofProgram_eq_ok built
  dsimp only
  split
  · exact fillTexts_shows ..
  · rename_i atOnce
    rw [Bool.not_eq_true] at atOnce
    rw [draft_block]
    refine ⟨⟨?_, ?_⟩, fun data member => ?_⟩
    · rw [blockComment, atOnce]
      exact newText_shows ..
    · rw [blockTitle, atOnce]
      exact newText_shows ..
    · unfold draft at member
      split at member
      · obtain rfl := Option.some.inj member
        rw [atOnce]
        exact ⟨newText_shows .., newText_shows ..⟩
      · cases member

theorem legalText_blockName (program : Program) : LegalText (blockName program) := by
  unfold blockName
  split
  · exact BlockTag.legalText_name _
  · decide

/-- The name that an instance has if it is given none is legal. -/
theorem legalText_instanceName {program : Program} :
    LegalText (if program.instanceName.isEmpty then s!"{blockName program}_DB" else program.instanceName) ↔
      LegalText program.instanceName := by
  split
  · rename_i empty
    rw [String.isEmpty_iff.mp empty]
    refine iff_of_true ?_ (by decide)
    exact legalText_append.mpr ⟨legalText_blockName program, by decide⟩
  · exact Iff.rfl

/-- The text of a program's document is legal exactly if the labels of its steps, the cultures and the name of the
instance, if there is one, are. -/
theorem legal_toXml_iff (built : ofProgram options program = .ok document) :
    document.toXml.Legal ↔ (∀ step ∈ program.steps, LegalText step.label) ∧
      (∀ culture ∈ options.cultures, LegalText culture) ∧
      (options.includeInstance = true → LegalText program.instanceName) := by
  obtain ⟨version, ⟨networks, plan, made, comment, title, block⟩, names⟩ := ofProgram_frame built
  obtain ⟨⟨commentShows, titleShows⟩, dataShows⟩ := ofProgram_shows built
  have instances : (∀ data ∈ document.instanceBlock, LegalText data.blockName ∧ LegalText data.name) ↔
      (options.includeInstance = true → LegalText program.instanceName) := by
    have members : (∀ data ∈ document.instanceBlock, LegalText data.blockName ∧ LegalText data.name) ↔
        ∀ pair ∈ document.instanceBlock.map InstanceBlock.names, LegalText pair.1 ∧ LegalText pair.2 := by
      simp [InstanceBlock.names]
    rw [members, names]
    split
    · rename_i included
      simp only [Option.mem_some_iff, forall_eq', legalText_blockName, legalText_instanceName, true_and, included,
        forall_const]
    · rename_i included
      simp [included]
  rw [Document.legal_toXml, FunctionBlock.legal_toXml, version, block]
  constructor
  · rintro ⟨-, ⟨interface, -, -, -, commented, -⟩, data⟩
    refine ⟨legal_interfaceOf.mp interface, ?_, instances.mp fun other member => ?_⟩
    · rw [block] at commentShows
      exact fun culture member => (commentShows.legal_iff.mp commented culture member).1
    · exact ⟨(data other member).1, (data other member).2.1⟩
  · rintro ⟨labels, spoken, named⟩
    rw [block] at commentShows titleShows
    obtain ⟨empty, release, layout, language⟩ :
        LegalText "" ∧ LegalText "V18" ∧ LegalText "Optimized" ∧ LegalText "FBD" := by decide
    refine ⟨release, ⟨legal_interfaceOf.mpr labels, layout, legalText_blockName program, language,
      commentShows.legal spoken empty, legal_of_programNetworks spoken made labels, titleShows.legal spoken empty⟩, ?_⟩
    intro data member
    obtain ⟨comment, title⟩ := dataShows data member
    obtain ⟨blockName, name⟩ := instances.mpr named data member
    exact ⟨blockName, name, comment.legal spoken empty, title.legal spoken empty⟩

end Document

end StepFlow.Netlist
