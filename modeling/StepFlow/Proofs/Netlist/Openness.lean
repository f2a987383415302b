import Mathlib
import StepFlow.Netlist.Openness
import StepFlow.Proofs.Xml.Markup

/-! # The XML determines the netlist

Two documents have the same text exactly if they differ in nothing but gates whose number of inputs is given as zero in
one of them and is absent in the other. The text is read back to a tree, in which the ready markup for the interface
of instances stands for one fixed element; the tree gives every field of the document.
-/

namespace StepFlow.Netlist

open Xml

/-! ## What is not written -/

/-- The same instruction with a number of inputs of zero left out. -/
def Instruction.dropZero (part : Instruction) : Instruction :=
  { part with cardinality := part.cardinality.filter (· ≠ 0) }

/-- The same part with a number of inputs of zero left out. -/
def Part.dropZero : Part → Part
  | .instruction part => .instruction part.dropZero
  | .local access => .local access
  | .literal access => .literal access

/-- The same network with numbers of inputs of zero left out. -/
def Network.dropZeros (network : Network) : Network :=
  { network with parts := network.parts.map Part.dropZero }

/-- The same document with numbers of inputs of zero left out. -/
def Document.dropZeros (document : Document) : Document :=
  { document with
    block := { document.block with networks := document.block.networks.map Network.dropZeros } }

/-! ## The tree of a document

A tree gives every field of what it was made from, up to numbers of inputs of zero.
-/

theorem map_eq_map_iff_of_iff {α β γ : Type} {f : α → β} {g : α → γ} (same : ∀ a b, f a = f b ↔ g a = g b)
    (xs ys : List α) : xs.map f = ys.map f ↔ xs.map g = ys.map g := by
  induction xs generalizing ys with
  | nil => cases ys <;> simp
  | cons x xs ih => cases ys <;> simp [same, ih]

theorem TextRole.word_inj {first second : TextRole} : first.word = second.word ↔ first = second := by
  cases first <;> cases second <;> decide

theorem SectionName.word_inj {first second : SectionName} : first.word = second.word ↔ first = second := by
  cases first <;> cases second <;> decide

theorem PartType.word_inj {first second : PartType} : first.word = second.word ↔ first = second := by
  cases first <;> cases second <;> decide

theorem BlockType.letters_inj {first second : BlockType} : first.letters = second.letters ↔ first = second := by
  cases first <;> cases second <;> decide

theorem TextItem.toXml_inj {first second : TextItem} : first.toXml = second.toXml ↔ first = second := by
  cases first
  cases second
  simp [toXml, node, leaf, idAttribute]

theorem MultilingualText.toXml_inj {first second : MultilingualText} :
    first.toXml = second.toXml ↔ first = second := by
  have items : Function.Injective TextItem.toXml := fun _ _ => TextItem.toXml_inj.mp
  cases first
  cases second
  simp [toXml, node, idAttribute, TextRole.word_inj, (List.map_injective_iff.mpr items).eq_iff, and_assoc]

theorem Subelement.toXml_inj {first second : Subelement} : first.toXml = second.toXml ↔ first = second := by
  cases first
  cases second
  simp [toXml, node, and_comm]

theorem Member.toXml_inj {first second : Member} : first.toXml = second.toXml ↔ first = second := by
  have subelements : Function.Injective Subelement.toXml := fun _ _ => Subelement.toXml_inj.mp
  obtain ⟨name, datatype, remanence, others⟩ := first
  obtain ⟨name', datatype', remanence', others'⟩ := second
  cases remanence <;> cases remanence' <;>
    simp [toXml, (List.map_injective_iff.mpr subelements).eq_iff, and_assoc]

theorem InterfaceSection.toXml_inj {first second : InterfaceSection} :
    first.toXml = second.toXml ↔ first = second := by
  have members : Function.Injective Member.toXml := fun _ _ => Member.toXml_inj.mp
  cases first
  cases second
  simp [toXml, SectionName.word_inj, (List.map_injective_iff.mpr members).eq_iff]

theorem Interface.toXml_inj {first second : Interface} : first.toXml = second.toXml ↔ first = second := by
  have sections : Function.Injective InterfaceSection.toXml := fun _ _ => InterfaceSection.toXml_inj.mp
  cases first
  cases second
  simp [toXml, node, (List.map_injective_iff.mpr sections).eq_iff]

/-- A number of inputs. -/
def cardinalityXml (count : Int) : Xml :=
  .element "TemplateValue" [("Name", "Card"), ("Type", "Cardinality")] [.text (toString count)]

/-- An inverted input. -/
def negatedXml (port : String) : Xml := .element "Negated" [("Name", port)] []

theorem Instruction.toXml_eq (part : Instruction) :
    part.toXml = .element "Part" [("Name", part.type.word), uidAttribute part.uid]
      (part.dropZero.cardinality.toList.map cardinalityXml ++ part.negated.map negatedXml) := by
  obtain ⟨uid, type, cardinality, negated⟩ := part
  cases cardinality with
  | none => rfl
  | some count =>
    by_cases zero : count = 0
    · simp only [toXml, dropZero, Option.filter_some, zero]
      rfl
    · simp only [toXml, dropZero, Option.filter_some, zero, if_false, decide_not, decide_false, Bool.not_false, if_true]
      rfl

/-- The first child of an instruction shows whether there is a number of inputs. -/
theorem inputsXml_inj {count count' : Option Int} {ports ports' : List String} :
    count.toList.map cardinalityXml ++ ports.map negatedXml =
        count'.toList.map cardinalityXml ++ ports'.map negatedXml ↔
      count = count' ∧ ports = ports' := by
  have negated : Function.Injective negatedXml := fun _ _ same => by simpa [negatedXml] using same
  have apart (number : Int) (port : String) : cardinalityXml number ≠ negatedXml port := by
    simp [cardinalityXml, negatedXml]
  cases count <;> cases count'
  · simp [(List.map_injective_iff.mpr negated).eq_iff]
  · cases ports <;> simp [Ne.symm (apart _ _)]
  · cases ports' <;> simp [apart]
  · simp [cardinalityXml, (List.map_injective_iff.mpr negated).eq_iff]

theorem Instruction.toXml_eq_iff {first second : Instruction} :
    first.toXml = second.toXml ↔ first.dropZero = second.dropZero := by
  rw [toXml_eq, toXml_eq]
  simp only [Xml.element.injEq, inputsXml_inj]
  simp [dropZero, uidAttribute, PartType.word_inj]
  tauto

theorem LocalAccess.toXml_inj {first second : LocalAccess} : first.toXml = second.toXml ↔ first = second := by
  cases first
  cases second
  simp [toXml, node, leaf, constantXml, uidAttribute]

theorem LiteralAccess.toXml_inj {first second : LiteralAccess} : first.toXml = second.toXml ↔ first = second := by
  cases first
  cases second
  simp [toXml, node, leaf, constantXml, uidAttribute]

theorem Part.toXml_eq_iff (first second : Part) : first.toXml = second.toXml ↔ first.dropZero = second.dropZero := by
  cases first with
  | instruction part =>
    cases second with
    | instruction other => simpa [toXml, dropZero] using Instruction.toXml_eq_iff
    | «local» access => simp [toXml, dropZero, Instruction.toXml, LocalAccess.toXml]
    | literal access => simp [toXml, dropZero, Instruction.toXml, LiteralAccess.toXml]
  | «local» access =>
    cases second with
    | instruction part => simp [toXml, dropZero, Instruction.toXml, LocalAccess.toXml]
    | «local» other => simpa [toXml, dropZero] using LocalAccess.toXml_inj
    | literal other => simp [toXml, dropZero, LocalAccess.toXml, LiteralAccess.toXml]
  | literal access =>
    cases second with
    | instruction part => simp [toXml, dropZero, Instruction.toXml, LiteralAccess.toXml]
    | «local» other => simp [toXml, dropZero, LocalAccess.toXml, LiteralAccess.toXml]
    | literal other => simpa [toXml, dropZero] using LiteralAccess.toXml_inj

theorem Source.toXml_inj {first second : Source} : first.toXml = second.toXml ↔ first = second := by
  obtain ⟨uid, port⟩ := first
  obtain ⟨uid', port'⟩ := second
  cases port <;> cases port' <;> simp [toXml, uidAttribute]

theorem Wire.toXml_inj {first second : Wire} : first.toXml = second.toXml ↔ first = second := by
  obtain ⟨uid, source, ⟨end_, port⟩⟩ := first
  obtain ⟨uid', source', ⟨end', port'⟩⟩ := second
  simp [toXml, Source.toXml_inj, uidAttribute]

theorem Network.toXml_eq_iff (first second : Network) :
    first.toXml = second.toXml ↔ first.dropZeros = second.dropZeros := by
  have wires : Function.Injective Wire.toXml := fun _ _ => Wire.toXml_inj.mp
  cases first
  cases second
  simp [toXml, dropZeros, node, leaf, idAttribute, MultilingualText.toXml_inj,
    map_eq_map_iff_of_iff Part.toXml_eq_iff, (List.map_injective_iff.mpr wires).eq_iff]
  tauto

theorem FunctionBlock.toXml_eq_iff {first second : FunctionBlock} :
    first.toXml = second.toXml ↔
      { first with networks := first.networks.map Network.dropZeros } =
        { second with networks := second.networks.map Network.dropZeros } := by
  cases first
  cases second
  simp [toXml, node, leaf, idAttribute, Interface.toXml_inj, MultilingualText.toXml_inj,
    map_eq_map_iff_of_iff Network.toXml_eq_iff]
  tauto

/-- The data of one use of a block, with the given interface. -/
def InstanceBlock.toXmlWith (interface : Xml) (data : InstanceBlock) : Xml :=
  .element "SW.Blocks.InstanceDB" [idAttribute data.uid]
    [node "AttributeList"
      [leaf "AutoNumber" "false", leaf "InstanceOfName" data.blockName,
        leaf "InstanceOfType" data.blockType.letters, interface, leaf "Name" data.name,
        node "Namespace" [], leaf "Number" (toString data.number), leaf "ProgrammingLanguage" "DB"],
      node "ObjectList" [data.comment.toXml, data.title.toXml]]

/-- The tree of a document, with the given interface of instances. -/
def Document.toXmlWith (interface : Xml) (document : Document) : Xml :=
  node "Document"
    (.element "Engineering" [("version", document.engineeringVersion)] [] :: document.block.toXml ::
      document.instanceBlock.toList.map (InstanceBlock.toXmlWith interface))

theorem Document.toXml_eq (document : Document) : document.toXml = document.toXmlWith (.raw instanceInterface) := by
  obtain ⟨version, block, instanceBlock⟩ := document
  cases instanceBlock <;> rfl

theorem InstanceBlock.toXmlWith_inj {interface : Xml} {first second : InstanceBlock} :
    first.toXmlWith interface = second.toXmlWith interface ↔ first = second := by
  cases first
  cases second
  simp [toXmlWith, node, leaf, idAttribute, BlockType.letters_inj, MultilingualText.toXml_inj]
  tauto

theorem Document.toXmlWith_eq_iff {interface : Xml} {first second : Document} :
    first.toXmlWith interface = second.toXmlWith interface ↔ first.dropZeros = second.dropZeros := by
  have data : Function.Injective (InstanceBlock.toXmlWith interface) := fun _ _ => InstanceBlock.toXmlWith_inj.mp
  obtain ⟨version, block, instanceBlock⟩ := first
  obtain ⟨version', block', instanceBlock'⟩ := second
  simp only [toXmlWith, node, dropZeros, Xml.element.injEq, FunctionBlock.toXml_eq_iff,
    List.cons.injEq, (List.map_injective_iff.mpr data).eq_iff]
  cases instanceBlock <;> cases instanceBlock' <;> simp

/-! ## Reading the tree -/

section Readable

variable {name : String} {attributes : List (String × String)} {children : List Xml}

theorem readable_element (named : IsName name) (keyed : ∀ pair ∈ attributes, IsName pair.1)
    (inner : children.Forall Xml.Readable) : Xml.Readable (.element name attributes children) :=
  .elements named keyed (List.forall_iff_forall_mem.mp inner)

theorem readable_node (named : IsName name) (inner : children.Forall Xml.Readable) :
    Xml.Readable (node name children) :=
  readable_element named nofun inner

theorem readable_leaf (named : IsName name) (content : String) : Xml.Readable (leaf name content) :=
  .leaf named nofun

theorem forall_readable_map {α : Type} {f : α → Xml} (each : ∀ a, Xml.Readable (f a)) (xs : List α) :
    (xs.map f).Forall Xml.Readable := by
  rw [List.forall_iff_forall_mem, List.forall_mem_map]
  exact fun a _ => each a

theorem TextItem.readable (item : TextItem) : item.toXml.Readable :=
  readable_element (by decide) (by simp +decide [idAttribute])
    (readable_node (by decide) ⟨readable_leaf (by decide) _, readable_leaf (by decide) _⟩)

theorem MultilingualText.readable (text : MultilingualText) : text.toXml.Readable :=
  readable_element (by decide) (by simp +decide [idAttribute])
    (readable_node (by decide) (forall_readable_map TextItem.readable text.items))

theorem Subelement.readable (sub : Subelement) : sub.toXml.Readable :=
  readable_element (by decide) (by simp +decide) (readable_node (by decide) (.leaf (by decide) (by simp +decide)))

theorem Member.readable (member : Member) : member.toXml.Readable := by
  refine readable_element (by decide) ?_ (forall_readable_map Subelement.readable _)
  cases member.remanence <;> simp +decide

theorem InterfaceSection.readable (part : InterfaceSection) : part.toXml.Readable :=
  readable_element (by decide) (by simp +decide) (forall_readable_map Member.readable _)

theorem Interface.readable (interface : Interface) : interface.toXml.Readable :=
  readable_node (by decide)
    (readable_element (by decide) (by simp +decide) (forall_readable_map InterfaceSection.readable _))

theorem readable_constantXml (type value : String) : (constantXml type value).Readable :=
  readable_node (by decide) ⟨readable_leaf (by decide) _, readable_leaf (by decide) _⟩

theorem Instruction.readable (part : Instruction) : part.toXml.Readable := by
  have counted (count : Int) : (cardinalityXml count).Readable := .leaf (by decide) (by simp +decide)
  have negated (port : String) : (negatedXml port).Readable :=
    readable_element (by decide) (by simp +decide) trivial
  rw [toXml_eq]
  refine readable_element (by decide) (by simp +decide [uidAttribute]) (List.forall_append.mpr ⟨?_, ?_⟩)
  · exact forall_readable_map counted _
  · exact forall_readable_map negated _

theorem Part.readable (part : Part) : part.toXml.Readable := by
  cases part with
  | instruction part => exact part.readable
  | «local» access =>
    refine readable_element (by decide) (by simp +decide [uidAttribute]) (readable_node (by decide) ?_)
    exact readable_element (by decide) (by simp +decide)
      (readable_element (by decide) (by simp +decide) (readable_constantXml _ _))
  | literal access =>
    exact readable_element (by decide) (by simp +decide [uidAttribute]) (readable_constantXml _ _)

theorem Wire.readable (wire : Wire) : wire.toXml.Readable := by
  have source : wire.source.toXml.Readable := by
    unfold Source.toXml
    split <;> exact readable_element (by decide) (by simp +decide [uidAttribute]) trivial
  exact readable_element (by decide) (by simp +decide [uidAttribute])
    ⟨source, readable_element (by decide) (by simp +decide [uidAttribute]) trivial⟩

theorem Network.readable (network : Network) : network.toXml.Readable := by
  have parts : (node "Parts" (network.parts.map Part.toXml)).Readable :=
    readable_node (by decide) (forall_readable_map Part.readable _)
  have wires : (node "Wires" (network.wires.map Wire.toXml)).Readable :=
    readable_node (by decide) (forall_readable_map Wire.readable _)
  refine readable_element (by decide) (by simp +decide [idAttribute]) ⟨readable_node (by decide) ⟨?_, ?_⟩, ?_⟩
  · exact readable_node (by decide) (readable_element (by decide) (by simp +decide) ⟨parts, wires⟩)
  · exact readable_leaf (by decide) _
  · exact readable_node (by decide) ⟨network.comment.readable, network.title.readable⟩

theorem FunctionBlock.readable (block : FunctionBlock) : block.toXml.Readable := by
  refine readable_element (by decide) (by simp +decide [idAttribute]) ⟨readable_node (by decide) ?_,
    readable_node (by decide) (List.forall_append.mpr ⟨?_, block.title.readable⟩)⟩
  · exact ⟨readable_leaf (by decide) _, block.interface.readable, readable_leaf (by decide) _,
      readable_leaf (by decide) _, readable_leaf (by decide) _, readable_leaf (by decide) _,
      readable_node (by decide) trivial, readable_leaf (by decide) _, readable_leaf (by decide) _,
      readable_leaf (by decide) _, readable_leaf (by decide) _⟩
  · exact (List.forall_cons _ _ _).mpr ⟨block.comment.readable, forall_readable_map Network.readable _⟩

end Readable

theorem isElement_instanceInterface : isElement "Interface" instanceInterface.toList = true := by
  -- The characters are taken from each literal by itself; those of the joined text are slow to evaluate.
  simp only [instanceInterface, interfaceSpace, String.toList_intercalate, List.map_cons, List.map_nil, toString,
    String.toList_append]
  repeat rw [String.toList_ofList]
  decide +kernel

section Reading

variable {pretty : Bool} {level : Int}

theorem forall₂_isReadAt {children : List Xml} (readable : children.Forall Xml.Readable) :
    List.Forall₂ (IsReadAt pretty level) children children :=
  List.forall₂_same.mpr fun child member => (List.forall_iff_forall_mem.mp readable child member).isReadAt pretty level

theorem InstanceBlock.isReadAt {interface result : Xml} (notText : ∀ content, interface ≠ .text content)
    (reads : IsReadAt pretty (level + 1 + 1) interface result) (data : InstanceBlock) :
    IsReadAt pretty level (data.toXmlWith interface) (data.toXmlWith result) := by
  have before : [leaf "AutoNumber" "false", leaf "InstanceOfName" data.blockName,
      leaf "InstanceOfType" data.blockType.letters].Forall Xml.Readable :=
    ⟨readable_leaf (by decide) _, readable_leaf (by decide) _, readable_leaf (by decide) _⟩
  have after : [leaf "Name" data.name, node "Namespace" [], leaf "Number" (toString data.number),
      leaf "ProgrammingLanguage" "DB"].Forall Xml.Readable :=
    ⟨readable_leaf (by decide) _, readable_node (by decide) trivial, readable_leaf (by decide) _,
      readable_leaf (by decide) _⟩
  have texts : (node "ObjectList" [data.comment.toXml, data.title.toXml]).Readable :=
    readable_node (by decide) ⟨data.comment.readable, data.title.readable⟩
  refine isReadAt_elements (by decide) (by simp +decide [idAttribute]) (by simp [node]) (by simp)
    (.cons ?_ (forall₂_isReadAt texts))
  refine isReadAt_elements (by decide) (by simp) ?_ (by simp)
    (List.rel_append (forall₂_isReadAt before) (.cons reads (forall₂_isReadAt after)))
  intro content
  simp [leaf, node, Ne.symm (notText content)]

theorem Document.isReadAt {interface result : Xml} (notText : ∀ content, interface ≠ .text content)
    (reads : IsReadAt pretty (level + 1 + 1 + 1) interface result) (document : Document) :
    IsReadAt pretty level (document.toXmlWith interface) (document.toXmlWith result) := by
  have version : Xml.Readable (.element "Engineering" [("version", document.engineeringVersion)] []) :=
    readable_element (by decide) (by simp +decide) trivial
  refine isReadAt_elements (by decide) (by simp) ?_ (by simp)
    (.cons (version.isReadAt _ _) (.cons (document.block.readable.isReadAt _ _) ?_))
  · simp [FunctionBlock.toXml, InstanceBlock.toXmlWith]
  · exact List.forall₂_map_left_iff.mpr (List.forall₂_map_right_iff.mpr
      (List.forall₂_same.mpr fun data _ => data.isReadAt notText reads))

end Reading

/-- Two documents have the same text, on one line or on many, exactly if they are the same up to numbers of inputs of
zero. -/
theorem Document.render_eq_iff (pretty : Bool) (first second : Document) :
    first.render pretty = second.render pretty ↔ first.dropZeros = second.dropZeros := by
  obtain ⟨interface, reads⟩ := exists_isReadAt_raw (by decide) isElement_instanceInterface
  have notText : ∀ content, Xml.raw instanceInterface ≠ .text content := fun _ => Xml.noConfusion
  constructor
  · intro same
    have written : write pretty 0 first.toXml = write pretty 0 second.toXml := by
      rw [render, render, String.append_right_inj] at same
      exact String.ofList_injective same
    rw [toXml_eq, toXml_eq] at written
    have trees := (first.isReadAt notText (reads pretty _)).eq_of_write_eq
      (second.isReadAt notText (reads pretty _)) written
    exact toXmlWith_eq_iff.mp trees
  · intro same
    have trees : first.toXml = second.toXml := by
      rw [toXml_eq, toXml_eq, toXmlWith_eq_iff.mpr same]
    rw [render, render, trees]

end StepFlow.Netlist
