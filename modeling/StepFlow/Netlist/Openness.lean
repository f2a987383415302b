import StepFlow.Netlist.Basic
import StepFlow.Xml.Basic

/-! # Netlists as Openness XML

The XML by which engineering tools import blocks. Names of elements and attributes, their order, and
the name spaces are fixed by the import tool.
-/

namespace StepFlow.Netlist

open Xml

/-- The name space of interfaces. -/
def interfaceSpace : String := "http://www.siemens.com/automation/Openness/SW/Interface/v5"

/-- The name space of networks. -/
def networkSpace : String := "http://www.siemens.com/automation/Openness/SW/NetworkSource/FlgNet/v4"

/-- The interface of instances, the same for every block. -/
def instanceInterface : String :=
  "\n".intercalate [
    s!"<Interface><Sections xmlns=\"{interfaceSpace}\">",
    "  <Section Name=\"Input\" />",
    "  <Section Name=\"Output\">",
    "    <Member Name=\"Uit_Stap_Tekst\" Datatype=\"Int\" />",
    "  </Section>",
    "  <Section Name=\"InOut\" />",
    "  <Section Name=\"Static\">",
    "    <Member Name=\"Stap\" Datatype=\"Array[0..31] of Bool\" Remanence=\"Retain\" />",
    "    <Member Name=\"Stap_A\" Datatype=\"Array[0..31] of Bool\" Remanence=\"Retain\" />",
    "    <Member Name=\"Stap_B\" Datatype=\"Array[0..31] of Bool\" Remanence=\"Retain\" />",
    "    <Member Name=\"Stap_C\" Datatype=\"Array[0..31] of Bool\" Remanence=\"Retain\" />",
    "    <Member Name=\"Hulp\" Datatype=\"Array[1..32] of Bool\" Remanence=\"Retain\" />",
    "    <Member Name=\"Tijd\" Datatype=\"Array[1..10] of IEC_TIMER\" Version=\"1.0\" Remanence=\"Retain\">",
    "      <AttributeList>",
    "        <BooleanAttribute Name=\"SetPoint\" SystemDefined=\"true\">true</BooleanAttribute>",
    "      </AttributeList>",
    "    </Member>",
    "    <Member Name=\"Teller\" Datatype=\"Array[1..10] of Int\" Remanence=\"Retain\" />",
    "    <Member Name=\"Melding\" Datatype=\"Array[0..2] of &quot;Program Alarm Message&quot;\" />",
    "  </Section>",
    "</Sections></Interface>"]

/-- The identifier of an element of the document. -/
def idAttribute (uid : Int) : String × String := ("ID", toString uid)

/-- The identifier of an element of a network. -/
def uidAttribute (uid : Int) : String × String := ("UId", toString uid)

/-- A text in one language. -/
def TextItem.toXml (item : TextItem) : Xml :=
  .element "MultilingualTextItem" [idAttribute item.uid, ("CompositionName", "Items")]
    [node "AttributeList" [leaf "Culture" item.culture, leaf "Text" item.text]]

/-- A text in several languages. -/
def MultilingualText.toXml (text : MultilingualText) : Xml :=
  .element "MultilingualText" [idAttribute text.uid, ("CompositionName", text.role.word)]
    [node "ObjectList" (text.items.map TextItem.toXml)]

/-- A comment on a place of an array. -/
def Subelement.toXml (sub : Subelement) : Xml :=
  .element "Subelement" [("Path", sub.path)]
    [node "Comment" [.element "MultiLanguageText" [("Lang", sub.lang)] [.text sub.comment]]]

/-- A member of an interface. -/
def Member.toXml (member : Member) : Xml :=
  let remanence := match member.remanence with
    | none => []
    | some remanence => [("Remanence", remanence)]
  .element "Member" ([("Name", member.name), ("Datatype", member.datatype)] ++ remanence)
    (member.subelements.map Subelement.toXml)

/-- A section of an interface. -/
def InterfaceSection.toXml (part : InterfaceSection) : Xml :=
  .element "Section" [("Name", part.name.word)] (part.members.map Member.toXml)

/-- An interface. -/
def Interface.toXml (interface : Interface) : Xml :=
  node "Interface" [.element "Sections" [("xmlns", interfaceSpace)]
    (interface.sections.map InterfaceSection.toXml)]

/-- A constant of a type. -/
def constantXml (type value : String) : Xml :=
  node "Constant" [leaf "ConstantType" type, leaf "ConstantValue" value]

/-- An instruction, with its number of inputs if it has any, and its inverted inputs. -/
def Instruction.toXml (part : Instruction) : Xml :=
  let cardinality := match part.cardinality with
    | none => []
    | some count =>
      if count = 0 then []
      else [.element "TemplateValue" [("Name", "Card"), ("Type", "Cardinality")] [.text (toString count)]]
  .element "Part" [("Name", part.type.word), uidAttribute part.uid]
    (cardinality ++ part.negated.map fun port => .element "Negated" [("Name", port)] [])

/-- A place of a local array. -/
def LocalAccess.toXml (access : LocalAccess) : Xml :=
  .element "Access" [("Scope", "LocalVariable"), uidAttribute access.uid]
    [node "Symbol" [.element "Component" [("Name", access.array), ("AccessModifier", "Array")]
      [.element "Access" [("Scope", "LiteralConstant")]
        [constantXml "DInt" (toString access.index)]]]]

/-- A constant. -/
def LiteralAccess.toXml (access : LiteralAccess) : Xml :=
  .element "Access" [("Scope", "LiteralConstant"), uidAttribute access.uid]
    [constantXml access.type access.value]

/-- A part of a network. -/
def Part.toXml : Part → Xml
  | .instruction part => part.toXml
  | .local access => access.toXml
  | .literal access => access.toXml

/-- The start of a wire: with its port, or the part alone. -/
def Source.toXml (source : Source) : Xml :=
  match source.port with
  | none => .element "IdentCon" [uidAttribute source.uid] []
  | some port => .element "NameCon" [uidAttribute source.uid, ("Name", port)] []

/-- A wire. -/
def Wire.toXml (wire : Wire) : Xml :=
  .element "Wire" [uidAttribute wire.uid]
    [wire.source.toXml,
      .element "NameCon" [uidAttribute wire.target.uid, ("Name", wire.target.port)] []]

/-- A network. -/
def Network.toXml (network : Network) : Xml :=
  let graph : Xml := .element "FlgNet" [("xmlns", networkSpace)]
    [node "Parts" (network.parts.map Part.toXml), node "Wires" (network.wires.map Wire.toXml)]
  .element "SW.Blocks.CompileUnit" [idAttribute network.uid, ("CompositionName", "CompileUnits")]
    [node "AttributeList"
      [node "NetworkSource" [graph], leaf "ProgrammingLanguage" network.language],
      node "ObjectList" [network.comment.toXml, network.title.toXml]]

/-- A block. -/
def FunctionBlock.toXml (block : FunctionBlock) : Xml :=
  .element "SW.Blocks.FB" [idAttribute block.uid]
    [node "AttributeList"
      [leaf "AutoNumber" "false", block.interface.toXml, leaf "IsRetainMemResEnabled" "true",
        leaf "MemoryLayout" block.memoryLayout, leaf "MemoryReserve" (toString block.memoryReserve),
        leaf "Name" block.name, node "Namespace" [], leaf "Number" (toString block.number),
        leaf "ProgrammingLanguage" block.language,
        leaf "RetainMemoryReserve" (toString block.retainMemoryReserve),
        leaf "SetENOAutomatically" "true"],
      node "ObjectList"
        (block.comment.toXml :: block.networks.map Network.toXml ++ [block.title.toXml])]

/-- The data of one use of a block. -/
def InstanceBlock.toXml (data : InstanceBlock) : Xml :=
  .element "SW.Blocks.InstanceDB" [idAttribute data.uid]
    [node "AttributeList"
      [leaf "AutoNumber" "false", leaf "InstanceOfName" data.blockName,
        leaf "InstanceOfType" data.blockType.letters, .raw instanceInterface, leaf "Name" data.name,
        node "Namespace" [], leaf "Number" (toString data.number), leaf "ProgrammingLanguage" "DB"],
      node "ObjectList" [data.comment.toXml, data.title.toXml]]

namespace Document

/-- The tree of a document. -/
def toXml (document : Document) : Xml :=
  let data := match document.instanceBlock with
    | none => []
    | some data => [data.toXml]
  node "Document"
    ([.element "Engineering" [("version", document.engineeringVersion)] [], document.block.toXml] ++
      data)

/-- The text of a document. -/
def render (pretty : Bool) (document : Document) : String :=
  Xml.declaration ++ document.toXml.render pretty 0

end Document

end StepFlow.Netlist
