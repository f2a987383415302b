import StepFlow.Netlist.Basic

/-! # Netlists as JSON

A document is written with all its fields and read with those that are there. Reading checks that wires
end at a port, that they join parts of their network, and that gates have as many inputs as wires.
-/

namespace StepFlow.Netlist

open Schema

namespace TextItem

/-- Reads a text in one language. -/
def ofJson : Json → Checked TextItem := record fun fields =>
  TextItem.mk
    <$> required "uid" integer fields
    <*> required "culture" Schema.text fields
    <*> optional "text" Schema.text "" fields

/-- Writes a text in one language. -/
def toJson (item : TextItem) : Json :=
  .obj [("uid", .int item.uid), ("culture", .str item.culture), ("text", .str item.text)]

end TextItem

namespace MultilingualText

/-- Reads a text in several languages. -/
def ofJson : Json → Checked MultilingualText := record fun fields =>
  MultilingualText.mk
    <$> required "uid" integer fields
    <*> required "composition_name" (choice .unknownLiteral TextRole.ofWord?) fields
    <*> optional "items" (list TextItem.ofJson) [] fields

/-- Writes a text in several languages. -/
def toJson (text : MultilingualText) : Json :=
  .obj [("uid", .int text.uid), ("composition_name", .str text.role.word),
    ("items", .arr (text.items.map TextItem.toJson))]

end MultilingualText

namespace Subelement

/-- Reads a comment on a place. -/
def ofJson : Json → Checked Subelement := record fun fields =>
  Subelement.mk
    <$> required "path" text fields
    <*> required "comment" text fields
    <*> optional "lang" text "nl-NL" fields

/-- Writes a comment on a place. -/
def toJson (sub : Subelement) : Json :=
  .obj [("path", .str sub.path), ("comment", .str sub.comment), ("lang", .str sub.lang)]

end Subelement

namespace Member

/-- Reads a member. -/
def ofJson : Json → Checked Member := record fun fields =>
  Member.mk
    <$> required "name" text fields
    <*> required "datatype" text fields
    <*> optional "remanence" (nullable text) none fields
    <*> optional "subelements" (list Subelement.ofJson) [] fields

/-- Writes a member. -/
def toJson (member : Member) : Json :=
  .obj [("name", .str member.name), ("datatype", .str member.datatype),
    ("remanence", .ofOption .str member.remanence),
    ("subelements", .arr (member.subelements.map Subelement.toJson))]

end Member

namespace InterfaceSection

/-- Reads a section. -/
def ofJson : Json → Checked InterfaceSection := record fun fields =>
  InterfaceSection.mk
    <$> required "name" (choice .unknownChoice SectionName.ofWord?) fields
    <*> optional "members" (list Member.ofJson) [] fields

/-- Writes a section. -/
def toJson (part : InterfaceSection) : Json :=
  .obj [("name", .str part.name.word), ("members", .arr (part.members.map Member.toJson))]

end InterfaceSection

namespace Interface

/-- Reads an interface. -/
def ofJson : Json → Checked Interface := record fun fields =>
  Interface.mk <$> optional "sections" (list InterfaceSection.ofJson) emptySections fields

/-- Writes an interface. -/
def toJson (interface : Interface) : Json :=
  .obj [("sections", .arr (interface.sections.map InterfaceSection.toJson))]

end Interface

namespace Instruction

/-- Reads the fields of an instruction. -/
def ofFields (fields : List (String × Json)) : Checked Instruction :=
  Instruction.mk
    <$> required "uid" integer fields
    <*> required "name" (choice .unknownChoice PartType.ofWord?) fields
    <*> optional "cardinality" (nullable integer) none fields
    <*> optional "negated_inputs" texts [] fields

end Instruction

namespace Part

/-- Reads a part. -/
def ofJson : Json → Checked Part := tagged fun
  | "part" => some fun fields => .instruction <$> Instruction.ofFields fields
  | "local" => some fun fields =>
    .local <$> (LocalAccess.mk
      <$> required "uid" integer fields
      <*> required "variable" text fields
      <*> required "index" integer fields)
  | "literal" => some fun fields =>
    .literal <$> (LiteralAccess.mk
      <$> required "uid" integer fields
      <*> optional "constant_type" text "Bool" fields
      <*> optional "value" text "false" fields)
  | _ => none

/-- Writes a part. -/
def toJson : Part → Json
  | .instruction part =>
    .obj [("kind", .str "part"), ("uid", .int part.uid), ("name", .str part.type.word),
      ("cardinality", .ofOption .int part.cardinality), ("negated_inputs", .strings part.negated)]
  | .local access =>
    .obj [("kind", .str "local"), ("uid", .int access.uid), ("variable", .str access.array),
      ("index", .int access.index)]
  | .literal access =>
    .obj [("kind", .str "literal"), ("uid", .int access.uid), ("constant_type", .str access.type),
      ("value", .str access.value)]

end Part

namespace Source

/-- Reads an end of a wire. -/
def ofJson : Json → Checked Source := record fun fields =>
  Source.mk <$> required "uid" integer fields <*> optional "port" (nullable text) none fields

end Source

namespace Wire

/-- A wire whose far end names a port. -/
def withTarget (uid : Int) (source target : Source) : Checked Wire :=
  match target.port with
  | some port => .valid ⟨uid, source, ⟨target.uid, port⟩⟩
  | none => .fail (.rejected "wire target must name a port")

/-- Reads a wire. -/
def ofJson : Json → Checked Wire := record fun fields =>
  ((fun uid source target => withTarget uid source target)
    <$> required "uid" integer fields
    <*> required "source" Source.ofJson fields
    <*> required "target" Source.ofJson fields).andThen id

/-- Writes a wire. -/
def toJson (wire : Wire) : Json :=
  .obj [("uid", .int wire.uid),
    ("source", .obj [("uid", .int wire.source.uid), ("port", .ofOption .str wire.source.port)]),
    ("target", .obj [("uid", .int wire.target.uid), ("port", .str wire.target.port)])]

end Wire

namespace Network

/-- A network without wiring fault. -/
def check (network : Network) : Checked Network :=
  match network.wiringFault? with
  | none => .valid network
  | some fault => .fail (.rejected fault.message)

/-- Reads a network. -/
def ofJson : Json → Checked Network := record fun fields =>
  (Network.mk
    <$> required "uid" integer fields
    <*> required "title" MultilingualText.ofJson fields
    <*> required "comment" MultilingualText.ofJson fields
    <*> optional "programming_language" text "FBD" fields
    <*> optional "parts" (list Part.ofJson) [] fields
    <*> optional "wires" (list Wire.ofJson) [] fields).andThen check

/-- Writes a network. -/
def toJson (network : Network) : Json :=
  .obj [("uid", .int network.uid), ("title", network.title.toJson),
    ("comment", network.comment.toJson), ("programming_language", .str network.language),
    ("parts", .arr (network.parts.map Part.toJson)), ("wires", .arr (network.wires.map Wire.toJson))]

end Network

namespace FunctionBlock

/-- Reads a block. -/
def ofJson : Json → Checked FunctionBlock := record fun fields =>
  FunctionBlock.mk
    <$> required "uid" integer fields
    <*> required "name" text fields
    <*> required "number" integer fields
    <*> optional "interface" Interface.ofJson {} fields
    <*> optional "networks" (list Network.ofJson) [] fields
    <*> required "comment" MultilingualText.ofJson fields
    <*> required "title" MultilingualText.ofJson fields
    <*> optional "programming_language" text "FBD" fields
    <*> optional "memory_layout" text "Optimized" fields
    <*> optional "memory_reserve" integer 4000 fields
    <*> optional "retain_memory_reserve" integer 4000 fields

/-- Writes a block. -/
def toJson (block : FunctionBlock) : Json :=
  .obj [("uid", .int block.uid), ("name", .str block.name), ("number", .int block.number),
    ("interface", block.interface.toJson), ("networks", .arr (block.networks.map Network.toJson)),
    ("comment", block.comment.toJson), ("title", block.title.toJson),
    ("programming_language", .str block.language), ("memory_layout", .str block.memoryLayout),
    ("memory_reserve", .int block.memoryReserve),
    ("retain_memory_reserve", .int block.retainMemoryReserve)]

end FunctionBlock

namespace InstanceBlock

/-- Reads the data of a use. -/
def ofJson : Json → Checked InstanceBlock := record fun fields =>
  InstanceBlock.mk
    <$> required "uid" integer fields
    <*> required "name" text fields
    <*> required "number" integer fields
    <*> required "instance_of_name" text fields
    <*> optional "instance_of_type" (choice .unknownLiteral BlockType.ofLetters?) .functionBlock fields
    <*> required "comment" MultilingualText.ofJson fields
    <*> required "title" MultilingualText.ofJson fields

/-- Writes the data of a use. -/
def toJson (data : InstanceBlock) : Json :=
  .obj [("uid", .int data.uid), ("name", .str data.name), ("number", .int data.number),
    ("instance_of_name", .str data.blockName), ("instance_of_type", .str data.blockType.letters),
    ("comment", data.comment.toJson), ("title", data.title.toJson)]

end InstanceBlock

namespace Document

/-- Reads a document. -/
def ofJson : Json → Checked Document := record fun fields =>
  Document.mk
    <$> optional "engineering_version" text "V18" fields
    <*> required "function_block" FunctionBlock.ofJson fields
    <*> optional "instance_db" (nullable InstanceBlock.ofJson) none fields

/-- Writes a document. -/
def toJson (document : Document) : Json :=
  .obj [("engineering_version", .str document.engineeringVersion),
    ("function_block", document.block.toJson),
    ("instance_db", .ofOption InstanceBlock.toJson document.instanceBlock)]

end Document

end StepFlow.Netlist
