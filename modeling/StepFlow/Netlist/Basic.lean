import StepFlow.Program.Basic
import StepFlow.Text.Numeral

/-! # Netlists

A netlist document is one function block with an interface and networks, and perhaps an instance of
it. A network holds parts (gates, latches and coils, accesses to memory, constants) and the wires
between their ports.
-/

namespace StepFlow.Netlist

/-- The sections of an interface. -/
inductive SectionName where
  | input
  | output
  | inOut
  | static
  | temp
  | constant
  deriving Repr, DecidableEq

/-- The types of instructions. -/
inductive PartType where
  | and
  | latch
  | coil
  deriving Repr, DecidableEq

/-- What a text is for. -/
inductive TextRole where
  | comment
  | title
  deriving Repr, DecidableEq

/-- A text in one language. -/
structure TextItem where
  uid : Int
  culture : String
  text : String := ""
  deriving Repr, DecidableEq

/-- A text in several languages. -/
structure MultilingualText where
  uid : Int
  role : TextRole
  items : List TextItem := []
  deriving Repr, DecidableEq

/-- A comment on one place of an array. -/
structure Subelement where
  path : String
  comment : String
  lang : String := "nl-NL"
  deriving Repr, DecidableEq

/-- A member of an interface. -/
structure Member where
  name : String
  datatype : String
  remanence : Option String := none
  subelements : List Subelement := []
  deriving Repr, DecidableEq

/-- A section of an interface. -/
structure InterfaceSection where
  name : SectionName
  members : List Member := []
  deriving Repr, DecidableEq

/-- A gate, a latch or a coil. The number of inputs is known for gates only. -/
structure Instruction where
  uid : Int
  type : PartType
  cardinality : Option Int := none
  negated : List String := []
  deriving Repr, DecidableEq

/-- A place of a local array. -/
structure LocalAccess where
  uid : Int
  array : String
  index : Int
  deriving Repr, DecidableEq

/-- A constant. -/
structure LiteralAccess where
  uid : Int
  type : String := "Bool"
  value : String := "false"
  deriving Repr, DecidableEq

/-- A part of a network. -/
inductive Part where
  | instruction (part : Instruction)
  | local (access : LocalAccess)
  | literal (access : LiteralAccess)
  deriving Repr, DecidableEq

/-- Where a wire begins: a part, and its port if it has several. -/
structure Source where
  uid : Int
  port : Option String := none
  deriving Repr, DecidableEq

/-- Where a wire ends: a part and its port. -/
structure Target where
  uid : Int
  port : String
  deriving Repr, DecidableEq

/-- A wire between two parts. -/
structure Wire where
  uid : Int
  source : Source
  target : Target
  deriving Repr, DecidableEq

/-- A wired graph of parts. -/
structure Network where
  uid : Int
  title : MultilingualText
  comment : MultilingualText
  language : String := "FBD"
  parts : List Part := []
  wires : List Wire := []
  deriving Repr, DecidableEq

namespace SectionName

/-- The word for a section. -/
def word : SectionName → String
  | .input => "Input"
  | .output => "Output"
  | .inOut => "InOut"
  | .static => "Static"
  | .temp => "Temp"
  | .constant => "Constant"

/-- All sections, in the order of an interface. -/
def all : List SectionName := [input, output, inOut, static, temp, constant]

/-- The section that a word names. -/
def ofWord? (word : String) : Option SectionName := all.find? (·.word == word)

end SectionName

/-- The sections of an interface without members. -/
def emptySections : List InterfaceSection := SectionName.all.map fun name => { name }

/-- The interface of a block. -/
structure Interface where
  sections : List InterfaceSection := emptySections
  deriving Repr, DecidableEq

/-- A block with its networks. -/
structure FunctionBlock where
  uid : Int
  name : String
  number : Int
  interface : Interface := {}
  networks : List Network := []
  comment : MultilingualText
  title : MultilingualText
  language : String := "FBD"
  memoryLayout : String := "Optimized"
  memoryReserve : Int := 4000
  retainMemoryReserve : Int := 4000
  deriving Repr, DecidableEq

/-- The data of one use of a block. -/
structure InstanceBlock where
  uid : Int
  name : String
  number : Int
  blockName : String
  blockType : BlockType := .functionBlock
  comment : MultilingualText
  title : MultilingualText
  deriving Repr, DecidableEq

/-- A netlist document. -/
structure Document where
  engineeringVersion : String := "V18"
  block : FunctionBlock
  instanceBlock : Option InstanceBlock := none
  deriving Repr, DecidableEq

namespace PartType

/-- The word for a type of instruction. -/
def word : PartType → String
  | .and => "A"
  | .latch => "Sr"
  | .coil => "Coil"

/-- The type of instruction that a word names. -/
def ofWord? (word : String) : Option PartType := [PartType.and, latch, coil].find? (·.word == word)

/-- Whether a port's name is `in` with a positive number after it. -/
def isGateInput (port : List Char) : Except Text.NumeralFault Bool :=
  match port with
  | 'i' :: 'n' :: digits =>
    if !digits.isEmpty && digits.all Text.isDigitLike then
      (fun number => decide (1 ≤ number)) <$> Text.readNumeral digits
    else .ok false
  | _ => .ok false

/-- Whether instructions of a type have an input. A gate has as many inputs as are wired. -/
def hasInput (type : PartType) (port : String) : Except Text.NumeralFault Bool :=
  match type with
  | .and => isGateInput port.toList
  | .latch => .ok (["s", "r1", "operand"].contains port)
  | .coil => .ok (["in", "operand"].contains port)

/-- Whether instructions of a type have an output. -/
def hasOutput (type : PartType) (port : String) : Bool :=
  match type with
  | .and => port == "out"
  | .latch => port == "q"
  | .coil => false

end PartType

namespace TextRole

/-- The word for what a text is for. -/
def word : TextRole → String
  | .comment => "Comment"
  | .title => "Title"

/-- What a word says a text is for. -/
def ofWord? (word : String) : Option TextRole := [comment, title].find? (·.word == word)

end TextRole

/-- The identifiers of a text: its own and those of its items. -/
def MultilingualText.uids (text : MultilingualText) : List Int :=
  text.uid :: text.items.map TextItem.uid

/-- The first section of a name. -/
def Interface.section? (interface : Interface) (name : SectionName) : Option InterfaceSection :=
  interface.sections.find? (·.name == name)

/-- The identifier of a part. -/
def Part.uid : Part → Int
  | .instruction part => part.uid
  | .local access => access.uid
  | .literal access => access.uid

/-- Why parts and wires do not fit together. -/
inductive WiringFault where
  | unknownPart (wire part : Int)
  | wrongCardinality (gate : Int) (declared : Option Int) (incoming : Nat)
  deriving Repr, DecidableEq

/-- The wording of a wiring fault. -/
def WiringFault.message : WiringFault → String
  | .unknownPart wire part => s!"wire {wire} references unknown part {part}"
  | .wrongCardinality gate declared incoming =>
    let cardinality := match declared with
      | none => "None"
      | some n => toString n
    s!"gate {gate} declares cardinality {cardinality} but has {incoming} incoming wires"

namespace Network

/-- The number of wires that end at a part. -/
def incoming (wires : List Wire) (uid : Int) : Nat := wires.countP fun wire => wire.target.uid == uid

/-- The end of a wire that is at no part. -/
def danglingEnd? (parts : List Part) (wire : Wire) : Option WiringFault :=
  [wire.source.uid, wire.target.uid].findSome? fun uid =>
    if parts.any (fun part => part.uid == uid) then none else some (.unknownPart wire.uid uid)

/-- A gate whose number of inputs is not that of its wires. -/
def miscounted? (wires : List Wire) : Part → Option WiringFault
  | .instruction part =>
    if part.type = .and ∧ part.cardinality.getD 0 ≠ incoming wires part.uid then
      some (.wrongCardinality part.uid part.cardinality (incoming wires part.uid))
    else none
  | _ => none

/-- The first fault of the wiring: wires first, then gates. -/
def wiringFault? (network : Network) : Option WiringFault :=
  match network.wires.findSome? (danglingEnd? network.parts) with
  | some fault => some fault
  | none => network.parts.findSome? (miscounted? network.wires)

/-- The first part with an identifier. -/
def part? (network : Network) (uid : Int) : Option Part := network.parts.find? (·.uid == uid)

/-- The instructions of a type. -/
def instructionsOf (network : Network) (type : PartType) : List Instruction :=
  network.parts.filterMap fun
    | .instruction part => if part.type = type then some part else none
    | _ => none

/-- The identifiers of a network, in the order of the document. -/
def uids (network : Network) : List Int :=
  network.uid :: network.title.uids ++ network.comment.uids ++ network.parts.map Part.uid ++
    network.wires.map Wire.uid

end Network

namespace Document

/-- Every identifier, in the order of the document. -/
def uids (document : Document) : List Int :=
  let block := document.block
  block.uid :: block.comment.uids ++ block.networks.flatMap Network.uids ++ block.title.uids ++
    match document.instanceBlock with
    | none => []
    | some data => data.uid :: data.comment.uids ++ data.title.uids

/-- Whether no identifier is used twice. -/
def hasUniqueUids (document : Document) : Bool := decide document.uids.Nodup

end Document

end StepFlow.Netlist
