import StepFlow.Netlist.Basic
import StepFlow.Netlist.Uid

/-! # Building a network

A builder collects parts and wires and numbers them as they come. The number of inputs of a gate is
known when the wiring is complete: it is the number of wires that end there.
-/

namespace StepFlow.Netlist

/-- Why two parts cannot be joined. -/
inductive PortFault where
  | noOutput (type : PartType) (port : Option String)
  | noInput (type : PartType) (port : String)
  | numeral (fault : Text.NumeralFault)
  deriving Repr, DecidableEq

/-- A network being built. -/
structure Builder where
  uid : Int
  allocator : Allocator
  titleText : String
  cultures : List String
  defersItems : Bool
  title : MultilingualText
  comment : MultilingualText
  parts : List Part := []
  wires : List Wire := []
  deriving Repr, DecidableEq

/-- The wording of a port fault. -/
def PortFault.message : PortFault → String
  | .noOutput type port =>
    let shown := match port with
      | none => "None"
      | some port => Text.quoted port
    s!"{type.word} has no output {shown}"
  | .noInput type port => s!"{type.word} has no input {Text.quoted port}"
  | .numeral fault => fault.message

/-- The items of a text, one for each culture, numbered in order. -/
def textItems (allocator : Allocator) (text : String) (cultures : List String) :
    List TextItem × Allocator :=
  let (uids, allocator) := allocator.takeMany cultures.length
  (List.zipWith (fun uid culture => { uid, culture, text }) uids cultures, allocator)

/-- A new text; its items come later if they are deferred. -/
def newText (allocator : Allocator) (role : TextRole) (text : String) (cultures : List String)
    (deferred : Bool) : MultilingualText × Allocator :=
  if deferred then ({ uid := allocator.next, role }, allocator.advance)
  else
    let (items, after) := textItems allocator.advance text cultures
    ({ uid := allocator.next, role, items }, after)

namespace Part

/-- Changes the instruction with an identifier. -/
def modify (uid : Int) (change : Instruction → Instruction) : Part → Part
  | .instruction part => .instruction (if part.uid = uid then change part else part)
  | other => other

/-- A gate with as many inputs as wires end there; other parts stay as they are. -/
def withCardinality (wires : List Wire) : Part → Part
  | .instruction part =>
    .instruction (if part.type = .and then
      { part with cardinality := some (Network.incoming wires part.uid) } else part)
  | other => other

end Part

/-- The instruction with an inverted input, noted once. -/
def Instruction.negate (port : String) (part : Instruction) : Instruction :=
  if part.negated.contains port then part else { part with negated := part.negated ++ [port] }

namespace Builder

/-- A network without parts. -/
def start (uid : Int) (allocator : Allocator) (titleText : String) (cultures : List String)
    (defersItems : Bool) : Builder :=
  let (title, allocator) := newText allocator .title titleText cultures defersItems
  let (comment, allocator) := newText allocator .comment "" cultures defersItems
  { uid, allocator, titleText, cultures, defersItems, title, comment }

/-- Adds a part that takes the next identifier. -/
def addPart (part : Part) (builder : Builder) : Builder :=
  { builder with allocator := builder.allocator.advance, parts := builder.parts ++ [part] }

/-- Adds an access to a place of an array. -/
def access (array : String) (index : Int) (builder : Builder) : LocalAccess × Builder :=
  let access : LocalAccess := { uid := builder.allocator.next, array, index }
  (access, builder.addPart (.local access))

/-- Adds a truth value. -/
def literal (value : Bool) (builder : Builder) : LiteralAccess × Builder :=
  let access : LiteralAccess :=
    { uid := builder.allocator.next, value := if value then "true" else "false" }
  (access, builder.addPart (.literal access))

/-- Adds an instruction. -/
def instruction (type : PartType) (builder : Builder) : Instruction × Builder :=
  let part : Instruction := { uid := builder.allocator.next, type }
  (part, builder.addPart (.instruction part))

/-- Whether a part can be the source of a wire from a port. -/
def checkSource (source : Part) (port : Option String) : Except PortFault Unit :=
  match source with
  | .instruction part =>
    if part.type.hasOutput (port.getD "") then .ok () else .error (.noOutput part.type port)
  | _ => .ok ()

/-- Whether an instruction can be the target of a wire to a port. -/
def checkTarget (target : Instruction) (port : String) : Except PortFault Unit := do
  if ← (target.type.hasInput port).mapError .numeral then pure ()
  else throw (.noInput target.type port)

/-- Joins two parts; the source is checked before the target. -/
def connect (source : Part) (sourcePort : Option String) (target : Instruction) (targetPort : String)
    (negated : Bool) (builder : Builder) : Except PortFault (Wire × Builder) := do
  checkSource source sourcePort
  checkTarget target targetPort
  let wire : Wire :=
    { uid := builder.allocator.next, source := ⟨source.uid, sourcePort⟩
      target := ⟨target.uid, targetPort⟩ }
  let parts :=
    if negated then builder.parts.map (Part.modify target.uid (Instruction.negate targetPort))
    else builder.parts
  return (wire, { builder with
    allocator := builder.allocator.advance, wires := builder.wires ++ [wire], parts })

/-- Completes the texts whose items were deferred, the comment first. -/
def completeTexts (builder : Builder) : Builder :=
  if builder.defersItems then
    let (commentItems, allocator) := textItems builder.allocator "" builder.cultures
    let (titleItems, allocator) := textItems allocator builder.titleText builder.cultures
    { builder with
      allocator
      comment := { builder.comment with items := commentItems }
      title := { builder.title with items := titleItems } }
  else builder

/-- The network as it is now. It may be taken again later. -/
def build (builder : Builder) : Except WiringFault (Network × Builder) :=
  let counted := builder.parts.map (Part.withCardinality builder.wires)
  let done := { builder.completeTexts with parts := counted }
  let network : Network :=
    { uid := done.uid, title := done.title, comment := done.comment, parts := done.parts
      wires := done.wires }
  match network.wiringFault? with
  | some fault => .error fault
  | none => .ok (network, done)

end Builder

end StepFlow.Netlist
