import StepFlow.Netlist.Builder

/-! # The netlist of a program

A program becomes one function block with a fixed interface and one network for each step. The rest
network sets its latch while no numbered step is active, and the first numbered step resets it. The
network of a numbered step sets its bit after the step before, unless the bit is set already; the next
step resets it. The last step drives a coil instead. A constant holds the place of the conditions.
-/

namespace StepFlow.Netlist

/-- How a netlist is generated. -/
structure GeneratorOptions where
  scheme : IdScheme := .monotonic
  includeInstance : Bool := false
  cultures : List String := ["nl-NL", "en-GB"]
  deriving Repr, DecidableEq

/-- Why no netlist is generated. -/
inductive GenerationFault where
  /-- The program has errors: their number and the first. -/
  | programErrors (count : Nat) (first : Diagnostic)
  | noSteps
  /-- The network of a title needs more identifiers than its band has. -/
  | bandExhausted (title : String)
  | port (fault : PortFault)
  | wiring (fault : WiringFault)
  deriving Repr, DecidableEq

/-- The wording of a generation fault. -/
def GenerationFault.message : GenerationFault → String
  | .programErrors count first => s!"{count} error(s) in program, first: {first.render}"
  | .noSteps => "program has no steps to generate"
  | .bandExhausted title =>
    s!"network {Text.quoted title} needs more identifiers than its band allows"
  | .port fault => fault.message
  | .wiring fault => fault.message

namespace GeneratorOptions

open Schema

/-- Reads the fields of options over given ones. -/
def override (base : GeneratorOptions) (fields : List (String × Json)) : Checked GeneratorOptions :=
  GeneratorOptions.mk
    <$> optional "id_scheme" (choice .unknownChoice IdScheme.ofWord?) base.scheme fields
    <*> optional "include_instance_db" truth base.includeInstance fields
    <*> optional "cultures" (listOr .notTuple text) base.cultures fields

/-- Reads options. -/
def ofJson : Json → Checked GeneratorOptions := record (override {})

end GeneratorOptions

/-- The array of step bits. -/
def stepArray : String := "Stap"

/-- The number of step bits. -/
def stepArraySize : Nat := 32

/-- The type of arrays of step bits. -/
def stepArrayType : String := "Array[0..31] of Bool"

/-- The arrays that every block keeps beside the step bits. -/
def helperArrays : List (String × String) :=
  [("Stap_A", stepArrayType), ("Stap_B", stepArrayType), ("Stap_C", stepArrayType),
    ("Hulp", "Array[1..32] of Bool"), ("Tijd", "Array[1..10] of IEC_TIMER"),
    ("Teller", "Array[1..10] of Int")]

/-- The outputs of every block. -/
def outputMembers : List Member := [{ name := "Uit_Stap_Tekst", datatype := "Int" }]

/-- The static members of a program's block: the step bits with the labels of the steps, and the helper
arrays. -/
def staticMembers (program : Program) : List Member :=
  { name := stepArray, datatype := stepArrayType, remanence := some "Retain"
    subelements := program.steps.map fun step =>
      { path := toString step.number, comment := step.label } } ::
    helperArrays.map fun (name, datatype) => { name, datatype, remanence := some "Retain" }

/-- The interface of a program's block. -/
def interfaceOf (program : Program) : Interface :=
  { sections := SectionName.all.map fun name =>
      { name
        members := match name with
          | .output => outputMembers
          | .static => staticMembers program
          | _ => [] } }

/-- The steps whose bits lie outside of the array. -/
def stepsOutside (program : Program) : List Step :=
  program.steps.filter fun step => decide (stepArraySize ≤ step.number)

/-- The warning on a step whose bit lies outside of the array. -/
def outsideWarning (step : Step) : String :=
  s!"{step.label} is outside {stepArray}[0..{stepArraySize - 1}]"

/-- Actions on a builder that may fail. -/
abbrev Build := StateT Builder (Except GenerationFault)

namespace Build

/-- Adds an access to a step bit. -/
def stepBit (number : Nat) : Build Part := do
  let (access, builder) := (← get).access stepArray number
  set builder
  return .local access

/-- Adds a truth value. -/
def constant (value : Bool) : Build Part := do
  let (access, builder) := (← get).literal value
  set builder
  return .literal access

/-- Adds an instruction. -/
def instruction (type : PartType) : Build Instruction := do
  let (part, builder) := (← get).instruction type
  set builder
  return part

/-- Joins two parts. -/
def join (source : Part) (sourcePort : Option String) (target : Instruction) (targetPort : String)
    (negated : Bool) : Build Unit := do
  match (← get).connect source sourcePort target targetPort negated with
  | .ok (_, builder) => set builder
  | .error fault => throw (.port fault)

/-- Adds accesses to step bits in order. -/
def stepBits : List Step → Build (List Part)
  | [] => return []
  | step :: rest => do
    let bit ← stepBit step.number
    let bits ← stepBits rest
    return bit :: bits

/-- Joins parts to the inputs of a gate, from a number on, each inverted. -/
def joinNegated (gate : Instruction) : Nat → List Part → Build Unit
  | _, [] => return
  | number, bit :: rest => do
    join bit none gate s!"in{number}" true
    joinNegated gate (number + 1) rest

/-- The wiring of the rest network. -/
def restWiring (rest : Step) (sequential : List Step) : Build Unit := do
  let bits ← stepBits sequential
  let gate ← instruction .and
  joinNegated gate 1 bits
  let latch ← instruction .latch
  match sequential with
  | [] => pure ()
  | first :: _ => join (← stepBit first.number) none latch "r1" false
  join (.instruction gate) (some "out") latch "s" false
  join (← stepBit rest.number) none latch "operand" false

/-- The wiring of a step's network, between the number of the step before and the step after. -/
def stepWiring (previous : Nat) (step : Step) (next : Option Step) : Build Unit := do
  let previousBit ← stepBit previous
  let ownBit ← stepBit step.number
  let placeholder ← constant false
  let gate ← instruction .and
  join previousBit none gate "in1" false
  join ownBit none gate "in2" true
  join placeholder none gate "in3" false
  match next with
  | none =>
    let coil ← instruction .coil
    let operand ← stepBit step.number
    join (.instruction gate) (some "out") coil "in" false
    join operand none coil "operand" false
  | some next =>
    let latch ← instruction .latch
    let resetBit ← stepBit next.number
    let operand ← stepBit step.number
    join (.instruction gate) (some "out") latch "s" false
    join resetBit none latch "r1" false
    join operand none latch "operand" false

end Build

/-- Makes a network: its own identifier comes from the document, its contents from the source. -/
def makeNetwork (plan : UidPlan) (source : UidSource) (title : String) (cultures : List String)
    (wiring : Build Unit) : Except GenerationFault (Network × UidPlan) := do
  let counter := plan.document.advance
  let allocator := match source with
    | .document => counter
    | .own allocator => allocator
  let start := Builder.start plan.document.next allocator title cultures plan.defersItems
  let (_, wired) ← wiring.run start
  let (network, done) ← wired.build.mapError .wiring
  if done.allocator.overflowed then throw (.bandExhausted title)
  let document := match source with
    | .document => done.allocator
    | .own _ => counter
  return (network, { plan with document })

/-- The networks of numbered steps, given the number of the step before and how many came before. -/
def stepNetworks (cultures : List String) (plan : UidPlan) (previous index : Nat) :
    List Step → Except GenerationFault (List Network × UidPlan)
  | [] => return ([], plan)
  | step :: rest => do
    let (network, plan) ← makeNetwork plan (plan.stepNetwork index) step.label cultures
      (Build.stepWiring previous step rest.head?)
    let (networks, plan) ← stepNetworks cultures plan step.number (index + 1) rest
    return (network :: networks, plan)

/-- The networks of a program: that of the first rest step, then those of the numbered steps. -/
def programNetworks (cultures : List String) (plan : UidPlan) (program : Program) :
    Except GenerationFault (List Network × UidPlan) := do
  let sequential := program.sequentialSteps
  match program.restStep? with
  | none => stepNetworks cultures plan 0 0 sequential
  | some rest =>
    let (network, plan) ← makeNetwork plan plan.restNetwork rest.label cultures
      (Build.restWiring rest sequential)
    let (networks, plan) ← stepNetworks cultures plan 0 0 sequential
    return (network :: networks, plan)

/-- The name of a program's block. -/
def blockName (program : Program) : String :=
  match program.block with
  | some block => block.name
  | none => "FB1"

/-- The number of a program's block; zero is no number of a block. -/
def blockNumber (program : Program) : Nat :=
  match program.block with
  | some block => if block.number = 0 then 1 else block.number
  | none => 1

/-- The instance of a program's block. -/
def instanceOf (allocator : Allocator) (program : Program) (cultures : List String) (deferred : Bool) :
    InstanceBlock × Allocator :=
  let name := blockName program
  let (comment, after) := newText allocator.advance .comment "" cultures deferred
  let (title, after) := newText after .title "" cultures deferred
  ({ uid := allocator.next
     name := if program.instanceName.isEmpty then s!"{name}_DB" else program.instanceName
     number := blockNumber program, blockName := name, comment, title }, after)

/-- Gives a text its empty items. -/
def fillText (cultures : List String) (allocator : Allocator) (text : MultilingualText) :
    MultilingualText × Allocator :=
  let (items, after) := textItems allocator "" cultures
  ({ text with items }, after)

/-- Gives the texts of the blocks their items: those of the block, then those of the instance. -/
def fillTexts (cultures : List String) (allocator : Allocator) (document : Document) : Document :=
  let block := document.block
  let (comment, allocator) := fillText cultures allocator block.comment
  let (title, allocator) := fillText cultures allocator block.title
  let block := { block with comment, title }
  match document.instanceBlock with
  | none => { document with block }
  | some data =>
    let (comment, allocator) := fillText cultures allocator data.comment
    let (title, _) := fillText cultures allocator data.title
    { document with block, instanceBlock := some { data with comment, title } }

/-- The netlist of a program. -/
def Document.ofProgram (options : GeneratorOptions) (program : Program) :
    Except GenerationFault Document := do
  if program.steps.isEmpty then throw .noSteps
  let plan : UidPlan := { scheme := options.scheme }
  let deferred := plan.defersItems
  let cultures := options.cultures
  let uid := plan.document.next
  let (comment, counter) := newText plan.document.advance .comment "" cultures deferred
  let (title, counter) := newText counter .title "" cultures deferred
  let (networks, plan) ← programNetworks cultures { plan with document := counter } program
  let block : FunctionBlock :=
    { uid, name := blockName program, number := blockNumber program
      interface := interfaceOf program, networks, comment, title }
  let (instanceBlock, counter) :=
    if options.includeInstance then
      let (data, counter) := instanceOf plan.document program cultures deferred
      (some data, counter)
    else (none, plan.document)
  let document : Document := { block, instanceBlock }
  return if deferred then fillTexts cultures counter document else document

end StepFlow.Netlist
