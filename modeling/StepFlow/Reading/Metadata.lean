import StepFlow.Json.Printer
import StepFlow.Program.Json
import StepFlow.Reading.Rules

/-! # Metadata of a program

What is known about a program beside its text: names and the block fill what the text left empty, and
all else is kept.
-/

namespace StepFlow

open Text

/-- What is known about a program. A ready block stands for the field of that meaning. -/
structure Metadata where
  fields : List (String × Json) := []
  block : Option BlockTag := none

namespace Metadata

/-- Names of the program, preferred ones first. -/
def nameKeys : List String := ["name", "program_name"]

/-- Names of the instance, preferred ones first. -/
def instanceKeys : List String := ["symbolic_instance_name", "symbolic_idb"]

/-- The name of the block's field. -/
def blockKey : String := "function_block"

/-- A block written as one word: its type, its number. -/
def blockPattern : Pattern :=
  .concat [.start, .blanks, .group 1 (.either (.literal .full "FB") (.literal .full "FC")), .blanks,
    .group 2 .numeral, .blanks, .finish]

/-- A name that is there already, or else the first one given under the keys. -/
def fillName (fields : List (String × Json)) : List String → String → String
  | [], name => name
  | key :: keys, name =>
    match fields.lookup key with
    | some value => fillName fields keys (if value.isGiven && name.isEmpty then value.nameText else name)
    | none => fillName fields keys name

/-- The block that a value describes; a value that describes none is kept as it is. -/
def readBlock (value : Json) : Except ReadFault (Option BlockTag) :=
  match value with
  | .obj fields => some <$> ReadFault.ofChecked .block (BlockTag.ofFields fields)
  | _ =>
    match blockPattern.matchStart? value.nameText.toList with
    | some found => some <$> LineRule.blockOf (found.kept 1) (found.kept 2)
    | none => .ok none

/-- The block of a program without one, and the fields to keep for it. -/
def fillBlock (metadata : Metadata) : Option BlockTag →
    Except ReadFault (Option BlockTag × List (String × Json))
  | some block => .ok (some block, [])
  | none =>
    match metadata.block, metadata.fields.lookup blockKey with
    | some block, _ => .ok (some block, [])
    | none, none => .ok (none, [])
    | none, some value =>
      if value.isGiven then do
        match ← readBlock value with
        | some block => return (some block, [])
        | none => return (none, [(blockKey, value)])
      else .ok (none, [])

/-- The program with its empty fields filled. -/
def apply (metadata : Metadata) (program : Program) : Except ReadFault Program := do
  let fields := metadata.fields
  let (block, kept) ← metadata.fillBlock program.block
  let known := nameKeys ++ instanceKeys ++ [blockKey]
  return { program with
    name := fillName fields nameKeys program.name
    instanceName := fillName fields instanceKeys program.instanceName
    block
    metadata := fields.filter (fun field => !known.contains field.1) ++ kept }

end Metadata

end StepFlow
