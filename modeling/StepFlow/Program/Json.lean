import StepFlow.Program.Basic

/-! # Programs as JSON

A program is written with all its fields and read with those that are there. A step says by its
`kind` whether it is a rest step, whose number can only be zero, or a numbered one.
-/

namespace StepFlow

open Schema

namespace Transition

/-- Reads a transition. -/
def ofJson : Json → Checked Transition := record fun fields =>
  Transition.mk
    <$> required "from_step" integer fields
    <*> optional "is_or" truth false fields
    <*> optional "line_number" (nullable integer) none fields
    <*> optional "conditions" (list Condition.ofJson) [] fields

/-- Writes a transition. -/
def toJson (transition : Transition) : Json :=
  .obj [("from_step", .int transition.origin), ("is_or", .bool transition.isOr),
    ("line_number", .ofOption .int transition.line),
    ("conditions", .arr (transition.conditions.map Condition.toJson))]

end Transition

namespace Assignment

/-- Reads an assignment. -/
def ofJson : Json → Checked Assignment := record fun fields =>
  Assignment.mk
    <$> required "target" text fields
    <*> optional "value" text "" fields
    <*> optional "line_number" (nullable integer) none fields

/-- Writes an assignment. -/
def toJson (assignment : Assignment) : Json :=
  .obj [("target", .str assignment.target), ("value", .str assignment.value),
    ("line_number", .ofOption .int assignment.line)]

end Assignment

namespace Step

/-- Reads the fields that all steps share, and then the kind. -/
def ofFields (kind : List (String × Json) → Checked StepKind) (fields : List (String × Json)) :
    Checked Step :=
  Step.mk
    <$> required "keyword" text fields
    <*> optional "description" text "" fields
    <*> optional "entry_conditions" (list ConditionGroup.ofJson) [] fields
    <*> optional "exit_conditions" (list ConditionGroup.ofJson) [] fields
    <*> optional "transitions" (list Transition.ofJson) [] fields
    <*> optional "assignments" (list Assignment.ofJson) [] fields
    <*> optional "timers" texts [] fields
    <*> optional "markers" texts [] fields
    <*> optional "faults" texts [] fields
    <*> optional "line_number" (nullable integer) none fields
    <*> kind fields

/-- The number of a rest step, which is zero. -/
def restNumber : Json → Checked StepKind
  | .int 0 => .valid .rest
  | _ => .fail .unknownLiteral

/-- Reads a step. -/
def ofJson : Json → Checked Step := tagged fun
  | "rest" => some (ofFields (optional "number" restNumber .rest))
  | "sequential" => some (ofFields fun fields => .sequential <$> required "number" natural fields)
  | _ => none

/-- Writes a step. -/
def toJson (step : Step) : Json :=
  .obj [("keyword", .str step.keyword), ("description", .str step.description),
    ("entry_conditions", .arr (step.entry.map ConditionGroup.toJson)),
    ("exit_conditions", .arr (step.exit.map ConditionGroup.toJson)),
    ("transitions", .arr (step.transitions.map Transition.toJson)),
    ("assignments", .arr (step.assignments.map Assignment.toJson)),
    ("timers", .strings step.timers), ("markers", .strings step.markers),
    ("faults", .strings step.faults), ("line_number", .ofOption .int step.line),
    ("kind", .str step.kind.word), ("number", .nat step.number)]

end Step

namespace Variable

/-- Reads a variable. -/
def ofJson : Json → Checked Variable := record fun fields =>
  Variable.mk
    <$> required "name" text fields
    <*> optional "value" text "" fields
    <*> optional "group" text "general" fields
    <*> optional "source" text "" fields
    <*> optional "line_number" (nullable integer) none fields
    <*> optional "conditions" (list Condition.ofJson) [] fields

/-- Writes a variable. -/
def toJson (var : Variable) : Json :=
  .obj [("name", .str var.name), ("value", .str var.value), ("group", .str var.group),
    ("source", .str var.source), ("line_number", .ofOption .int var.line),
    ("conditions", .arr (var.conditions.map Condition.toJson))]

end Variable

namespace BlockTag

/-- Reads the fields of a block. -/
def ofFields (fields : List (String × Json)) : Checked BlockTag :=
  BlockTag.mk
    <$> optional "block_type" (choice .unknownLiteral BlockType.ofLetters?) .functionBlock fields
    <*> required "number" natural fields

/-- Reads a block. -/
def ofJson : Json → Checked BlockTag := record ofFields

/-- Writes a block. -/
def toJson (tag : BlockTag) : Json :=
  .obj [("block_type", .str tag.type.letters), ("number", .nat tag.number)]

end BlockTag

namespace Statistics

/-- Reads counts. -/
def ofJson : Json → Checked Statistics := record fun fields =>
  Statistics.mk
    <$> optional "total_steps" integer 0 fields
    <*> optional "rest_steps" integer 0 fields
    <*> optional "sequential_steps" integer 0 fields
    <*> optional "total_conditions" integer 0 fields
    <*> optional "total_variables" integer 0 fields
    <*> optional "cross_references" integer 0 fields
    <*> optional "external_references" integer 0 fields
    <*> optional "non_sequential_transitions" integer 0 fields
    <*> optional "unrecognized_lines" integer 0 fields
    <*> optional "complexity_score" integer 0 fields

/-- Writes counts. -/
def toJson (statistics : Statistics) : Json :=
  .obj [("total_steps", .int statistics.totalSteps), ("rest_steps", .int statistics.restSteps),
    ("sequential_steps", .int statistics.sequentialSteps),
    ("total_conditions", .int statistics.totalConditions),
    ("total_variables", .int statistics.totalVariables),
    ("cross_references", .int statistics.crossReferences),
    ("external_references", .int statistics.externalReferences),
    ("non_sequential_transitions", .int statistics.nonSequentialTransitions),
    ("unrecognized_lines", .int statistics.unrecognizedLines),
    ("complexity_score", .int statistics.complexity)]

end Statistics

namespace Program

/-- Any named values. -/
def anyFields : Json → Checked (List (String × Json))
  | .obj fields => .valid fields
  | _ => .fail .notMap

/-- Reads a program. -/
def ofJson : Json → Checked Program := record fun fields =>
  Program.mk
    <$> optional "name" text "" fields
    <*> optional "function_block" (nullable BlockTag.ofJson) none fields
    <*> optional "symbolic_instance_name" text "" fields
    <*> optional "steps" (list Step.ofJson) [] fields
    <*> optional "variables" (list Variable.ofJson) [] fields
    <*> optional "cross_references" (list CrossReference.ofJson) [] fields
    <*> optional "comments" texts [] fields
    <*> optional "errors" (list Diagnostic.ofJson) [] fields
    <*> optional "warnings" (list Diagnostic.ofJson) [] fields
    <*> optional "statistics" Statistics.ofJson {} fields
    <*> optional "metadata" anyFields [] fields

/-- Writes a program. -/
def toJson (program : Program) : Json :=
  .obj [("name", .str program.name), ("function_block", .ofOption BlockTag.toJson program.block),
    ("symbolic_instance_name", .str program.instanceName),
    ("steps", .arr (program.steps.map Step.toJson)),
    ("variables", .arr (program.variables.map Variable.toJson)),
    ("cross_references", .arr (program.crossReferences.map CrossReference.toJson)),
    ("comments", .strings program.comments),
    ("errors", .arr (program.errors.map Diagnostic.toJson)),
    ("warnings", .arr (program.warnings.map Diagnostic.toJson)),
    ("statistics", program.statistics.toJson), ("metadata", .obj program.metadata)]

end Program

end StepFlow
