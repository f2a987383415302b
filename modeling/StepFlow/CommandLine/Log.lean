import StepFlow.Compilation

/-! # The log of a command

What reading, checking and generating leave in the log is computed from their results. A verbose
command prints every record with its level and origin; otherwise only warnings appear, without them.
-/

namespace StepFlow.CommandLine

open Text

/-- How important a record is. -/
inductive LogLevel where
  | debug
  | info
  | warning
  deriving Repr, DecidableEq

/-- A record of the log. -/
structure LogRecord where
  level : LogLevel
  origin : String
  message : String
  deriving Repr, DecidableEq

/-- The word for a level. -/
def LogLevel.word : LogLevel → String
  | .debug => "DEBUG"
  | .info => "INFO"
  | .warning => "WARNING"

/-- The line of a record, if it is printed. -/
def LogRecord.line? (verbose : Bool) (record : LogRecord) : Option String :=
  if verbose then some s!"{record.level.word} {record.origin}: {record.message}"
  else if record.level = .warning then some record.message
  else none

/-- The record on the layout of a text. -/
def layoutRecord (dialect : Dialect) (source : SourceKind) (text : String) : LogRecord :=
  let count := (Layout.canonicalLines dialect source text.toList).length
  ⟨.debug, "stepnet.parse.normalize", s!"normalized {count} lines from {source.word} input"⟩

/-- The records on a line that was given a class: the step that it declares, then the class. -/
def classifiedRecords (classified : ClassifiedLine) : List LogRecord :=
  let declared := match classified.declared with
    | none => []
    | some label => [⟨.debug, "stepnet.parse._classifiers", s!"line {classified.line}: {label}"⟩]
  declared ++
    [⟨.debug, "stepnet.parse.parser",
      s!"line {classified.line} classified as {classified.lineClass.word}"⟩]

/-- The record on a program that was read. -/
def readRecord (program : Program) : LogRecord :=
  ⟨.info, "stepnet.parse.parser",
    s!"parsed {quoted program.name}: {program.steps.length} steps, " ++
      s!"{program.variables.length} variables, {program.errors.length} errors, " ++
      s!"{program.warnings.length} warnings"⟩

/-- The record on a program that was checked. -/
def checkRecord (name : String) (report : Report) : LogRecord :=
  ⟨.info, "stepnet.parse.validator",
    s!"validated {quoted name}: {report.errors.length} errors, {report.warnings.length} warnings"⟩

/-- The records on the analysis of a text, as far as it came. -/
def analysisRecords (dialect : Dialect) (source : SourceKind) (text : String)
    (result : Except StoppedReading Analysis) : List LogRecord :=
  layoutRecord dialect source text :: match result with
    | .error stopped => stopped.trace.flatMap classifiedRecords
    | .ok analysis =>
      analysis.reading.trace.flatMap classifiedRecords ++
        [readRecord analysis.reading.program, checkRecord analysis.program.name analysis.report]

/-- The records on the generation of a netlist, as far as it came. -/
def generationRecords (program : Program)
    (result : Except Netlist.GenerationFault Netlist.Document) : List LogRecord :=
  let origin := "stepnet.generate.netlist"
  let warnings := (Netlist.stepsOutside program).map fun step =>
    (⟨.warning, origin, Netlist.outsideWarning step⟩ : LogRecord)
  let done := match result with
    | .error _ => []
    | .ok document =>
      [⟨.info, origin,
        s!"generated {document.block.name} with {document.block.networks.length} networks"⟩]
  warnings ++ done

end StepFlow.CommandLine
