import StepFlow.Checking.Program
import StepFlow.Layout
import StepFlow.Reading.Program

/-! # From text to a checked program

A text is brought to its canonical layout, read, and checked. Line numbers refer to the canonical text.
-/

namespace StepFlow

/-- What a text is read and checked with. -/
structure Setup where
  dialect : Dialect := {}
  rules : CheckRules := {}
  registry : Registry := []

/-- A text that was read and checked. -/
structure Analysis where
  source : SourceKind
  /-- The canonical text. -/
  text : String
  /-- What was read, before the checks. -/
  reading : Reading
  /-- The program after the checks. -/
  program : Program
  report : Report

/-- Whether no errors were found. -/
def Analysis.isOk (analysis : Analysis) : Bool := analysis.program.errors.isEmpty

/-- Reads and checks a text. -/
def analyze (setup : Setup) (source : SourceKind) (metadata : Metadata) (text : String) :
    Except StoppedReading Analysis := do
  let layout := normalize setup.dialect source text
  let reading ← readProgram setup.dialect layout metadata
  let (program, report) := reading.program.check setup.rules setup.registry
  return ⟨source, layout, reading, program, report⟩

end StepFlow
