import StepFlow.Analysis
import StepFlow.Netlist.Openness
import StepFlow.Netlist.OfProgram

/-! # From text to Openness XML

A text is analyzed, and its program becomes a netlist, which is written as XML. Errors in the program
stand in the way, unless they are allowed.
-/

namespace StepFlow

open Netlist

/-- Why a text does not become XML. -/
inductive CompileFault where
  | reading (stopped : StoppedReading)
  | generation (fault : GenerationFault)
  deriving Repr, DecidableEq

/-- The XML of a program. -/
def generate (options : GeneratorOptions) (pretty : Bool) (program : Program) :
    Except GenerationFault String := do
  let document ← Document.ofProgram options program
  return document.render pretty

/-- Refuses a program with errors, unless they are allowed. -/
def Analysis.gate (allowErrors : Bool) (analysis : Analysis) : Except GenerationFault Unit :=
  match analysis.program.errors with
  | [] => .ok ()
  | first :: rest =>
    if allowErrors then .ok () else .error (.programErrors (rest.length + 1) first)

/-- Analyzes a text whose program is to become XML. -/
def analyzeGated (setup : Setup) (source : SourceKind) (metadata : Metadata) (text : String)
    (allowErrors : Bool) : Except CompileFault Analysis := do
  let analysis ← (analyze setup source metadata text).mapError .reading
  (analysis.gate allowErrors).mapError .generation
  return analysis

/-- Turns a text into XML. -/
def compile (setup : Setup) (source : SourceKind) (metadata : Metadata) (text : String)
    (allowErrors : Bool) (options : GeneratorOptions) (pretty : Bool) :
    Except CompileFault (Analysis × String) := do
  let analysis ← analyzeGated setup source metadata text allowErrors
  let xml ← (generate options pretty analysis.program).mapError .generation
  return (analysis, xml)

end StepFlow
