import StepFlow.Program.Statistics
import StepFlow.Reading.Metadata

/-! # Reading programs

The lines of a text are read one after another, each by the first class whose rule accepts it.
Transitions that no step takes are reported at the end. Then the metadata fill what the text left
empty, and the counts are taken.
-/

namespace StepFlow

open Text

/-- A program that was read, with the classes of its lines. -/
structure Reading where
  program : Program
  trace : List ClassifiedLine

/-- A reading that stopped, with the classes of the lines before. -/
structure StoppedReading where
  fault : ReadFault
  trace : List ClassifiedLine
  deriving Repr, DecidableEq

/-- The label of the step that a line declared. -/
def declaredLabel (lineClass : LineClass) (line : Line) (state : ReadState) : Option String :=
  match lineClass, state.focus with
  | .declaration, .step current _ =>
    if current.line = some (line.number : Int) then some current.label else none
  | _, _ => none

/-- Reads a line by the first class that accepts it. A line that none accepts is left out. -/
def readLine (dialect : Dialect) (line : Line) (state : ReadState) :
    List LineClass → Except ReadFault ReadState
  | [] => .ok state
  | lineClass :: rest => do
    match ← lineClass.rule dialect line state with
    | none => readLine dialect line state rest
    | some next =>
      let classified : ClassifiedLine := ⟨line.number, lineClass, declaredLabel lineClass line next⟩
      return { next with
        hasContent := next.hasContent || lineClass.isContent, trace := next.trace ++ [classified] }

/-- Reads lines, the first of which has the given number. -/
def readLines (dialect : Dialect) (classes : List LineClass) :
    Nat → ReadState → List (List Char) → Except StoppedReading ReadState
  | _, state, [] => .ok state
  | number, state, chars :: rest =>
    match Line.ofChars? number chars with
    | none => readLines dialect classes (number + 1) state.blankLine rest
    | some line =>
      match readLine dialect line state classes with
      | .error fault => .error ⟨fault, state.trace⟩
      | .ok next => readLines dialect classes (number + 1) next rest

/-- The report on a transition that no step took. -/
def orphanWarning (transition : Transition) : Diagnostic :=
  { code := .orphanTransition, severity := .warning
    message := s!"transition from step {transition.origin} is not followed by a step"
    line := transition.line }

/-- Reads a program with given line classes, without layout and checks. -/
def readWith (dialect : Dialect) (classes : List LineClass) (text : String) (metadata : Metadata) :
    Except StoppedReading Reading := do
  let state ← readLines dialect classes 1 {} (lines text.toList)
  let state := state.reportAll (state.pending.map orphanWarning)
  match metadata.apply state.program with
  | .error fault => throw ⟨fault, state.trace⟩
  | .ok program =>
    let counts : ReadingCounts := ⟨state.external, state.unrecognized⟩
    return ⟨{ program with statistics := program.computeStatistics (some counts) }, state.trace⟩

/-- Reads a program, without layout and checks. -/
def readProgram (dialect : Dialect) (text : String) (metadata : Metadata) :
    Except StoppedReading Reading :=
  readWith dialect LineClass.standard text metadata

end StepFlow
