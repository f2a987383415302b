import StepFlow.Json.Schema

/-! # Diagnostics

Reading and checking a program never stops at a problem in it. Every problem becomes a diagnostic,
an error or a warning, with the number of the line where it was found, and with that line itself
where it would otherwise be lost.
-/

namespace StepFlow

open Schema

/-- How much a problem weighs. Errors stand in the way of generation. -/
inductive Severity where
  | error
  | warning
  deriving Repr, DecidableEq

/-- What kind of problem was found. -/
inductive DiagnosticCode where
  | duplicateStep
  | duplicateRest
  | invalidTransition
  | emptyIdentifier
  | invalidEntryConditions
  | unresolvedCrossReference
  | missingSequentialStep
  | missingConditions
  | emptyStepDescription
  | tooManyConditions
  | tooManyTransitions
  | timerOutOfRange
  | ambiguousCondition
  | orphanTransition
  | unrecognizedLine
  deriving Repr, DecidableEq

/-- A problem of a program. -/
structure Diagnostic where
  code : DiagnosticCode
  severity : Severity
  message : String
  line : Option Int := none
  text : Option String := none
  deriving Repr, DecidableEq

namespace Severity

/-- The word for a severity. -/
def word : Severity → String
  | .error => "error"
  | .warning => "warning"

/-- The severity that a word names. -/
def ofWord? (word : String) : Option Severity := [error, warning].find? (·.word == word)

end Severity

namespace DiagnosticCode

/-- The word for a kind of problem. -/
def word : DiagnosticCode → String
  | .duplicateStep => "DUPLICATE_STEP"
  | .duplicateRest => "DUPLICATE_REST"
  | .invalidTransition => "INVALID_TRANSITION"
  | .emptyIdentifier => "EMPTY_IDENTIFIER"
  | .invalidEntryConditions => "INVALID_ENTRY_CONDITIONS"
  | .unresolvedCrossReference => "UNRESOLVED_CROSS_REFERENCE"
  | .missingSequentialStep => "MISSING_SEQUENTIAL_STEP"
  | .missingConditions => "MISSING_CONDITIONS"
  | .emptyStepDescription => "EMPTY_STEP_DESCRIPTION"
  | .tooManyConditions => "TOO_MANY_CONDITIONS"
  | .tooManyTransitions => "TOO_MANY_TRANSITIONS"
  | .timerOutOfRange => "TIMER_OUT_OF_RANGE"
  | .ambiguousCondition => "AMBIGUOUS_CONDITION"
  | .orphanTransition => "ORPHAN_TRANSITION"
  | .unrecognizedLine => "UNRECOGNIZED_LINE"

/-- All kinds of problems. -/
def all : List DiagnosticCode :=
  [duplicateStep, duplicateRest, invalidTransition, emptyIdentifier, invalidEntryConditions,
    unresolvedCrossReference, missingSequentialStep, missingConditions, emptyStepDescription,
    tooManyConditions, tooManyTransitions, timerOutOfRange, ambiguousCondition, orphanTransition,
    unrecognizedLine]

/-- The kind of problem that a word names. -/
def ofWord? (word : String) : Option DiagnosticCode := all.find? (·.word == word)

end DiagnosticCode

namespace Diagnostic

/-- A diagnostic as one line of text. -/
def render (diagnostic : Diagnostic) : String :=
  let place := match diagnostic.line with
    | some line => s!"line {line}: "
    | none => ""
  s!"{place}[{diagnostic.code.word}] {diagnostic.message}"

/-- Reads a diagnostic. -/
def ofJson : Json → Checked Diagnostic := record fun fields =>
  Diagnostic.mk
    <$> required "code" (choice .unknownChoice DiagnosticCode.ofWord?) fields
    <*> required "severity" (choice .unknownChoice Severity.ofWord?) fields
    <*> required "message" Schema.text fields
    <*> optional "line_number" (nullable integer) none fields
    <*> optional "text" (nullable Schema.text) none fields

/-- Writes a diagnostic. -/
def toJson (diagnostic : Diagnostic) : Json :=
  .obj [("code", .str diagnostic.code.word), ("severity", .str diagnostic.severity.word),
    ("message", .str diagnostic.message), ("line_number", .ofOption .int diagnostic.line),
    ("text", .ofOption .str diagnostic.text)]

end Diagnostic

end StepFlow
