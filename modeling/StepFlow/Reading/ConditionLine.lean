import StepFlow.Diagnostic
import StepFlow.Dialect
import StepFlow.Pattern.Grammar
import StepFlow.Program.Condition
import StepFlow.Reading.Fault

/-! # Reading condition lines

A condition line is peeled in a fixed order: the mark, a word of negation, and then, independently of
each other, a reference to another program, a time, a comparison and a name outside. A line should have
at most one of reference, time and comparison; where several are found, all are kept and the line is
reported.
-/

namespace StepFlow

open Text

namespace ConditionLine

/-- A word of negation, with the blanks after it. -/
def negation (dialect : Dialect) : Pattern :=
  .concat [.start, .keyword dialect.conditions.negation, .someBlanks]

/-- A reference in parentheses: the program's name and the step numbers. -/
def reference (dialect : Dialect) : Pattern :=
  .concat [.mark '(', .blanks,
    .group 1 (.maybe (.seq (.span (.noneOf "()") .anyNumber false) (.one .blank))),
    .keyword dialect.stepWords.step, .blanks,
    .group 2 (.seq .numeral (.times (.concat [.blanks, .mark '+', .blanks, .numeral]) .anyNumber true)),
    .blanks, .mark ')']

/-- A time: its value and its unit. -/
def time (dialect : Dialect) : Pattern :=
  .concat [.wordEdge, .keyword dialect.tables.timer, .blanks, .maybe (.mark '~'), .blanks,
    .group 1 .numeral, .blanks, .group 2 (.keyword dialect.conditions.timerUnits), .wordEdge]

/-- The characters of what is compared. -/
def subjectChar : CharTest :=
  .set [.ofKind .word false false, .char '.', .char '[', .char ']'] .exact false

/-- A comparison up to the end of the line: what is compared, from its first character on, the sign,
the value. -/
def comparison : Pattern :=
  .concat [.behind false 1 (.one subjectChar), .group 1 (.span subjectChar .onceOrMore true), .blanks,
    .group 2 (.anyOf (Relation.all.map fun relation => .literal .exact relation.sign)), .blanks,
    .group 3 (.seq (.one .solid) (.span (.any false) .anyNumber false)), .blanks, .finish]

/-- A name between stars. -/
def outside : Pattern :=
  .concat [.mark '*', .group 1 (.span (.noneOf "*") .onceOrMore true), .mark '*']

/-- What a mark at the start of a line says. -/
structure Marked where
  rest : List Char
  isOr : Bool
  isMarked : Bool
  deriving Repr, DecidableEq

/-- The line after a given mark. An empty mark is on no line. -/
def afterMark? (mark : String) (content : List Char) : Option (List Char) :=
  if mark.isEmpty then none else (stripStart? mark.toList content).map trim

/-- Takes the mark off a trimmed line. -/
def splitMark (dialect : Dialect) (content : List Char) : Marked :=
  match afterMark? dialect.conditions.orMark content with
  | some rest => ⟨rest, true, true⟩
  | none =>
    match afterMark? dialect.conditions.andMark content with
    | some rest => ⟨rest, false, true⟩
    | none => ⟨content, false, false⟩

/-- Takes a word of negation off a line, and says whether there was one. -/
def splitNegation (dialect : Dialect) (content : List Char) : List Char × Bool :=
  match (negation dialect).matchStart? content with
  | some found => (trim found.rest, true)
  | none => (content, false)

/-- The number of signs that a line is a condition, of those that count. -/
def signalCount (dialect : Dialect) (line : List Char) : Nat :=
  let signals := dialect.signals
  let body := (splitMark dialect (trim line)).rest
  (if signals.negation && (negation dialect).startsIn body then 1 else 0) +
    (if signals.timer && (time dialect).occursIn body then 1 else 0) +
    (if signals.comparison && comparison.occursIn body then 1 else 0) +
    (if signals.crossReference && (reference dialect).occursIn body then 1 else 0)

/-- Whether a line has enough signs to be read as a condition. -/
def looksLikeCondition (dialect : Dialect) (line : List Char) : Bool :=
  decide (dialect.signals.least ≤ signalCount dialect line)

/-- The reference in a line, if one is there; a reference without name is reported. -/
def findReference (dialect : Dialect) (line : String) (number : Option Int) (body : List Char) :
    Except ReadFault (Option CrossReference × List Diagnostic) :=
  match (reference dialect).search? body with
  | none => .ok (none, [])
  | some found =>
    let program := trim (found.kept 1)
    if program.isEmpty then
      .ok (none, [
        { code := .emptyIdentifier, severity := .error
          message := "cross-reference without a program name", line := number, text := some line }])
    else do
      let numbers ← (Pattern.numeral.findAll (found.kept 2)).mapM ReadFault.ofNumeral
      let description := String.ofList (trim found.before.reverse)
      match CrossReference.ofNumbers? (String.ofList program) (numbers.map Int.ofNat) description number with
      | some reference => return (some reference, [])
      | none => throw (.invalid .crossReference [⟨[.field "step_numbers"], CrossReference.noSteps⟩])

/-- The time in a line, if one is there. -/
def findTime (dialect : Dialect) (body : List Char) : Except ReadFault (Option TimerSpec) :=
  match (time dialect).search? body with
  | none => .ok none
  | some found => do
    let value ← ReadFault.ofNumeral (found.kept 1)
    return some ⟨value, String.ofList (found.kept 2)⟩

/-- The comparison in a line, if one is there; its value has no quotes. -/
def findComparison (body : List Char) : Except ReadFault (Option Comparison) :=
  match comparison.search? body with
  | none => .ok none
  | some found =>
    match Relation.ofSign? (String.ofList (found.kept 2)) with
    | none => .error (.invalid .comparison [⟨[.field "operator"], .unknownLiteral⟩])
    | some relation =>
      let value := (found.kept 3).filter fun c => c != '"' && c != '\''
      .ok (some ⟨String.ofList (found.kept 1), relation, String.ofList value⟩)

/-- The name outside in a line, if one is there. -/
def findOutside (body : List Char) : Option String :=
  (outside.search? body).map fun found => String.ofList (trim (found.kept 1))

/-- A condition line that was read. -/
structure Extraction where
  condition : Condition
  marked : Bool
  diagnostics : List Diagnostic
  deriving Repr, DecidableEq

/-- The report on a condition of several forms. -/
def ambiguity (line : String) (condition : Condition) : List Diagnostic :=
  if condition.forms.length > 1 then
    let forms := ", ".intercalate (condition.forms.map ConditionForm.word)
    [{ code := .ambiguousCondition, severity := .warning
       message := s!"condition matches several forms ({forms})", line := condition.line, text := some line }]
  else []

/-- Reads a condition line. -/
def extract (dialect : Dialect) (line : String) (number : Option Int) :
    Except ReadFault Extraction := do
  let marked := splitMark dialect (trim line.toList)
  let (body, negated) := splitNegation dialect marked.rest
  let (crossReference, reported) ← findReference dialect line number body
  let timer ← findTime dialect body
  let comparison ← findComparison body
  let condition : Condition :=
    { text := String.ofList body, negated, connective := if marked.isOr then .or else .and
      comparison, crossReference, timer, external := findOutside body, line := number }
  return ⟨condition, marked.isMarked, reported ++ ambiguity line condition⟩

end ConditionLine

end StepFlow
