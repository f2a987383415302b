import StepFlow.Json.Schema
import StepFlow.Text.Case
import StepFlow.Text.Quoted

/-! # Dialects

Step programs are written in several languages. A dialect says which words declare steps, which
marks and words start a condition, and which signs make a bare line look like a condition. All of it
is data: a dialect is read from and written to JSON, and what is left out has its default. The
defaults cover Dutch, German and English.
-/

namespace StepFlow

open Schema

/-- The words that declare a numbered step, the rest step, and the end of a step. -/
structure StepWords where
  step : List String := ["STAP", "SCHRITT", "STEP"]
  rest : List String := ["RUST", "RUHE", "REST", "IDLE"]
  ending : List String := ["KLAAR", "FERTIG", "END"]
  deriving Repr, DecidableEq

/-- The words that put a condition into a table of its step. -/
structure TableWords where
  timer : List String := ["TIJD", "TIME", "ZEIT"]
  marker : List String := ["MARKER", "FLAG", "MERKER"]
  fault : List String := ["STORING", "FAULT", "STÖRUNG"]
  deriving Repr, DecidableEq

/-- The marks and words of condition lines. -/
structure ConditionMarks where
  andMark : String := "-"
  orMark : String := "+"
  negation : List String := ["NIET", "NICHT", "NOT"]
  transition : String := "VON"
  timerUnits : List String := ["Sek", "Min", "s", "m"]
  deriving Repr, DecidableEq

/-- The signs by which a line without mark and indentation is still read as a condition. -/
structure Signals where
  negation : Bool := true
  timer : Bool := true
  comparison : Bool := true
  crossReference : Bool := true
  least : Nat := 1
  deriving Repr, DecidableEq

/-- The words and marks of step programs. -/
structure Dialect where
  stepWords : StepWords := {}
  tables : TableWords := {}
  conditions : ConditionMarks := {}
  signals : Signals := {}
  instanceMarks : List String := ["Symbol IDB", "Symbolic IDB", "Symbool IDB", "Symbolik IDB"]
  commentMark : String := "//"
  deriving Repr, DecidableEq

namespace StepWords

/-- The upper-case words that occur in both lists, each once, in order. -/
def overlap (words : StepWords) : List String :=
  let rests := words.rest.map Text.upper
  let shared := (words.step.map Text.upper).filter rests.contains
  shared.eraseDups.mergeSort fun a b => !decide (b.toList < a.toList)

/-- Step and rest words are not empty and do not overlap in any letter case. -/
def check (words : StepWords) : Checked StepWords :=
  if words.step.isEmpty || words.rest.isEmpty then
    .fail (.rejected "step and rest keyword lists must not be empty")
  else if words.overlap.isEmpty then .valid words
  else .fail (.rejected s!"keywords used for both step and rest: {Text.quotedList words.overlap}")

/-- Reads the words of steps. -/
def ofJson : Json → Checked StepWords := record fun fields =>
  (StepWords.mk
    <$> optional "step" texts ({} : StepWords).step fields
    <*> optional "rest" texts ({} : StepWords).rest fields
    <*> optional "end" texts ({} : StepWords).ending fields).andThen check

/-- Writes the words of steps. -/
def toJson (words : StepWords) : Json :=
  .obj [("step", .strings words.step), ("rest", .strings words.rest), ("end", .strings words.ending)]

end StepWords

namespace TableWords

/-- Reads the words of tables. -/
def ofJson : Json → Checked TableWords := record fun fields =>
  TableWords.mk
    <$> optional "timer" texts ({} : TableWords).timer fields
    <*> optional "marker" texts ({} : TableWords).marker fields
    <*> optional "fault" texts ({} : TableWords).fault fields

/-- Writes the words of tables. -/
def toJson (words : TableWords) : Json :=
  .obj [("timer", .strings words.timer), ("marker", .strings words.marker),
    ("fault", .strings words.fault)]

end TableWords

namespace ConditionMarks

/-- Reads the marks of conditions. -/
def ofJson : Json → Checked ConditionMarks := record fun fields =>
  ConditionMarks.mk
    <$> optional "and_prefix" text ({} : ConditionMarks).andMark fields
    <*> optional "or_prefix" text ({} : ConditionMarks).orMark fields
    <*> optional "negation" texts ({} : ConditionMarks).negation fields
    <*> optional "transition_keyword" text ({} : ConditionMarks).transition fields
    <*> optional "timer_units" texts ({} : ConditionMarks).timerUnits fields

/-- Writes the marks of conditions. -/
def toJson (marks : ConditionMarks) : Json :=
  .obj [("and_prefix", .str marks.andMark), ("or_prefix", .str marks.orMark),
    ("negation", .strings marks.negation), ("transition_keyword", .str marks.transition),
    ("timer_units", .strings marks.timerUnits)]

end ConditionMarks

namespace Signals

/-- Reads which signals count. -/
def ofJson : Json → Checked Signals := record fun fields =>
  Signals.mk
    <$> optional "negation" truth true fields
    <*> optional "timer" truth true fields
    <*> optional "comparison" truth true fields
    <*> optional "cross_reference" truth true fields
    <*> optional "min_signals" positive 1 fields

/-- Writes which signals count. -/
def toJson (signals : Signals) : Json :=
  .obj [("negation", .bool signals.negation), ("timer", .bool signals.timer),
    ("comparison", .bool signals.comparison), ("cross_reference", .bool signals.crossReference),
    ("min_signals", .nat signals.least)]

end Signals

namespace Dialect

/-- Reads a dialect. -/
def ofJson : Json → Checked Dialect := record fun fields =>
  Dialect.mk
    <$> optional "step_keywords" StepWords.ofJson {} fields
    <*> optional "variables" TableWords.ofJson {} fields
    <*> optional "conditions" ConditionMarks.ofJson {} fields
    <*> optional "heuristics" Signals.ofJson {} fields
    <*> optional "symbolic_idb_prefixes" texts ({} : Dialect).instanceMarks fields
    <*> optional "comment_prefix" text ({} : Dialect).commentMark fields

/-- Writes a dialect. -/
def toJson (dialect : Dialect) : Json :=
  .obj [("step_keywords", dialect.stepWords.toJson), ("variables", dialect.tables.toJson),
    ("conditions", dialect.conditions.toJson), ("heuristics", dialect.signals.toJson),
    ("symbolic_idb_prefixes", .strings dialect.instanceMarks),
    ("comment_prefix", .str dialect.commentMark)]

/-- The words that declare a step, rest words first. -/
def declarationWords (dialect : Dialect) : List String :=
  dialect.stepWords.rest ++ dialect.stepWords.step

/-- Whether a word declares the rest step, in any letter case. -/
def isRestWord (dialect : Dialect) (word : String) : Bool :=
  (dialect.stepWords.rest.map Text.upper).contains (Text.upper word)

/-- Whether the content of a line is a comment. An empty mark makes no comments. -/
def isComment (dialect : Dialect) (content : List Char) : Bool :=
  !dialect.commentMark.isEmpty && dialect.commentMark.toList.isPrefixOf content

end Dialect

end StepFlow
