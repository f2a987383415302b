import StepFlow.Reading.ConditionLine
import StepFlow.Reading.State

/-! # The rules of the line classes

The rule of a class either accepts a line and says what the state is after it, or leaves the line to
the next class. A rule fails only on a number without value.
-/

namespace StepFlow

open Text

namespace LineRule

/-- The result of a rule: a failure, no acceptance, or the state after the line. -/
abbrev Verdict := Except ReadFault (Option ReadState)

/-- A comment mark starts the line. -/
def comment (dialect : Dialect) (line : Line) (state : ReadState) : Verdict :=
  if dialect.isComment line.content then
    let note := trim (line.content.drop dialect.commentMark.length)
    .ok (some { state with comments := state.comments ++ [String.ofList note] })
  else .ok none

/-- A name with a block: the name, the type, the number. -/
def headerPattern : Pattern :=
  .concat [.start, .group 1 .leading, .someBlanks,
    .group 2 (.either (.literal .full "FB") (.literal .full "FC")), .group 3 .numeral, .finish]

/-- A line that starts with a keyword, which is no name. -/
def keywordLine (dialect : Dialect) : Pattern :=
  .concat [.start, .maybe (.seq (.mark '+') .blanks),
    .keyword (dialect.declarationWords ++ dialect.stepWords.ending ++ [dialect.conditions.transition]),
    .wordEdge]

/-- The block that letters and a number name. -/
def blockOf (letters number : List Char) : Except ReadFault BlockTag := do
  let number ← ReadFault.ofNumeral number
  match BlockType.ofLetters? (upper (String.ofList letters)) with
  | some type => return ⟨type, number⟩
  | none => throw (.invalid .block [⟨[.field "block_type"], .unknownLiteral⟩])

/-- Whether a line without block can be the name of a program. -/
def isBareName (dialect : Dialect) (content : List Char) : Bool :=
  !(content.contains ':' || content.contains '=' ||
    dialect.conditions.andMark.toList.isPrefixOf content ||
    dialect.conditions.orMark.toList.isPrefixOf content || (keywordLine dialect).startsIn content)

/-- The first content of a text, unindented, is the program's name, with its block or alone. -/
def header (dialect : Dialect) (line : Line) (state : ReadState) : Verdict :=
  if state.hasContent || line.isIndented || !state.name.isEmpty then .ok none
  else
    match headerPattern.matchStart? line.content with
    | some found => do
      let block ← blockOf (found.kept 2) (found.kept 3)
      return some { state with name := String.ofList (trim (found.kept 1)), block := some block }
    | none =>
      if isBareName dialect line.content then .ok (some { state with name := line.text }) else .ok none

/-- A mark of the instance name, a colon, the name. -/
def instancePattern (dialect : Dialect) : Pattern :=
  .concat [.start, .keyword dialect.instanceMarks, .blanks, .mark ':', .blanks, .group 1 .remainder,
    .finish]

/-- The instance is named. -/
def instanceName (dialect : Dialect) (line : Line) (state : ReadState) : Verdict :=
  match (instancePattern dialect).matchStart? line.content with
  | some found => .ok (some { state with instanceName := String.ofList (trim (found.kept 1)) })
  | none => .ok none

/-- A word that ends a step, alone on its line. -/
def endPattern (dialect : Dialect) : Pattern :=
  .concat [.start, .keyword dialect.stepWords.ending, .blanks, .maybe (.oneOf ":."), .blanks, .finish]

/-- A declaration: the keyword, the number if there is one, the description. -/
def declarationPattern (dialect : Dialect) : Pattern :=
  .concat [.start, .group 1 (.keyword dialect.declarationWords),
    .maybe (.seq .blanks (.group 2 .numeral)), .blanks, .mark ':', .blanks, .group 3 .remainder, .finish]

/-- Whether a line ends the open step. A dialect without ending words has no such lines. -/
def endsStep (dialect : Dialect) (content : List Char) : Bool :=
  dialect.stepWords.ending.any (!·.isEmpty) && (endPattern dialect).startsIn content

/-- The kind of a declared step: without number a step is the first. -/
def kindOf (dialect : Dialect) (keyword : String) (number : List Char) : Except ReadFault StepKind :=
  if dialect.isRestWord keyword then .ok .rest
  else if number.isEmpty then .ok (.sequential 1)
  else .sequential <$> ReadFault.ofNumeral number

/-- The open step ends, or a new one begins and takes the waiting transitions. -/
def declaration (dialect : Dialect) (line : Line) (state : ReadState) : Verdict :=
  if endsStep dialect line.content then .ok (some state.close)
  else
    match (declarationPattern dialect).matchStart? line.content with
    | none => .ok none
    | some found => do
      let keyword := String.ofList (upperChars (found.kept 1))
      let kind ← kindOf dialect keyword (found.kept 2)
      let step : Step :=
        { keyword, description := String.ofList (trim (found.kept 3)), transitions := state.pending
          line := some line.number, kind }
      return some { state.turnTo (.step step false) with pending := [] }

/-- A transition: the plus mark, the number. -/
def transitionPattern (dialect : Dialect) : Pattern :=
  .concat [.start, .maybe (.group 1 (.seq (.literal .full dialect.conditions.orMark) .blanks)),
    .literal .full dialect.conditions.transition, .someBlanks, .keyword dialect.stepWords.step, .blanks,
    .group 2 .numeral, .blanks, .finish]

/-- A transition waits for the next step. -/
def transition (dialect : Dialect) (line : Line) (state : ReadState) : Verdict :=
  match (transitionPattern dialect).matchStart? line.content with
  | none => .ok none
  | some found => do
    let origin ← ReadFault.ofNumeral (found.kept 2)
    let waiting : Transition :=
      { origin, isOr := !(found.kept 1).isEmpty, line := some line.number }
    return some { state.closeVariable with pending := state.pending ++ [waiting] }

/-- A single equals sign after a name, which may be missing: the name, the value. -/
def assignmentPattern : Pattern :=
  .concat [.start,
    .group 1 (.maybe (.seq
      (.one (.set ("-+=<>!()".toList.map .char ++ [.ofKind .blank false false]) .exact true))
      (.span (.noneOf "=<>!()") .anyNumber false))),
    .blanks, .mark '=', .ahead false (.mark '='), .blanks, .group 2 .remainder, .finish]

/-- In an open step a name is set; elsewhere a variable is declared. -/
def assignment (line : Line) (state : ReadState) : Verdict :=
  if line.isIndented then .ok none
  else
    match assignmentPattern.matchStart? line.content with
    | none => .ok none
    | some found =>
      let name := String.ofList (trim (found.kept 1))
      let value := String.ofList (trim (found.kept 2))
      let number : Option Int := some line.number
      if name.isEmpty then
        .ok (some (state.report
          { code := .emptyIdentifier, severity := .error, message := "assignment without a name"
            line := number, text := some line.text }))
      else
        match state.focus with
        | .step current leaving =>
          let set : Assignment := { target := name, value, line := number }
          let current := { current with assignments := current.assignments ++ [set] }
          .ok (some { state with focus := .step current leaving })
        | _ => .ok (some (state.turnTo (.variable { name, value, source := line.text, line := number })))

/-- Words that are no names. -/
def nameStopwords : List String := ["NIET", "NOT", "NICHT", "EN", "AND", "OF", "OR"]

/-- Whether a word can be a name: it starts with a letter, has three characters and no meaning. -/
def isNameWord (word : List Char) : Bool :=
  decide (2 < word.length) && word.head?.any isLetter &&
    !nameStopwords.contains (String.ofList (upperChars word))

/-- The first name in a text, or the whole text. -/
def firstName (text : List Char) : String :=
  String.ofList (((words text).find? isNameWord).getD text)

/-- Adds a name to a table, once. -/
def addName (name : String) (table : List String) : List String :=
  if table.contains name then table else table ++ [name]

/-- Adds the first name of a condition to those tables of a step whose words the condition has. -/
def recordNames (words : TableWords) (condition : Condition) (step : Step) : Step :=
  let text := condition.text.toList
  let loud := upperChars text
  let mentions (table : List String) := table.any fun word => occursIn (upperChars word.toList) loud
  let name := firstName text
  { step with
    timers :=
      if condition.timer.isSome || mentions words.timer then addName name step.timers else step.timers
    markers := if mentions words.marker then addName name step.markers else step.markers
    faults := if mentions words.fault then addName name step.faults else step.faults }

/-- Adds a condition to a step: rest steps and steps being left collect exit conditions. -/
def addCondition (leaving : Bool) (condition : Condition) (step : Step) : Step :=
  if step.isRest || leaving then { step with exit := addToGroups condition step.exit }
  else { step with entry := addToGroups condition step.entry }

/-- Puts a condition where it belongs: to the last waiting transition, to the open variable, or to the
open step. -/
def file (dialect : Dialect) (condition : Condition) (state : ReadState) : ReadState :=
  match state.pending.getLast? with
  | some last =>
    let last := { last with conditions := last.conditions ++ [condition] }
    { state with pending := state.pending.dropLast ++ [last] }
  | none =>
    match state.focus with
    | .nothing => state
    | .variable current =>
      { state with focus := .variable { current with conditions := current.conditions ++ [condition] } }
    | .step current leaving =>
      let current := recordNames dialect.tables condition (addCondition leaving condition current)
      { state with focus := .step current leaving }

/-- Whether something can take a condition. -/
def takesConditions (state : ReadState) : Bool :=
  match state.focus with
  | .nothing => !state.pending.isEmpty
  | _ => true

/-- An indented or marked line, or one that looks like a condition, where something can take it. -/
def condition (dialect : Dialect) (line : Line) (state : ReadState) : Verdict :=
  if !takesConditions state then .ok none
  else if !(line.isIndented || (ConditionLine.splitMark dialect line.content).isMarked ||
      ConditionLine.looksLikeCondition dialect line.content) then .ok none
  else do
    let found ← ConditionLine.extract dialect line.text (some line.number)
    let condition := found.condition
    let state := state.reportAll found.diagnostics
    let state :=
      { state with
        crossReferences := state.crossReferences ++ condition.crossReference.toList
        external := state.external + condition.external.toList.length }
    return some (file dialect condition state)

/-- Any line is kept in a warning. -/
def unrecognized (line : Line) (state : ReadState) : Verdict :=
  let state := { state with unrecognized := state.unrecognized + 1 }
  .ok (some (state.report
    { code := .unrecognizedLine, severity := .warning, message := s!"unrecognized line: {line.text}"
      line := some line.number, text := some (String.ofList line.raw) }))

end LineRule

/-- The rule of a class. -/
def LineClass.rule (dialect : Dialect) (line : Line) (state : ReadState) :
    LineClass → LineRule.Verdict
  | .comment => LineRule.comment dialect line state
  | .header => LineRule.header dialect line state
  | .instanceName => LineRule.instanceName dialect line state
  | .declaration => LineRule.declaration dialect line state
  | .transition => LineRule.transition dialect line state
  | .assignment => LineRule.assignment line state
  | .condition => LineRule.condition dialect line state
  | .unrecognized => LineRule.unrecognized line state
  | .bare => .error .noRule

end StepFlow
