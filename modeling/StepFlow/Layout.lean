import StepFlow.Dialect
import StepFlow.Pattern.Grammar
import StepFlow.SourceKind
import StepFlow.Text.Trim

/-! # The canonical layout of a program text

Before a program is read, its text is brought to a layout in which every declaration, every
transition, every assignment and every condition has a line of its own, keywords are in upper case
and spacing is uniform. The passes, in order: line breaks and typographic characters; blanks within
lines; list markers of word processors; declarations embedded in other lines; the form of each line.
-/

namespace StepFlow

open Text

namespace Layout

/-- The plain form of a typographic character. -/
def plainChar (c : Char) : List Char :=
  match c with
  | '“' | '”' | '„' => ['"']
  | '‘' | '’' | '‚' => ['\'']
  | '–' | '—' => ['-']
  | '…' => ['.', '.', '.']
  | c => if c = Char.ofNat 0xA0 then [' '] else [c]

/-- A character of a word processor's text: page breaks are dropped, vertical tabs end lines. -/
def documentChar (c : Char) : List Char :=
  if c = '\x0c' then [] else if c = '\x0b' then ['\n'] else [c]

/-- The text with plain characters and line feeds only. -/
def plainText (source : SourceKind) (text : List Char) : List Char :=
  let plain := (unifyBreaks text).flatMap plainChar
  match source with
  | .documentImport => plain.flatMap documentChar
  | .directEntry => plain

/-- Spaces and tabs, which are collapsed within lines. -/
def isGap (c : Char) : Bool := c == ' ' || c == '\t'

/-- The text with each run of gaps as one space; `inGap` tells that a run has begun before. -/
def squeezeFrom (inGap : Bool) : List Char → List Char
  | [] => []
  | c :: rest =>
    if isGap c then if inGap then squeezeFrom true rest else ' ' :: squeezeFrom true rest
    else c :: squeezeFrom false rest

/-- The text with each run of gaps as one space. -/
def squeeze (text : List Char) : List Char := squeezeFrom false text

/-- The mark of an indented line. -/
def indentMark : List Char := [' ', ' ']

/-- A line trimmed and squeezed, with one mark if it was indented. -/
def cleanLine (line : List Char) : List Char :=
  let content := trim line
  if content.isEmpty then []
  else (if startsBlank line then indentMark else []) ++ squeeze content

/-- The mark of an indented line, or nothing, and the rest of the line. -/
def splitIndent (line : List Char) : List Char × List Char :=
  match stripStart? indentMark line with
  | some body => (indentMark, body)
  | none => ([], line)

/-- A bullet of a list, with the blanks after it. -/
def bullet : Pattern := .concat [.start, .oneOf "•·▪▫", .blanks]

/-- The number of a list item, with the blanks after it. -/
def itemNumber : Pattern := .concat [.start, .numeral, .oneOf ".)", .someBlanks]

/-- A line of a word processor's list becomes a marked line. -/
def unmarkItem (line : List Char) : List Char :=
  let (_, body) := splitIndent line
  match bullet.matchStart? body with
  | some found => '-' :: ' ' :: found.rest
  | none =>
    match itemNumber.matchStart? body with
    | some found => '-' :: ' ' :: found.rest
    | none => line

/-- A numbered declaration after other text: that text, the keyword, the number, what follows. -/
def embeddedStep (dialect : Dialect) : Pattern :=
  .concat [.start, .group 1 .leading, .someBlanks, .group 2 (.keyword dialect.stepWords.step), .blanks,
    .group 3 .numeral, .blanks, .oneOf ":.", .blanks, .group 4 .remainder, .finish]

/-- A rest declaration after other text: that text, the keyword, what follows. -/
def embeddedRest (dialect : Dialect) : Pattern :=
  .concat [.start, .group 1 .leading, .someBlanks, .group 2 (.keyword dialect.stepWords.rest), .blanks,
    .mark ':', .blanks, .group 3 .remainder, .finish]

/-- A line that starts with a word of a declaration. -/
def declarationStart (dialect : Dialect) : Pattern :=
  .concat [.start, .keyword dialect.declarationWords, .wordEdge]

/-- A line that starts with a whole declaration head. -/
def declarationHead (dialect : Dialect) : Pattern :=
  .concat [.start, .keyword dialect.declarationWords, .blanks,
    .span .decimal .anyNumber true, .blanks, .mark ':']

/-- A line that names the step from which the next one continues: plus sign, keyword, number. -/
def transition (dialect : Dialect) : Pattern :=
  .concat [.start, .maybe (.group 1 (.seq (.mark '+') .blanks)),
    .literal .full dialect.conditions.transition, .someBlanks,
    .group 2 (.keyword dialect.stepWords.step), .someBlanks, .group 3 .numeral, .blanks, .finish]

/-- The head of a rest declaration: the keyword with a colon, a point, a parenthesis or nothing. -/
def restHead (dialect : Dialect) : Pattern :=
  .concat [.start, .group 1 (.keyword dialect.stepWords.rest), .blanks,
    .anyOf [.seq (.oneOf ":.") .blanks, .ahead true (.mark '('), .finish]]

/-- The head of a numbered declaration: keyword and number, with loose punctuation. -/
def numberedHead (dialect : Dialect) : Pattern :=
  .concat [.start, .group 1 (.keyword dialect.stepWords.step), .blanks,
    .span (.set [.char '-', .char '.', .char '(', .ofKind .blank false false] .exact false)
      .anyNumber true,
    .group 2 .numeral, .blanks, .span (.oneOf ":.)") .anyNumber true, .blanks]

/-- The head of a step declaration that lacks its number. -/
def unnumberedHead (dialect : Dialect) : Pattern :=
  .concat [.start, .group 1 (.keyword dialect.stepWords.step), .blanks, .oneOf ":.",
    .ahead false (.seq .blanks (.one .decimal)), .blanks]

/-- A colon with the blanks around it, after a word or after a digit that does not belong to a value
such as a time of day. -/
def colon : Pattern :=
  .either
    (.concat [.group 1 (.one (.set [.ofKind .word false true, .ofKind .decimal false false] .exact true)),
      .blanks, .mark ':', .blanks])
    (.concat [.group 2 (.one .decimal), .blanks, .mark ':',
      .ahead false (.seq .blanks (.one .decimal)), .blanks])

/-- A single equals sign with the blanks around it. -/
def equalsSign : Pattern :=
  .concat [.behind false 1 (.oneOf "=<>!"), .blanks, .mark '=', .ahead false (.mark '='), .blanks]

/-- A colon within parentheses. -/
def colonInParens : Pattern :=
  .concat [.mark '(', .span (.noneOf ")") .anyNumber true, .mark ':',
    .span (.noneOf ")") .anyNumber true, .mark ')']

/-- The mark of a condition, with the blanks after it. -/
def conditionMark (c : Char) : Pattern := .concat [.start, .mark c, .blanks]

/-- Whether a keyword after the given text belongs to a reference and declares nothing. -/
def isReferenceContext (before : List Char) : Bool :=
  let before := trim before
  before.count '(' > before.count ')' || before.getLast? == some '+' || before == ['-'] ||
    before.isEmpty

/-- A rest declaration embedded in a text: what stands before it, and the declaration. -/
def embeddedRest? (dialect : Dialect) (body : List Char) : Option (List Char × List Char) :=
  match (embeddedRest dialect).matchStart? body with
  | some found =>
    if isReferenceContext (found.kept 1) || colonInParens.occursIn (found.kept 1) then none
    else some (trim (found.kept 1), upperChars (found.kept 2) ++ [':', ' '] ++ found.kept 3)
  | none => none

/-- A declaration embedded in a text: what stands before it, and the declaration. Numbered declarations
come first. -/
def embedded? (dialect : Dialect) (body : List Char) : Option (List Char × List Char) :=
  match (embeddedStep dialect).matchStart? body with
  | some found =>
    if isReferenceContext (found.kept 1) then embeddedRest? dialect body
    else
      some (trim (found.kept 1),
        upperChars (found.kept 2) ++ [' '] ++ found.kept 3 ++ [':', ' '] ++ found.kept 4)
  | none => embeddedRest? dialect body

/-- The declarations embedded in a text, each as a piece of its own; `fuel` bounds their number. -/
def splitBody (dialect : Dialect) : Nat → List Char → List (List Char)
  | 0, body => [body]
  | fuel + 1, body =>
    if (declarationStart dialect).startsIn body || (transition dialect).startsIn body then [body]
    else
      match embedded? dialect body with
      | some (before, declaration) => splitBody dialect fuel before ++ [declaration]
      | none => [body]

/-- The lines that a line becomes when its embedded declarations are split off. -/
def splitLine (dialect : Dialect) (line : List Char) : List (List Char) :=
  let (indent, body) := splitIndent line
  if body.isEmpty || dialect.isComment body then [line]
  else
    match splitBody dialect body.length body with
    | [] => [indent]
    | first :: rest => (indent ++ first) :: rest

/-- The canonical form of a declaration, if the text is one. -/
def declarationForm? (dialect : Dialect) (body : List Char) : Option (List Char) :=
  match (restHead dialect).matchStart? body with
  | some found => some (upperChars (found.kept 1) ++ [':', ' '] ++ found.rest)
  | none =>
    match (numberedHead dialect).matchStart? body with
    | some found =>
      some (upperChars (found.kept 1) ++ [' '] ++ found.kept 2 ++ [':', ' '] ++ found.rest)
    | none =>
      (unnumberedHead dialect).matchStart? body |>.map fun found =>
        upperChars (found.kept 1) ++ [' ', '1', ':', ' '] ++ found.rest

/-- The canonical form of a transition, if the text is one. -/
def transitionForm? (dialect : Dialect) (body : List Char) : Option (List Char) :=
  (transition dialect).matchStart? body |>.map fun found =>
    (if (found.kept? 1).isSome then ['+', ' '] else []) ++
      upperChars dialect.conditions.transition.toList ++ [' '] ++ upperChars (found.kept 2) ++ [' '] ++
      found.kept 3

/-- Colons and equals signs with uniform spacing. -/
def spaceSigns (body : List Char) : List Char :=
  let body := colon.replace (fun found =>
    (if (found.kept 1).isEmpty then found.kept 2 else found.kept 1) ++ [':', ' ']) body
  equalsSign.replace (fun _ => [' ', '=', ' ']) body

/-- A marked condition loses its indentation and has one space after its mark. -/
def spaceMark (indent body : List Char) : List Char × List Char :=
  match (conditionMark '-').matchStart? body with
  | some found => ([], '-' :: ' ' :: found.rest)
  | none =>
    match (conditionMark '+').matchStart? body with
    | some found => ([], '+' :: ' ' :: found.rest)
    | none => (indent, body)

/-- The canonical form of a line. An indented line is a condition unless it has a whole declaration
head. -/
def lineForm (dialect : Dialect) (line : List Char) : List Char :=
  let (indent, body) := splitIndent line
  if line.isEmpty then []
  else if dialect.isComment body then line
  else
    match transitionForm? dialect body with
    | some form => form
    | none =>
      let declared? :=
        if indent.isEmpty || (declarationHead dialect).startsIn body then declarationForm? dialect body
        else none
      let (indent, body) := match declared? with
        | some form => ([], form)
        | none => (indent, body)
      let (indent, body) := spaceMark indent (spaceSigns body)
      let body := trim (squeeze body)
      if body.isEmpty then [] else indent ++ body

/-- The lines of a text in canonical layout, empty ones at its start and end included. -/
def canonicalLines (dialect : Dialect) (source : SourceKind) (text : List Char) : List (List Char) :=
  let cleaned := (lines (plainText source text)).map cleanLine
  let unmarked := match source with
    | .documentImport => cleaned.map unmarkItem
    | .directEntry => cleaned
  (unmarked.flatMap (splitLine dialect)).map (lineForm dialect)

end Layout

/-- The text in canonical layout. -/
def normalize (dialect : Dialect) (source : SourceKind) (text : String) : String :=
  String.ofList (trimLineFeeds (unlines (Layout.canonicalLines dialect source text.toList)))

end StepFlow
