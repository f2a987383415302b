import StepFlow.Text.Trim

/-! # Lines and their classes

Every line of a program that is not blank belongs to one class: the first, in a given order, whose rule
accepts it.
-/

namespace StepFlow

open Text

/-- A line of a program that is not blank. -/
structure Line where
  number : Nat
  /-- The line without blanks at its end. -/
  raw : List Char
  /-- The line without blanks at both ends. -/
  content : List Char
  deriving Repr, DecidableEq

/-- What a line can be. -/
inductive LineClass where
  | comment
  /-- The name of the program, perhaps with its block. -/
  | header
  /-- The name of the instance. -/
  | instanceName
  /-- A step is declared, or the open one ended. -/
  | declaration
  | transition
  /-- A variable is declared, or the open step sets one. -/
  | assignment
  | condition
  | unrecognized
  /-- A class without rule. -/
  | bare
  deriving Repr, DecidableEq

/-- A line that was given a class, and the label of the step that it declares. -/
structure ClassifiedLine where
  line : Nat
  lineClass : LineClass
  declared : Option String := none
  deriving Repr, DecidableEq

namespace Line

/-- Whether the line starts with a blank. -/
def isIndented (line : Line) : Bool := startsBlank line.raw

/-- The content as a text. -/
def text (line : Line) : String := String.ofList line.content

/-- A line of a text, unless it is blank. -/
def ofChars? (number : Nat) (chars : List Char) : Option Line :=
  let content := trim chars
  if content.isEmpty then none else some ⟨number, trimEnd chars, content⟩

end Line

namespace LineClass

/-- The word for a class. -/
def word : LineClass → String
  | .comment => "comment"
  | .header => "header"
  | .instanceName => "symbolic_idb"
  | .declaration => "declaration"
  | .transition => "transition"
  | .assignment => "variable"
  | .condition => "condition"
  | .unrecognized => "unrecognized"
  | .bare => "line"

/-- The classes in the order in which their rules are tried; the last one accepts every line. -/
def standard : List LineClass :=
  [comment, header, instanceName, declaration, transition, assignment, condition, unrecognized]

/-- The class that a word names. -/
def ofWord? (word : String) : Option LineClass := (standard ++ [bare]).find? (·.word == word)

/-- Whether lines of a class are content, so that no header can follow them. -/
def isContent : LineClass → Bool
  | .comment => false
  | _ => true

end LineClass

end StepFlow
