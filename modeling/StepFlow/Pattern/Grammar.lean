import StepFlow.Pattern.Keyword

/-! # Building blocks of line patterns

The parts from which the patterns of program lines are made. Single letters in these patterns stand
for themselves; keywords match in any letter case.
-/

namespace StepFlow

namespace Pattern

/-- Blanks, as many as there are, perhaps none. -/
def blanks : Pattern := .span .blank .anyNumber true

/-- At least one blank, as many as there are. -/
def someBlanks : Pattern := .span .blank .onceOrMore true

/-- A numeral, as long as possible. -/
def numeral : Pattern := .span .decimal .onceOrMore true

/-- The rest of the line, as long as possible. -/
def remainder : Pattern := .span (.any false) .anyNumber true

/-- At least one character of the line, as few as possible. -/
def leading : Pattern := .span (.any false) .onceOrMore false

/-- The start of the text. -/
def start : Pattern := .edge .textStart

/-- The end of the text, or before a line feed that ends it. -/
def finish : Pattern := .edge .lastLineEnd

/-- Between a word character and anything else. -/
def wordEdge : Pattern := .edge (.wordEdge false true)

/-- One given character. -/
def mark (c : Char) : Pattern := .one (.char c .exact)

/-- One of the given characters. -/
def oneOf (chars : String) : Pattern := .one (.oneOf chars)

/-- A part that may be left out, preferably there. -/
def maybe (body : Pattern) : Pattern := times body .optional true

end Pattern

end StepFlow
