import StepFlow.Text.LetterRange
import StepFlow.Text.NumeralRange
import StepFlow.Text.PrintableRange

/-! # Character classes

The classes that the line grammar and the user's own patterns speak of: blanks, letters, decimal
digits, digit-like characters and word characters. They hold for all scripts. A blank is any
character that separates words, line breaks included; the zero-width space is none.
-/

namespace StepFlow.Text

/-- Whether a code point lies in one of the increasing ranges. -/
def inRanges : List (Nat × Nat) → Nat → Bool
  | [], _ => false
  | (first, last) :: rest, code =>
    if code < first then false else if code ≤ last then true else inRanges rest code

/-- First and last code point of each run of blanks. -/
def blankRanges : List (Nat × Nat) :=
  [(9, 13), (28, 32), (133, 133), (160, 160), (5760, 5760), (8192, 8202), (8232, 8233),
   (8239, 8239), (8287, 8287), (12288, 12288)]

/-- Blanks separate words: tabs, line breaks and spaces of every width. -/
def isBlank (c : Char) : Bool := inRanges blankRanges c.toNat

/-- Letters of every script. -/
def isLetter (c : Char) : Bool := inRanges letterRanges c.toNat

/-- The value of a code point in the runs of ten that start at the given zeros. -/
def digitValueFrom : List Nat → Nat → Option Nat
  | [], _ => none
  | start :: rest, code =>
    if code < start then none
    else if code < start + 10 then some (code - start)
    else digitValueFrom rest code

/-- The value of a decimal digit of any script. -/
def digitValue? (c : Char) : Option Nat := digitValueFrom decimalZeros c.toNat

/-- Decimal digits of every script. -/
def isDecimal (c : Char) : Bool := (digitValue? c).isSome

/-- Decimal digits and the characters that merely look like one, such as superscripts. -/
def isDigitLike (c : Char) : Bool := isDecimal c || inRanges digitLikeRanges c.toNat

/-- Word characters: letters, numerals of every kind and the underscore. -/
def isWordChar (c : Char) : Bool :=
  c == '_' || isLetter c || isDecimal c || inRanges numeralRanges c.toNat

/-- Characters that stand for themselves in quoted text. -/
def isPrintable (c : Char) : Bool := inRanges printableRanges c.toNat

end StepFlow.Text
