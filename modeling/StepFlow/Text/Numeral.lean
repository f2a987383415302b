import StepFlow.Text.Class
import StepFlow.Text.Quoted

/-! # Reading decimal numbers

A numeral may use the decimal digits of any script, mixed. It has at most `maxDigits` digits, leading
zeros included. A digit-like character is no digit of a number.
-/

namespace StepFlow.Text

/-- The greatest number of digits of a numeral. -/
def maxDigits : Nat := 4300

/-- Why a text is no number. -/
inductive NumeralFault where
  /-- The numeral has more digits than `maxDigits`. -/
  | tooLong (digits : Nat)
  /-- Some character is no decimal digit. -/
  | notDecimal (text : String)
  deriving Repr, DecidableEq

/-- The wording of a numeral fault; a quoted text is cut after two hundred characters. -/
def NumeralFault.message : NumeralFault → String
  | .tooLong digits =>
    s!"Exceeds the limit ({maxDigits} digits) for integer string conversion: " ++
      s!"value has {digits} digits; use sys.set_int_max_str_digits() to increase the limit"
  | .notDecimal text =>
    "invalid literal for int() with base 10: " ++ String.ofList ((quoted text).toList.take 200)

/-- The number that digits spell after the value read so far; other characters count as zero. -/
def numeralValue (value : Nat) : List Char → Nat
  | [] => value
  | c :: rest => numeralValue (10 * value + (digitValue? c).getD 0) rest

/-- The number that a numeral spells. -/
def readNumeral (text : List Char) : Except NumeralFault Nat :=
  let digits := text.takeWhile isDecimal
  if digits.length > maxDigits then .error (.tooLong digits.length)
  else if text.isEmpty || digits.length < text.length then .error (.notDecimal (String.ofList text))
  else .ok (numeralValue 0 text)

/-- The number that a text spells, blanks around it left aside. -/
def readNumber? (text : List Char) : Option Nat :=
  let digits := text.filter (! isBlank ·)
  if digits.isEmpty || !digits.all isDecimal then none else some (numeralValue 0 digits)

end StepFlow.Text
