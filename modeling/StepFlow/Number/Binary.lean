/-! # Binary floating point, exactly

Scores and averages are computed in binary floating point with 53 bits. Here such numbers are exact:
a mantissa times a power of two. Every operation rounds its exact result to the nearest number with
53 bits, a tie going to the even mantissa, so the result is a matter of integers alone.
-/

namespace StepFlow

/-- The number `mantissa * 2 ^ exponent`, not negative. -/
structure Binary where
  mantissa : Nat
  exponent : Int
  deriving Repr, DecidableEq

/-- A quotient rounded to the nearest integer, a tie going to the even one. -/
def roundQuotient (num den : Nat) : Nat :=
  let whole := num / den
  let twice := 2 * (num % den)
  if twice < den then whole
  else if den < twice then whole + 1
  else whole + whole % 2

namespace Binary

/-- A number scaled by a power of two, as numerator and denominator. -/
def scale (num den : Nat) (exponent : Int) : Nat × Nat :=
  if exponent < 0 then (num, den * Nat.pow 2 exponent.natAbs) else (num * Nat.pow 2 exponent.natAbs, den)

/-- The least exponent of a number. -/
def leastExponent : Int := -1074

/-- The number nearest to a quotient. -/
def ofQuotient (num den : Nat) : Binary :=
  if num = 0 then ⟨0, 0⟩
  else
    let guess : Int := (num.log2 : Int) - den.log2 - 53
    let (p, q) := scale num den (-guess)
    let exponent := max (if p / q < Nat.pow 2 53 then guess else guess + 1) leastExponent
    let (p, q) := scale num den (-exponent)
    let mantissa := roundQuotient p q
    if mantissa = Nat.pow 2 53 then ⟨Nat.pow 2 52, exponent + 1⟩ else ⟨mantissa, exponent⟩

/-- Numerator and denominator of a number. -/
def quotient (x : Binary) : Nat × Nat := scale x.mantissa 1 x.exponent

/-- The number nearest to a decimal `digits * 10 ^ exponent`. -/
def ofDecimal (digits : Nat) (exponent : Int) : Binary :=
  if exponent < 0 then ofQuotient digits (Nat.pow 10 exponent.natAbs)
  else ofQuotient (digits * Nat.pow 10 exponent.natAbs) 1

/-- An integer. -/
def ofNat (n : Nat) : Binary := ofQuotient n 1

/-- The rounded sum. -/
def add (x y : Binary) : Binary :=
  let (a, b) := x.quotient
  let (c, d) := y.quotient
  ofQuotient (a * d + c * b) (b * d)

/-- The rounded product. -/
def mul (x y : Binary) : Binary :=
  let (a, b) := x.quotient
  let (c, d) := y.quotient
  ofQuotient (a * c) (b * d)

/-- The nearest integer, a tie going to the even one. -/
def round (x : Binary) : Nat :=
  let (num, den) := x.quotient
  roundQuotient num den

/-- The integer that the number is, if it is one. -/
def toNat? (x : Binary) : Option Nat :=
  let (num, den) := x.quotient
  if num % den = 0 then some (num / den) else none

/-- The decimal exponent of the leading digit of a quotient that is not zero. -/
def leadingExponent (num den : Nat) : Int :=
  if den ≤ num then ((Nat.toDigits 10 (num / den)).length : Int) - 1
  else
    let missing := (Nat.toDigits 10 (den / num)).length
    if den ≤ num * Nat.pow 10 (missing - 1) then -((missing : Int) - 1) else -(missing : Int)

/-- Of the two neighbours of a quotient on the grid of multiples of `10 ^ exponent`, the nearer one
that reads back as the given number. -/
def gridNeighbour? (x : Binary) (exponent : Int) : Option Nat :=
  let (num, den) := x.quotient
  let (p, q) :=
    if exponent < 0 then (num * Nat.pow 10 exponent.natAbs, den) else (num, den * Nat.pow 10 exponent.natAbs)
  let low := p / q
  let near := roundQuotient p q
  let far := if near = low then low + 1 else low
  [near, far].find? fun digits => ofDecimal digits exponent == x

/-- The fewest decimal digits that read back as the number: the least grid with a hit among those of
`count` and more digits, `fuel` grids at most. -/
def shortestFrom (x : Binary) (lead : Int) : Nat → Nat → Nat × Int
  | 0, _ => (0, 0)
  | fuel + 1, count =>
    let exponent := lead - count + 1
    match x.gridNeighbour? exponent with
    | some digits => (digits, exponent)
    | none => shortestFrom x lead fuel (count + 1)

/-- The fewest digits that read back as the number, with the exponent of the last one. -/
def shortest (x : Binary) : Nat × Int :=
  if x.mantissa = 0 then (0, 0)
  else
    let (num, den) := x.quotient
    shortestFrom x (leadingExponent num den) 18 1

/-- A digit string without zeros at its end, and how many were dropped. -/
def dropZeros (digits : List Char) : List Char × Nat :=
  let kept := (digits.reverse.dropWhile (· == '0')).reverse
  (kept, digits.length - kept.length)

/-- The number in decimal: positional from `10 ^ -4` up to below `10 ^ 16`, with at least one place,
and with an exponent of at least two digits otherwise. -/
def text (x : Binary) : String :=
  let (value, exponent) := x.shortest
  if value = 0 then "0.0"
  else
    let (digits, dropped) := dropZeros (Nat.toDigits 10 value)
    let last := exponent + dropped
    let lead := last + digits.length - 1
    if -4 ≤ lead ∧ lead < 16 then
      if 0 ≤ last then String.ofList (digits ++ List.replicate last.toNat '0' ++ ['.', '0'])
      else if 0 ≤ lead then
        let whole := (lead + 1).toNat
        String.ofList (digits.take whole ++ ['.'] ++ digits.drop whole)
      else String.ofList ("0.".toList ++ List.replicate (-lead - 1).toNat '0' ++ digits)
    else
      let power := Nat.toDigits 10 lead.natAbs
      let power := if power.length < 2 then '0' :: power else power
      let head := match digits with
        | [] => []
        | [d] => [d]
        | d :: rest => d :: '.' :: rest
      String.ofList (head ++ ['e', if lead < 0 then '-' else '+'] ++ power)

/-- The number with two decimal places, a tie going to the even digit, without a zero at the end
beyond the first place. -/
def twoPlaces (x : Binary) : String :=
  let (num, den) := x.quotient
  let hundredths := roundQuotient (num * 100) den
  let tenth := hundredths / 10 % 10
  let last := hundredths % 10
  let places := if last = 0 then s!"{tenth}" else s!"{tenth}{last}"
  s!"{hundredths / 100}.{places}"

end Binary

end StepFlow
