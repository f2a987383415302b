import StepFlow.Json.Basic
import StepFlow.Text.Trim

/-! # Reading JSON

The strict grammar: no comments, no commas at the end, no control characters in strings, no lone
surrogates, and nothing after the value but blanks. Nesting is limited.
-/

namespace StepFlow

namespace Json

/-- The blanks of JSON. -/
def isSpace (c : Char) : Bool := c == ' ' || c == '\n' || c == '\t' || c == '\r'

/-- The text after blanks. -/
def skipSpace (text : List Char) : List Char := text.dropWhile isSpace

/-- The value of four hexadecimal digits. -/
def hexValue? (digits : List Char) : Option Nat :=
  digits.foldl (fun value c => value.bind fun n =>
    if '0' ≤ c ∧ c ≤ '9' then some (n * 16 + (c.toNat - 48))
    else if 'a' ≤ c ∧ c ≤ 'f' then some (n * 16 + (c.toNat - 87))
    else if 'A' ≤ c ∧ c ≤ 'F' then some (n * 16 + (c.toNat - 55))
    else none) (some 0)

/-- The character that a one-letter escape stands for. -/
def escaped? : Char → Option Char
  | '"' => some '"'
  | '\\' => some '\\'
  | '/' => some '/'
  | 'b' => some '\x08'
  | 'f' => some '\x0c'
  | 'n' => some '\n'
  | 'r' => some '\r'
  | 't' => some '\t'
  | _ => none

/-- The characters of a string whose opening quote has been taken, and the text after it. `seen` has
the last character first. -/
def readString? (seen : List Char) : List Char → Option (List Char × List Char)
  | [] => none
  | '"' :: rest => some (seen.reverse, rest)
  | '\\' :: 'u' :: a :: b :: c :: d :: rest =>
    match hexValue? [a, b, c, d] with
    | none => none
    | some high =>
      if 0xD800 ≤ high ∧ high < 0xDC00 then
        match rest with
        | '\\' :: 'u' :: e :: f :: g :: h :: rest =>
          match hexValue? [e, f, g, h] with
          | none => none
          | some low =>
            if 0xDC00 ≤ low ∧ low < 0xE000 then
              let code := 0x10000 + (high - 0xD800) * 0x400 + (low - 0xDC00)
              readString? (Char.ofNat code :: seen) rest
            else none
        | _ => none
      else if 0xDC00 ≤ high ∧ high < 0xE000 then none
      else readString? (Char.ofNat high :: seen) rest
  | '\\' :: c :: rest =>
    match escaped? c with
    | none => none
    | some d => readString? (d :: seen) rest
  | c :: rest => if c.toNat < 32 then none else readString? (c :: seen) rest

/-- The value of ASCII digits. -/
def digitsValue (digits : List Char) : Nat :=
  digits.foldl (fun value c => value * 10 + (c.toNat - 48)) 0

/-- The exponent of a number, if one stands there, and the text after it. -/
def readExponent? (text : List Char) : Option (Option Int × List Char) :=
  match text with
  | c :: rest =>
    if c = 'e' ∨ c = 'E' then
      let (negative, rest) := match rest with
        | '-' :: rest => (true, rest)
        | '+' :: rest => (false, rest)
        | rest => (false, rest)
      let digits := rest.takeWhile Char.isDigit
      if digits.isEmpty then none
      else
        let value : Int := digitsValue digits
        some (some (if negative then -value else value), rest.dropWhile Char.isDigit)
    else some (none, text)
  | [] => some (none, [])

/-- A number without its sign, and the text after it. -/
def readNumber? (negative : Bool) (text : List Char) : Option (Json × List Char) :=
  let whole := text.takeWhile Char.isDigit
  let rest := text.dropWhile Char.isDigit
  if whole.isEmpty || (whole.head? == some '0' && whole.length > 1) then none
  else
    let fraction? : Option (Option (List Char) × List Char) := match rest with
      | '.' :: rest =>
        let digits := rest.takeWhile Char.isDigit
        if digits.isEmpty then none else some (some digits, rest.dropWhile Char.isDigit)
      | rest => some (none, rest)
    match fraction? with
    | none => none
    | some (fraction, rest) =>
      match readExponent? rest with
      | none => none
      | some (exponent, rest) =>
        match fraction, exponent with
        | none, none =>
          let value : Int := digitsValue whole
          some (.int (if negative then -value else value), rest)
        | fraction, exponent =>
          let places := fraction.getD []
          let value := Binary.ofDecimal (digitsValue (whole ++ places))
            (exponent.getD 0 - places.length)
          some (.real negative value, rest)

mutual

/-- A value nested at most `depth` deep, and the text after it. -/
def readValue? : Nat → Nat → List Char → Option (Json × List Char)
  | 0, _, _ => none
  | fuel + 1, depth, text =>
    match text with
    | 'n' :: 'u' :: 'l' :: 'l' :: rest => some (.null, rest)
    | 't' :: 'r' :: 'u' :: 'e' :: rest => some (.bool true, rest)
    | 'f' :: 'a' :: 'l' :: 's' :: 'e' :: rest => some (.bool false, rest)
    | '"' :: rest => (readString? [] rest).map fun (chars, rest) => (.str (String.ofList chars), rest)
    | '[' :: rest =>
      match depth, skipSpace rest with
      | 0, _ => none
      | _ + 1, ']' :: rest => some (.arr [], rest)
      | depth + 1, rest => readItems? fuel depth [] rest
    | c :: rest =>
      if c = Char.ofNat 0x7b then
        match depth, skipSpace rest with
        | 0, _ => none
        | depth + 1, d :: rest =>
          if d = Char.ofNat 0x7d then some (.obj [], rest)
          else readFields? fuel depth [] (d :: rest)
        | _ + 1, [] => none
      else if c = '-' then readNumber? true rest
      else readNumber? false (c :: rest)
    | [] => none

/-- The values of a list after the given ones, last one first, and the text after the list. -/
def readItems? : Nat → Nat → List Json → List Char → Option (Json × List Char)
  | 0, _, _, _ => none
  | fuel + 1, depth, seen, text =>
    match readValue? fuel depth text with
    | none => none
    | some (value, rest) =>
      match skipSpace rest with
      | ',' :: rest => readItems? fuel depth (value :: seen) (skipSpace rest)
      | ']' :: rest => some (.arr (value :: seen).reverse, rest)
      | _ => none

/-- The fields of an object after the given ones, and the text after the object. -/
def readFields? : Nat → Nat → List (String × Json) → List Char → Option (Json × List Char)
  | 0, _, _, _ => none
  | fuel + 1, depth, seen, text =>
    match text with
    | '"' :: rest =>
      match readString? [] rest with
      | none => none
      | some (name, rest) =>
        match skipSpace rest with
        | ':' :: rest =>
          match readValue? fuel depth (skipSpace rest) with
          | none => none
          | some (value, rest) =>
            let fields := put (String.ofList name) value seen
            match skipSpace rest with
            | ',' :: rest => readFields? fuel depth fields (skipSpace rest)
            | c :: rest => if c = Char.ofNat 0x7d then some (.obj fields, rest) else none
            | [] => none
        | _ => none
    | _ => none

end

/-- How deep values may be nested in a rules file. -/
def maxDepth : Nat := 200

/-- The value that a text spells, nested at most `depth` deep. -/
def readWithin? (depth : Nat) (text : String) : Option Json :=
  let chars := skipSpace text.toList
  match readValue? (2 * chars.length + 2) depth chars with
  | some (value, rest) => if (skipSpace rest).isEmpty then some value else none
  | none => none

/-- The value that a text spells. -/
def read? (text : String) : Option Json := readWithin? maxDepth text

end Json

end StepFlow
