import StepFlow.Text.Quoted

/-! # Reading UTF-8

Bytes are read as UTF-8 without exceptions: no overlong forms, no surrogates, nothing above the last
code point. A fault names the bytes that cannot be read and why.
-/

namespace StepFlow.Text

/-- Why some bytes are no UTF-8. -/
inductive Utf8Cause where
  | invalidStart
  | invalidContinuation
  | unexpectedEnd
  deriving Repr, DecidableEq

/-- A sequence of bytes that is no character: where it starts, its bytes, and why. -/
structure Utf8Fault where
  position : Nat
  bytes : List UInt8
  cause : Utf8Cause
  deriving Repr, DecidableEq

/-- The wording of a cause. -/
def Utf8Cause.message : Utf8Cause → String
  | .invalidStart => "invalid start byte"
  | .invalidContinuation => "invalid continuation byte"
  | .unexpectedEnd => "unexpected end of data"

/-- The wording of a fault: one byte is shown, several are given by their positions. -/
def Utf8Fault.message (fault : Utf8Fault) : String :=
  let place := match fault.bytes with
    | [byte] => s!"byte 0x{String.ofList (hexDigits 2 byte.toNat)} in position {fault.position}"
    | bytes => s!"bytes in position {fault.position}-{fault.position + bytes.length - 1}"
  s!"'utf-8' codec can't decode {place}: {fault.cause.message}"

/-- Whether a byte continues a character. -/
def isContinuation (byte : UInt8) : Bool := 0x80 ≤ byte && byte < 0xC0

/-- How many bytes follow a lead byte, if it is one. -/
def followers? (lead : UInt8) : Option Nat :=
  if lead < 0x80 then some 0
  else if lead < 0xC2 then none
  else if lead < 0xE0 then some 1
  else if lead < 0xF0 then some 2
  else if lead < 0xF5 then some 3
  else none

/-- Whether the byte after a lead byte may stand there. -/
def secondFits (lead second : UInt8) : Bool :=
  isContinuation second &&
    !(lead == 0xE0 && second < 0xA0) && !(lead == 0xED && second ≥ 0xA0) &&
    !(lead == 0xF0 && second < 0x90) && !(lead == 0xF4 && second ≥ 0x90)

/-- The bits that a lead byte gives to its code point. -/
def leadBits (lead : UInt8) : Nat :=
  let n := lead.toNat
  if n < 0x80 then n else if n < 0xE0 then n % 0x20 else if n < 0xF0 then n % 0x10 else n % 0x08

/-- Reads `count` further bytes of a character whose bytes so far are `seen`, last first. -/
def readFollowers (lead : UInt8) : Nat → List UInt8 → Nat → List UInt8 →
    Except (List UInt8 × Utf8Cause) (Nat × List UInt8)
  | 0, _, code, rest => .ok (code, rest)
  | _ + 1, seen, _, [] => .error (seen.reverse, .unexpectedEnd)
  | count + 1, seen, code, byte :: rest =>
    let fits := if seen.length = 1 then secondFits lead byte else isContinuation byte
    if fits then readFollowers lead count (byte :: seen) (code * 64 + byte.toNat % 64) rest
    else .error (seen.reverse, .invalidContinuation)

/-- Reads the characters of at most `fuel` bytes that start at `position`. -/
def decodeUtf8From : Nat → Nat → List UInt8 → Except Utf8Fault (List Char)
  | 0, _, _ => .ok []
  | _ + 1, _, [] => .ok []
  | fuel + 1, position, lead :: rest =>
    match followers? lead with
    | none => .error ⟨position, [lead], .invalidStart⟩
    | some count =>
      match readFollowers lead count [lead] (leadBits lead) rest with
      | .error (bytes, cause) => .error ⟨position, bytes, cause⟩
      | .ok (code, rest') =>
        (decodeUtf8From fuel (position + 1 + count) rest').map (Char.ofNat code :: ·)

/-- The text that bytes spell in UTF-8. -/
def decodeUtf8 (bytes : List UInt8) : Except Utf8Fault (List Char) :=
  decodeUtf8From bytes.length 0 bytes

end StepFlow.Text
