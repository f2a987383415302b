import StepFlow.Text.Case

/-! # Tests of single characters

A pattern looks at one character at a time. A test names a character, a set of characters or all
of them, and says how letter case is treated. A set that ignores case holds a character as soon as
it holds one that differs from it in case only.
-/

namespace StepFlow

open Text

/-- How letter case counts when characters are compared. -/
inductive Folding where
  /-- Case counts. -/
  | exact
  /-- Case is ignored for the letters A to Z only. -/
  | ascii
  /-- Case is ignored for all letters. -/
  | full
  deriving Repr, DecidableEq

namespace Folding

/-- Whether two characters agree. -/
def same : Folding → Char → Char → Bool
  | .exact, a, b => a == b
  | .ascii, a, b => a.toLower == b.toLower
  | .full, a, b => sameFolded a b

/-- The form of a character that a repeated text has to share. -/
def lower : Folding → Char → Char
  | .exact, c => c
  | .ascii, c => c.toLower
  | .full, c => lowerChar c

/-- Code points that a range of the map to lower case sends to the given one. -/
def sources (target : Nat) (range : CaseRange) : Option Nat :=
  let source := (target - range.shift).toNat
  if range.first ≤ source ∧ source ≤ range.last ∧ (source - range.first) % range.stride = 0 then
    some source
  else none

/-- The code points of all characters that agree with a character. -/
def variants : Folding → Char → List Nat
  | .exact, c => [c.toNat]
  | .ascii, c => [c.toNat, c.toLower.toNat, c.toUpper.toNat]
  | .full, c =>
    let root := (foldChar c).toNat
    let lows := root :: (casePeers.filter (·.2 == root)).map (·.1)
    lows ++ lows.flatMap fun low => lowerRanges.filterMap (sources low)

end Folding

/-- The classes of characters that a pattern can name. -/
inductive CharKind where
  | blank
  | decimal
  | word
  deriving Repr, DecidableEq

/-- Whether a character is of a kind, `ascii` leaving out all characters beyond the first 128. -/
def CharKind.holds (kind : CharKind) (ascii : Bool) (c : Char) : Bool :=
  (!ascii || c.toNat < 128) &&
    match kind with
    | .blank => if ascii then c == ' ' || (9 ≤ c.toNat && c.toNat ≤ 13) else isBlank c
    | .decimal => isDecimal c
    | .word => isWordChar c

/-- A part of a set of characters. -/
inductive SetItem where
  /-- All code points from `first` to `last`. -/
  | range (first last : Nat)
  /-- The characters of a kind, or all others. -/
  | ofKind (kind : CharKind) (ascii : Bool) (others : Bool)
  deriving Repr, DecidableEq

/-- The set of one character. -/
def SetItem.char (c : Char) : SetItem := .range c.toNat c.toNat

/-- Whether a part of a set holds a character. -/
def SetItem.holds (folding : Folding) (c : Char) : SetItem → Bool
  | .range first last => (folding.variants c).any fun code => first ≤ code && code ≤ last
  | .ofKind kind ascii others => kind.holds ascii c != others

/-- A condition on one character. -/
inductive CharTest where
  /-- Any character, or any but a line feed. -/
  | any (lineFeed : Bool)
  /-- One given character. -/
  | char (c : Char) (folding : Folding)
  /-- The characters of a set, or all others. -/
  | set (items : List SetItem) (folding : Folding) (others : Bool)
  deriving Repr, DecidableEq

/-- Whether a character meets a condition. -/
def CharTest.holds : CharTest → Char → Bool
  | .any lineFeed, c => lineFeed || c != '\n'
  | .char d folding, c => folding.same d c
  | .set items folding others, c => items.any (·.holds folding c) != others

namespace CharTest

/-- Blanks. -/
def blank : CharTest := .set [.ofKind .blank false false] .exact false

/-- All characters but blanks. -/
def solid : CharTest := .set [.ofKind .blank false true] .exact false

/-- Decimal digits. -/
def decimal : CharTest := .set [.ofKind .decimal false false] .exact false

/-- The given characters. -/
def oneOf (chars : String) : CharTest := .set (chars.toList.map .char) .exact false

/-- All characters but the given ones. -/
def noneOf (chars : String) : CharTest := .set (chars.toList.map .char) .exact true

end CharTest

end StepFlow
