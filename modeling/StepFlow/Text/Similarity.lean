/-! # How alike two texts are

The longest common part of two texts is found, then the longest common parts before it and after it,
and so on. The share of the characters found is the likeness of the texts.
-/

namespace StepFlow.Text

/-- The length of the common start of two texts. -/
def commonStart : List Char → List Char → Nat
  | c :: first, d :: second => if c = d then commonStart first second + 1 else 0
  | _, _ => 0

/-- A common part of two texts: where it starts in each, and its length. -/
structure CommonPart where
  first : Nat
  second : Nat
  length : Nat
  deriving Repr, DecidableEq

/-- The longest common part that starts at a given place of the first text, at the earliest place of
the second. -/
def longestAt (first : Nat) (text : List Char) : Nat → List Char → CommonPart → CommonPart
  | _, [], best => best
  | second, c :: rest, best =>
    let length := commonStart text (c :: rest)
    longestAt first text (second + 1) rest (if best.length < length then ⟨first, second, length⟩ else best)

/-- The longest common part of two texts, the earliest of the first text, then of the second. -/
def longestFrom (other : List Char) : Nat → List Char → CommonPart → CommonPart
  | _, [], best => best
  | first, c :: rest, best => longestFrom other (first + 1) rest (longestAt first (c :: rest) 0 other best)

/-- The number of characters in common parts; `fuel` is at least the length of the first text. -/
def commonChars : Nat → List Char → List Char → Nat
  | 0, _, _ => 0
  | fuel + 1, a, b =>
    let best := longestFrom b 0 a ⟨0, 0, 0⟩
    if best.length = 0 then 0
    else
      commonChars fuel (a.take best.first) (b.take best.second) + best.length +
        commonChars fuel (a.drop (best.first + best.length)) (b.drop (best.second + best.length))

/-- The likeness of two texts: the characters in common parts, counted in both texts, of all. -/
structure Likeness where
  common : Nat
  total : Nat
  deriving Repr, DecidableEq

namespace Likeness

/-- The likeness of a candidate and a word. -/
def of (candidate word : String) : Likeness :=
  ⟨2 * commonChars candidate.length candidate.toList word.toList, candidate.length + word.length⟩

/-- Whether three fifths of the characters are in common parts. -/
def isClose (likeness : Likeness) : Bool := decide (3 * likeness.total ≤ 5 * likeness.common)

/-- Whether the share of one likeness is below that of another. -/
def isBelow (a b : Likeness) : Bool := decide (a.common * b.total < b.common * a.total)

end Likeness

/-- Whether a candidate is to be named before another as similar to a word: it is more like the
word, or just as much and later in the order of texts. -/
def namedBefore (word a b : String) : Bool :=
  let first := Likeness.of a word
  let second := Likeness.of b word
  second.isBelow first || (!first.isBelow second && decide (b ≤ a))

/-- The three candidates most like a word, of those that are close to it. -/
def closest (candidates : List String) (word : String) : List String :=
  ((candidates.filter fun candidate => (Likeness.of candidate word).isClose).mergeSort
    (namedBefore word)).take 3

end StepFlow.Text
