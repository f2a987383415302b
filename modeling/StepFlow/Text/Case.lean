import StepFlow.Text.CaseRange
import StepFlow.Text.Class

/-! # Letter case

Two notions live here. Comparing characters without regard to case goes by `foldChar`: two
characters agree exactly when their lower-case forms are peers, one character against one. Changing
the case of a text is wider: a character may grow to several, and a capital sigma has another
lower-case form at the end of a word.
-/

namespace StepFlow.Text

/-- The lower-case form of a single character. -/
def lowerChar (c : Char) : Char := Char.ofNat (CaseRange.apply lowerRanges c.toNat)

/-- The common form of all characters that differ in case only. -/
def foldChar (c : Char) : Char :=
  let low := lowerChar c
  match casePeers.lookup low.toNat with
  | some peer => Char.ofNat peer
  | none => low

/-- Whether two characters differ in case at most. -/
def sameFolded (a b : Char) : Bool := foldChar a == foldChar b

/-- The upper-case form of a character, which may be longer than one character. -/
def upperOf (c : Char) : List Char :=
  match upperExpansions.lookup c.toNat with
  | some codes => codes.map Char.ofNat
  | none => [Char.ofNat (CaseRange.apply upperRanges c.toNat)]

/-- The text in upper case. -/
def upperChars (text : List Char) : List Char := text.flatMap upperOf

/-- The text in upper case. -/
def upper (text : String) : String := String.ofList (upperChars text.toList)

/-- Whether the nearest character that is not ignored for case has a case. -/
def meetsCased (chars : List Char) : Bool :=
  match chars.dropWhile fun c => inRanges caseIgnorableRanges c.toNat with
  | [] => false
  | c :: _ => inRanges casedRanges c.toNat

/-- The lower-case form of a character between the text before it, nearest first, and after it. -/
def lowerOf (before : List Char) (c : Char) (after : List Char) : List Char :=
  if c = 'Σ' then
    if meetsCased before && !meetsCased after then ['ς'] else ['σ']
  else if c = 'İ' then ['i', Char.ofNat 0x307]
  else [lowerChar c]

/-- Lower case of what follows some text, nearest character first. -/
def lowerFrom : List Char → List Char → List Char
  | _, [] => []
  | before, c :: after => lowerOf before c after ++ lowerFrom (c :: before) after

/-- The text in lower case. -/
def lower (text : String) : String := String.ofList (lowerFrom [] text.toList)

end StepFlow.Text
