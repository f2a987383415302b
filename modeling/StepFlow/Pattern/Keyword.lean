import StepFlow.Pattern.Basic

/-! # Keywords

A list of keywords stands for the set of its words. Where several words could match, the longest is
tried first; words of one length are tried in the order of their characters.
-/

namespace StepFlow

/-- Whether a keyword is tried before another. -/
def keywordBefore (a b : String) : Bool :=
  b.length < a.length || (a.length == b.length && decide (a.toList < b.toList))

/-- Puts a keyword in its place, once. -/
def insertKeyword (word : String) : List String → List String
  | [] => [word]
  | head :: rest =>
    if word = head then head :: rest
    else if keywordBefore word head then word :: head :: rest
    else head :: insertKeyword word rest

/-- The words of a list, each once, in the order in which they are tried. -/
def keywordOrder (words : List String) : List String := words.foldr insertKeyword []

/-- Characters that have a meaning of their own in the text of a pattern. -/
def isSpecial (c : Char) : Bool := "()[]{}?*+-|^$\\.&~# \t\n\r\x0b\x0c".toList.contains c

/-- A word as it is written in the text of a pattern. -/
def escapeKeyword (word : String) : String :=
  String.ofList (word.toList.flatMap fun c => if isSpecial c then ['\\', c] else [c])

/-- The text of a pattern for one of several words. -/
def alternation (words : List String) : String :=
  "|".intercalate ((keywordOrder words).map escapeKeyword)

/-- How many compiled patterns may be kept for reuse. -/
def patternCacheLimit : Nat := 512

/-- One of several words, in any letter case. No words at all match the empty text. -/
def Pattern.keyword (words : List String) : Pattern :=
  .anyOf ((keywordOrder words).map (Pattern.literal .full))

end StepFlow
