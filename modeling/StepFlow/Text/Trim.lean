import StepFlow.Text.Class

/-! # Cutting text at blanks and line breaks

Functions on lists of characters: trimming, the words of a text, its lines, and the search for a
part.
-/

namespace StepFlow.Text

/-- The text without blanks at its start. -/
def trimStart (text : List Char) : List Char := text.dropWhile isBlank

/-- The text without blanks at its end. -/
def trimEnd (text : List Char) : List Char := (text.reverse.dropWhile isBlank).reverse

/-- The text without blanks at its start and end. -/
def trim (text : List Char) : List Char := trimEnd (trimStart text)

/-- The text without blanks at its start and end. -/
def trimmed (text : String) : String := String.ofList (trim text.toList)

/-- Whether a text starts with a blank. -/
def startsBlank : List Char → Bool
  | [] => false
  | c :: _ => isBlank c

/-- The pieces between separators; a text without separator is one piece. -/
def splitAt (sep : Char) : List Char → List (List Char)
  | [] => [[]]
  | c :: rest =>
    if c = sep then [] :: splitAt sep rest
    else match splitAt sep rest with
      | [] => [[c]]
      | piece :: pieces => (c :: piece) :: pieces

/-- Line breaks of all kinds as line feeds. -/
def unifyBreaks : List Char → List Char
  | [] => []
  | '\r' :: '\n' :: rest => '\n' :: unifyBreaks rest
  | '\r' :: rest => '\n' :: unifyBreaks rest
  | c :: rest => c :: unifyBreaks rest

/-- The lines of a text, without their line feeds. -/
def lines (text : List Char) : List (List Char) := splitAt '\n' text

/-- Pieces joined with a separator between them. -/
def joinWith (sep : List Char) : List (List Char) → List Char
  | [] => []
  | [piece] => piece
  | piece :: next :: rest => piece ++ sep ++ joinWith sep (next :: rest)

/-- Lines joined with line feeds. -/
def unlines (pieces : List (List Char)) : List Char := joinWith ['\n'] pieces

/-- The words read so far and the rest of the text, `word` being the open word, last letter first. -/
def wordsFrom (word : List Char) : List Char → List (List Char)
  | [] => if word.isEmpty then [] else [word.reverse]
  | c :: rest =>
    if isBlank c then
      if word.isEmpty then wordsFrom [] rest else word.reverse :: wordsFrom [] rest
    else wordsFrom (c :: word) rest

/-- The words of a text: its longest parts without blanks. -/
def words (text : List Char) : List (List Char) := wordsFrom [] text

/-- Whether one text occurs within another. -/
def occursIn (part : List Char) : List Char → Bool
  | [] => part.isEmpty
  | c :: rest => part.isPrefixOf (c :: rest) || occursIn part rest

/-- The rest of a text after a given beginning. -/
def stripStart? : List Char → List Char → Option (List Char)
  | [], text => some text
  | _ :: _, [] => none
  | c :: start, d :: text => if c = d then stripStart? start text else none

theorem stripStart?_eq_some_iff {start text rest : List Char} :
    stripStart? start text = some rest ↔ text = start ++ rest := by
  induction start generalizing text with
  | nil => simp [stripStart?]
  | cons c start ih =>
    cases text with
    | nil => simp [stripStart?]
    | cons d text =>
      by_cases same : c = d
      · simp [stripStart?, same, ih]
      · simp [stripStart?, same, Ne.symm same]

/-- The text without line feeds at its start and end. -/
def trimLineFeeds (text : List Char) : List Char :=
  ((text.dropWhile (· == '\n')).reverse.dropWhile (· == '\n')).reverse

end StepFlow.Text
