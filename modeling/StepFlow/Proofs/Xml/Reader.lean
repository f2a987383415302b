import StepFlow.Xml.Basic

/-! # Reading XML

A reader for the part of XML that trees are written in: elements with quoted attributes, and text with the five
entities. A left angle bracket stands nowhere but at the start of a tag, so the text is cut there. A tag opens an
element, closes the innermost open one, or is an element without content. An element with child elements has only
blanks between them, and they are skipped; the text of any other element is kept as it is.
-/

namespace StepFlow.Xml

/-- Characters that may stand between tags and between attributes. -/
def isBlank (c : Char) : Bool := c == ' ' || c == '\t' || c == '\n' || c == '\r'

/-- Characters of the names of elements and attributes. -/
def isNameChar (c : Char) : Bool := !(isBlank c || ['<', '>', '/', '=', '&', '"', '\''].contains c)

/-- A text with its entities replaced by what they stand for; there is none if an ampersand starts no entity. -/
def decode : List Char → Option (List Char)
  | [] => some []
  | '&' :: 'a' :: 'm' :: 'p' :: ';' :: rest => (decode rest).map ('&' :: ·)
  | '&' :: 'g' :: 't' :: ';' :: rest => (decode rest).map ('>' :: ·)
  | '&' :: 'l' :: 't' :: ';' :: rest => (decode rest).map ('<' :: ·)
  | '&' :: 'q' :: 'u' :: 'o' :: 't' :: ';' :: rest => (decode rest).map ('"' :: ·)
  | '&' :: 'a' :: 'p' :: 'o' :: 's' :: ';' :: rest => (decode rest).map ('\'' :: ·)
  | '&' :: _ => none
  | c :: rest => (decode rest).map (c :: ·)

/-! ## Tags -/

/-- A tag. -/
inductive Tag where
  | opening (name : String) (attributes : List (String × String))
  /-- An element that ends where it starts. -/
  | single (name : String) (attributes : List (String × String))
  | closing (name : String)
  deriving Repr, DecidableEq

/-- Reads an attribute, with its value in quotes of either kind, and gives the text after it. -/
def readAttribute? (text : List Char) : Option ((String × String) × List Char) :=
  match text.takeWhile isNameChar, text.dropWhile isNameChar with
  | c :: key, '=' :: quote :: rest =>
    match rest.dropWhile (· != quote) with
    | _ :: after =>
      if quote == '"' || quote == '\'' then
        (decode (rest.takeWhile (· != quote))).map fun value =>
          ((String.ofList (c :: key), String.ofList value), after)
      else none
    | [] => none
  | _, _ => none

theorem readAttribute?_shorter {text after : List Char} {pair : String × String}
    (success : readAttribute? text = some (pair, after)) : after.length < text.length := by
  unfold readAttribute? at success
  split at success
  · rename_i c key quote rest _ dropped
    have inText := (List.dropWhile_suffix isNameChar (l := text)).length_le
    rw [dropped] at inText
    split at success
    · rename_i closing after' found
      have inRest := (List.dropWhile_suffix (· != quote) (l := rest)).length_le
      rw [found] at inRest
      split at success
      · obtain ⟨value, _, same⟩ := Option.map_eq_some_iff.mp success
        cases same
        simp only [List.length_cons] at inText inRest
        omega
      · cases success
    · cases success
  · cases success

/-- Reads attributes up to the end of the tag. Gives whether the tag ends its element, and the text after it. -/
def readAttributes? (text : List Char) : Option (List (String × String) × Bool × List Char) :=
  match text.dropWhile isBlank with
  | '>' :: after => some ([], false, after)
  | '/' :: '>' :: after => some ([], true, after)
  | _ =>
    if text.head?.any isBlank then
      match _found : readAttribute? (text.dropWhile isBlank) with
      | none => none
      | some (pair, rest) =>
        (readAttributes? rest).map fun (attributes, ends, after) => (pair :: attributes, ends, after)
    else none
termination_by text.length
decreasing_by
  have shorter := readAttribute?_shorter _found
  have inText := (List.dropWhile_suffix isBlank (l := text)).length_le
  omega

/-- Reads a tag that starts with the given text, and gives the text after it. -/
def readTag? : List Char → Option (Tag × List Char)
  | '/' :: rest =>
    match rest.takeWhile isNameChar, (rest.dropWhile isNameChar).dropWhile isBlank with
    | c :: name, '>' :: after => some (.closing (String.ofList (c :: name)), after)
    | _, _ => none
  | opened =>
    match opened.takeWhile isNameChar with
    | [] => none
    | c :: rest =>
      let name := String.ofList (c :: rest)
      (readAttributes? (opened.dropWhile isNameChar)).map fun (attributes, ends, after) =>
        (if ends then .single name attributes else .opening name attributes, after)

/-! ## Trees -/

/-- What was read within an element: its child elements, and the text after the last of them. -/
structure Content where
  children : List Xml := []
  trailing : List Char := []

/-- The state of a reader: the content of the innermost open element, and the tags of the open elements, innermost
first, each with the content around it. -/
structure Reading where
  content : Content := {}
  enclosing : List ((String × List (String × String)) × Content) := []

/-- Whether the text after the last child can be skipped. -/
def Content.isSettled (content : Content) : Bool := content.trailing.all isBlank

/-- The children of an element that ends after its content. -/
def Content.close? (content : Content) : Option (List Xml) :=
  if content.children.isEmpty then
    (decode content.trailing).map fun text => [.text (String.ofList text)]
  else if content.isSettled then some content.children
  else none

namespace Reading

/-- Adds text to the content. -/
def addText (text : List Char) (reading : Reading) : Reading :=
  { reading with content := { reading.content with trailing := reading.content.trailing ++ text } }

/-- Adds a child to the content, after text that is skipped. -/
def addChild (child : Xml) (reading : Reading) : Reading :=
  { reading with content := { children := reading.content.children ++ [child] } }

/-- Goes past a tag. -/
def step? (reading : Reading) : Tag → Option Reading
  | .opening name attributes =>
    if reading.content.isSettled then
      some { content := {}, enclosing := ((name, attributes), reading.content) :: reading.enclosing }
    else none
  | .single name attributes =>
    if reading.content.isSettled then some (reading.addChild (.element name attributes [])) else none
  | .closing name =>
    match reading.enclosing with
    | [] => none
    | ((opened, attributes), around) :: enclosing =>
      if opened = name then
        reading.content.close?.map fun children =>
          addChild (.element name attributes children) { content := around, enclosing }
      else none

/-- Goes past a tag and the text after it. -/
def readPiece? (reading : Reading) (piece : List Char) : Option Reading := do
  let (tag, after) ← readTag? piece
  return (← reading.step? tag).addText after

/-- Goes past a text. -/
def read? (reading : Reading) (text : List Char) : Option Reading :=
  match Text.splitAt '<' text with
  | [] => some reading
  | first :: pieces => pieces.foldlM readPiece? (reading.addText first)

/-- The tree that was read, if it is one and complete. -/
def tree? (reading : Reading) : Option Xml :=
  match reading.content.children, reading.enclosing with
  | [tree], [] => if reading.content.isSettled then some tree else none
  | _, _ => none

end Reading

/-- Reads a tree. -/
def read? (text : String) : Option Xml := (Reading.read? {} text.toList).bind Reading.tree?

end StepFlow.Xml
