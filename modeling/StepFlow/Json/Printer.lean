import StepFlow.Json.Basic
import StepFlow.Text.Quoted

/-! # Writing JSON

A compact form on one line, an indented form for rule sets, and the display form in which a value is
shown as a name. Characters beyond ASCII stand as they are; of the others the quote, the backslash
and the controls are escaped.
-/

namespace StepFlow

namespace Json

/-- A character as it is written in a string. -/
def escapeChar (c : Char) : List Char :=
  if c = '"' then ['\\', '"']
  else if c = '\\' then ['\\', '\\']
  else if c = '\x08' then ['\\', 'b']
  else if c = '\t' then ['\\', 't']
  else if c = '\n' then ['\\', 'n']
  else if c = '\x0c' then ['\\', 'f']
  else if c = '\r' then ['\\', 'r']
  else if c.toNat < 32 then '\\' :: 'u' :: Text.hexDigits 4 c.toNat
  else [c]

/-- A string with its quotes. -/
def writeString (text : String) : String :=
  String.ofList ('"' :: text.toList.flatMap escapeChar ++ ['"'])

/-- A number with a fraction part. -/
def writeReal (negative : Bool) (magnitude : Binary) : String :=
  (if negative then "-" else "") ++ magnitude.text

/-- Parts between brackets, each on a line of its own behind the given margin. -/
def block (opening closing margin : String) (parts : List String) : String :=
  if parts.isEmpty then opening ++ closing
  else
    opening ++ "\n" ++ ",\n".intercalate (parts.map (margin ++ "  " ++ ·)) ++ "\n" ++ margin ++ closing

mutual

/-- A value on one line. -/
def compact : Json → String
  | .null => "null"
  | .bool value => if value then "true" else "false"
  | .int value => toString value
  | .real negative magnitude => writeReal negative magnitude
  | .str text => writeString text
  | .arr items => "[" ++ ",".intercalate (compactItems items) ++ "]"
  | .obj fields => "\x7b" ++ ",".intercalate (compactFields fields) ++ "\x7d"

/-- Values on one line each. -/
def compactItems : List Json → List String
  | [] => []
  | item :: rest => compact item :: compactItems rest

/-- Fields on one line each. -/
def compactFields : List (String × Json) → List String
  | [] => []
  | (name, value) :: rest => (writeString name ++ ":" ++ compact value) :: compactFields rest

end

mutual

/-- A value on several lines, the lines after the first behind the given margin. -/
def indented (margin : String) : Json → String
  | .arr items => block "[" "]" margin (indentedItems (margin ++ "  ") items)
  | .obj fields => block "\x7b" "\x7d" margin (indentedFields (margin ++ "  ") fields)
  | .null => "null"
  | .bool value => if value then "true" else "false"
  | .int value => toString value
  | .real negative magnitude => writeReal negative magnitude
  | .str text => writeString text

/-- Values behind a margin. -/
def indentedItems (margin : String) : List Json → List String
  | [] => []
  | item :: rest => indented margin item :: indentedItems margin rest

/-- Fields behind a margin. -/
def indentedFields (margin : String) : List (String × Json) → List String
  | [] => []
  | (name, value) :: rest =>
    (writeString name ++ ": " ++ indented margin value) :: indentedFields margin rest

end

mutual

/-- A value as it is shown inside another one. -/
def display : Json → String
  | .null => "None"
  | .bool value => if value then "True" else "False"
  | .int value => toString value
  | .real negative magnitude => writeReal negative magnitude
  | .str text => Text.quoted text
  | .arr items => "[" ++ ", ".intercalate (displayItems items) ++ "]"
  | .obj fields => "\x7b" ++ ", ".intercalate (displayFields fields) ++ "\x7d"

/-- Values as they are shown. -/
def displayItems : List Json → List String
  | [] => []
  | item :: rest => display item :: displayItems rest

/-- Fields as they are shown. -/
def displayFields : List (String × Json) → List String
  | [] => []
  | (name, value) :: rest => (Text.quoted name ++ ": " ++ display value) :: displayFields rest

end

/-- A value as a name: a string as it is, anything else as it is shown. -/
def nameText : Json → String
  | .str text => text
  | other => other.display

end Json

end StepFlow
