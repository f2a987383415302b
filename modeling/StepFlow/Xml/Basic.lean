import StepFlow.Text.Quoted
import StepFlow.Text.Trim

/-! # XML trees and their text

A tree is made of elements with attributes, texts, and ready markup. Attributes keep their order. A
tree is written on one line, or with each child on a line of its own, two spaces deeper than its
parent. An element whose only child is a text stays on one line in both forms.
-/

namespace StepFlow

/-- An XML tree. -/
inductive Xml where
  | element (name : String) (attributes : List (String × String)) (children : List Xml)
  | text (content : String)
  /-- Markup that is written as it is. -/
  | raw (markup : String)
  deriving Repr, BEq, Inhabited

namespace Xml

/-- The first line of a document. -/
def declaration : String := "<?xml version=\"1.0\" encoding=\"utf-8\"?>\n"

/-- The text with every occurrence of a character replaced. -/
def replaceChar (c : Char) (replacement : String) (text : List Char) : List Char :=
  text.flatMap fun d => if d = c then replacement.toList else [d]

/-- A text as it is written between tags and in attributes. The ampersand is replaced first, so that
none of the entities is replaced again. -/
def escape (text : List Char) : List Char :=
  replaceChar '\'' "&apos;" (replaceChar '"' "&quot;" (replaceChar '<' "&lt;"
    (replaceChar '>' "&gt;" (replaceChar '&' "&amp;" text))))

/-- Two spaces for each level. -/
def margin (pretty : Bool) (level : Int) : List Char :=
  if pretty then List.replicate (2 * level).toNat ' ' else []

/-- The attributes of a tag. -/
def writeAttributes (attributes : List (String × String)) : List Char :=
  attributes.flatMap fun (key, value) =>
    ' ' :: key.toList ++ ['=', '"'] ++ escape value.toList ++ ['"']

/-- A tag up to its closing bracket. -/
def openTag (name : String) (attributes : List (String × String)) : List Char :=
  '<' :: name.toList ++ writeAttributes attributes

/-- The tag at the end of an element. -/
def closeTag (name : String) : List Char := ['<', '/'] ++ name.toList ++ ['>']

mutual

/-- The text of a tree at a level. -/
def write (pretty : Bool) (level : Int) : Xml → List Char
  | .element name attributes children =>
    let head := margin pretty level ++ openTag name attributes
    match children with
    | [] => head ++ [' ', '/', '>']
    | [.text content] => head ++ ['>'] ++ escape content.toList ++ closeTag name
    | child :: rest =>
      let parts := writeAll pretty (level + 1) (child :: rest)
      if pretty then
        head ++ ['>', '\n'] ++ Text.unlines parts ++ '\n' :: margin pretty level ++ closeTag name
      else head ++ ['>'] ++ parts.flatten ++ closeTag name
  | .text content => margin pretty level ++ escape content.toList
  | .raw markup => markup.toList

/-- The texts of trees at a level. -/
def writeAll (pretty : Bool) (level : Int) : List Xml → List (List Char)
  | [] => []
  | child :: rest => write pretty level child :: writeAll pretty level rest

end

/-- The text of a tree at a level. -/
def render (pretty : Bool) (level : Int) (tree : Xml) : String := String.ofList (write pretty level tree)

/-- An element without attributes. -/
def node (name : String) (children : List Xml) : Xml := .element name [] children

/-- An element that holds one text. -/
def leaf (name content : String) : Xml := .element name [] [.text content]

end Xml

end StepFlow
