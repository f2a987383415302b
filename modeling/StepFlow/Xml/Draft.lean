import StepFlow.Xml.Basic

/-! # Drafts of XML trees

In a draft, elements have names and can still change. An element that is a child of several others is
shared: a change to it shows in all of them. Giving a name to a new element leaves the old one in place
where it is used.
-/

namespace StepFlow.Xml

/-- A child of an element in a draft. -/
inductive DraftChild where
  | text (content : String)
  | raw (markup : String)
  /-- The element with a number. -/
  | shared (number : Nat)
  deriving Repr, DecidableEq

/-- An element of a draft. -/
structure DraftElement where
  name : String
  attributes : List (String × String) := []
  children : List DraftChild := []
  deriving Repr, DecidableEq

/-- Elements by number, and the numbers of names. -/
structure Draft where
  elements : List DraftElement := []
  names : List (String × Nat) := []
  deriving Repr, DecidableEq

/-- Gives an attribute a value: in its place if it is there, else at the end. -/
def putAttribute (key value : String) : List (String × String) → List (String × String)
  | [] => [(key, value)]
  | (other, old) :: rest =>
    if other = key then (key, value) :: rest else (other, old) :: putAttribute key value rest

/-- An element as it is shown. -/
def DraftElement.display (element : DraftElement) : String :=
  let attributes := ", ".intercalate
    (element.attributes.map fun (key, value) => s!"{Text.quoted key}: {Text.quoted value}")
  s!"XmlElement({Text.quoted element.name}, attributes=" ++ "\x7b" ++ attributes ++ "\x7d" ++
    s!", children={element.children.length})"

namespace Draft

/-- The number of a name. -/
def number? (draft : Draft) (id : String) : Option Nat := draft.names.lookup id

/-- The element of a name. -/
def element? (draft : Draft) (id : String) : Option DraftElement :=
  (draft.number? id).bind fun number => draft.elements[number]?

/-- Adds an element under a name. -/
def define (id : String) (element : DraftElement) (draft : Draft) : Draft :=
  { elements := draft.elements ++ [element], names := (id, draft.elements.length) :: draft.names }

/-- Changes the element of a name. -/
def modify (id : String) (change : DraftElement → DraftElement) (draft : Draft) : Draft :=
  match draft.number? id with
  | none => draft
  | some number => { draft with elements := draft.elements.modify number change }

/-- The tree of a numbered element; no tree is deeper than there are elements. -/
def resolve (draft : Draft) : Nat → Nat → Xml
  | 0, _ => .text ""
  | fuel + 1, number =>
    match draft.elements[number]? with
    | none => .text ""
    | some found =>
      .element found.name found.attributes (found.children.map fun
        | .text content => .text content
        | .raw markup => .raw markup
        | .shared number => draft.resolve fuel number)

/-- The tree of a name. -/
def tree? (draft : Draft) (id : String) : Option Xml :=
  (draft.number? id).map (draft.resolve draft.elements.length)

/-- The first child element of a name that is called so. -/
def findChild? (draft : Draft) (id name : String) : Option Xml :=
  match draft.tree? id with
  | some (.element _ _ children) => children.find? fun
    | .element other _ _ => other == name
    | _ => false
  | _ => none

end Draft

end StepFlow.Xml
