import Mathlib.Data.List.DropRight
import StepFlow.Proofs.Xml.RoundTrip

/-! # Ready markup in a tree

A reader that gets through a piece of markup by itself gets through it in the same way below open elements, since it
never looks at the elements that were open before. So markup that stands for one element is read as that element
wherever a tree holds it.
-/

namespace StepFlow.Xml

namespace Reading

/-- The same reading with further elements open around it. -/
def below (inner : Reading) (outer : List ((String × List (String × String)) × Content)) : Reading :=
  { inner with enclosing := inner.enclosing ++ outer }

variable {inner next : Reading} {outer : List ((String × List (String × String)) × Content)}

theorem addText_nil (reading : Reading) : reading.addText [] = reading := by
  rw [addText, List.append_nil]

theorem step?_below {tag : Tag} (stepped : inner.step? tag = some next) :
    (inner.below outer).step? tag = some (next.below outer) := by
  cases tag with
  | opening name attributes =>
    obtain ⟨settled, same⟩ := Option.ite_none_right_eq_some.mp stepped
    cases same
    exact if_pos settled
  | single name attributes =>
    obtain ⟨settled, same⟩ := Option.ite_none_right_eq_some.mp stepped
    cases same
    exact if_pos settled
  | closing name =>
    obtain ⟨content, enclosing⟩ := inner
    cases enclosing with
    | nil => cases stepped
    | cons opened enclosing =>
      obtain ⟨named, closed⟩ := Option.ite_none_right_eq_some.mp stepped
      obtain ⟨children, closes, same⟩ := Option.map_eq_some_iff.mp closed
      cases same
      exact (if_pos named).trans (Option.map_eq_some_iff.mpr ⟨children, closes, rfl⟩)

theorem readPiece?_below {piece : List Char} (read : inner.readPiece? piece = some next) :
    (inner.below outer).readPiece? piece = some (next.below outer) := by
  obtain ⟨⟨tag, after⟩, tagged, rest⟩ := Option.bind_eq_some_iff.mp read
  obtain ⟨passed, stepped, same⟩ := Option.bind_eq_some_iff.mp rest
  cases same
  simp only [readPiece?, tagged, Option.bind_eq_bind, Option.bind_some, step?_below stepped]
  rfl

theorem foldlM_below {pieces : List (List Char)} (read : pieces.foldlM readPiece? inner = some next) :
    pieces.foldlM readPiece? (inner.below outer) = some (next.below outer) := by
  induction pieces generalizing inner with
  | nil =>
    cases read
    rfl
  | cons piece pieces ih =>
    rw [List.foldlM_cons] at read ⊢
    obtain ⟨passed, first, later⟩ := Option.bind_eq_some_iff.mp read
    rw [readPiece?_below first]
    exact ih later

/-- A text that is read by itself is read in the same way below open elements. -/
theorem read?_below {text : List Char} (read : inner.read? text = some next) :
    (inner.below outer).read? text = some (next.below outer) := by
  obtain ⟨first, pieces, cut⟩ := Text.exists_splitAt_eq_cons '<' text
  simp only [read?, cut] at read ⊢
  exact foldlM_below read

/-- Before a tag, a text can be read by itself. -/
theorem read?_append_tag (reading : Reading) (text rest : List Char) :
    reading.read? (text ++ '<' :: rest) = (reading.read? text).bind fun next => next.read? ('<' :: rest) := by
  obtain ⟨first, pieces, cut⟩ := Text.exists_splitAt_eq_cons '<' text
  have cut' : Text.splitAt '<' (text ++ '<' :: rest) = first :: (pieces ++ Text.splitAt '<' rest) := by
    rw [Text.splitAt_append_sep, cut, List.cons_append]
  simp only [read?, cut, cut', Text.splitAt, if_true, addText_nil, List.foldlM_append]
  rfl

end Reading

/-- Markup between two tags is read as an element, if it is read by itself. -/
theorem isReadAt_raw {markup name : String} {attributes : List (String × String)} {inside : List Char}
    {content : Content} {children : List Xml} (named : IsName name) (keyed : ∀ pair ∈ attributes, IsName pair.1)
    (written : markup.toList = enclose false 0 name attributes inside)
    (reads : Reading.read? {} inside = some { content }) (closes : content.close? = some children) (pretty : Bool)
    (level : Int) : IsReadAt pretty level (.raw markup) (.element name attributes children) := by
  intro reading rest settled
  rw [write, written]
  refine read?_enclose named keyed content (fun enclosing rest => ?_) closes false 0 settled rest
  have passed : Reading.read? { enclosing } inside = some { content, enclosing } := Reading.read?_below reads
  rw [Reading.read?_append_tag, passed, Option.bind_some]

/-- Trees with the same text are read as the same tree. -/
theorem IsReadAt.eq_of_write_eq {pretty : Bool} {level : Int} {tree other result result' : Xml}
    (reads : IsReadAt pretty level tree result) (reads' : IsReadAt pretty level other result')
    (same : write pretty level tree = write pretty level other) : result = result' := by
  have first : Reading.read? {} (write pretty level tree ++ []) = _ := reads {} [] rfl
  have second : Reading.read? {} (write pretty level other ++ []) = _ := reads' {} [] rfl
  rw [same, second] at first
  have contents := congrArg (fun reading => reading.content.children) (Option.some.inj first)
  exact (List.singleton_inj.mp contents).symm

/-- What stands between the tags of an element without attributes. -/
def inside (name : String) (markup : List Char) : List Char :=
  (markup.drop (name.length + 2)).rdrop (name.length + 3)

/-- Whether markup is an element of a name with child elements. -/
def isElement (name : String) (markup : List Char) : Bool :=
  markup == enclose false 0 name [] (inside name markup) &&
    (Reading.read? {} (inside name markup)).any fun reading =>
      reading.enclosing.isEmpty && !reading.content.children.isEmpty && reading.content.isSettled

/-- Markup of an element is read as one tree wherever it stands. -/
theorem exists_isReadAt_raw {name markup : String} (named : IsName name)
    (element : isElement name markup.toList = true) :
    ∃ result, ∀ pretty level, IsReadAt pretty level (.raw markup) result := by
  simp only [isElement, Bool.and_eq_true, beq_iff_eq, Option.any_eq_true, List.isEmpty_iff] at element
  obtain ⟨written, ⟨content, enclosing⟩, reads, ⟨rfl, nonempty⟩, settled⟩ := element
  have closes : content.close? = some content.children := by
    rw [Bool.not_eq_true'] at nonempty
    simp [Content.close?, nonempty, settled]
  have keyed : ∀ pair ∈ ([] : List (String × String)), IsName pair.1 := List.forall_mem_nil _
  exact ⟨_, isReadAt_raw named keyed written reads closes⟩

end StepFlow.Xml
