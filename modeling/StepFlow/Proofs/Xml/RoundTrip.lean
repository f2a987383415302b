import Mathlib.Data.List.Forall2
import StepFlow.Proofs.Text.Lines
import StepFlow.Proofs.Xml.Reader

/-! # Written trees read back

A tree in which each element has only child elements or exactly one text is read back from its text, on one line or
on many and at every level. The reader goes past what is written for a tree exactly as if the tree had been added at
once, whatever follows; so the statement carries over from the children of an element to the element.
-/

namespace StepFlow.Xml

/-- Names that can be read: of at least one character, without blanks and the characters of tags. -/
def IsName (name : String) : Prop := name.toList ≠ [] ∧ ∀ c ∈ name.toList, isNameChar c = true

instance : DecidablePred IsName := fun name =>
  decidable_of_iff (name.toList ≠ [] ∧ name.toList.all isNameChar = true) (by rw [IsName, List.all_eq_true])

/-- Trees that can be read: elements that have either only such elements as children, or exactly one text. -/
inductive Readable : Xml → Prop where
  | elements {name : String} {attributes : List (String × String)} {children : List Xml} (named : IsName name)
      (keyed : ∀ pair ∈ attributes, IsName pair.1) (inner : ∀ child ∈ children, Readable child) :
      Readable (.element name attributes children)
  | leaf {name : String} {attributes : List (String × String)} {content : String} (named : IsName name)
      (keyed : ∀ pair ∈ attributes, IsName pair.1) : Readable (.element name attributes [.text content])

/-! ## Escaped text -/

theorem replaceChar_append (c : Char) (replacement : String) (first second : List Char) :
    replaceChar c replacement (first ++ second) =
      replaceChar c replacement first ++ replaceChar c replacement second :=
  List.flatMap_append

theorem escape_append (first second : List Char) : escape (first ++ second) = escape first ++ escape second := by
  simp only [escape, replaceChar_append]

/-- Characters that are written as entities. -/
def isSpecial (c : Char) : Bool := ['&', '>', '<', '"', '\''].contains c

theorem isSpecial_cases {c : Char} (special : isSpecial c = true) :
    c = '&' ∨ c = '>' ∨ c = '<' ∨ c = '"' ∨ c = '\'' := by
  simpa [isSpecial] using special

theorem replaceChar_singleton {c d : Char} (differs : d ≠ c) (replacement : String) :
    replaceChar c replacement [d] = [d] := by
  rw [replaceChar, List.flatMap_singleton, if_neg differs]

theorem escape_singleton {c : Char} (plain : isSpecial c = false) : escape [c] = [c] := by
  have differs {d : Char} (special : isSpecial d = true) : c ≠ d := by
    rintro rfl
    rw [special] at plain
    cases plain
  rw [escape, replaceChar_singleton (differs rfl), replaceChar_singleton (differs rfl),
    replaceChar_singleton (differs rfl), replaceChar_singleton (differs rfl), replaceChar_singleton (differs rfl)]

theorem decode_cons {c : Char} (notEntity : c ≠ '&') (rest : List Char) :
    decode (c :: rest) = (decode rest).map (c :: ·) := by
  rw [decode.eq_def]
  split <;> simp_all

/-- What is decoded from an escaped character is that character. -/
theorem decode_escape_singleton (c : Char) (rest : List Char) :
    decode (escape [c] ++ rest) = (decode rest).map (c :: ·) := by
  cases special : isSpecial c with
  | true => rcases isSpecial_cases special with rfl | rfl | rfl | rfl | rfl <;> rfl
  | false =>
    rw [escape_singleton special]
    apply decode_cons
    rintro rfl
    cases special

theorem decode_escape (text : List Char) : decode (escape text) = some text := by
  induction text with
  | nil => rfl
  | cons c rest ih =>
    rw [← List.singleton_append, escape_append, decode_escape_singleton, ih]
    rfl

/-- An escaped text has no angle brackets and no quotes. -/
theorem not_mem_escape {c : Char} (special : isSpecial c = true) (notAmpersand : c ≠ '&') (text : List Char) :
    c ∉ escape text := by
  induction text with
  | nil => exact List.not_mem_nil
  | cons d rest ih =>
    rw [← List.singleton_append, escape_append, List.mem_append, not_or]
    refine ⟨?_, ih⟩
    cases special' : isSpecial d with
    | true =>
      rcases isSpecial_cases special with rfl | rfl | rfl | rfl | rfl
      · exact absurd rfl notAmpersand
      all_goals rcases isSpecial_cases special' with rfl | rfl | rfl | rfl | rfl <;> decide
    | false =>
      rw [escape_singleton special', List.mem_singleton]
      rintro rfl
      rw [special] at special'
      cases special'

/-! ## Tags -/

theorem takeWhile_name {name : String} (named : IsName name) {rest : List Char}
    (ends : rest.head?.any isNameChar = false) : (name.toList ++ rest).takeWhile isNameChar = name.toList :=
  Text.takeWhile_append_of_stop named.2 ends

theorem dropWhile_name {name : String} (named : IsName name) {rest : List Char}
    (ends : rest.head?.any isNameChar = false) : (name.toList ++ rest).dropWhile isNameChar = rest :=
  Text.dropWhile_append_of_stop named.2 ends

theorem IsName.exists_cons {name : String} (named : IsName name) :
    ∃ c rest, name.toList = c :: rest ∧ String.ofList (c :: rest) = name ∧ isNameChar c = true := by
  obtain ⟨c, rest, spelled⟩ := List.exists_cons_of_ne_nil named.1
  exact ⟨c, rest, spelled, by rw [← spelled, String.ofList_toList], named.2 c (spelled ▸ .head _)⟩

theorem isBlank_of_isNameChar {c : Char} (inName : isNameChar c = true) : isBlank c = false := by
  simp only [isNameChar, Bool.not_eq_true', Bool.or_eq_false_iff] at inName
  exact inName.1

/-- An attribute that was written is read. -/
theorem readAttribute?_written {key : String} (named : IsName key) (value : String) (rest : List Char) :
    readAttribute? (key.toList ++ '=' :: '"' :: (escape value.toList ++ '"' :: rest)) =
      some ((key, value), rest) := by
  obtain ⟨c, more, spelled, named', -⟩ := named.exists_cons
  have quoted : ∀ d ∈ escape value.toList, (d != '"') = true := by
    intro d member
    rw [bne_iff_ne]
    rintro rfl
    exact not_mem_escape rfl (by decide) _ member
  have read : (escape value.toList ++ '"' :: rest).takeWhile (· != '"') = escape value.toList := by
    rw [List.takeWhile_append_of_pos quoted]
    simp
  have left : (escape value.toList ++ '"' :: rest).dropWhile (· != '"') = '"' :: rest := by
    rw [List.dropWhile_append_of_pos quoted]
    simp
  rw [readAttribute?, takeWhile_name named rfl, dropWhile_name named rfl, spelled]
  simp [read, left, decode_escape, named']

/-- An attribute is read after a blank. -/
theorem readAttributes?_cons {text rest : List Char} {pair : String × String} (apart : text.head?.any isBlank = true)
    (first : readAttribute? (text.dropWhile isBlank) = some (pair, rest)) :
    readAttributes? text =
      (readAttributes? rest).map fun (others, ends, after) => (pair :: others, ends, after) := by
  rw [readAttributes?]
  split
  · rename_i after ends
    rw [ends] at first
    cases first
  · rename_i after ends
    rw [ends] at first
    cases first
  · rw [if_pos apart]
    split
    · rename_i failed
      rw [first] at failed
      cases failed
    · rename_i found
      rw [first] at found
      cases found
      rfl

/-- Attributes that were written are read, whatever follows them. -/
theorem readAttributes?_writeAttributes {attributes : List (String × String)}
    (keyed : ∀ pair ∈ attributes, IsName pair.1) (rest : List Char) :
    readAttributes? (writeAttributes attributes ++ rest) =
      (readAttributes? rest).map fun (others, ends, after) => (attributes ++ others, ends, after) := by
  induction attributes with
  | nil => simp [writeAttributes]
  | cons pair others ih =>
    obtain ⟨named, later⟩ := List.forall_mem_cons.mp keyed
    obtain ⟨c, more, spelled, -, inName⟩ := named.exists_cons
    have written : writeAttributes (pair :: others) ++ rest = ' ' :: (pair.1.toList ++ '=' :: '"' ::
        (escape pair.2.toList ++ '"' :: (writeAttributes others ++ rest))) := by
      simp [writeAttributes]
    have first := readAttribute?_written named pair.2 (writeAttributes others ++ rest)
    have apart : (writeAttributes (pair :: others) ++ rest).dropWhile isBlank = pair.1.toList ++ '=' :: '"' ::
        (escape pair.2.toList ++ '"' :: (writeAttributes others ++ rest)) := by
      rw [written, List.dropWhile_cons_of_pos rfl, spelled, List.cons_append,
        List.dropWhile_cons_of_neg (by simp [isBlank_of_isNameChar inName])]
    rw [readAttributes?_cons rfl (apart ▸ first), ih later]
    simp [Function.comp_def]

theorem readTag?_of_name {name : String} (named : IsName name) {rest : List Char}
    (ends : rest.head?.any isNameChar = false) :
    readTag? (name.toList ++ rest) = (readAttributes? rest).map fun (attributes, ends, after) =>
      (if ends then .single name attributes else .opening name attributes, after) := by
  obtain ⟨c, more, spelled, named', inName⟩ := named.exists_cons
  have read := takeWhile_name named ends
  have left := dropWhile_name named ends
  rw [spelled, List.cons_append] at read left ⊢
  rw [readTag?]
  · simp only [read, left, named']
  · rintro other same
    rw [(List.cons.inj same).1] at inName
    cases inName

theorem head_writeAttributes {rest : List Char} (ends : rest.head?.any isNameChar = false)
    (attributes : List (String × String)) : (writeAttributes attributes ++ rest).head?.any isNameChar = false := by
  cases attributes with
  | nil => exact ends
  | cons pair others => rfl

/-- A tag that opens an element is read. -/
theorem readTag?_opening {name : String} {attributes : List (String × String)} (named : IsName name)
    (keyed : ∀ pair ∈ attributes, IsName pair.1) (rest : List Char) :
    readTag? (name.toList ++ (writeAttributes attributes ++ ['>']) ++ rest) =
      some (.opening name attributes, rest) := by
  simp only [List.append_assoc, List.cons_append, List.nil_append]
  rw [readTag?_of_name named (head_writeAttributes rfl attributes), readAttributes?_writeAttributes keyed,
    readAttributes?]
  simp [isBlank]

/-- A tag of an element without content is read. -/
theorem readTag?_single {name : String} {attributes : List (String × String)} (named : IsName name)
    (keyed : ∀ pair ∈ attributes, IsName pair.1) (rest : List Char) :
    readTag? (name.toList ++ (writeAttributes attributes ++ [' ', '/', '>']) ++ rest) =
      some (.single name attributes, rest) := by
  simp only [List.append_assoc, List.cons_append, List.nil_append]
  rw [readTag?_of_name named (head_writeAttributes rfl attributes), readAttributes?_writeAttributes keyed,
    readAttributes?]
  simp [isBlank]

/-- A tag that closes an element is read. -/
theorem readTag?_closing {name : String} (named : IsName name) (rest : List Char) :
    readTag? ('/' :: (name.toList ++ ['>']) ++ rest) = some (.closing name, rest) := by
  obtain ⟨c, more, spelled, named', -⟩ := named.exists_cons
  simp only [List.append_assoc, List.cons_append, List.nil_append]
  rw [readTag?, takeWhile_name named rfl, dropWhile_name named rfl, spelled]
  simp [isBlank, named']

theorem bracket_notMem_name {name : String} (named : IsName name) : '<' ∉ name.toList := fun member =>
  absurd (named.2 '<' member) (by decide)

theorem bracket_notMem_writeAttributes {attributes : List (String × String)}
    (keyed : ∀ pair ∈ attributes, IsName pair.1) : '<' ∉ writeAttributes attributes := by
  intro member
  obtain ⟨pair, isPair, member⟩ := List.mem_flatMap.mp member
  have inKey := bracket_notMem_name (keyed pair isPair)
  have inValue := not_mem_escape (c := '<') rfl (by decide) pair.2.toList
  simp [inKey, inValue] at member

theorem bracket_notMem_openTag {name : String} {attributes : List (String × String)} {ending : List Char}
    (named : IsName name) (keyed : ∀ pair ∈ attributes, IsName pair.1) (plain : '<' ∉ ending) :
    '<' ∉ name.toList ++ (writeAttributes attributes ++ ending) := by
  simp [bracket_notMem_name named, bracket_notMem_writeAttributes keyed, plain]

theorem bracket_notMem_closeTag {name : String} (named : IsName name) : '<' ∉ '/' :: (name.toList ++ ['>']) := by
  simp [bracket_notMem_name named]

theorem bracket_notMem_margin (pretty : Bool) (level : Int) : '<' ∉ margin pretty level := by
  cases pretty <;> simp [margin]

/-! ## Trees -/

namespace Reading

variable (reading : Reading)

/-- Adds children to the content, after text that is skipped. -/
def addChildren (children : List Xml) : Reading :=
  { reading with content := { children := reading.content.children ++ children } }

/-- Text without a tag is added to the content. -/
theorem read?_text {text : List Char} (plain : '<' ∉ text) (rest : List Char) :
    reading.read? (text ++ rest) = (reading.addText text).read? rest := by
  obtain ⟨piece, pieces, cut⟩ := Text.exists_splitAt_eq_cons '<' rest
  simp only [read?, cut, Text.splitAt_append plain cut, addText, List.append_assoc]

/-- A tag takes the reader one step further. -/
theorem read?_tag {reading next : Reading} {written : List Char} {tag : Tag} (plain : '<' ∉ written)
    (readable : ∀ after, readTag? (written ++ after) = some (tag, after)) (stepped : reading.step? tag = some next)
    (rest : List Char) : reading.read? ('<' :: (written ++ rest)) = next.read? rest := by
  obtain ⟨piece, pieces, cut⟩ := Text.exists_splitAt_eq_cons '<' rest
  have cut' : Text.splitAt '<' ('<' :: (written ++ rest)) = [] :: (written ++ piece) :: pieces := by
    rw [Text.splitAt, if_pos rfl, Text.splitAt_append plain cut]
  have first : (reading.addText []).readPiece? (written ++ piece) = some (next.addText piece) := by
    simp [readPiece?, readable, addText, stepped]
  simp [read?, cut, cut', first]

theorem settled_addText {text : List Char} (blank : text.all isBlank = true)
    (settled : reading.content.isSettled = true) : (reading.addText text).content.isSettled = true := by
  simp only [Content.isSettled, addText, List.all_append, Bool.and_eq_true] at settled ⊢
  exact ⟨settled, blank⟩

end Reading

/-- What stands between children. -/
def separator (pretty : Bool) : List Char := if pretty then ['\n'] else []

theorem blank_separator (pretty : Bool) : (separator pretty).all isBlank = true := by
  cases pretty <;> rfl

theorem bracket_notMem_separator (pretty : Bool) : '<' ∉ separator pretty := by
  cases pretty <;> simp [separator]

theorem blank_margin (pretty : Bool) (level : Int) : (margin pretty level).all isBlank = true := by
  cases pretty <;> simp [margin, isBlank]

theorem joinWith_nil (pieces : List (List Char)) : Text.joinWith [] pieces = pieces.flatten := by
  induction pieces with
  | nil => rfl
  | cons piece rest ih =>
    cases rest with
    | nil => simp [Text.joinWith]
    | cons next rest => simp [Text.joinWith, ih]

/-- An element with something between its tags. -/
def enclose (pretty : Bool) (level : Int) (name : String) (attributes : List (String × String)) (inside : List Char) :
    List Char :=
  margin pretty level ++ '<' :: (name.toList ++ (writeAttributes attributes ++ ['>']) ++
    (inside ++ '<' :: ('/' :: (name.toList ++ ['>']))))

theorem write_leaf (pretty : Bool) (level : Int) (name : String) (attributes : List (String × String))
    (content : String) :
    write pretty level (.element name attributes [.text content]) =
      enclose pretty level name attributes (escape content.toList) := by
  simp [write, enclose, openTag, closeTag]

/-- An element with child elements is written between its tags, with the children one by one. -/
theorem write_elements {name : String} {attributes : List (String × String)} {children : List Xml}
    (noText : ∀ content, .text content ∉ children) (nonempty : children ≠ []) (pretty : Bool) (level : Int) :
    write pretty level (.element name attributes children) =
      enclose pretty level name attributes
        (separator pretty ++ (Text.joinWith (separator pretty) (writeAll pretty (level + 1) children) ++
          (separator pretty ++ margin pretty level))) := by
  cases children with
  | nil => exact absurd rfl nonempty
  | cons child others =>
    have notText : ∀ content, child ≠ .text content := by
      rintro content rfl
      exact noText content (.head _)
    rw [write]
    · cases pretty <;> simp [enclose, separator, margin, Text.unlines, openTag, closeTag, joinWith_nil, writeAll]
    · intro content
      simp [notText]

/-- An element is read if what stands between its tags is read. -/
theorem read?_enclose {name : String} {attributes : List (String × String)} (named : IsName name)
    (keyed : ∀ pair ∈ attributes, IsName pair.1) (content : Content) {inside : List Char} {children : List Xml}
    (reads : ∀ enclosing rest,
      Reading.read? { enclosing } (inside ++ '<' :: rest) = Reading.read? { content, enclosing } ('<' :: rest))
    (closes : content.close? = some children) (pretty : Bool) (level : Int) {reading : Reading}
    (settled : reading.content.isSettled = true) (rest : List Char) :
    reading.read? (enclose pretty level name attributes inside ++ rest) =
      (reading.addChild (.element name attributes children)).read? rest := by
  let outside := reading.addText (margin pretty level)
  have indented : outside.content.isSettled = true := reading.settled_addText (blank_margin pretty level) settled
  have opened : outside.step? (.opening name attributes) =
      some { enclosing := ((name, attributes), outside.content) :: reading.enclosing } := if_pos indented
  have closed : Reading.step? { content, enclosing := ((name, attributes), outside.content) :: reading.enclosing }
      (.closing name) = some (reading.addChild (.element name attributes children)) := by
    simp only [Reading.step?, closes, if_true]
    rfl
  have written : enclose pretty level name attributes inside ++ rest = margin pretty level ++
      '<' :: (name.toList ++ (writeAttributes attributes ++ ['>']) ++
        (inside ++ '<' :: ('/' :: (name.toList ++ ['>']) ++ rest))) := by
    simp [enclose]
  rw [written, Reading.read?_text _ (bracket_notMem_margin pretty level),
    Reading.read?_tag (bracket_notMem_openTag named keyed (by decide)) (readTag?_opening named keyed) opened, reads,
    Reading.read?_tag (bracket_notMem_closeTag named) (readTag?_closing named) closed]

/-- Going past what is written for a tree adds a result, whatever was read before and whatever follows. The two differ
where a tree holds ready markup. -/
def IsReadAt (pretty : Bool) (level : Int) (tree result : Xml) : Prop :=
  ∀ (reading : Reading) (rest : List Char), reading.content.isSettled = true →
    reading.read? (write pretty level tree ++ rest) = (reading.addChild result).read? rest

/-- An element without content is read. -/
theorem isReadAt_single {name : String} {attributes : List (String × String)} (named : IsName name)
    (keyed : ∀ pair ∈ attributes, IsName pair.1) (pretty : Bool) (level : Int) :
    IsReadAt pretty level (.element name attributes []) (.element name attributes []) := by
  intro reading rest settled
  have indented : (reading.addText (margin pretty level)).content.isSettled = true :=
    reading.settled_addText (blank_margin pretty level) settled
  have single : (reading.addText (margin pretty level)).step? (.single name attributes) =
      some (reading.addChild (.element name attributes [])) := if_pos indented
  have written : write pretty level (.element name attributes []) ++ rest = margin pretty level ++
      '<' :: (name.toList ++ (writeAttributes attributes ++ [' ', '/', '>']) ++ rest) := by
    simp [write, openTag]
  rw [written, Reading.read?_text _ (bracket_notMem_margin pretty level),
    Reading.read?_tag (bracket_notMem_openTag named keyed (by decide)) (readTag?_single named keyed) single]

section Children

variable {pretty : Bool} {level : Int} {children results : List Xml}

/-- Children are read one after the other, if each of them is read. -/
theorem read?_writeAll (nonempty : children ≠ []) (each : List.Forall₂ (IsReadAt pretty level) children results)
    {reading : Reading} (settled : reading.content.isSettled = true) (rest : List Char) :
    reading.read? (Text.joinWith (separator pretty) (writeAll pretty level children) ++ rest) =
      (reading.addChildren results).read? rest := by
  induction each generalizing reading with
  | nil => exact absurd rfl nonempty
  | @cons child result others results first later ih =>
    cases later with
    | nil => exact first reading rest settled
    | cons next others =>
      have apart : ((reading.addChild result).addText (separator pretty)).content.isSettled = true :=
        Reading.settled_addText _ (blank_separator pretty) rfl
      rw [writeAll, writeAll, Text.joinWith, List.append_assoc, List.append_assoc, first reading _ settled,
        Reading.read?_text _ (bracket_notMem_separator pretty)]
      refine (ih (List.cons_ne_nil _ _) apart).trans ?_
      simp [Reading.addChildren, Reading.addChild, Reading.addText]

/-- An element with children is read, if each of them is read at the next level. -/
theorem isReadAt_elements {name : String} {attributes : List (String × String)} (named : IsName name)
    (keyed : ∀ pair ∈ attributes, IsName pair.1) (noText : ∀ content, .text content ∉ children)
    (nonempty : children ≠ []) (each : List.Forall₂ (IsReadAt pretty (level + 1)) children results) :
    IsReadAt pretty level (.element name attributes children) (.element name attributes results) := by
  intro reading rest settled
  rw [write_elements noText nonempty]
  refine read?_enclose named keyed ⟨results, separator pretty ++ margin pretty level⟩ ?_ ?_ pretty level settled rest
  · -- The first child stands after the blanks that follow the opening tag.
    intro enclosing rest
    have within : (Reading.addText (separator pretty) { enclosing }).content.isSettled = true :=
      Reading.settled_addText _ (blank_separator pretty) rfl
    have between : '<' ∉ separator pretty ++ margin pretty level := by
      simp [bracket_notMem_separator, bracket_notMem_margin]
    rw [List.append_assoc, List.append_assoc, Reading.read?_text _ (bracket_notMem_separator pretty),
      read?_writeAll nonempty each within, Reading.read?_text _ between]
    rfl
  · -- Only blanks follow the last child.
    have blank : Content.isSettled ⟨results, separator pretty ++ margin pretty level⟩ = true := by
      simp only [Content.isSettled, List.all_append, blank_separator, blank_margin, Bool.and_self]
    have nonempty' : results ≠ [] := by
      rintro rfl
      cases each
      exact nonempty rfl
    simp [Content.close?, blank, nonempty']

end Children

theorem Readable.isReadAt {tree : Xml} (readable : tree.Readable) (pretty : Bool) (level : Int) :
    IsReadAt pretty level tree tree := by
  induction readable generalizing level with
  | @elements name attributes children named keyed inner ih =>
    by_cases empty : children = []
    · subst empty
      exact isReadAt_single named keyed pretty level
    · have noText : ∀ content, .text content ∉ children := fun content member => nomatch inner _ member
      have each : List.Forall₂ (IsReadAt pretty (level + 1)) children children :=
        List.forall₂_same.mpr fun child member => ih child member (level + 1)
      exact isReadAt_elements named keyed noText empty each
  | @leaf name attributes content named keyed =>
    intro reading rest settled
    rw [write_leaf]
    refine read?_enclose named keyed ⟨[], escape content.toList⟩ ?_ ?_ pretty level settled rest
    · intro enclosing rest
      exact Reading.read?_text _ (not_mem_escape rfl (by decide) _) _
    · simp [Content.close?, decode_escape]

/-- A tree is read back from its text, on one line and on many, at every level; so all its texts stand for the same
tree. -/
theorem Readable.read?_render {tree : Xml} (readable : tree.Readable) :
    (∀ pretty level, read? (tree.render pretty level) = some tree) ∧
      ∀ level other, read? (tree.render true level) = read? (tree.render false other) := by
  have reads (pretty : Bool) (level : Int) : read? (tree.render pretty level) = some tree := by
    have whole : Reading.read? {} (write pretty level tree ++ []) = _ := readable.isReadAt pretty level {} [] rfl
    rw [List.append_nil] at whole
    rw [read?, render, String.toList_ofList, whole]
    rfl
  exact ⟨reads, fun level other => (reads true level).trans (reads false other).symm⟩

/-- Children of both kinds, attributes and texts with all special characters, and blanks that are kept. -/
theorem Readable.read?_render_mixed :
    let tree : Xml := .element "Part" [("Name", "a<b & \"c\""), ("UId", "21")]
      [.element "Negated" [("Name", "in2")] [], .element "Text" [] [.text " it's > 'x'\n"],
        .element "Empty" [] [.text ""]]
    tree.Readable ∧ read? (tree.render true 3) = some tree ∧ read? (tree.render false 0) = some tree := by
  intro tree
  have readable : tree.Readable := by
    refine .elements (by decide) (by decide) ?_
    simp only [List.forall_mem_cons, List.not_mem_nil, false_implies, implies_true, and_true]
    refine ⟨.elements (by decide) (by decide) nofun, .leaf (by decide) nofun, .leaf (by decide) nofun⟩
  exact ⟨readable, readable.read?_render.1 true 3, readable.read?_render.1 false 0⟩

end StepFlow.Xml
