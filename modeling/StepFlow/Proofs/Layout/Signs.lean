import StepFlow.Proofs.Layout.Cells
import StepFlow.Proofs.Layout.Heads

/-! # The spacing of colons and equals signs

Two searches with replacement space the signs of a line. On cells each is a function that looks at a
character, the one before it and the two after it. A colon is spaced after a word, and after a digit unless a
digit follows as in a time of day; an equals sign is spaced unless it is a part of a comparison.
-/

namespace StepFlow.Layout

open Text Pattern

/-- Whether a colon after a character, with another one or none after it, is spaced. -/
def colonAfter (c : Char) (next : Option Char) : Bool :=
  isWordChar c && !isDecimal c || isDecimal c && !next.any isDecimal

/-- What follows the character before a colon: the rest of the text after the blanks around the colon. -/
def readColon? (c : Char) (rest : List Char) : Option (List Char) :=
  match rest.dropWhile isBlank with
  | [] => none
  | d :: tail =>
    if d = ':' ∧ colonAfter c (tail.dropWhile isBlank).head? then some (tail.dropWhile isBlank) else none

theorem matchAt?_colon (before : List Char) (c : Char) (rest : List Char) :
    (colon.matchAt? before (c :: rest)).map (fun found =>
      (if (found.kept 1).isEmpty then found.kept 2 else found.kept 1, found.rest)) =
      (readColon? c rest).map ([c], ·) := by
  have wordTest : (CharTest.set [.ofKind .word false true, .ofKind .decimal false false] .exact true).holds c =
      (isWordChar c && !isDecimal c) := by
    simp [CharTest.holds, SetItem.holds, CharKind.holds]
  have sign : ∀ {d : Char}, isBlank d → (':' == d) = false := by
    intro d blank
    rw [beq_eq_false_iff_ne]
    rintro rfl
    exact not_mem_layoutSigns_of_isBlank blank (by decide)
  have text : ∀ index, (Capture.mk index (c :: rest) rest).text = [c] := fun index => capture_text index [c] rest
  rw [matchAt?_eq, colon, andThen?_either, readColon?]
  simp only [andThen?_concat_cons, andThen?_group, mark, andThen?_one_cons, wordTest, CharTest.decimal_holds]
  rw [andThen?_blanks, andThen?_blanks]
  · cases dropped : rest.dropWhile isBlank with
    | nil => simp
    | cons d tail =>
      by_cases isColon : d = ':'
      · subst isColon
        cases word : isWordChar c <;> cases digit : isDecimal c <;>
          cases next : (tail.dropWhile isBlank).head?.any isDecimal <;>
          simp [colonAfter, word, digit, next, digitAhead, Match.rest, text, Place.kept?]
      · simp [isColon, beq_eq_false_iff_ne.mpr (Ne.symm isColon)]
  · intro before d tail blank
    simp [sign blank]
  · intro before d tail blank
    simp [sign blank]

theorem colonAfter_of_isBlank {c : Char} (blank : isBlank c) (next : Option Char) : colonAfter c next = false := by
  simp [colonAfter, isWordChar_of_isBlank blank, isDecimal_of_isBlank blank]

@[simp] theorem colonAfter_colon (next : Option Char) : colonAfter ':' next = false := by
  simp [colonAfter, show isWordChar ':' = false by decide +kernel, show isDecimal ':' = false by decide]

/-- Whether a colon follows that is spaced. -/
def spacedColon (c : Char) : List Cell → Bool
  | [] => false
  | next :: after => next.char == ':' && colonAfter c (nextChar after)

@[simp] theorem spacedColon_colon (cells : List Cell) : spacedColon ':' cells = false := by
  cases cells <;> simp [spacedColon]

theorem readColon?_render (c : Char) (gap : Gap) (cells : List Cell) :
    readColon? c (gap.blanks ++ render cells) =
      if spacedColon c cells then some (render cells.tail) else none := by
  rw [readColon?, dropWhile_blanks_render]
  cases cells with
  | nil => rfl
  | cons next after => simp [spacedColon]

/-- What the spacing of colons makes of a gap: nothing before a spaced colon, one space after it. -/
def colonGap (prev : Option Char) (cell : Cell) (rest : List Cell) : Gap :=
  if spacedColon cell.char rest then .none
  else if cell.char == ':' && prev.any (colonAfter · (nextChar rest)) then .one
  else cell.gap

/-- The cells of a line after its colons are spaced. -/
def spaceColons (prev : Option Char) : List Cell → List Cell
  | [] => []
  | cell :: rest => { cell with gap := colonGap prev cell rest } :: spaceColons (some cell.char) rest

theorem render_spaceColons_cons (prev : Option Char) (cell : Cell) (rest : List Cell) :
    render (spaceColons prev (cell :: rest)) =
      cell.char :: ((colonGap prev cell rest).blanks ++ render (spaceColons (some cell.char) rest)) := rfl

/-- The text that replaces a colon with the character before it. -/
def colonText (found : Match) : List Char :=
  (if (found.kept 1).isEmpty then found.kept 2 else found.kept 1) ++ [':', ' ']

theorem matchAt?_colon_of_none {before : List Char} {c : Char} {rest : List Char}
    (unread : readColon? c rest = none) : colon.matchAt? before (c :: rest) = none := by
  have found := matchAt?_colon before c rest
  rw [unread] at found
  exact Option.map_eq_none_iff.mp found

theorem replaceFrom_colon_blanks (before : List Char) (gap : Gap) (text : List Char) :
    colon.replaceFrom colonText 0 before (gap.blanks ++ text) =
      gap.blanks ++ colon.replaceFrom colonText 0 (gap.blanks.reverse ++ before) text := by
  obtain ⟨blanks, blank⟩ := gap
  induction blanks generalizing before with
  | nil => rfl
  | cons c blanks ih =>
    rw [List.all_cons, Bool.and_eq_true] at blank
    have unread : readColon? c (blanks ++ text) = none := by
      rw [readColon?]
      split <;> simp [colonAfter_of_isBlank blank.1]
    rw [List.cons_append, replaceFrom_of_none _ _ _ (matchAt?_colon_of_none unread)]
    simpa using ih (c :: before) blank.2

/-- A character after which no spaced colon follows stays as it is, with its gap. -/
theorem replaceFrom_colon_unspaced (before : List Char) (cell : Cell) (rest : List Cell)
    (unspaced : spacedColon cell.char rest = false) :
    colon.replaceFrom colonText 0 before (render (cell :: rest)) =
      cell.char :: (cell.gap.blanks ++
        colon.replaceFrom colonText 0 (cell.gap.blanks.reverse ++ cell.char :: before) (render rest)) := by
  have unread : readColon? cell.char (cell.gap.blanks ++ render rest) = none := by
    rw [readColon?_render, unspaced, if_neg Bool.false_ne_true]
  rw [render_cons, replaceFrom_of_none _ _ _ (matchAt?_colon_of_none unread), replaceFrom_colon_blanks]

theorem replaceFrom_colon_spaced (before : List Char) (cell next : Cell) (after : List Cell)
    (spaced : spacedColon cell.char (next :: after)) :
    colon.replaceFrom colonText 0 before (render (cell :: next :: after)) =
      cell.char :: ':' :: ' ' :: colon.replaceFrom colonText 0
        ((cell.gap.blanks ++ next.char :: next.gap.blanks).reverse ++ cell.char :: before) (render after) := by
  have found := matchAt?_colon before cell.char (cell.gap.blanks ++ render (next :: after))
  rw [readColon?_render, spaced, if_pos rfl] at found
  obtain ⟨found, matched, shape⟩ := Option.map_eq_some_iff.mp found
  obtain ⟨kept, rest⟩ := Prod.mk.inj shape
  have text : render (cell :: next :: after) =
      cell.char :: ((cell.gap.blanks ++ next.char :: next.gap.blanks) ++ render after) := by simp
  have matched' : colon.matchAt? before
      (cell.char :: ((cell.gap.blanks ++ next.char :: next.gap.blanks) ++ render after)) = some found := by
    rw [← text]
    exact matched
  rw [text, replaceFrom_of_some _ _ _ matched' rest, colonText, kept]
  rfl

/-- Colons are spaced from left to right. The first cell is no colon that belongs to what stands before it. -/
theorem replaceFrom_colon : ∀ (cells : List Cell) (before : List Char) (prev : Option Char),
    (∀ cell ∈ cells.head?, cell.char = ':' → prev.any (colonAfter · (nextChar cells.tail)) = false) →
    colon.replaceFrom colonText 0 before (render cells) = render (spaceColons prev cells)
  | [], _, _, _ => rfl
  | [cell], before, prev, first => by
    have kept : colonGap prev cell [] = cell.gap := by
      rw [colonGap, spacedColon, if_neg Bool.false_ne_true, if_neg]
      rw [Bool.and_eq_true, beq_iff_eq]
      rintro ⟨isColon, spaced⟩
      exact absurd spaced (by simpa using first cell rfl isColon)
    rw [replaceFrom_colon_unspaced before cell [] rfl, render_spaceColons_cons, kept]
    rfl
  | cell :: next :: after, before, prev, first => by
    cases spaced : spacedColon cell.char (next :: after) with
    | true =>
      have isColon : next.char = ':' := by
        rw [spacedColon, Bool.and_eq_true, beq_iff_eq] at spaced
        exact spaced.1
      have here : colonGap prev cell (next :: after) = .none := by rw [colonGap, spaced, if_pos rfl]
      have there : colonGap (some cell.char) next after = .one := by
        rw [spacedColon, Bool.and_eq_true] at spaced
        rw [colonGap, isColon, spacedColon_colon, if_neg Bool.false_ne_true, if_pos]
        simpa using spaced.2
      have rest := replaceFrom_colon after
        ((cell.gap.blanks ++ next.char :: next.gap.blanks).reverse ++ cell.char :: before) (some ':')
        (by simp)
      rw [replaceFrom_colon_spaced before cell next after spaced, rest, render_spaceColons_cons,
        render_spaceColons_cons, here, there, isColon]
      rfl
    | false =>
      have kept : colonGap prev cell (next :: after) = cell.gap := by
        rw [colonGap, spaced, if_neg Bool.false_ne_true, if_neg]
        rw [Bool.and_eq_true, beq_iff_eq]
        rintro ⟨isColon, belongs⟩
        exact absurd belongs (by simpa using first cell rfl isColon)
      have rest := replaceFrom_colon (next :: after) (cell.gap.blanks.reverse ++ cell.char :: before)
        (some cell.char) (by
          intro other isNext isColon
          cases isNext
          simpa [spacedColon, isColon] using spaced)
      rw [replaceFrom_colon_unspaced before cell _ spaced, rest, render_spaceColons_cons prev, kept]

/-- The signs of comparisons, of which an equals sign may be a part. -/
def isRelational (c : Char) : Bool := "=<>!".toList.contains c

/-- What is true of every sign of comparison in the list is true of every sign of comparison. -/
theorem forall_relational {P : Char → Prop} (all : "=<>!".toList.Forall P) {c : Char} (relational : isRelational c) :
    P c :=
  List.forall_iff_forall_mem.mp all c (List.contains_iff_mem.mp relational)

theorem mem_layoutSigns_of_isRelational {c : Char} (relational : isRelational c) : c ∈ layoutSigns :=
  forall_relational (P := (· ∈ layoutSigns)) (by decide) relational

theorem isRelational_of_isBlank {c : Char} (blank : isBlank c) : isRelational c = false :=
  Bool.eq_false_iff.mpr fun relational =>
    not_mem_layoutSigns_of_isBlank blank (mem_layoutSigns_of_isRelational relational)

/-- What follows a single equals sign and the blanks around it. -/
def readEquals? (text : List Char) : Option (List Char) :=
  match text.dropWhile isBlank with
  | [] => none
  | d :: tail => if d = '=' ∧ tail.head? ≠ some '=' then some (tail.dropWhile isBlank) else none

theorem matchAt?_equalsSign (before after : List Char) :
    (equalsSign.matchAt? before after).map Match.rest =
      if before.head?.any isRelational then none else readEquals? after := by
  have sign : ∀ {d : Char}, isBlank d → ('=' == d) = false := by
    intro d blank
    rw [beq_eq_false_iff_ne]
    rintro rfl
    exact not_mem_layoutSigns_of_isBlank blank (by decide)
  -- The search after the look behind.
  have body : ∀ before, ((concat [blanks, mark '=', ahead false (mark '='), blanks]).andThen? some
      ⟨before, after, []⟩).map Place.after = readEquals? after := by
    intro before
    rw [andThen?_concat_cons, andThen?_blanks, readEquals?]
    · cases dropped : after.dropWhile isBlank with
      | nil => simp [mark]
      | cons d tail =>
        by_cases isEquals : d = '='
        · cases tail with
          | nil => simp [isEquals, mark]
          | cons e rest =>
            by_cases again : e = '='
            · simp [isEquals, again, mark]
            · simp [isEquals, again, mark, Ne.symm again]
        · simp [isEquals, mark, Ne.symm isEquals]
    · intro before d tail blank
      simp [mark, sign blank]
  rw [matchAt?_eq, equalsSign, andThen?_concat_cons, Option.map_map]
  cases before with
  | nil =>
    rw [andThen?_behind_nil]
    exact body []
  | cons c before =>
    rw [andThen?_behind_cons, oneOf, andThen?_one_cons, CharTest.oneOf_holds, List.head?_cons, Option.any_some,
      isRelational]
    cases "=<>!".toList.contains c with
    | true => rfl
    | false => exact body (c :: before)

/-- Whether a cell holds an equals sign that is spaced; `joined` tells that it directly follows a sign with
which it makes a comparison. -/
def spacedEquals (joined : Bool) (cell : Cell) (rest : List Cell) : Bool :=
  cell.char == '=' && !joined && !(cell.gap.isEmpty && nextChar rest == some '=')

/-- What becomes of the gap before the next cell: one space before a spaced equals sign. A sign of comparison
before the gap keeps its first blank. -/
def leadGap (relational : Bool) (gap : Gap) : List Cell → Gap
  | [] => gap
  | next :: after =>
    if spacedEquals (relational && gap.isEmpty) next after then if relational then gap.widen else .one else gap

/-- The gap after a cell once the cell's own equals sign is spaced. -/
def equalsGap (joined : Bool) (cell : Cell) (rest : List Cell) : Gap :=
  if spacedEquals joined cell rest then .one else cell.gap

/-- The cells of a line after its equals signs are spaced. -/
def spaceEquals (joined : Bool) : List Cell → List Cell
  | [] => []
  | cell :: rest =>
    let gap := equalsGap joined cell rest
    { cell with gap := leadGap (isRelational cell.char) gap rest } ::
      spaceEquals (isRelational cell.char && gap.isEmpty) rest

theorem render_spaceEquals_cons (joined : Bool) (cell : Cell) (rest : List Cell) :
    render (spaceEquals joined (cell :: rest)) =
      cell.char :: ((leadGap (isRelational cell.char) (equalsGap joined cell rest) rest).blanks ++
        render (spaceEquals (isRelational cell.char && (equalsGap joined cell rest).isEmpty) rest)) := rfl

/-- The text that replaces an equals sign. -/
def equalsText (_ : Match) : List Char := [' ', '=', ' ']

theorem readEquals?_render (gap : Gap) (cell : Cell) (rest : List Cell) :
    readEquals? (gap.blanks ++ render (cell :: rest)) =
      if spacedEquals false cell rest then some (render rest) else none := by
  have next : (cell.gap.blanks ++ render rest).head? = some '=' ↔ cell.gap.isEmpty ∧ nextChar rest = some '=' := by
    cases blanks : cell.gap.blanks with
    | nil => simp [Gap.isEmpty, blanks]
    | cons c more =>
      have blank := List.all_eq_true.mp cell.gap.blank c (by simp [blanks])
      have differs : c ≠ '=' := by
        rintro rfl
        exact not_mem_layoutSigns_of_isBlank blank (by decide)
      simp [Gap.isEmpty, blanks, differs]
  have spaced : spacedEquals false cell rest = true ↔
      cell.char = '=' ∧ ¬(cell.gap.isEmpty ∧ nextChar rest = some '=') := by
    rw [spacedEquals]
    cases cell.gap.isEmpty <;> simp
  rw [readEquals?, dropWhile_blanks_render, render_cons]
  simp only [ne_eq, next, dropWhile_blanks_render, spaced]

theorem matchAt?_equalsSign_of_unspaced (before : List Char) {text : List Char} (unread : readEquals? text = none) :
    equalsSign.matchAt? before text = none := by
  have found := matchAt?_equalsSign before text
  rw [unread, ite_self] at found
  exact Option.map_eq_none_iff.mp found

/-- No sign is found right after a sign of comparison. -/
theorem matchAt?_equalsSign_of_relational {before : List Char} (relational : before.head?.any isRelational = true)
    (text : List Char) : equalsSign.matchAt? before text = none := by
  have found := matchAt?_equalsSign before text
  rw [relational, if_pos rfl] at found
  exact Option.map_eq_none_iff.mp found

theorem replaceFrom_equals_blanks (before : List Char) (gap : Gap) :
    equalsSign.replaceFrom equalsText 0 before gap.blanks = gap.blanks := by
  obtain ⟨blanks, blank⟩ := gap
  induction blanks generalizing before with
  | nil => rfl
  | cons c blanks ih =>
    have unread : readEquals? (c :: blanks) = none := by
      rw [readEquals?, List.dropWhile_eq_nil_iff.mpr (List.all_eq_true.mp blank)]
    rw [List.all_cons, Bool.and_eq_true] at blank
    rw [replaceFrom_of_none _ _ _ (matchAt?_equalsSign_of_unspaced _ unread), ih (c :: before) blank.2]

/-- A cell without a spaced equals sign stays as it is, with the gap before it. -/
theorem replaceFrom_equals_unspaced (before : List Char) (gap : Gap) (cell : Cell) (rest : List Cell)
    (unspaced : spacedEquals false cell rest = false) :
    equalsSign.replaceFrom equalsText 0 before (gap.blanks ++ render (cell :: rest)) =
      gap.blanks ++ cell.char :: equalsSign.replaceFrom equalsText 0
        (cell.char :: (gap.blanks.reverse ++ before)) (cell.gap.blanks ++ render rest) := by
  have unread : ∀ gap : Gap, readEquals? (gap.blanks ++ render (cell :: rest)) = none := by
    intro gap
    rw [readEquals?_render, unspaced, if_neg Bool.false_ne_true]
  obtain ⟨blanks, blank⟩ := gap
  induction blanks generalizing before with
  | nil => exact replaceFrom_of_none _ _ _ (matchAt?_equalsSign_of_unspaced _ (unread .none))
  | cons c blanks ih =>
    have here := matchAt?_equalsSign_of_unspaced before (unread ⟨c :: blanks, blank⟩)
    rw [List.all_cons, Bool.and_eq_true] at blank
    rw [List.cons_append] at here ⊢
    rw [replaceFrom_of_none _ _ _ here]
    simpa using ih (c :: before) blank.2

/-- A spaced equals sign is replaced with the gaps around it. -/
theorem replaceFrom_equals_spaced (before : List Char) (gap : Gap) (cell : Cell) (rest : List Cell)
    (free : before.head?.any isRelational = false) (spaced : spacedEquals false cell rest) :
    equalsSign.replaceFrom equalsText 0 before (gap.blanks ++ render (cell :: rest)) =
      ' ' :: '=' :: ' ' :: equalsSign.replaceFrom equalsText 0
        (cell.gap.blanks.reverse ++ cell.char :: (gap.blanks.reverse ++ before)) (render rest) := by
  have found := matchAt?_equalsSign before (gap.blanks ++ render (cell :: rest))
  rw [free, if_neg Bool.false_ne_true, readEquals?_render, spaced, if_pos rfl] at found
  obtain ⟨found, matched, stops⟩ := Option.map_eq_some_iff.mp found
  cases blanks : gap.blanks with
  | nil =>
    rw [blanks] at matched
    exact replaceFrom_of_some equalsSign equalsText before matched stops
  | cons c more =>
    have text : gap.blanks ++ render (cell :: rest) =
        c :: ((more ++ cell.char :: cell.gap.blanks) ++ render rest) := by simp [blanks]
    rw [text] at matched
    rw [← blanks, text, replaceFrom_of_some equalsSign equalsText before matched stops]
    simp [equalsText, blanks]

theorem spacedEquals_of_ne (joined : Bool) (cell : Cell) (rest : List Cell) (differs : cell.char ≠ '=') :
    spacedEquals joined cell rest = false := by
  simp [spacedEquals, differs]

theorem char_of_spacedEquals {joined : Bool} {cell : Cell} {rest : List Cell}
    (spaced : spacedEquals joined cell rest = true) : cell.char = '=' := by
  simp only [spacedEquals, Bool.and_eq_true, beq_iff_eq] at spaced
  exact spaced.1.1

/-- A gap stands between a spaced equals sign and an equals sign after it. -/
theorem head?_reverse_blanks_of_spacedEquals {cell : Cell} {rest : List Cell}
    (spaced : spacedEquals false cell rest = true) (next : nextChar rest = some '=') (before : List Char) :
    (cell.gap.blanks.reverse ++ cell.char :: before).head?.any isRelational = false := by
  cases last : cell.gap.blanks.reverse with
  | nil =>
    simp [spacedEquals, char_of_spacedEquals spaced, next, Gap.isEmpty, List.reverse_eq_nil_iff.mp last] at spaced
  | cons c more =>
    have member : c ∈ cell.gap.blanks := List.mem_reverse.mp (last ▸ .head _)
    exact isRelational_of_isBlank (List.all_eq_true.mp cell.gap.blank c member)

theorem spacedEquals_of_joined (cell : Cell) (rest : List Cell) : spacedEquals true cell rest = false := by
  simp [spacedEquals]

theorem unspaced_of_unspaced {cell : Cell} {rest : List Cell} (unspaced : spacedEquals false cell rest = false)
    (joined : Bool) : spacedEquals joined cell rest = false := by
  cases joined with
  | false => exact unspaced
  | true => exact spacedEquals_of_joined cell rest

theorem spaceEquals_of_ne {cells : List Cell} (differs : nextChar cells ≠ some '=') (joined : Bool) :
    spaceEquals joined cells = spaceEquals false cells := by
  cases cells with
  | nil => rfl
  | cons cell rest =>
    have unspaced := fun joined => spacedEquals_of_ne joined cell rest (by simpa [nextChar] using differs)
    simp only [spaceEquals, equalsGap, unspaced]

theorem leadGap_of_ne {cells : List Cell} (differs : nextChar cells ≠ some '=') (relational : Bool) (gap : Gap) :
    leadGap relational gap cells = gap := by
  cases cells with
  | nil => rfl
  | cons cell rest =>
    rw [leadGap, spacedEquals_of_ne _ _ _ (by simpa [nextChar] using differs), if_neg Bool.false_ne_true]

/-- The space before a spaced equals sign makes up for the gap that was used up before it. -/
theorem cons_blanks_leadGap (cells : List Cell) :
    ' ' :: (leadGap false .none cells).blanks = (leadGap true .one cells).blanks := by
  cases cells with
  | nil => rfl
  | cons next after =>
    simp only [leadGap, Bool.false_and, Gap.isEmpty_one, Bool.and_false]
    split <;> rfl

/-- Equals signs are spaced from left to right. -/
theorem replaceFrom_equals (cells : List Cell) (before : List Char) (gap : Gap) :
    equalsSign.replaceFrom equalsText 0 before (gap.blanks ++ render cells) =
      (leadGap (before.head?.any isRelational) gap cells).blanks ++
        render (spaceEquals (before.head?.any isRelational && gap.isEmpty) cells) := by
  induction cells generalizing before gap with
  | nil => simpa [leadGap, spaceEquals] using replaceFrom_equals_blanks before gap
  | cons cell rest ih =>
    -- After a replaced sign the gap that follows is used up, and the space written for it stands in its place.
    have afterSign : ∀ before, (nextChar rest = some '=' → before.head?.any isRelational = false) →
        ' ' :: equalsSign.replaceFrom equalsText 0 before (render rest) =
          (leadGap true .one rest).blanks ++ render (spaceEquals false rest) := by
      intro before free
      have later := ih before .none
      by_cases isEquals : nextChar rest = some '='
      · rw [free isEquals] at later
        rw [← cons_blanks_leadGap]
        exact congrArg (' ' :: ·) later
      · rw [leadGap_of_ne isEquals, spaceEquals_of_ne isEquals] at later
        rw [leadGap_of_ne isEquals]
        exact congrArg (' ' :: ·) later
    cases spaced : spacedEquals false cell rest with
    | false =>
      have here := unspaced_of_unspaced spaced
      rw [replaceFrom_equals_unspaced before gap cell rest spaced, ih, render_spaceEquals_cons, leadGap, equalsGap,
        here]
      rfl
    | true =>
      have isEquals := char_of_spacedEquals spaced
      cases relational : before.head?.any isRelational with
      | false =>
        have tail := afterSign (cell.gap.blanks.reverse ++ cell.char :: (gap.blanks.reverse ++ before))
          fun next => head?_reverse_blanks_of_spacedEquals spaced next _
        rw [replaceFrom_equals_spaced before gap cell rest relational spaced, tail, render_spaceEquals_cons, leadGap,
          equalsGap, Bool.false_and, spaced, isEquals]
        rfl
      | true =>
        -- The sign before the gap is looked at where the gap begins, and nowhere else.
        have blocked := matchAt?_equalsSign_of_relational relational
        cases blanks : gap.blanks with
        | nil =>
          have empty : gap = .none := Gap.ext blanks
          rw [List.nil_append, render_cons, replaceFrom_of_none _ _ _ (blocked ..), ih, empty, render_spaceEquals_cons,
            leadGap, equalsGap, Gap.isEmpty_none, Bool.and_true, spacedEquals_of_joined]
          rfl
        | cons c more =>
          have blank := gap.blank
          rw [blanks, List.all_cons, Bool.and_eq_true] at blank
          have tail := afterSign (cell.gap.blanks.reverse ++ cell.char :: (more.reverse ++ c :: before))
            fun next => head?_reverse_blanks_of_spacedEquals spaced next _
          have rest' := replaceFrom_equals_spaced (c :: before) ⟨more, blank.2⟩ cell rest
            (isRelational_of_isBlank blank.1) spaced
          have nonempty : gap.isEmpty = false := by simp [Gap.isEmpty, blanks]
          rw [List.cons_append, replaceFrom_of_none _ _ _ (blocked ..), rest', tail, render_spaceEquals_cons, leadGap,
            equalsGap, nonempty, Bool.and_false, spaced, isEquals]
          simp [Gap.widen, blanks, isRelational]

theorem spaceSigns_render (cells : List Cell) :
    spaceSigns (render cells) =
      (leadGap false .none (spaceColons none cells)).blanks ++
        render (spaceEquals false (spaceColons none cells)) := by
  have colons : colon.replace colonText (render cells) = render (spaceColons none cells) :=
    replaceFrom_colon cells [] none (by simp)
  calc spaceSigns (render cells)
      = equalsSign.replace equalsText (colon.replace colonText (render cells)) := rfl
    _ = equalsSign.replace equalsText (render (spaceColons none cells)) := by rw [colons]
    _ = _ := replaceFrom_equals (spaceColons none cells) [] .none

end StepFlow.Layout
