import StepFlow.Proofs.Layout.Signs

/-! # What becomes of the gaps of a line

All passes over the spacing of a line together make of every gap what the characters next to it say. `tidyFrom`
gives that gap for each cell. The passes change nothing when they are made a second time, because the gaps that
they leave lead to the same decisions.
-/

namespace StepFlow.Layout

open Text Pattern

/-- Whether a character marks a condition. -/
def isMark (c : Char) : Bool := c == '-' || c == '+'

/-- Whether a cell has one space after it on its own account: a spaced sign, or a mark at the start of the
line. -/
def opensGap (prev : Option Char) (joined : Bool) (cell : Cell) (rest : List Cell) : Bool :=
  spacedEquals joined cell rest || cell.char == ':' && prev.any (colonAfter · (nextChar rest)) ||
    prev.isNone && isMark cell.char

/-- The gap after a cell, before the next cell has its say. -/
def openGap (prev : Option Char) (joined : Bool) (cell : Cell) (rest : List Cell) : Gap :=
  if opensGap prev joined cell rest then .one else cell.gap.squeezed

/-- What becomes of the gap after a cell. -/
def tidyGap (prev : Option Char) (joined : Bool) (cell : Cell) (rest : List Cell) : Gap :=
  if rest.isEmpty || spacedColon cell.char rest then .none
  else (leadGap (isRelational cell.char) (openGap prev joined cell rest) rest).squeezed

/-- The cells of a line in uniform spacing. -/
def tidyFrom (prev : Option Char) (joined : Bool) : List Cell → List Cell
  | [] => []
  | cell :: rest =>
    { cell with gap := tidyGap prev joined cell rest } ::
      tidyFrom (some cell.char) (isRelational cell.char && (openGap prev joined cell rest).isEmpty) rest

theorem tidyFrom_cons (prev : Option Char) (joined : Bool) (cell : Cell) (rest : List Cell) :
    tidyFrom prev joined (cell :: rest) =
      { cell with gap := tidyGap prev joined cell rest } ::
        tidyFrom (some cell.char) (isRelational cell.char && (openGap prev joined cell rest).isEmpty) rest := rfl

/-- The cells of a whole line in uniform spacing. -/
def tidy (cells : List Cell) : List Cell := tidyFrom none false cells

theorem colonAfter_of_isRelational {c : Char} (relational : isRelational c) (next : Option Char) :
    colonAfter c next = false := by
  have alone : isWordChar c = false ∧ isDecimal c = false :=
    forall_relational (P := fun c => isWordChar c = false ∧ isDecimal c = false) (by decide +kernel) relational
  simp [colonAfter, alone]

theorem spacedColon_of_isRelational {c : Char} (relational : isRelational c) (cells : List Cell) :
    spacedColon c cells = false := by
  cases cells <;> simp [spacedColon, colonAfter_of_isRelational relational]

theorem ne_colon_of_isRelational {c : Char} (relational : isRelational c) : c ≠ ':' := by
  rintro rfl
  exact absurd relational (by decide)

theorem isMark_of_isRelational {c : Char} (relational : isRelational c) : isMark c = false :=
  forall_relational (P := fun c => isMark c = false) (by decide) relational

/-- The gap after a sign of comparison is no concern of the colons. -/
theorem colonGap_of_isRelational {cell : Cell} (relational : isRelational cell.char) (prev : Option Char)
    (rest : List Cell) : colonGap prev cell rest = cell.gap := by
  simp [colonGap, spacedColon_of_isRelational relational, ne_colon_of_isRelational relational]

theorem openGap_of_isRelational {cell : Cell} (relational : isRelational cell.char) (prev : Option Char)
    (joined : Bool) (rest : List Cell) :
    openGap prev joined cell rest = if spacedEquals joined cell rest then .one else cell.gap.squeezed := by
  simp [openGap, opensGap, isMark_of_isRelational relational, ne_colon_of_isRelational relational]

@[simp] theorem nextChar_spaceColons (prev : Option Char) (cells : List Cell) :
    nextChar (spaceColons prev cells) = nextChar cells := by
  cases cells <;> rfl

/-- The spacing of colons leaves equals signs alone. -/
theorem spacedEquals_spaceColons (joined : Bool) (prev : Option Char) (cell : Cell) (rest : List Cell) :
    spacedEquals joined { cell with gap := colonGap prev cell rest } (spaceColons (some cell.char) rest) =
      spacedEquals joined cell rest := by
  by_cases isEquals : cell.char = '='
  · have relational : isRelational cell.char := by rw [isEquals]; decide
    simp only [spacedEquals, nextChar_spaceColons, colonGap_of_isRelational relational]
  · rw [spacedEquals_of_ne joined cell rest isEquals]
    exact spacedEquals_of_ne joined { cell with gap := colonGap prev cell rest } _ isEquals

theorem leadGap_spaceColons (relational : Bool) (gap : Gap) (prev : Option Char) (cells : List Cell) :
    leadGap relational gap (spaceColons prev cells) = leadGap relational gap cells := by
  cases cells with
  | nil => rfl
  | cons cell rest => simp only [spaceColons, leadGap, spacedEquals_spaceColons]

theorem squeezed_leadGap_squeezed (relational : Bool) (gap : Gap) (cells : List Cell) :
    (leadGap relational gap.squeezed cells).squeezed = (leadGap relational gap cells).squeezed := by
  cases cells with
  | nil => simp [leadGap]
  | cons next after =>
    simp only [leadGap, Gap.isEmpty_squeezed]
    split
    · split
      · exact Gap.squeezed_widen_squeezed gap
      · rfl
    · exact Gap.squeezed_squeezed gap

/-- The gap after a cell, once colons and equals signs are spaced. -/
theorem equalsGap_spaceColons (prev : Option Char) (joined : Bool) (cell : Cell) (rest : List Cell) :
    equalsGap joined { cell with gap := colonGap prev cell rest } (spaceColons (some cell.char) rest) =
      if spacedEquals joined cell rest then .one else colonGap prev cell rest := by
  rw [equalsGap, spacedEquals_spaceColons]

/-- After a sign of comparison both ways to see the gap agree on whether there is one. -/
theorem isEmpty_openGap (prev : Option Char) (joined : Bool) (cell : Cell) (rest : List Cell) :
    (isRelational cell.char && (equalsGap joined { cell with gap := colonGap prev cell rest }
      (spaceColons (some cell.char) rest)).isEmpty) =
      (isRelational cell.char && (openGap prev joined cell rest).isEmpty) := by
  cases relational : isRelational cell.char with
  | false => rfl
  | true =>
    rw [equalsGap_spaceColons, colonGap_of_isRelational relational, openGap_of_isRelational relational]
    cases spacedEquals joined cell rest <;> simp

/-- The passes over colons and equals signs and the squeezing make of a gap what `tidyGap` says. A mark at the
start of the line is for a pass of its own. -/
theorem squeezed_leadGap_spaceColons (prev : Option Char) (joined : Bool) (cell next : Cell) (after : List Cell)
    (unmarked : (prev.isNone && isMark cell.char) = false) :
    (leadGap (isRelational cell.char) (equalsGap joined { cell with gap := colonGap prev cell (next :: after) }
      (spaceColons (some cell.char) (next :: after))) (spaceColons (some cell.char) (next :: after))).squeezed =
      tidyGap prev joined cell (next :: after) := by
  rw [leadGap_spaceColons, equalsGap_spaceColons, tidyGap, List.isEmpty_cons, Bool.false_or, openGap, opensGap,
    unmarked]
  cases spaced : spacedColon cell.char (next :: after) with
  | true =>
    have nextColon : nextChar (next :: after) ≠ some '=' := by
      rw [spacedColon, Bool.and_eq_true, beq_iff_eq] at spaced
      simp [nextChar, spaced.1]
    have notEquals : cell.char ≠ '=' := by
      intro isEquals
      have relational : isRelational cell.char := by rw [isEquals]; decide
      rw [spacedColon_of_isRelational relational] at spaced
      exact absurd spaced Bool.false_ne_true
    rw [leadGap_of_ne nextColon, spacedEquals_of_ne _ _ _ notEquals, colonGap, spaced]
    rfl
  | false =>
    rw [colonGap, spaced, if_neg Bool.false_ne_true, if_neg Bool.false_ne_true, Bool.or_false]
    cases spacedEquals joined cell (next :: after) with
    | true => rfl
    | false =>
      cases cell.char == ':' && prev.any (colonAfter · (nextChar (next :: after))) with
      | true => rfl
      | false => exact (squeezed_leadGap_squeezed ..).symm

/-- The passes over colons and equals signs, the squeezing and the trimming, after the first character. -/
theorem closeLast_spaceEquals (cells : List Cell) (prev : Char) (joined : Bool) :
    closeLast ((spaceEquals joined (spaceColons (some prev) cells)).map Cell.squeezed) =
      tidyFrom (some prev) joined cells := by
  induction cells generalizing prev joined with
  | nil => rfl
  | cons cell rest ih =>
    have later := ih cell.char (isRelational cell.char && (openGap (some prev) joined cell rest).isEmpty)
    cases rest with
    | nil => rfl
    | cons next after =>
      have gap := squeezed_leadGap_spaceColons (some prev) joined cell next after rfl
      have empty := isEmpty_openGap (some prev) joined cell (next :: after)
      calc closeLast ((spaceEquals joined (spaceColons (some prev) (cell :: next :: after))).map Cell.squeezed)
          = { cell with gap := (leadGap (isRelational cell.char)
                (equalsGap joined { cell with gap := colonGap (some prev) cell (next :: after) }
                  (spaceColons (some cell.char) (next :: after)))
                (spaceColons (some cell.char) (next :: after))).squeezed } ::
              closeLast ((spaceEquals (isRelational cell.char &&
                (equalsGap joined { cell with gap := colonGap (some prev) cell (next :: after) }
                  (spaceColons (some cell.char) (next :: after))).isEmpty)
                (spaceColons (some cell.char) (next :: after))).map Cell.squeezed) := rfl
        _ = tidyFrom (some prev) joined (cell :: next :: after) := by rw [empty, later, gap]; rfl

/-- A mark at the start of a line has one space after it. -/
def markFirst : List Cell → List Cell
  | [] => []
  | cell :: rest => (if isMark cell.char then { cell with gap := .one } else cell) :: rest

theorem spaceMark_cells (indent : List Char) (cell : Cell) (rest : List Cell) :
    spaceMark indent (render (cell :: rest)) =
      (if isMark cell.char then [] else indent, render (markFirst (cell :: rest))) := by
  have marks : isMark cell.char = true ↔ cell.char = '-' ∨ cell.char = '+' := by simp [isMark]
  rw [render_cons, spaceMark_cons, dropWhile_blanks_render, markFirst]
  simp only [← marks]
  cases isMark cell.char <;> rfl

/-- The mark of a line is spaced after its signs. -/
theorem spaceMark_render (indent : List Char) (cells : List Cell) :
    spaceMark indent (spaceSigns (render cells)) =
      (if (nextChar cells).any isMark then [] else indent,
        (leadGap false .none (spaceColons none cells)).blanks ++
          render (markFirst (spaceEquals false (spaceColons none cells)))) := by
  rw [spaceSigns_render]
  cases cells with
  | nil => rfl
  | cons cell rest =>
    rw [leadGap_spaceColons, leadGap, Bool.false_and]
    cases spaced : spacedEquals false cell rest with
    | false => exact spaceMark_cells indent _ _
    | true =>
      have isEquals : cell.char = '=' := by
        simp only [spacedEquals, Bool.and_eq_true, beq_iff_eq] at spaced
        exact spaced.1.1
      have unmarked : isMark cell.char = false := by rw [isEquals]; decide
      have first : markFirst (spaceEquals false (spaceColons none (cell :: rest))) =
          spaceEquals false (spaceColons none (cell :: rest)) := by
        rw [spaceColons, spaceEquals, markFirst, unmarked]
        rfl
      rw [first, nextChar, List.head?_cons, Option.map_some, Option.any_some, unmarked]
      exact spaceMark_cons indent ' ' _

theorem tidyGap_of_isMark {cell : Cell} (mark : isMark cell.char) (next : Cell) (after : List Cell) :
    tidyGap none false cell (next :: after) = .one := by
  have alone : ∀ c ∈ ['-', '+'], isRelational c = false ∧ isWordChar c = false ∧ isDecimal c = false :=
    List.forall_iff_forall_mem.mp (by decide +kernel)
  obtain ⟨notRelational, notWord, notDigit⟩ := alone cell.char (by simpa [isMark] using mark)
  have unspaced : spacedColon cell.char (next :: after) = false := by
    simp [spacedColon, colonAfter, notWord, notDigit]
  rw [tidyGap, unspaced, openGap, opensGap, mark, notRelational, leadGap]
  simp only [List.isEmpty_cons, Bool.or_false, Bool.false_eq_true, if_false, Option.isNone_none, Bool.and_true,
    Bool.or_true, if_true, ite_self]
  rfl

theorem closeLast_markFirst (cells : List Cell) :
    closeLast ((markFirst (spaceEquals false (spaceColons none cells))).map Cell.squeezed) = tidy cells := by
  cases cells with
  | nil => rfl
  | cons cell rest =>
    cases rest with
    | nil =>
      rw [spaceColons, spaceEquals, markFirst]
      split <;> rfl
    | cons next after =>
      have later := closeLast_spaceEquals (next :: after) cell.char
        (isRelational cell.char && (openGap none false cell (next :: after)).isEmpty)
      rw [← isEmpty_openGap] at later
      have first : (if isMark cell.char then Gap.one else
          leadGap (isRelational cell.char) (equalsGap false { cell with gap := colonGap none cell (next :: after) }
            (spaceColons (some cell.char) (next :: after))) (spaceColons (some cell.char) (next :: after))).squeezed =
          tidyGap none false cell (next :: after) := by
        cases mark : isMark cell.char with
        | true => exact (tidyGap_of_isMark mark next after).symm
        | false => exact squeezed_leadGap_spaceColons none false cell next after (by rw [mark]; rfl)
      rw [tidy, tidyFrom, ← first, ← isEmpty_openGap, ← later, spaceColons, spaceEquals, markFirst]
      cases isMark cell.char <;> rfl

/-- All passes over the spacing of a line together. -/
theorem tidy_render (indent : List Char) (cells : List Cell) :
    trim (squeeze (spaceMark indent (spaceSigns (render cells))).2) = render (tidy cells) := by
  rw [spaceMark_render, squeeze_render, trim_render, closeLast_markFirst]

@[simp] theorem nextChar_tidyFrom (prev : Option Char) (joined : Bool) (cells : List Cell) :
    nextChar (tidyFrom prev joined cells) = nextChar cells := by
  cases cells <;> rfl

@[simp] theorem spacedColon_tidyFrom (c : Char) (prev : Option Char) (joined : Bool) (cells : List Cell) :
    spacedColon c (tidyFrom prev joined cells) = spacedColon c cells := by
  cases cells with
  | nil => rfl
  | cons next after => simp only [tidyFrom, spacedColon, nextChar_tidyFrom]

theorem isEmpty_leadGap (relational : Bool) {gap : Gap} (nonempty : gap.isEmpty = false) (cells : List Cell) :
    (leadGap relational gap cells).isEmpty = false := by
  cases cells with
  | nil => exact nonempty
  | cons next after =>
    rw [leadGap]
    split
    · cases relational <;> simp
    · exact nonempty

/-- Right after a sign of comparison, no equals sign is spaced. -/
theorem leadGap_of_isEmpty {gap : Gap} (empty : gap.isEmpty) (cells : List Cell) : leadGap true gap cells = gap := by
  cases cells with
  | nil => rfl
  | cons next after => rw [leadGap, empty, Bool.true_and, spacedEquals_of_joined, if_neg Bool.false_ne_true]

theorem isEmpty_leadGap_true (gap : Gap) (cells : List Cell) : (leadGap true gap cells).isEmpty = gap.isEmpty := by
  cases empty : gap.isEmpty with
  | true => rw [leadGap_of_isEmpty empty, empty]
  | false => exact isEmpty_leadGap true empty cells

/-- A gap between a sign of comparison and another character stays, and where there is none, none comes, but after
a spaced equals sign. -/
theorem isEmpty_tidyGap {cell : Cell} (relational : isRelational cell.char) (prev : Option Char) (joined : Bool)
    (next : Cell) (after : List Cell) :
    (tidyGap prev joined cell (next :: after)).isEmpty =
      (!spacedEquals joined cell (next :: after) && cell.gap.isEmpty) := by
  rw [tidyGap, spacedColon_of_isRelational relational, openGap_of_isRelational relational, relational]
  simp only [List.isEmpty_cons, Bool.or_false, Bool.false_eq_true, if_false, Gap.isEmpty_squeezed,
    isEmpty_leadGap_true]
  cases spacedEquals joined cell (next :: after) <;> simp

/-- The same equals signs are spaced in the tidy line. -/
theorem spacedEquals_tidyGap (joined : Bool) (cell : Cell) (rest : List Cell) (prev prev' : Option Char)
    (joined' : Bool) :
    spacedEquals joined { cell with gap := tidyGap prev joined cell rest } (tidyFrom prev' joined' rest) =
      spacedEquals joined cell rest := by
  by_cases isEquals : cell.char = '='
  · have relational : isRelational cell.char := by rw [isEquals]; decide
    cases rest with
    | nil => simp [spacedEquals, tidyFrom, nextChar]
    | cons next after =>
      have empty := isEmpty_tidyGap relational prev joined next after
      rw [spacedEquals, nextChar_tidyFrom, empty, spacedEquals]
      cases joined <;> cases cell.gap.isEmpty <;> cases nextChar (next :: after) == some '=' <;> simp [isEquals]
  · rw [spacedEquals_of_ne joined cell rest isEquals]
    exact spacedEquals_of_ne joined { cell with gap := tidyGap prev joined cell rest } _ isEquals

/-- Each cell of the tidy line hands on what it handed on before. -/
theorem isEmpty_openGap_tidyGap (prev : Option Char) (joined : Bool) (cell next : Cell) (after : List Cell)
    (prev' : Option Char) (joined' : Bool) :
    (isRelational cell.char && (openGap prev joined { cell with gap := tidyGap prev joined cell (next :: after) }
      (tidyFrom prev' joined' (next :: after))).isEmpty) =
      (isRelational cell.char && (openGap prev joined cell (next :: after)).isEmpty) := by
  cases relational : isRelational cell.char with
  | false => rfl
  | true =>
    rw [openGap_of_isRelational relational, openGap_of_isRelational (by exact relational), spacedEquals_tidyGap]
    have empty := isEmpty_tidyGap relational prev joined next after
    cases spaced : spacedEquals joined cell (next :: after) with
    | true => rfl
    | false =>
      rw [spaced] at empty
      simpa using empty

/-- The gap before the next cell is decided as before. -/
theorem leadGap_tidyFrom (relational : Bool) {gap gap' : Gap} (prev : Option Char) (next : Cell) (after : List Cell)
    (agree : (relational && gap'.isEmpty) = (relational && gap.isEmpty)) :
    leadGap relational gap' (tidyFrom prev (relational && gap.isEmpty) (next :: after)) =
      if spacedEquals (relational && gap.isEmpty) next after then if relational then gap'.widen else .one
      else gap' := by
  rw [tidyFrom, leadGap, agree, spacedEquals_tidyGap]

/-- A tidy gap is what becomes of it. -/
theorem tidyGap_tidyGap (prev : Option Char) (joined : Bool) (cell next : Cell) (after : List Cell) :
    tidyGap prev joined { cell with gap := tidyGap prev joined cell (next :: after) }
      (tidyFrom (some cell.char) (isRelational cell.char && (openGap prev joined cell (next :: after)).isEmpty)
        (next :: after)) =
      tidyGap prev joined cell (next :: after) := by
  have agree := isEmpty_openGap_tidyGap prev joined cell next after (some cell.char)
    (isRelational cell.char && (openGap prev joined cell (next :: after)).isEmpty)
  have again : openGap prev joined { cell with gap := tidyGap prev joined cell (next :: after) }
      (tidyFrom (some cell.char) (isRelational cell.char && (openGap prev joined cell (next :: after)).isEmpty)
        (next :: after)) =
      if opensGap prev joined cell (next :: after) then .one
      else (tidyGap prev joined cell (next :: after)).squeezed := by
    rw [openGap, opensGap, spacedEquals_tidyGap, nextChar_tidyFrom]
    rfl
  rw [tidyGap, spacedColon_tidyFrom, leadGap_tidyFrom _ _ _ _ agree, again]
  cases spaced : spacedColon cell.char (next :: after) with
  | true => simp [tidyGap, spaced]
  | false =>
    have gap : tidyGap prev joined cell (next :: after) =
        (leadGap (isRelational cell.char) (openGap prev joined cell (next :: after)) (next :: after)).squeezed := by
      rw [tidyGap, spaced]
      rfl
    rw [gap, leadGap]
    by_cases opens : opensGap prev joined cell (next :: after)
    · simp only [openGap, opens, if_true]
      rfl
    · cases spacedEquals (isRelational cell.char && (openGap prev joined cell (next :: after)).isEmpty) next after <;>
        cases isRelational cell.char <;> simp [openGap, opens, tidyFrom]

/-- The passes over the spacing change nothing when they are made again. -/
theorem tidyFrom_tidyFrom (cells : List Cell) (prev : Option Char) (joined : Bool) :
    tidyFrom prev joined (tidyFrom prev joined cells) = tidyFrom prev joined cells := by
  induction cells generalizing prev joined with
  | nil => rfl
  | cons cell rest ih =>
    cases rest with
    | nil => rfl
    | cons next after =>
      have agree := isEmpty_openGap_tidyGap prev joined cell next after (some cell.char)
        (isRelational cell.char && (openGap prev joined cell (next :: after)).isEmpty)
      have gap := tidyGap_tidyGap prev joined cell next after
      have later := ih (some cell.char)
        (isRelational cell.char && (openGap prev joined cell (next :: after)).isEmpty)
      rw [tidyFrom_cons prev joined cell, tidyFrom_cons, agree, later, gap]

theorem tidy_tidy (cells : List Cell) : tidy (tidy cells) = tidy cells := tidyFrom_tidyFrom cells none false

end StepFlow.Layout
