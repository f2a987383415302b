import StepFlow.Layout
import StepFlow.Proofs.Pattern.Keyword

/-! # Reading the heads of lines

The patterns of declarations and transitions are read from left to right without backtracking: a keyword has
one reading, and blanks, digits and punctuation are told apart by one character. Here each pattern gets its
reader, a function on the text, and the canonical forms of lines are stated with the readers.
-/

namespace StepFlow.Layout

open Text Pattern

/-- The keyword of a rest declaration and what follows its head. -/
def readRestHead? (dialect : Dialect) (text : List Char) : Option (List Char × List Char) :=
  (keyword? dialect.stepWords.rest text).bind fun (word, rest) =>
    match rest.dropWhile isBlank with
    | [] => some (word, [])
    | c :: rest =>
      if c = ':' ∨ c = '.' then some (word, rest.dropWhile isBlank)
      else if c = '(' then some (word, c :: rest)
      else none

/-- What may stand between the keyword and the number of a declaration. -/
def isLoose (c : Char) : Bool := c == '-' || c == '.' || c == '(' || isBlank c

/-- The keyword and the number of a declaration, and what follows its head. -/
def readNumberedHead? (dialect : Dialect) (text : List Char) :
    Option (List Char × List Char × List Char) :=
  (keyword? dialect.stepWords.step text).bind fun (word, rest) =>
    let numbered := rest.dropWhile isLoose
    if (numbered.takeWhile isDecimal).isEmpty then none
    else
      some (word, numbered.takeWhile isDecimal,
        (((numbered.dropWhile isDecimal).dropWhile isBlank).dropWhile (":.)".toList.contains ·)).dropWhile
          isBlank)

/-- The keyword of a declaration without a number and what follows its head. -/
def readUnnumberedHead? (dialect : Dialect) (text : List Char) : Option (List Char × List Char) :=
  (keyword? dialect.stepWords.step text).bind fun (word, rest) =>
    match rest.dropWhile isBlank with
    | [] => none
    | c :: rest =>
      if (c = ':' ∨ c = '.') ∧ !(rest.dropWhile isBlank).head?.any isDecimal then
        some (word, rest.dropWhile isBlank)
      else none

/-- Whether a text starts with a whole declaration head. -/
def hasDeclarationHead (dialect : Dialect) (text : List Char) : Bool :=
  (keyword? dialect.declarationWords text).any fun (_, rest) =>
    (((rest.dropWhile isBlank).dropWhile isDecimal).dropWhile isBlank).head? == some ':'

/-- What follows the plus sign of a transition, if there is one, and whether there is. -/
def readPlus (text : List Char) : Bool × List Char :=
  match text with
  | '+' :: rest => (true, rest.dropWhile isBlank)
  | _ => (false, text)

/-- The keyword and the number of a transition. -/
def readTransition? (dialect : Dialect) (text : List Char) : Option (List Char × List Char) :=
  (stripWord? dialect.conditions.transition.toList text).bind fun (_, rest) =>
    if startsBlank rest then
      (keyword? dialect.stepWords.step (rest.dropWhile isBlank)).bind fun (word, rest) =>
        let numbered := rest.dropWhile isBlank
        if startsBlank rest ∧ !(numbered.takeWhile isDecimal).isEmpty ∧
            ((numbered.dropWhile isDecimal).dropWhile isBlank).isEmpty then
          some (word, numbered.takeWhile isDecimal)
        else none
    else none

@[simp] theorem isEmpty_takeWhile_isBlank (text : List Char) :
    (text.takeWhile isBlank).isEmpty = !startsBlank text := by
  cases text with
  | nil => rfl
  | cons c rest => cases blank : isBlank c <;> simp [startsBlank, blank]

theorem capture_text (index : Nat) (taken rest : List Char) :
    (Capture.mk index (taken ++ rest) rest).text = taken := by
  simp [Capture.text]

/-- The text between two places of one text. -/
theorem capture_text_takeWhile (index : Nat) (test : Char → Bool) (text : List Char) :
    (Capture.mk index text (text.dropWhile test)).text = text.takeWhile test := by
  have split := List.takeWhile_append_dropWhile (p := test) (l := text)
  calc (Capture.mk index text (text.dropWhile test)).text
      = (Capture.mk index (text.takeWhile test ++ text.dropWhile test) (text.dropWhile test)).text := by
        rw [split]
    _ = text.takeWhile test := capture_text ..

/-- What may stand between the keyword and the number of a declaration. -/
def looseTest : CharTest := .set [.char '-', .char '.', .char '(', .ofKind .blank false false] .exact false

theorem looseTest_holds_eq : looseTest.holds = isLoose := by
  funext c
  simp [looseTest, CharTest.holds, isLoose, Bool.or_assoc]

theorem isDecimal_of_isLoose {c : Char} (loose : isLoose c) : isDecimal c = false := by
  simp only [isLoose, Bool.or_eq_true, beq_iff_eq] at loose
  rcases loose with ((rfl | rfl) | rfl) | blank
  · decide
  · decide
  · decide
  · exact isDecimal_of_isBlank blank

/-- What may follow the number of a declaration. -/
def numberTail : Pattern := .concat [.blanks, .span (.oneOf ":.)") .anyNumber true, .blanks]

/-- What follows the number is passed as a whole, and there may be nothing. -/
theorem andThen?_numberTail (before after : List Char) (captures : List Capture) :
    ∃ reached, numberTail.andThen? some ⟨before, after, captures⟩ =
      some ⟨reached, ((after.dropWhile isBlank).dropWhile (":.)".toList.contains ·)).dropWhile isBlank,
        captures⟩ := by
  have signs : (CharTest.oneOf ":.)").holds = (":.)".toList.contains ·) := funext (CharTest.oneOf_holds ":.)")
  have last : ∀ before after, ((concat [blanks]).andThen? some) ⟨before, after, captures⟩ =
      some ⟨(after.takeWhile isBlank).reverse ++ before, after.dropWhile isBlank, captures⟩ :=
    fun before after => andThen?_blanks_some before captures after
  have middle : ∀ before after, (concat [span (.oneOf ":.)") .anyNumber true, blanks]).andThen? some
      ⟨before, after, captures⟩ = (concat [blanks]).andThen? some
        ⟨(after.takeWhile (":.)".toList.contains ·)).reverse ++ before,
          after.dropWhile (":.)".toList.contains ·), captures⟩ := by
    intro before after
    rw [andThen?_concat_cons, andThen?_span, signs]
    intro failed
    rw [last] at failed
    exact absurd failed (by simp)
  have front : numberTail.andThen? some ⟨before, after, captures⟩ =
      (concat [span (.oneOf ":.)") .anyNumber true, blanks]).andThen? some
        ⟨(after.takeWhile isBlank).reverse ++ before, after.dropWhile isBlank, captures⟩ := by
    rw [numberTail, andThen?_concat_cons, andThen?_blanks_of_backtrack]
    intro failed
    rw [middle, last] at failed
    exact absurd failed (by simp)
  exact ⟨_, front.trans ((middle ..).trans (last ..))⟩

/-- How the head of a rest declaration ends. -/
def restTail : Pattern := .anyOf [.seq (.oneOf ":.") .blanks, .ahead true (.mark '('), .finish]

theorem andThen?_restTail_cons (before : List Char) (c : Char) (rest : List Char) (captures : List Capture) :
    restTail.andThen? some ⟨before, c :: rest, captures⟩ =
      if c = ':' ∨ c = '.' then
        some ⟨(rest.takeWhile isBlank).reverse ++ c :: before, rest.dropWhile isBlank, captures⟩
      else if c = '(' ∨ c :: rest = ['\n'] then some ⟨before, c :: rest, captures⟩
      else none := by
  have sign : ":.".toList.contains c = decide (c = ':' ∨ c = '.') := by
    rw [Bool.eq_iff_iff]
    simp
  simp only [restTail, anyOf, andThen?_either, andThen?_seq, oneOf, andThen?_one_cons, CharTest.oneOf_holds, sign,
    decide_eq_true_eq, andThen?_blanks_some, andThen?_ahead_true, mark, CharTest.char_exact_holds, beq_iff_eq,
    finish, andThen?_edge, Edge.holds, List.isEmpty_cons, Bool.false_or]
  split
  · rfl
  · by_cases paren : c = '('
    · simp [paren]
    · simp [paren, Ne.symm paren]

/-- Blanks before the end of the head are passed as a whole. -/
theorem andThen?_blanks_restTail (before after : List Char) (captures : List Capture) :
    blanks.andThen? (restTail.andThen? some) ⟨before, after, captures⟩ =
      restTail.andThen? some
        ⟨(after.takeWhile isBlank).reverse ++ before, after.dropWhile isBlank, captures⟩ := by
  rw [andThen?_blanks_of_backtrack]
  intro failed taken c rest split all blank
  have noSign := not_mem_layoutSigns_of_isBlank blank
  have noEnd : c :: rest ≠ ['\n'] := by
    intro ended
    rw [split, ended, dropWhile_lineFeed all] at failed
    exact absurd failed (by simp [restTail, anyOf, oneOf, mark, finish, Edge.holds])
  rw [andThen?_restTail_cons, if_neg, if_neg]
  · rintro (rfl | ended)
    · exact noSign (by decide)
    · exact noEnd ended
  · rintro (rfl | rfl)
    · exact noSign (by decide)
    · exact noSign (by decide)

@[simp] theorem kept_mk (before opened : List Char) (stop : Place) (index : Nat) :
    (Match.mk before opened stop).kept index = (stop.kept? index).getD [] := rfl

@[simp] theorem kept?_cons_self (before after opened closed : List Char) (index : Nat) (captures : List Capture) :
    (Place.mk before after (⟨index, opened, closed⟩ :: captures)).kept? index =
      some (Capture.mk index opened closed).text := by
  simp [Place.kept?]

theorem kept?_cons_of_ne {index other : Nat} (differ : other ≠ index) (before after opened closed : List Char)
    (captures : List Capture) :
    (Place.mk before after (⟨other, opened, closed⟩ :: captures)).kept? index =
      (Place.mk before after captures).kept? index := by
  simp [Place.kept?, differ]

/-- The number of a declaration and what may follow it. -/
def numberPart : Pattern :=
  .concat [.group 2 .numeral, .blanks, .span (.oneOf ":.)") .anyNumber true, .blanks]

theorem andThen?_numberPart (before after : List Char) (captures : List Capture) :
    numberPart.andThen? some ⟨before, after, captures⟩ =
      if (after.takeWhile isDecimal).isEmpty then none
      else numberTail.andThen? some ⟨(after.takeWhile isDecimal).reverse ++ before, after.dropWhile isDecimal,
        ⟨2, after, after.dropWhile isDecimal⟩ :: captures⟩ := by
  rw [numberPart, andThen?_concat_cons, andThen?_group, numeral, andThen?_someSpan, CharTest.decimal_holds_eq]
  · rfl
  · intro failed
    obtain ⟨reached, found⟩ := andThen?_numberTail
      ((after.takeWhile CharTest.decimal.holds).reverse ++ before) (after.dropWhile CharTest.decimal.holds)
      (⟨2, after, after.dropWhile CharTest.decimal.holds⟩ :: captures)
    exact absurd (found.symm.trans failed) (by simp)

theorem andThen?_looseSpan (before after : List Char) (captures : List Capture) :
    (span looseTest .anyNumber true).andThen? (numberPart.andThen? some) ⟨before, after, captures⟩ =
      numberPart.andThen? some
        ⟨(after.takeWhile isLoose).reverse ++ before, after.dropWhile isLoose, captures⟩ := by
  rw [andThen?_span_of_stuck, looseTest_holds_eq]
  intro before c rest holds
  rw [looseTest_holds_eq] at holds
  rw [andThen?_numberPart, List.takeWhile_cons, isDecimal_of_isLoose holds]
  rfl

theorem dropWhile_isLoose_append {taken : List Char} (blank : taken.all isBlank) (rest : List Char) :
    (taken ++ rest).dropWhile isLoose = rest.dropWhile isLoose := by
  apply List.dropWhile_append_of_pos
  intro c member
  simp [isLoose, List.all_eq_true.mp blank c member]

/-- Blanks before the number are passed as a whole, with the punctuation among them. -/
theorem andThen?_blanks_looseSpan (before after : List Char) (captures : List Capture) :
    ∃ reached, blanks.andThen? ((span looseTest .anyNumber true).andThen? (numberPart.andThen? some))
        ⟨before, after, captures⟩ =
      numberPart.andThen? some ⟨reached, after.dropWhile isLoose, captures⟩ := by
  have skipped : (after.dropWhile isBlank).dropWhile isLoose = after.dropWhile isLoose := by
    have := dropWhile_isLoose_append (List.all_takeWhile (p := isBlank) (l := after)) (after.dropWhile isBlank)
    rwa [List.takeWhile_append_dropWhile, eq_comm] at this
  refine ⟨((after.dropWhile isBlank).takeWhile isLoose).reverse ++ ((after.takeWhile isBlank).reverse ++ before), ?_⟩
  rw [andThen?_blanks_of_backtrack, andThen?_looseSpan, skipped]
  intro failed taken c rest split all blank
  rw [andThen?_looseSpan, skipped, andThen?_numberPart] at failed
  rw [andThen?_looseSpan, ← dropWhile_isLoose_append all, ← split, andThen?_numberPart]
  split at failed
  · rename_i empty
    rw [if_pos empty]
  · obtain ⟨reached, found⟩ := andThen?_numberTail _ _ _
    exact absurd (found.symm.trans failed) (by simp)

/-- Whether a digit follows, perhaps after blanks. -/
theorem digitAhead (before after : List Char) (captures : List Capture) :
    (blanks.andThen? ((one .decimal).andThen? some) ⟨before, after, captures⟩).isSome =
      (after.dropWhile isBlank).head?.any isDecimal := by
  rw [andThen?_blanks]
  · cases after.dropWhile isBlank with
    | nil => rfl
    | cons c rest => cases digit : isDecimal c <;> simp [digit]
  · intro before c rest blank
    simp [isDecimal_of_isBlank blank]

theorem andThen?_colon (before after : List Char) (captures : List Capture) :
    ((one (.char ':' .exact)).andThen? some ⟨before, after, captures⟩).isSome = (after.head? == some ':') := by
  cases after with
  | nil => rfl
  | cons c after =>
    by_cases same : c = ':'
    · simp [same]
    · simp [same, Ne.symm same]

theorem andThen?_blanks_colon (before after : List Char) (captures : List Capture) :
    (concat [blanks, mark ':']).andThen? some ⟨before, after, captures⟩ =
      (one (.char ':' .exact)).andThen? some
        ⟨(after.takeWhile isBlank).reverse ++ before, after.dropWhile isBlank, captures⟩ := by
  rw [andThen?_concat_cons, andThen?_blanks]
  · rfl
  · intro before c rest blank
    have differs : (':' == c) = false := by
      rw [beq_eq_false_iff_ne]
      rintro rfl
      exact not_mem_layoutSigns_of_isBlank blank (by decide)
    simp [mark, differs]

theorem andThen?_digits_colon (before after : List Char) (captures : List Capture) :
    (concat [span .decimal .anyNumber true, blanks, mark ':']).andThen? some ⟨before, after, captures⟩ =
      (concat [blanks, mark ':']).andThen? some
        ⟨(after.takeWhile isDecimal).reverse ++ before, after.dropWhile isDecimal, captures⟩ := by
  rw [andThen?_concat_cons, andThen?_span_of_stuck, CharTest.decimal_holds_eq]
  intro before c rest digit
  rw [CharTest.decimal_holds] at digit
  have differs : (':' == c) = false := by
    rw [beq_eq_false_iff_ne]
    rintro rfl
    exact absurd digit (by decide)
  rw [andThen?_blanks_colon, List.dropWhile_cons, isBlank_of_isDecimal digit]
  simp [differs]

/-- Whether a colon follows, perhaps after a number and blanks around it. -/
theorem headColon (before after : List Char) (captures : List Capture) :
    ((concat [blanks, span .decimal .anyNumber true, blanks, mark ':']).andThen? some
      ⟨before, after, captures⟩).isSome =
      ((((after.dropWhile isBlank).dropWhile isDecimal).dropWhile isBlank).head? == some ':') := by
  rw [andThen?_concat_cons, andThen?_blanks_of_backtrack, andThen?_digits_colon, andThen?_blanks_colon,
    andThen?_colon]
  -- A colon right after some of the blanks stands after all of them.
  intro failed taken c rest split all blank
  have same : after.dropWhile isBlank = (c :: rest).dropWhile isBlank := by
    rw [split, List.dropWhile_append_of_pos (List.all_eq_true.mp all)]
  rw [andThen?_digits_colon, andThen?_blanks_colon, ← Option.not_isSome_iff_eq_none, andThen?_colon] at failed ⊢
  rw [List.dropWhile_cons (p := isDecimal), isDecimal_of_isBlank blank, if_neg Bool.false_ne_true, ← same]
  intro colonNext
  rw [beq_iff_eq, List.head?_eq_some_iff] at colonNext
  obtain ⟨tail, colonNext⟩ := colonNext
  rw [colonNext] at failed
  exact failed (by simp [show isDecimal ':' = false by decide, show isBlank ':' = false by decide])

/-- A transition without its plus sign. -/
def transitionBody (dialect : Dialect) : Pattern :=
  .concat [.literal .full dialect.conditions.transition, .someBlanks, .group 2 (.keyword dialect.stepWords.step),
    .someBlanks, .group 3 .numeral, .blanks, .finish]

section

variable {dialect : Dialect} (readable : dialect.Readable) (text : List Char)
include readable

theorem matchStart?_restHead :
    ((restHead dialect).matchStart? text).map (fun found => (found.kept 1, found.rest)) =
      readRestHead? dialect text := by
  rw [restHead, matchStart?_keyword readable.rest.nonempty readable.rest.prefixFree, readRestHead?]
  cases found : keyword? dialect.stepWords.rest text with
  | none => rfl
  | some read =>
    obtain ⟨word, rest⟩ := read
    obtain ⟨-, rfl⟩ := (keyword?_eq_some_iff readable.rest.prefixFree).mp found
    rw [Option.bind_some, Option.bind_some, andThen?_concat_cons]
    change ((blanks.andThen? (restTail.andThen? some) _).map _).map _ = _
    rw [andThen?_blanks_restTail]
    simp only
    cases dropped : rest.dropWhile isBlank with
    | nil => simp [restTail, anyOf, oneOf, mark, finish, Edge.holds, Match.rest, capture_text]
    | cons c tail =>
      have noEnd : c :: tail ≠ ['\n'] := by
        intro ended
        rw [(List.cons.inj ended).1] at dropped
        exact absurd (isBlank_of_dropWhile dropped) (by decide)
      rw [andThen?_restTail_cons]
      simp only [noEnd, or_false]
      split
      · simp [Match.rest, capture_text]
      · split <;> simp [Match.rest, capture_text]

theorem matchStart?_numberedHead :
    ((numberedHead dialect).matchStart? text).map (fun found => (found.kept 1, found.kept 2, found.rest)) =
      readNumberedHead? dialect text := by
  rw [numberedHead, matchStart?_keyword readable.step.nonempty readable.step.prefixFree, readNumberedHead?]
  cases found : keyword? dialect.stepWords.step text with
  | none => rfl
  | some read =>
    obtain ⟨word, rest⟩ := read
    obtain ⟨-, rfl⟩ := (keyword?_eq_some_iff readable.step.prefixFree).mp found
    have parts : (concat [span looseTest .anyNumber true, group 2 numeral, blanks,
        span (.oneOf ":.)") .anyNumber true, blanks]).andThen? some =
        (span looseTest .anyNumber true).andThen? (numberPart.andThen? some) :=
      funext fun place => andThen?_concat_cons ..
    obtain ⟨before, skipped⟩ := andThen?_blanks_looseSpan word.reverse rest [⟨1, word ++ rest, rest⟩]
    rw [Option.bind_some, Option.bind_some, andThen?_concat_cons, ← looseTest, parts, skipped, andThen?_numberPart]
    simp only
    split
    · rfl
    · obtain ⟨reached, ended⟩ := andThen?_numberTail _ _ _
      rw [ended]
      simp [Match.rest, capture_text, capture_text_takeWhile, kept?_cons_of_ne]

theorem matchStart?_unnumberedHead :
    ((unnumberedHead dialect).matchStart? text).map (fun found => (found.kept 1, found.rest)) =
      readUnnumberedHead? dialect text := by
  rw [unnumberedHead, matchStart?_keyword readable.step.nonempty readable.step.prefixFree, readUnnumberedHead?]
  cases found : keyword? dialect.stepWords.step text with
  | none => rfl
  | some read =>
    obtain ⟨word, rest⟩ := read
    obtain ⟨-, rfl⟩ := (keyword?_eq_some_iff readable.step.prefixFree).mp found
    have sign : ∀ c, ":.".toList.contains c = true ↔ c = ':' ∨ c = '.' := by simp
    rw [Option.bind_some, Option.bind_some, andThen?_concat_cons, andThen?_blanks]
    · simp only
      cases dropped : rest.dropWhile isBlank with
      | nil => rfl
      | cons c tail =>
        rw [andThen?_concat_cons, oneOf, andThen?_one_cons, CharTest.oneOf_holds]
        simp only [andThen?_concat_cons, andThen?_concat_nil, andThen?_ahead_false, andThen?_seq,
          digitAhead, sign, andThen?_blanks_some]
        by_cases isSign : c = ':' ∨ c = '.'
        · cases digit : (tail.dropWhile isBlank).head?.any isDecimal <;>
            simp [isSign, Match.rest, capture_text]
        · simp [isSign]
    · intro before c tail blank
      have noSign := not_mem_layoutSigns_of_isBlank blank
      rw [andThen?_concat_cons, oneOf, andThen?_one_cons, CharTest.oneOf_holds, if_neg]
      rw [sign]
      rintro (rfl | rfl)
      · exact noSign (by decide)
      · exact noSign (by decide)

theorem startsIn_declarationHead : (declarationHead dialect).startsIn text = hasDeclarationHead dialect text := by
  rw [startsIn, declarationHead, matchStart?_start, andThen?_concat_cons,
    andThen?_keyword _ readable.declaring.nonempty readable.declaring.prefixFree, hasDeclarationHead,
    Option.isSome_map]
  cases keyword? dialect.declarationWords text with
  | none => rfl
  | some read =>
    rw [Option.bind_some, headColon]
    rfl

omit readable in
/-- A number that ends the line. -/
theorem andThen?_lastNumber (before after : List Char) (captures : List Capture) :
    (concat [group 3 numeral, blanks, finish]).andThen? some ⟨before, after, captures⟩ =
      if !(after.takeWhile isDecimal).isEmpty ∧ ((after.dropWhile isDecimal).dropWhile isBlank).isEmpty then
        some ⟨(after.dropWhile isDecimal).reverse ++ ((after.takeWhile isDecimal).reverse ++ before), [],
          ⟨3, after, after.dropWhile isDecimal⟩ :: captures⟩
      else none := by
  have ending : ∀ before after captures, (concat [blanks, finish]).andThen? some ⟨before, after, captures⟩ =
      if (after.dropWhile isBlank).isEmpty then some ⟨after.reverse ++ before, [], captures⟩ else none := by
    intro before after captures
    rw [andThen?_concat_cons]
    exact andThen?_blanks_finish before captures after
  rw [andThen?_concat_cons, andThen?_group, andThen?_numeral]
  · simp only [ending]
    cases (after.takeWhile isDecimal).isEmpty <;> simp
  · intro before c rest digit
    simp [ending, isBlank_of_isDecimal digit]

omit readable in
/-- Blanks must stand before the number of a transition. -/
theorem andThen?_spacedNumber (before after : List Char) (captures : List Capture) :
    (concat [someBlanks, group 3 numeral, blanks, finish]).andThen? some ⟨before, after, captures⟩ =
      if startsBlank after then (concat [group 3 numeral, blanks, finish]).andThen? some
        ⟨(after.takeWhile isBlank).reverse ++ before, after.dropWhile isBlank, captures⟩
      else none := by
  rw [andThen?_concat_cons, andThen?_someBlanks, isEmpty_takeWhile_isBlank]
  · cases startsBlank after <;> rfl
  · intro before c rest blank
    rw [andThen?_lastNumber, List.takeWhile_cons, isDecimal_of_isBlank blank]
    rfl

/-- The keyword of a step is kept before the number of a transition. -/
theorem andThen?_originWord (before after : List Char) (captures : List Capture) :
    (concat [group 2 (keyword dialect.stepWords.step), someBlanks, group 3 numeral, blanks, finish]).andThen? some
        ⟨before, after, captures⟩ =
      (keyword? dialect.stepWords.step after).bind fun read =>
        (concat [someBlanks, group 3 numeral, blanks, finish]).andThen? some
          ⟨read.1.reverse ++ before, read.2, ⟨2, after, read.2⟩ :: captures⟩ := by
  rw [andThen?_concat_cons, andThen?_group, andThen?_keyword _ readable.step.nonempty readable.step.prefixFree]

/-- What is kept on the way through a transition. -/
theorem andThen?_transitionBody (before after : List Char) (captures : List Capture) :
    ((transitionBody dialect).andThen? some ⟨before, after, captures⟩).map
        (fun stop => ((stop.kept? 1).isSome, (stop.kept? 2).getD [], (stop.kept? 3).getD [])) =
      (readTransition? dialect after).map fun read =>
        (((Place.mk before after captures).kept? 1).isSome, read.1, read.2) := by
  rw [transitionBody, andThen?_concat_cons, andThen?_literal, readTransition?]
  cases stripWord? dialect.conditions.transition.toList after with
  | none => rfl
  | some read =>
    obtain ⟨-, rest⟩ := read
    rw [Option.bind_some, Option.bind_some, andThen?_concat_cons, andThen?_someBlanks, isEmpty_takeWhile_isBlank,
      andThen?_originWord readable]
    · simp only
      cases startsBlank rest with
      | false => rfl
      | true =>
        cases found : keyword? dialect.stepWords.step (rest.dropWhile isBlank) with
        | none => rfl
        | some read =>
          obtain ⟨word, tail⟩ := read
          obtain ⟨-, split⟩ := (keyword?_eq_some_iff readable.step.prefixFree).mp found
          rw [Option.bind_some, andThen?_spacedNumber, andThen?_lastNumber, split]
          simp only [Bool.not_true, Bool.false_eq_true, if_false, if_true, Option.bind_some]
          by_cases spaced : startsBlank tail
          · simp only [spaced, if_true, true_and]
            split
            · simp [Place.kept?, capture_text, capture_text_takeWhile]
            · rfl
          · simp only [spaced, Bool.false_eq_true, if_false, false_and, Option.map_none]
    · intro before c rest blank
      rw [andThen?_originWord readable, readable.step.keyword?_eq_none_of_isBlank blank]
      rfl

omit readable in
theorem readPlus_of_ne {c : Char} (differs : c ≠ '+') (rest : List Char) :
    readPlus (c :: rest) = (false, c :: rest) := by
  unfold readPlus
  split
  · rename_i same
    exact absurd (List.cons.inj same).1 differs
  · rfl

/-- A character that spells no letter starts no transition. -/
theorem readTransition?_eq_none {c : Char} (noLetter : ∀ letter, ¬SpellsLetter letter c) (rest : List Char) :
    readTransition? dialect (c :: rest) = none := by
  have unread : stripWord? dialect.conditions.transition.toList (c :: rest) = none := by
    cases found : stripWord? dialect.conditions.transition.toList (c :: rest) with
    | none => rfl
    | some read =>
      have known := (keyword?_eq_some_iff readable.transition.prefixFree).mpr
        ⟨⟨_, .head _, (stripWord?_eq_some_iff.mp found).1⟩, (stripWord?_eq_some_iff.mp found).2⟩
      rw [readable.transition.keyword?_eq_none noLetter] at known
      exact absurd known (by simp)
  rw [readTransition?, unread]
  rfl

theorem andThen?_transitionBody_eq_none {c : Char} (noLetter : ∀ letter, ¬SpellsLetter letter c)
    (before rest : List Char) (captures : List Capture) :
    (transitionBody dialect).andThen? some ⟨before, c :: rest, captures⟩ = none := by
  have failed := andThen?_transitionBody readable before (c :: rest) captures
  rw [readTransition?_eq_none readable noLetter] at failed
  exact Option.map_eq_none_iff.mp failed

/-- Whether a transition has a plus sign, its keyword and its number. -/
theorem matchStart?_transition :
    ((transition dialect).matchStart? text).map
        (fun found => ((found.kept? 1).isSome, found.kept 2, found.kept 3)) =
      (readTransition? dialect (readPlus text).2).map fun read => ((readPlus text).1, read.1, read.2) := by
  rw [transition, matchStart?_start, andThen?_concat_cons]
  change (((loop (group 1 (seq (mark '+') blanks)) .optional true).andThen?
    ((transitionBody dialect).andThen? some) _).map _).map _ = _
  rw [andThen?_optional, andThen?_group, andThen?_seq, mark]
  cases text with
  | nil => simpa [Function.comp_def, Match.kept?, readPlus, Place.kept?] using andThen?_transitionBody readable [] [] []
  | cons c rest =>
    by_cases plus : c = '+'
    · subst plus
      rw [andThen?_transitionBody_eq_none readable fun _ spells => spells.not_sign (by decide), Option.or_none,
        andThen?_one_cons, CharTest.char_exact_holds, beq_self_eq_true, if_pos rfl, andThen?_blanks]
      · simpa [Function.comp_def, Match.kept?, readPlus, Place.kept?] using
          andThen?_transitionBody readable _ (rest.dropWhile isBlank)
            [⟨1, '+' :: rest, rest.dropWhile isBlank⟩]
      · intro before d tail blank
        exact andThen?_transitionBody_eq_none readable (fun _ spells => by simp [spells.not_blank] at blank) ..
    · rw [readPlus_of_ne plus, andThen?_one_cons, CharTest.char_exact_holds, beq_eq_false_iff_ne.mpr (Ne.symm plus)]
      simpa [Function.comp_def, Match.kept?, Place.kept?] using andThen?_transitionBody readable [] (c :: rest) []

theorem declarationForm?_eq :
    declarationForm? dialect text =
      ((readRestHead? dialect text).map fun read => upperChars read.1 ++ [':', ' '] ++ read.2).or
        (((readNumberedHead? dialect text).map fun read =>
          upperChars read.1 ++ [' '] ++ read.2.1 ++ [':', ' '] ++ read.2.2).or
        ((readUnnumberedHead? dialect text).map fun read =>
          upperChars read.1 ++ [' ', '1', ':', ' '] ++ read.2)) := by
  rw [← matchStart?_restHead readable, ← matchStart?_numberedHead readable, ← matchStart?_unnumberedHead readable,
    declarationForm?]
  cases (restHead dialect).matchStart? text with
  | some found => rfl
  | none =>
    cases (numberedHead dialect).matchStart? text with
    | some found => rfl
    | none => cases (unnumberedHead dialect).matchStart? text <;> rfl

theorem transitionForm?_eq :
    transitionForm? dialect text =
      (readTransition? dialect (readPlus text).2).map fun read =>
        (if (readPlus text).1 then ['+', ' '] else []) ++ upperChars dialect.conditions.transition.toList ++
          [' '] ++ upperChars read.1 ++ [' '] ++ read.2 := by
  have read := congrArg (Option.map fun kept : Bool × List Char × List Char =>
    (if kept.1 then ['+', ' '] else []) ++ upperChars dialect.conditions.transition.toList ++ [' '] ++
      upperChars kept.2.1 ++ [' '] ++ kept.2.2) (matchStart?_transition readable text)
  rw [Option.map_map, Option.map_map] at read
  exact read

omit readable in
theorem matchStart?_conditionMark (c d : Char) (rest : List Char) :
    ((conditionMark c).matchStart? (d :: rest)).map Match.rest =
      if c = d then some (rest.dropWhile isBlank) else none := by
  rw [conditionMark, matchStart?_start, andThen?_concat_cons, mark, andThen?_one_cons, CharTest.char_exact_holds]
  by_cases same : c = d
  · simp [same, Match.rest]
  · simp [same]

omit readable in
/-- A mark at the start of a line gets one space and takes the indentation. -/
theorem spaceMark_cons (indent : List Char) (c : Char) (rest : List Char) :
    spaceMark indent (c :: rest) =
      if c = '-' ∨ c = '+' then ([], c :: ' ' :: rest.dropWhile isBlank) else (indent, c :: rest) := by
  have minus := matchStart?_conditionMark '-' c rest
  have plus := matchStart?_conditionMark '+' c rest
  unfold spaceMark
  by_cases isMinus : c = '-'
  · subst isMinus
    obtain ⟨found, matched, same⟩ := Option.map_eq_some_iff.mp (minus.trans (if_pos rfl))
    simp [matched, same]
  · rw [if_neg (Ne.symm isMinus), Option.map_eq_none_iff] at minus
    by_cases isPlus : c = '+'
    · subst isPlus
      obtain ⟨found, matched, same⟩ := Option.map_eq_some_iff.mp (plus.trans (if_pos rfl))
      simp [minus, matched, same]
    · rw [if_neg (Ne.symm isPlus), Option.map_eq_none_iff] at plus
      simp [minus, plus, isMinus, isPlus]

end

end StepFlow.Layout
