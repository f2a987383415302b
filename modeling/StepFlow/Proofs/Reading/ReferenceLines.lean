import StepFlow.Proofs.Layout.Labels
import StepFlow.Proofs.Pattern.Repetition
import StepFlow.Proofs.Reading.ExplicitMarks
import StepFlow.Proofs.Reading.Times

/-! # References that are written are read back

A reference names a program, a keyword and numbers of steps, all in parentheses. The name of the program may hold
anything but parentheses, among it keywords, digits and plus signs. It is read back all the same: what follows the
keyword has no letters, so the keyword is the last word of the parentheses, and the name is all before it.
-/

namespace StepFlow.ConditionLine

open Text Pattern

/-! ## Lists of numbers -/

/-- The characters of a list of numbers. -/
def isListChar (c : Char) : Bool := isBlank c || isDecimal c || c == '+'

/-- A list of numbers starts and ends with a digit, and has plus signs and blanks between its numbers. -/
structure IsNumberList (numbers : List Char) : Prop where
  starts : numbers.head?.any isDecimal = true
  ends : numbers.getLast?.any isDecimal = true
  inside : ∀ c ∈ numbers, isListChar c = true

/-- The pattern of a list of numbers. -/
def numberPattern : Pattern :=
  .seq .numeral (.times (.concat [.blanks, .mark '+', .blanks, .numeral]) .anyNumber true)

theorem isNumberList_digits {digits : List Char} (given : digits ≠ []) (decimal : ∀ c ∈ digits, isDecimal c = true) :
    IsNumberList digits where
  starts := by
    rw [List.head?_eq_some_head given]
    exact decimal _ (List.head_mem given)
  ends := by
    rw [List.getLast?_eq_some_getLast given]
    exact decimal _ (List.getLast_mem given)
  inside c member := by simp [isListChar, decimal c member]

theorem IsNumberList.append {numbers gap gap' digits : List Char} (list : IsNumberList numbers)
    (blank : ∀ c ∈ gap, isBlank c = true) (blank' : ∀ c ∈ gap', isBlank c = true) (given : digits ≠ [])
    (decimal : ∀ c ∈ digits, isDecimal c = true) : IsNumberList (numbers ++ (gap ++ '+' :: (gap' ++ digits))) where
  starts := by
    cases numbers with
    | nil => exact absurd list.starts Bool.false_ne_true
    | cons c numbers => exact list.starts
  ends := by
    have last := (isNumberList_digits given decimal).ends
    rw [List.getLast?_append_of_ne_nil _ (by simp), List.getLast?_append_of_ne_nil _ (by simp),
      ← List.singleton_append, List.getLast?_append_of_ne_nil _ (by simp [given]),
      List.getLast?_append_of_ne_nil _ given, last]
  inside := by
    intro c member
    simp only [List.mem_append, List.mem_cons] at member
    rcases member with inList | inGap | rfl | inGap | inDigits
    · exact list.inside c inList
    · simp [isListChar, blank c inGap]
    · rfl
    · simp [isListChar, blank' c inGap]
    · simp [isListChar, decimal c inDigits]

theorem isNumberList_of_reads {numbers : List Char} (reads : numberPattern.Reads numbers) : IsNumberList numbers := by
  obtain ⟨digits, others, rfl, isFirst, isRest⟩ := reads.seq
  obtain ⟨given, decimal⟩ := isFirst.numeral
  obtain ⟨parts, rfl, read⟩ := isRest.loop
  -- One part after another is added to a list of numbers.
  have list := isNumberList_digits given decimal
  generalize digits = numbers at list
  clear isRest isFirst reads
  induction parts generalizing numbers with
  | nil => simpa using list
  | cons part parts ih =>
    obtain ⟨isPart, later⟩ := List.forall_mem_cons.mp read
    obtain ⟨gap, _, rfl, isGap, isPart⟩ := isPart.seq
    obtain ⟨sign, _, rfl, isSign, isPart⟩ := isPart.seq
    obtain ⟨gap', digits, rfl, isGap', isNumber⟩ := isPart.seq
    obtain ⟨c, rfl, isPlus⟩ := isSign.one
    obtain rfl : '+' = c := by simpa using isPlus
    obtain ⟨given, decimal⟩ := isNumber.numeral
    have longer := list.append isGap.isBlank isGap'.isBlank given decimal
    simpa using ih later _ longer

/-- Numbers in decimal digits with plus signs between them. -/
def numberList (numbers : List Nat) : List Char := ['+'].intercalate (numbers.map (Nat.toDigits 10))

theorem numberList_cons (number : Nat) (numbers : List Nat) :
    numberList (number :: numbers) =
      Nat.toDigits 10 number ++ (numbers.map fun other => '+' :: Nat.toDigits 10 other).flatten := by
  induction numbers generalizing number with
  | nil => simp [numberList, List.intercalate]
  | cons other numbers ih =>
    have step : numberList (number :: other :: numbers) =
        Nat.toDigits 10 number ++ '+' :: numberList (other :: numbers) := by
      simp [numberList, List.intercalate]
    rw [step, ih, List.map_cons, List.flatten_cons, List.cons_append]

theorem passes_numberList {numbers : List Nat} (given : numbers ≠ []) : numberPattern.Passes (numberList numbers) := by
  obtain ⟨number, numbers, rfl⟩ := List.exists_cons_of_ne_nil given
  have digits (number : Nat) : numeral.Passes (Nat.toDigits 10 number) :=
    .numeral Nat.toDigits_ne_nil (isDecimal_of_mem_toDigits number)
  rw [numberList_cons]
  refine (digits number).seq (.loop ?_)
  intro part member
  obtain ⟨other, -, rfl⟩ := List.mem_map.mp member
  have plus : (mark '+').Passes ['+'] := .one rfl
  have nothing : blanks.Passes [] := .blanks (List.forall_mem_nil _)
  exact ⟨List.cons_ne_nil _ _, nothing.seq (plus.seq (nothing.seq (digits other)))⟩

theorem isNumberList_numberList {numbers : List Nat} (given : numbers ≠ []) : IsNumberList (numberList numbers) := by
  obtain ⟨_, member⟩ := passes_numberList given [] [] []
  exact isNumberList_of_reads ⟨_, _, member, rfl⟩

/-- All numerals of a list of numbers are its numbers. -/
theorem findAll_numberList (numbers : List Nat) :
    numeral.findAll (numberList numbers) = numbers.map (Nat.toDigits 10) := by
  have rest (before : List Char) (numbers : List Nat) :
      numeral.findAllFrom 0 before (numbers.map fun other => '+' :: Nat.toDigits 10 other).flatten =
        numbers.map (Nat.toDigits 10) := by
    induction numbers generalizing before with
    | nil => rfl
    | cons other numbers ih =>
      rw [List.map_cons, List.flatten_cons, List.cons_append, findAllFrom_numeral_of_not (by decide),
        findAllFrom_numeral Nat.toDigits_ne_nil (isDecimal_of_mem_toDigits other), ih, List.map_cons]
      cases numbers <;> rfl
  cases numbers with
  | nil => rfl
  | cons number numbers =>
    rw [numberList_cons, findAll, findAllFrom_numeral Nat.toDigits_ne_nil (isDecimal_of_mem_toDigits number), rest,
      List.map_cons]
    cases numbers <;> rfl

theorem mapM_ofNumeral_toDigits {numbers : List Nat} (short : ∀ number ∈ numbers, number < 10 ^ maxDigits) :
    (numbers.map (Nat.toDigits 10)).mapM ReadFault.ofNumeral = .ok numbers := by
  induction numbers with
  | nil => rfl
  | cons number numbers ih =>
    obtain ⟨here, later⟩ := List.forall_mem_cons.mp short
    rw [List.map_cons, List.mapM_cons, ReadFault.ofNumeral, readNumeral_toDigits here, ih later]
    rfl

/-! ## The pattern of references -/

/-- What the pattern of references reads between the parentheses. -/
structure IsReference (dialect : Dialect) (gap program word gap₁ numbers gap₂ : List Char) : Prop where
  blank : ∀ c ∈ gap, isBlank c = true
  closed : program = [] ∨ ∃ front c, program = front ++ [c] ∧ isBlank c = true
  isWord : IsReading dialect.stepWords.step word
  blank₁ : ∀ c ∈ gap₁, isBlank c = true
  lists : IsNumberList numbers
  blank₂ : ∀ c ∈ gap₂, isBlank c = true

theorem isReference_of_mem_ends {dialect : Dialect} {place stop : Place}
    (member : stop ∈ (reference dialect).ends place) :
    ∃ gap program word gap₁ numbers gap₂ rest,
      place.after = '(' :: (gap ++ (program ++ (word ++ (gap₁ ++ (numbers ++ (gap₂ ++ ')' :: rest)))))) ∧
      stop.kept? 1 = some program ∧ stop.kept? 2 = some numbers ∧
      IsReference dialect gap program word gap₁ numbers gap₂ := by
  obtain ⟨opening, _, opened, isOpening, member⟩ := exists_reads_of_mem_concat member
  obtain ⟨gap, _, spaced, isGap, member⟩ := exists_reads_of_mem_concat member
  have unused : 1 ∉
      (concat [keyword dialect.stepWords.step, blanks, group 2 numberPattern, blanks, mark ')']).indices := by
    rw [indices_eq, groups_concat]
    simp [groups, groups_keyword, groups_times, groups_concat, numberPattern, blanks, mark, numeral]
  obtain ⟨program, _, named, isProgram, kept₁, member⟩ := exists_kept_of_mem_concat unused member
  obtain ⟨word, _, worded, isWord, member⟩ := exists_reads_of_mem_concat member
  obtain ⟨gap₁, _, spaced₁, isGap₁, member⟩ := exists_reads_of_mem_concat member
  obtain ⟨numbers, _, numbered, isNumbers, kept₂, member⟩ := exists_kept_of_mem_concat (by decide) member
  obtain ⟨gap₂, _, spaced₂, isGap₂, member⟩ := exists_reads_of_mem_concat member
  obtain ⟨closing, closed, -⟩ := advances_of_mem_ends member
  have isClosing : (mark ')').Reads closing := ⟨_, _, member, closed⟩
  obtain ⟨c, rfl, isOpen⟩ := isOpening.one
  obtain rfl : '(' = c := by simpa using isOpen
  obtain ⟨c, rfl, isClosed⟩ := isClosing.one
  obtain rfl : ')' = c := by simpa using isClosed
  refine ⟨gap, program, word, gap₁, numbers, gap₂, stop.after, ?_, kept₁, kept₂, isGap.isBlank, ?_, isWord.isReading,
    isGap₁.isBlank, isNumberList_of_reads isNumbers, isGap₂.isBlank⟩
  · rw [opened, spaced, named, worded, spaced₁, numbered, spaced₂, closed]
    rfl
  · rcases isProgram.maybe with rfl | isThere
    · exact .inl rfl
    · obtain ⟨front, last, rfl, -, isLast⟩ := isThere.seq
      obtain ⟨c, rfl, isBlank⟩ := isLast.one
      exact .inr ⟨front, c, rfl, by simpa using isBlank⟩

section Unique

variable {gap program word gap₁ numbers gap₂ rest name keyword list : List Char}

theorem isListChar_of_letter {c d : Char} (letter : SpellsLetter c d) : isListChar d = false := by
  have noPlus : d ≠ '+' := letter.ne_sign (by decide)
  simp [isListChar, letter.not_blank, letter.not_decimal, noPlus]

theorem getLast?_append_word {front word : List Char} {p : Char → Bool} (given : word ≠ [])
    (outside : ∀ c ∈ word, p c = false) : (front ++ word).getLast?.any p = false := by
  rw [List.getLast?_append_of_ne_nil _ given, List.getLast?_eq_some_getLast given]
  exact outside _ (List.getLast_mem given)

/-- A list of numbers is all that stands between the blanks around it. -/
theorem IsNumberList.unique (lists : IsNumberList numbers) (isList : IsNumberList list)
    (blank₁ : ∀ c ∈ gap₁, isBlank c = true) (blank₂ : ∀ c ∈ gap₂, isBlank c = true)
    (same : gap₁ ++ (numbers ++ gap₂) = ' ' :: list) : numbers = list := by
  have solid {c : Option Char} (decimal : c.any isDecimal = true) : c.any isBlank = false := by
    cases c with
    | none => rfl
    | some c => exact isBlank_of_isDecimal decimal
  have starts : (numbers ++ gap₂).head?.any isBlank = false := by
    cases numbers with
    | nil => exact absurd lists.starts Bool.false_ne_true
    | cons c numbers => exact solid lists.starts
  have space : ∀ c ∈ [' '], isBlank c = true := List.forall_mem_singleton.mpr (by decide)
  obtain ⟨-, back⟩ := append_inj_of_head blank₁ space starts (solid isList.starts) same
  rw [← List.append_nil list] at back
  exact (append_inj_of_last blank₂ (List.forall_mem_nil _) (solid lists.ends) (solid isList.ends) back).1

/-- The name before a keyword is all that stands before its last blank. -/
theorem IsReference.program_eq {dialect : Dialect}
    (isReference : IsReference dialect gap program word gap₁ numbers gap₂)
    (solid : startsBlank name = false) (named : name ≠ []) (oneWord : ∀ c ∈ word, isBlank c = false)
    (oneKeyword : ∀ c ∈ keyword, isBlank c = false)
    (same : gap ++ program ++ word = name ++ [' '] ++ keyword) : program = name ++ [' '] := by
  have blankBefore : (gap ++ program).getLast?.any (!isBlank ·) = false := by
    rcases isReference.closed with rfl | ⟨start, c, rfl, blank⟩
    · rw [List.append_nil]
      cases last : gap.getLast? with
      | none => rfl
      | some c => simp [isReference.blank c (List.mem_of_getLast? last)]
    · simp [← List.append_assoc, blank]
  have space : (name ++ [' ']).getLast?.any (!isBlank ·) = false := by
    rw [List.getLast?_append_of_ne_nil _ (List.cons_ne_nil _ _)]
    decide
  obtain ⟨before, -⟩ := append_inj_of_last (by simpa using oneWord) (by simpa using oneKeyword) blankBefore space same
  cases gap with
  | nil => exact before
  | cons c gap =>
    obtain ⟨d, name, rfl⟩ := List.exists_cons_of_ne_nil named
    obtain rfl := (List.cons.inj before).1
    exact absurd (isReference.blank c (.head _)) (by simpa [startsBlank] using solid)

/-- A keyword of steps is one word, without what lists and parentheses are made of. -/
theorem of_mem_stepKeyword (isKeyword : IsKeyword ({} : Dialect).stepWords.step keyword) {c : Char}
    (member : c ∈ keyword) : isBlank c = false ∧ isListChar c = false ∧ c ≠ ')' := by
  obtain ⟨_, spells⟩ := isKeyword.letter_of_mem Dialect.readable_default.step member
  exact ⟨spells.not_blank, isListChar_of_letter spells, spells.ne_sign (by decide)⟩

theorem IsReference.listed (isReference : IsReference {} gap program word gap₁ numbers gap₂) :
    ∀ c ∈ gap₁ ++ (numbers ++ gap₂), isListChar c = true := by
  intro c member
  simp only [List.mem_append] at member
  rcases member with inGap | inList | inGap
  · simp [isListChar, isReference.blank₁ c inGap]
  · exact isReference.lists.inside c inList
  · simp [isListChar, isReference.blank₂ c inGap]

/-- A reference is read in one way only: the keyword is its last word, and the name is all before it. -/
theorem IsReference.unique (isReference : IsReference {} gap program word gap₁ numbers gap₂)
    (solid : startsBlank name = false) (named : name ≠ []) (unclosed : ')' ∉ name)
    (isKeyword : IsKeyword ({} : Dialect).stepWords.step keyword) (isList : IsNumberList list)
    (same : gap ++ (program ++ (word ++ (gap₁ ++ (numbers ++ (gap₂ ++ ')' :: rest))))) =
      name ++ ' ' :: (keyword ++ ' ' :: (list ++ [')']))) : program = name ++ [' '] ∧ numbers = list := by
  have readable := Dialect.readable_default.step
  have isWord : IsKeyword ({} : Dialect).stepWords.step word :=
    isReference.isWord.resolve_right fun empty => readable.nonempty empty.1
  have unclosed' : ')' ∉ name ++ ' ' :: (keyword ++ ' ' :: list) := by
    simp only [List.mem_append, List.mem_cons, not_or]
    refine ⟨unclosed, by decide, fun inKeyword => (of_mem_stepKeyword isKeyword inKeyword).2.2 rfl, by decide, ?_⟩
    exact fun inList => absurd (isList.inside _ inList) (by decide)
  have inner : gap ++ program ++ word ++ (gap₁ ++ (numbers ++ gap₂)) = name ++ [' '] ++ keyword ++ ' ' :: list := by
    have closed : (gap ++ (program ++ (word ++ (gap₁ ++ (numbers ++ gap₂))))) ++ ')' :: rest =
        (name ++ ' ' :: (keyword ++ ' ' :: list)) ++ [')'] := by
      simpa using same
    simpa using (append_inj_of_closed unclosed' closed).1
  obtain ⟨front, back⟩ := append_inj_of_last isReference.listed (List.forall_mem_cons.mpr ⟨by decide, isList.inside⟩)
    (getLast?_append_word (isWord.ne_nil readable) fun _ member => (of_mem_stepKeyword isWord member).2.1)
    (getLast?_append_word (isKeyword.ne_nil readable) fun _ member => (of_mem_stepKeyword isKeyword member).2.1) inner
  have program_eq := isReference.program_eq solid named (fun _ member => (of_mem_stepKeyword isWord member).1)
    (fun _ member => (of_mem_stepKeyword isKeyword member).1) front
  exact ⟨program_eq, isReference.lists.unique isList isReference.blank₁ isReference.blank₂ back⟩

end Unique

/-! ## Written references -/

/-- The numbers at their first places are the numbers without repetitions. -/
theorem firstUses_eq_eraseDups (seen numbers : List Int) :
    firstUses seen numbers = (numbers.filter (· ∉ seen)).eraseDups := by
  induction numbers generalizing seen with
  | nil => rfl
  | cons n rest ih =>
    rw [firstUses, List.filter_cons]
    by_cases used : n ∈ seen
    · rw [if_pos used, if_neg (by simpa using used), ih]
    · rw [if_neg used, if_pos (by simpa using used), List.eraseDups_cons, ih, List.filter_filter]
      congr 3
      funext m
      by_cases same : m = n <;> simp [same]

theorem sameFolded_toUpper (c : Char) : sameFolded c.toUpper c = true := by
  have low : ∀ code ∈ List.range 128, sameFolded (Char.ofNat code).toUpper (Char.ofNat code) = true :=
    List.forall_iff_forall_mem.mp (by decide +kernel)
  by_cases ascii : c.toNat < 128
  · simpa using low c.toNat (List.mem_range.mpr ascii)
  · have same : c.toUpper = c := by
      unfold Char.toUpper
      rw [dif_neg]
      rintro ⟨-, below⟩
      exact ascii (Nat.lt_of_le_of_lt (UInt32.le_iff_toNat_le.mp below) (by decide))
    rw [same, sameFolded, beq_self_eq_true]

/-- Words of negation are made of letters. -/
theorem readable_negation : Readable ({} : Dialect).conditions.negation := by
  refine ⟨by decide, by decide +kernel, by decide +kernel, fun word isWord => List.forall_iff_forall_mem.mp ?_⟩
  revert word
  decide +kernel

/-- A line whose first word is no word of negation is not negated. -/
theorem splitNegation_of_first_word {content : List Char}
    (affirmative : ¬IsKeyword ({} : Dialect).conditions.negation (content.takeWhile (!isBlank ·))) :
    splitNegation {} content = (content, false) := by
  rw [splitNegation]
  cases matched : (negation {}).matchStart? content with
  | none => rfl
  | some found =>
    obtain ⟨stop, first, rfl⟩ := Option.map_eq_some_iff.mp matched
    obtain ⟨_, isStart, member⟩ := mem_ends_concat_cons.mp (List.mem_of_head? first)
    obtain rfl := List.mem_singleton.mp isStart
    obtain ⟨word, middle, worded, isWord, member⟩ := exists_reads_of_mem_concat member
    obtain ⟨gap, spaced, -⟩ := advances_of_mem_ends member
    have isGap : someBlanks.Reads gap := ⟨_, _, member, spaced⟩
    obtain ⟨c, gap, rfl⟩ := List.exists_cons_of_length_pos isGap.span.2
    have isKeyword := isWord.keyword readable_negation.nonempty
    have solid : ∀ c ∈ word, (!isBlank c) = true := by
      intro c inWord
      obtain ⟨_, spells⟩ := isKeyword.letter_of_mem readable_negation inWord
      simp [spells.not_blank]
    have firstWord : content.takeWhile (!isBlank ·) = word := by
      have whole : content = word ++ (c :: (gap ++ stop.after)) := by
        rw [← List.cons_append, ← spaced]
        exact worded
      rw [whole, List.takeWhile_append_of_pos solid, List.takeWhile_cons_of_neg, List.append_nil]
      simp [isGap.isBlank c (.head _)]
    exact absurd (firstWord ▸ isKeyword) affirmative

/-- A line with a reference as it is written: a description, and in parentheses the name of a program, a keyword in any
letter case and the numbers of steps. -/
structure WrittenReference where
  description : List Char
  program : List Char
  keyword : List Char
  numbers : List Nat
  description_trimmed : trim description = description
  description_plain : '(' ∉ description ∧ ')' ∉ description
  affirmative : ¬IsKeyword ({} : Dialect).conditions.negation (description.takeWhile (!isBlank ·))
  program_trimmed : trim program = program
  program_ne_nil : program ≠ []
  program_plain : '(' ∉ program ∧ ')' ∉ program
  isStepWord : ∃ word ∈ ({} : Dialect).stepWords.step, keyword.map Char.toUpper = word.toList
  numbers_ne_nil : numbers ≠ []
  short : ∀ number ∈ numbers, number < 10 ^ maxDigits

namespace WrittenReference

variable (written : WrittenReference)

/-- What follows the opening parenthesis. -/
def inside : List Char :=
  written.program ++ ' ' :: (written.keyword ++ ' ' :: (numberList written.numbers ++ [')']))

/-- The line with its mark. -/
def line : String := String.ofList ('-' :: ' ' :: (written.description ++ ' ' :: '(' :: written.inside))

/-- What stands before the opening parenthesis, without the mark. -/
def opening : List Char := if written.description = [] then [] else written.description ++ [' ']

/-- The line without its mark. -/
def body : List Char := written.opening ++ '(' :: written.inside

theorem startsBlank_description : startsBlank written.description = false := by
  rw [← written.description_trimmed]
  exact startsBlank_trim _

theorem startsBlank_program : startsBlank written.program = false := by
  rw [← written.program_trimmed]
  exact startsBlank_trim _

theorem isKeyword : IsKeyword ({} : Dialect).stepWords.step written.keyword := by
  obtain ⟨word, isWord, same⟩ := written.isStepWord
  refine ⟨word, isWord, ?_⟩
  rw [← same, Spells, List.forall₂_map_left_iff, List.forall₂_same]
  exact fun c _ => sameFolded_toUpper c

theorem trim_opening : trim written.opening = written.description := by
  rw [opening]
  split
  · rename_i empty
    rw [empty]
    rfl
  · rw [Layout.trim_append_space written.startsBlank_description, written.description_trimmed]

theorem trimEnd_inside (front : List Char) :
    trimEnd (front ++ '(' :: written.inside) = front ++ '(' :: written.inside := by
  have solid : isBlank ')' = false := by decide
  simp [inside, trimEnd, solid]

theorem splitMark_line : splitMark {} (trim written.line.toList) = ⟨written.body, false, true⟩ := by
  have whole : trim written.line.toList = '-' :: ' ' :: (written.description ++ ' ' :: '(' :: written.inside) := by
    have closed := written.trimEnd_inside ('-' :: ' ' :: (written.description ++ [' ']))
    rw [line, String.toList_ofList, trim_of_solid rfl]
    simpa using closed
  have rest : trim (' ' :: (written.description ++ ' ' :: '(' :: written.inside)) = written.body := by
    have drop (text : List Char) : trim (' ' :: text) = trim text := by
      simp [trim, trimStart, show isBlank ' ' = true by decide]
    rw [drop, body, opening]
    split
    · rename_i empty
      rw [empty, List.nil_append, drop, trim_of_solid rfl]
      exact written.trimEnd_inside []
    · rename_i given
      have solid : startsBlank (written.description ++ ' ' :: '(' :: written.inside) = false := by
        obtain ⟨c, more, description⟩ := List.exists_cons_of_ne_nil given
        have solid := written.startsBlank_description
        rw [description] at solid ⊢
        exact solid
      have closed := written.trimEnd_inside (written.description ++ [' '])
      rw [trim_of_solid solid]
      simpa using closed
  rw [whole, splitMark]
  simp [afterMark?, stripStart?, rest]

theorem affirmative_body :
    ¬IsKeyword ({} : Dialect).conditions.negation (written.body.takeWhile (!isBlank ·)) := by
  rw [body, opening]
  split
  · intro isKeyword
    obtain ⟨_, spells⟩ := isKeyword.letter_of_mem readable_negation (.head _)
    exact spells.ne_sign (by decide) rfl
  · have firstWord : (written.description ++ [' '] ++ '(' :: written.inside).takeWhile (!isBlank ·) =
        written.description.takeWhile (!isBlank ·) := by
      rw [List.append_assoc, List.takeWhile_append]
      split
      · rename_i all
        have space : (!isBlank ' ') = false := by decide
        rw [(List.takeWhile_prefix _).eq_of_length all, List.singleton_append]
        simp [space]
      · rfl
    rw [firstWord]
    exact written.affirmative

theorem goesFrom (before : List Char) : (reference {}).GoesFrom before ('(' :: written.inside) := by
  have opens : (mark '(').Passes ['('] := .one rfl
  have closes : (mark ')').Passes [')'] := .one rfl
  have nothing : blanks.Passes [] := .blanks (List.forall_mem_nil _)
  have space : blanks.Passes [' '] := .blanks (List.forall_mem_singleton.mpr (by decide))
  have named : (maybe (.seq (.span (.noneOf "()") .anyNumber false) (.one .blank))).Passes
      (written.program ++ [' ']) := by
    refine .maybe (.inr (.seq (.span ?_ (Nat.zero_le _) false) (.one (by decide))))
    intro c member
    have noOpening : c ≠ '(' := fun same => written.program_plain.1 (same ▸ member)
    have noClosing : c ≠ ')' := fun same => written.program_plain.2 (same ▸ member)
    simp [CharTest.noneOf, CharTest.holds, noOpening, noClosing]
  have goes := opens.goesThrough (nothing.goesThrough ((named.group 1).goesThrough
    ((Passes.keyword written.isKeyword).goesThrough (space.goesThrough
      (((passes_numberList written.numbers_ne_nil).group 2).goesThrough
        (nothing.goesThrough (closes.goesThrough (goesThrough_nil []))))))))
  have text : '(' :: written.inside = ['('] ++ ([] ++ ((written.program ++ [' ']) ++ (written.keyword ++
      ([' '] ++ (numberList written.numbers ++ ([] ++ ([')'] ++ []))))))) := by
    simp [inside]
  rw [text]
  exact goes.goesFrom before

theorem not_mem_opening : '(' ∉ written.opening := by
  rw [opening]
  split
  · exact List.not_mem_nil
  · simpa using written.description_plain.1

theorem not_mem_inside : '(' ∉ written.inside := by
  simp only [inside, List.mem_append, List.mem_cons, List.not_mem_nil, not_or]
  refine ⟨written.program_plain.1, by decide, ?_, by decide, ?_, by decide, not_false⟩
  · intro inKeyword
    obtain ⟨_, spells⟩ := written.isKeyword.letter_of_mem Dialect.readable_default.step inKeyword
    exact spells.ne_sign (by decide) rfl
  · intro inList
    exact absurd ((isNumberList_numberList written.numbers_ne_nil).inside _ inList) (by decide)

/-- The reference is found where it is written, with its name and its numbers. -/
theorem exists_search : ∃ found, (reference {}).search? written.body = some found ∧
    found.before.reverse = written.opening ∧ found.kept 1 = written.program ++ [' '] ∧
    found.kept 2 = numberList written.numbers := by
  obtain ⟨found, searched⟩ := Option.isSome_iff_exists.mp (written.goesFrom written.opening.reverse).occursIn
  refine ⟨found, searched, ?_⟩
  obtain ⟨left, right, split, before, -, member⟩ := exists_mem_ends_of_search? searched
  obtain ⟨gap, program, word, gap₁, numbers, gap₂, rest, after, kept₁, kept₂, isReference⟩ :=
    isReference_of_mem_ends member
  obtain ⟨rfl, -, same⟩ := (List.append_cons_inj_of_notMem written.not_mem_opening written.not_mem_inside).mp
    (split.trans (congrArg (left ++ ·) after))
  obtain ⟨rfl, rfl⟩ := isReference.unique written.startsBlank_program written.program_ne_nil written.program_plain.2
    written.isKeyword (isNumberList_numberList written.numbers_ne_nil) same.symm
  refine ⟨?_, ?_, ?_⟩
  · rw [before, List.reverse_reverse]
  · rw [Match.kept, Match.kept?, kept₁, Option.getD_some]
  · rw [Match.kept, Match.kept?, kept₂, Option.getD_some]

/-- The reference of the line is the one that is written. -/
theorem exists_findReference (number : Option Int) : ∃ found : CrossReference,
    findReference {} written.line number written.body = .ok (some found, []) ∧
      found.program = String.ofList written.program ∧ found.steps = (written.numbers.map Int.ofNat).eraseDups ∧
      found.description = String.ofList written.description ∧ found.line = number := by
  obtain ⟨found, searched, before, kept₁, kept₂⟩ := written.exists_search
  have named : trim (found.kept 1) = written.program := by
    rw [kept₁, Layout.trim_append_space written.startsBlank_program, written.program_trimmed]
  have given : written.numbers.map Int.ofNat ≠ [] := by simpa using written.numbers_ne_nil
  have steps : firstUses [] (written.numbers.map Int.ofNat) = (written.numbers.map Int.ofNat).eraseDups := by
    rw [firstUses_eq_eraseDups]
    simp
  refine ⟨⟨_, _, _, _, firstUses_ne_nil given, nodup_firstUses [] _⟩, ?_, rfl, steps, rfl, rfl⟩
  simp only [findReference, searched, named, List.isEmpty_iff, written.program_ne_nil, if_false, kept₂,
    findAll_numberList, mapM_ofNumeral_toDigits written.short, before, written.trim_opening, bind, Except.bind,
    CrossReference.ofNumbers?, dif_pos given]
  rfl

end WrittenReference

theorem exists_findComparison (body : List Char) : ∃ comparison, findComparison body = .ok comparison := by
  cases outcome : findComparison body with
  | ok comparison => exact ⟨comparison, rfl⟩
  | error fault =>
    obtain ⟨_, _, _, rfl⟩ := findComparison_fails body fault outcome
    rw [findComparison] at outcome
    split at outcome
    · cases outcome
    · split at outcome <;> cases outcome

/-- What is read from the line, with what was found in it. -/
def WrittenReference.extraction (written : WrittenReference) (number : Option Int) (reference : CrossReference)
    (comparison : Option Comparison) (timer : Option TimerSpec) : Extraction :=
  let condition : Condition :=
    { text := String.ofList written.body, comparison, crossReference := some reference, timer
      external := findOutside written.body, line := number }
  ⟨condition, true, ambiguity written.line condition⟩

/-- All parts of the line are read, and only the time can make it fail. -/
theorem WrittenReference.exists_extract (written : WrittenReference) (number : Option Int) :
    ∃ reference comparison, (reference.program = String.ofList written.program ∧
        reference.steps = (written.numbers.map Int.ofNat).eraseDups ∧
        reference.description = String.ofList written.description) ∧
      extract {} written.line number =
        (findTime {} written.body).map (written.extraction number reference comparison) := by
  obtain ⟨reference, referred, program, steps, description, -⟩ := written.exists_findReference number
  obtain ⟨comparison, compared⟩ := exists_findComparison written.body
  refine ⟨reference, comparison, ⟨program, steps, description⟩, ?_⟩
  rw [extract, written.splitMark_line]
  dsimp only
  rw [splitNegation_of_first_word written.affirmative_body, referred]
  dsimp only [bind, Except.bind]
  rw [compared]
  cases findTime {} written.body <;> rfl

/-- A name that holds a keyword, a number and a plus sign, and a list of numbers with a repetition. -/
def fillerReference : WrittenReference where
  description := "Pomp loopt".toList
  program := "Filler STAP 3+".toList
  keyword := "Step".toList
  numbers := [3, 4, 3]
  description_trimmed := by decide +kernel
  description_plain := by decide
  affirmative := by
    unfold IsKeyword Spells
    decide +kernel
  program_trimmed := by decide +kernel
  program_ne_nil := by decide
  program_plain := by decide
  isStepWord := by decide
  numbers_ne_nil := by decide
  short := by decide +kernel

/-- A time of too many digits. -/
def longTime : List Char := "TIJD ".toList ++ (List.replicate 4301 '1' ++ ['s'])

theorem trim_longTime : trim longTime = longTime := by
  rw [longTime, trim_of_solid rfl, trimEnd, ← List.append_assoc, List.reverse_append, List.reverse_singleton,
    List.singleton_append, List.dropWhile_cons_of_neg (by decide), List.reverse_cons, List.reverse_reverse]

/-- A description with a time of too many digits. -/
def longTimeReference : WrittenReference where
  description := longTime
  program := "Filler".toList
  keyword := "STAP".toList
  numbers := [3]
  description_trimmed := trim_longTime
  description_plain := by decide +kernel
  affirmative := by
    unfold IsKeyword Spells
    decide +kernel
  program_trimmed := by decide +kernel
  program_ne_nil := by decide
  program_plain := by decide
  isStepWord := by decide
  numbers_ne_nil := by decide
  short := by decide +kernel

end StepFlow.ConditionLine
