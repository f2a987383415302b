import StepFlow.Proofs.Pattern.Search
import StepFlow.Proofs.Reading.Faults

/-! # Times in conditions

A condition has a time if a word for times, a number and a unit stand in its text, one after another and between edges
of words. A list of words without words stands for the empty text. So a list without words for times leaves a number and
a unit to be a time, and a list without units leaves a word and a number.
-/

namespace StepFlow.ConditionLine

open Text Pattern

/-- Blanks between the word and the number of a time, perhaps with a tilde among them. -/
def IsSpacing (spacing : List Char) : Prop :=
  ∃ gap tilde gap', spacing = gap ++ (tilde ++ gap') ∧ (∀ c ∈ gap, isBlank c = true) ∧ (tilde = [] ∨ tilde = ['~']) ∧
    ∀ c ∈ gap', isBlank c = true

/-- A time between the given texts: a word, the number and a unit, with the spacing between them. -/
structure IsTime (dialect : Dialect) (left word spacing digits gap unit right : List Char) : Prop where
  isWord : IsReading dialect.tables.timer word
  isSpacing : IsSpacing spacing
  given : digits ≠ []
  decimal : ∀ c ∈ digits, isDecimal c = true
  blank : ∀ c ∈ gap, isBlank c = true
  isUnit : IsReading dialect.conditions.timerUnits unit
  opens : AtWordEdge left (word ++ (spacing ++ (digits ++ (gap ++ (unit ++ right)))))
  closes : AtWordEdge (left ++ (word ++ (spacing ++ (digits ++ (gap ++ unit))))) right

/-- A time with the given number and unit stands in a text. -/
def HasTime (dialect : Dialect) (text digits unit : List Char) : Prop :=
  ∃ left word spacing gap right, text = left ++ (word ++ (spacing ++ (digits ++ (gap ++ (unit ++ right))))) ∧
    IsTime dialect left word spacing digits gap unit right

section Search

variable {dialect : Dialect} {text digits unit : List Char}

/-- What the pattern of times reads is a time, of which the number and the unit are kept. -/
theorem isTime_of_mem_ends {left right : List Char} {stop : Place}
    (member : stop ∈ (time dialect).ends ⟨left.reverse, right, []⟩) :
    ∃ word spacing digits gap unit rest, right = word ++ (spacing ++ (digits ++ (gap ++ (unit ++ rest)))) ∧
      stop.kept? 1 = some digits ∧ stop.kept? 2 = some unit ∧
      IsTime dialect left word spacing digits gap unit rest := by
  obtain ⟨_, isEdge, member⟩ := mem_ends_concat_cons.mp member
  obtain ⟨rfl, opens⟩ := mem_ends_wordEdge.mp isEdge
  obtain ⟨word, _, after₁, before₁, isWord, -, member⟩ := exists_advance_of_mem_concat member
  obtain ⟨gap₁, _, after₂, before₂, isGap₁, -, member⟩ := exists_advance_of_mem_concat member
  obtain ⟨tilde, _, after₃, before₃, isTilde, -, member⟩ := exists_advance_of_mem_concat member
  obtain ⟨gap₂, _, after₄, before₄, isGap₂, -, member⟩ := exists_advance_of_mem_concat member
  have unused : 1 ∉ (concat [blanks, group 2 (keyword dialect.conditions.timerUnits), wordEdge]).indices := by
    rw [indices_eq, groups_concat]
    simp [groups, groups_keyword, blanks, wordEdge]
  obtain ⟨digits, _, after₅, before₅, isNumber, kept₁, member⟩ := exists_kept_advance_of_mem_concat unused member
  obtain ⟨gap, _, after₆, before₆, isGap, -, member⟩ := exists_advance_of_mem_concat member
  obtain ⟨unit, last, after₇, before₇, isUnit, kept₂, member⟩ := exists_kept_advance_of_mem_concat (by decide) member
  obtain ⟨-, closes⟩ := mem_ends_wordEdge.mp member
  have whole : right = word ++ (gap₁ ++ (tilde ++ gap₂) ++ (digits ++ (gap ++ (unit ++ last.after)))) := by
    rw [← after₇, ← after₆, ← after₅, List.append_assoc, List.append_assoc, ← after₄, ← after₃, ← after₂, ← after₁]
  rw [before₇, before₆, before₅, before₄, before₃, before₂, before₁] at closes
  have spacing : IsSpacing (gap₁ ++ (tilde ++ gap₂)) := by
    refine ⟨gap₁, tilde, gap₂, rfl, isGap₁.isBlank, ?_, isGap₂.isBlank⟩
    rcases isTilde.maybe with rfl | isTilde
    · exact .inl rfl
    · obtain ⟨c, rfl, same⟩ := isTilde.one
      rw [CharTest.char_exact_holds, beq_iff_eq] at same
      rw [same]
      exact .inr rfl
  obtain ⟨given, decimal⟩ := isNumber.numeral
  refine ⟨word, _, digits, gap, unit, last.after, whole, kept₁, kept₂, isWord.isReading, spacing, given, decimal,
    isGap.isBlank, isUnit.isReading, ?_, ?_⟩
  · rw [← whole]
    simpa using opens
  · simpa using closes

/-- The pattern of times goes through from the word of a time on. -/
theorem IsTime.goesFrom {left word spacing gap right : List Char}
    (isTime : IsTime dialect left word spacing digits gap unit right) :
    (time dialect).GoesFrom left.reverse (word ++ (spacing ++ (digits ++ (gap ++ (unit ++ right))))) := by
  obtain ⟨gap₁, tilde, gap₂, rfl, blank₁, isTilde, blank₂⟩ := isTime.isSpacing
  have passesTilde : (maybe (mark '~')).Passes tilde := by
    apply Passes.maybe
    rcases isTilde with rfl | rfl
    · exact .inl rfl
    · exact .inr (.one rfl)
  have numeral := Passes.numeral isTime.given isTime.decimal
  have closes : AtWordEdge (unit.reverse ++ (gap.reverse ++ (digits.reverse ++ (gap₂.reverse ++ (tilde.reverse ++
      (gap₁.reverse ++ (word.reverse ++ left.reverse))))))).reverse right := by
    simpa using isTime.closes
  have opens : AtWordEdge left.reverse.reverse
      (word ++ (gap₁ ++ (tilde ++ (gap₂ ++ (digits ++ (gap ++ (unit ++ right))))))) := by
    simpa using isTime.opens
  have goes := opens.goesFrom (isTime.isWord.passes.goesFrom ((Passes.blanks blank₁).goesFrom (passesTilde.goesFrom
    ((Passes.blanks blank₂).goesFrom ((numeral.group 1).goesFrom ((Passes.blanks isTime.blank).goesFrom
      ((isTime.isUnit.passes.group 2).goesFrom (closes.goesFrom (goesThrough_nil right _)))))))))
  rwa [List.append_assoc, List.append_assoc]

/-- The time that is found in a text stands there. -/
theorem hasTime_of_search? {found : Match} (searched : (time dialect).search? text = some found) :
    HasTime dialect text (found.kept 1) (found.kept 2) := by
  obtain ⟨left, right, rfl, -, -, member⟩ := exists_mem_ends_of_search? searched
  obtain ⟨word, spacing, digits, gap, unit, rest, rfl, kept₁, kept₂, isTime⟩ := isTime_of_mem_ends member
  rw [Match.kept, Match.kept, Match.kept?, Match.kept?, kept₁, kept₂]
  exact ⟨left, word, spacing, gap, rest, rfl, isTime⟩

theorem occursIn_time_iff : (time dialect).occursIn text = true ↔ ∃ digits unit, HasTime dialect text digits unit := by
  constructor
  · intro occurs
    obtain ⟨found, searched⟩ := Option.isSome_iff_exists.mp occurs
    exact ⟨_, _, hasTime_of_search? searched⟩
  · rintro ⟨digits, unit, left, word, spacing, gap, right, rfl, isTime⟩
    exact isTime.goesFrom.occursIn

/-- A time is found exactly if one stands in the text. -/
theorem isSome_findTime_iff {timer : Option TimerSpec} (found : findTime dialect text = .ok timer) :
    timer.isSome = true ↔ ∃ digits unit, HasTime dialect text digits unit := by
  rw [← occursIn_time_iff, Pattern.occursIn]
  rw [findTime] at found
  split at found
  · rename_i unmatched
    cases found
    simp [unmatched]
  · rename_i place matched
    obtain ⟨value, -, ⟨⟩⟩ := bind_eq_ok found
    simp [matched]

/-- The search for a time fails only on a time whose number has too many digits. -/
theorem exists_hasTime_of_findTime_error {fault : ReadFault} (failed : findTime dialect text = .error fault) :
    ∃ digits unit, HasTime dialect text digits unit ∧ maxDigits < digits.length ∧
      fault = .numeral (.tooLong digits.length) := by
  rw [findTime] at failed
  split at failed
  · cases failed
  · rename_i found searched
    have hasTime := hasTime_of_search? searched
    refine ⟨_, _, hasTime, ?_⟩
    obtain ⟨left, word, spacing, gap, right, -, isTime⟩ := hasTime
    rw [ReadFault.ofNumeral, readNumeral_of_isDecimal isTime.given isTime.decimal] at failed
    split at failed
    · rename_i long
      cases failed
      exact ⟨long, rfl⟩
    · cases failed

theorem isSome_timer_iff {line : String} {number : Option Int} {found : Extraction}
    (extracted : extract dialect line number = .ok found) :
    found.condition.timer.isSome = true ↔ ∃ digits unit, HasTime dialect found.condition.text.toList digits unit := by
  obtain ⟨⟨reference, reported⟩, -, extracted⟩ := bind_eq_ok extracted
  obtain ⟨timer, timed, extracted⟩ := bind_eq_ok extracted
  obtain ⟨comparison, -, ⟨⟩⟩ := bind_eq_ok extracted
  rw [String.toList_ofList]
  exact isSome_findTime_iff timed

end Search

/-! ## Lists without words -/

section Empty

variable {dialect : Dialect} {text : List Char}

theorem isWordChar_of_isDecimal {c : Char} (decimal : isDecimal c = true) : isWordChar c = true := by
  simp [isWordChar, decimal]

theorem IsSpacing.isWordChar_eq_false {spacing : List Char} (isSpacing : IsSpacing spacing) :
    ∀ c ∈ spacing, isWordChar c = false := by
  obtain ⟨gap, tilde, gap', rfl, blank, isTilde, blank'⟩ := isSpacing
  intro c member
  rcases List.mem_append.mp member with inGap | later
  · exact isWordChar_of_isBlank (blank c inGap)
  · rcases List.mem_append.mp later with inTilde | inGap
    · rcases isTilde with rfl | rfl
      · exact absurd inTilde List.not_mem_nil
      · rw [List.mem_singleton.mp inTilde]
        decide +kernel
    · exact isWordChar_of_isBlank (blank' c inGap)

/-- A number and a unit stand in a text, with no word character before the number. -/
def HasNumberWithUnit (dialect : Dialect) (text : List Char) : Prop :=
  ∃ left digits gap unit right, text = left ++ (digits ++ (gap ++ (unit ++ right))) ∧
    left.getLast?.any isWordChar = false ∧ (digits ≠ [] ∧ ∀ c ∈ digits, isDecimal c = true) ∧
    (∀ c ∈ gap, isBlank c = true) ∧ IsReading dialect.conditions.timerUnits unit ∧
    AtWordEdge (left ++ (digits ++ (gap ++ unit))) right

/-- A word for times and a number stand in a text, with no word character after the number. -/
def HasWordWithNumber (dialect : Dialect) (text : List Char) : Prop :=
  ∃ left word spacing digits right, text = left ++ (word ++ (spacing ++ (digits ++ right))) ∧
    AtWordEdge left (word ++ (spacing ++ (digits ++ right))) ∧ IsReading dialect.tables.timer word ∧
    IsSpacing spacing ∧ (digits ≠ [] ∧ ∀ c ∈ digits, isDecimal c = true) ∧ right.head?.any isWordChar = false

/-- Without words for times, a number and a unit are a time. -/
theorem exists_hasTime_iff_of_no_words (none : dialect.tables.timer = []) :
    (∃ digits unit, HasTime dialect text digits unit) ↔ HasNumberWithUnit dialect text := by
  constructor
  · rintro ⟨digits, unit, left, word, spacing, gap, right, rfl, isTime⟩
    obtain rfl : word = [] := (none ▸ isTime.isWord).eq_nil
    refine ⟨left ++ spacing, digits, gap, unit, right, by simp, ?_, ⟨isTime.given, isTime.decimal⟩, isTime.blank,
      isTime.isUnit, by simpa using isTime.closes⟩
    rcases List.eq_nil_or_concat spacing with rfl | ⟨front, last, rfl⟩
    · -- The edge before the number is that of the number itself.
      obtain ⟨c, rest, rfl⟩ := List.exists_cons_of_ne_nil isTime.given
      have opens := isTime.opens
      simpa [AtWordEdge, isWordChar_of_isDecimal (isTime.decimal c (.head _))] using opens
    · have solid := isTime.isSpacing.isWordChar_eq_false last (by simp)
      simpa using solid
  · rintro ⟨left, digits, gap, unit, right, rfl, apart, ⟨given, decimal⟩, blank, isUnit, closes⟩
    have isSpacing : IsSpacing [] := ⟨[], [], [], rfl, List.forall_mem_nil _, .inl rfl, List.forall_mem_nil _⟩
    refine ⟨digits, unit, left, [], [], gap, right, rfl, .inr ⟨none, rfl⟩, isSpacing, given, decimal, blank, isUnit, ?_,
      closes⟩
    obtain ⟨c, rest, rfl⟩ := List.exists_cons_of_ne_nil given
    simp [AtWordEdge, apart, isWordChar_of_isDecimal (decimal c (.head _))]

/-- Without units, a word for times and a number are a time. -/
theorem exists_hasTime_iff_of_no_units (none : dialect.conditions.timerUnits = []) :
    (∃ digits unit, HasTime dialect text digits unit) ↔ HasWordWithNumber dialect text := by
  constructor
  · rintro ⟨digits, unit, left, word, spacing, gap, right, rfl, isTime⟩
    obtain rfl : unit = [] := (none ▸ isTime.isUnit).eq_nil
    refine ⟨left, word, spacing, digits, gap ++ right, by simp, by simpa using isTime.opens, isTime.isWord,
      isTime.isSpacing, ⟨isTime.given, isTime.decimal⟩, ?_⟩
    cases gap with
    | nil =>
      -- The edge after the time is that of its number.
      obtain ⟨front, last, same⟩ := (List.eq_nil_or_concat digits).resolve_left isTime.given
      rw [List.concat_eq_append] at same
      subst same
      have closes := isTime.closes
      have wordy := isWordChar_of_isDecimal (isTime.decimal last (by simp))
      simpa [AtWordEdge, wordy, ← List.append_assoc] using closes
    | cons c gap => exact isWordChar_of_isBlank (isTime.blank c (.head _))
  · rintro ⟨left, word, spacing, digits, right, rfl, opens, isWord, isSpacing, ⟨given, decimal⟩, apart⟩
    refine ⟨digits, [], left, word, spacing, [], right, rfl, isWord, isSpacing, given, decimal, List.forall_mem_nil _,
      .inr ⟨none, rfl⟩, opens, ?_⟩
    obtain ⟨front, last, rfl⟩ := (List.eq_nil_or_concat digits).resolve_left given
    rw [List.concat_eq_append] at decimal ⊢
    have wordy := isWordChar_of_isDecimal (decimal last (by simp))
    simp [AtWordEdge, wordy, apart, ← List.append_assoc]

end Empty

end StepFlow.ConditionLine
