import StepFlow.Proofs.Layout.Embedded
import StepFlow.Proofs.Reading.Counts
import StepFlow.Proofs.Reading.ExplicitMarks
import StepFlow.Proofs.Reading.Times

/-! # Dialects without words

A list of words may be empty. Where a pattern has a keyword of that list, it reads the empty text there, and goes on. So
no condition is negated without words of negation, since the blanks that must follow such a word are gone when it is
looked for; and no line ends a step without words for that, since none is looked for. But a number with a unit is a time
without words for times, a word with a number is one without units, and a colon names the instance without marks for it.
-/

namespace StepFlow

open Text Pattern LineRule

variable {dialect : Dialect} {line : Line} {state : ReadState} {lineClass : LineClass}

/-! ## Patterns without words -/

theorem negation_not_startsIn (none : dialect.conditions.negation = []) {content : List Char}
    (solid : startsBlank content = false) : (ConditionLine.negation dialect).startsIn content = false := by
  rw [Bool.eq_false_iff]
  intro starts
  obtain ⟨stop, member⟩ := startsIn_iff.mp starts
  obtain ⟨_, isStart, member⟩ := mem_ends_concat_cons.mp member
  obtain rfl := List.mem_singleton.mp isStart
  obtain ⟨word, _, worded, isWord, member⟩ := exists_reads_of_mem_concat member
  obtain rfl : word = [] := (none ▸ isWord.isReading).eq_nil
  obtain ⟨gap, _, spaced, isGap, -⟩ := exists_reads_of_mem_concat member
  obtain ⟨c, gap, rfl⟩ := List.exists_cons_of_length_pos isGap.span.2
  rw [List.nil_append] at worded
  have blank : isBlank c = true := isGap.isBlank c (.head _)
  have begins : content = c :: (gap ++ _) := worded.trans spaced
  simp [begins, startsBlank, blank] at solid

theorem startsBlank_splitMark (content : List Char) :
    startsBlank (ConditionLine.splitMark dialect (trim content)).rest = false := by
  rw [← ConditionLine.trim_splitMark]
  exact startsBlank_trim _

/-- Without words of negation no condition is negated. -/
theorem negated_of_no_words (none : dialect.conditions.negation = []) {text : String} {number : Option Int}
    {found : ConditionLine.Extraction} (extracted : ConditionLine.extract dialect text number = .ok found) :
    found.condition.negated = false := by
  have unmatched := negation_not_startsIn none (@startsBlank_splitMark dialect text.toList)
  have split : (ConditionLine.splitNegation dialect
      (ConditionLine.splitMark dialect (trim text.toList)).rest).2 = false := by
    rw [ConditionLine.splitNegation]
    rw [startsIn, Option.isSome_eq_false_iff, Option.isNone_iff_eq_none] at unmatched
    rw [unmatched]
  obtain ⟨reference, -, extracted⟩ := bind_eq_ok extracted
  obtain ⟨timer, -, extracted⟩ := bind_eq_ok extracted
  obtain ⟨comparison, -, ⟨⟩⟩ := bind_eq_ok extracted
  exact split

/-- Without marks of the instance, a colon at the start of a line is followed by its name. -/
theorem instancePattern_of_no_marks (none : dialect.instanceMarks = []) {content : List Char}
    (single : '\n' ∉ content) (solid : startsBlank content = false) {found : Match}
    (matched : (instancePattern dialect).matchStart? content = some found) :
    ∃ rest, content = ':' :: rest ∧ trim (found.kept 1) = trim rest := by
  obtain ⟨stop, first, rfl⟩ := Option.map_eq_some_iff.mp matched
  have member := List.mem_of_head? first
  obtain ⟨_, isStart, member⟩ := mem_ends_concat_cons.mp member
  obtain rfl := List.mem_singleton.mp isStart
  obtain ⟨word, _, worded, isWord, member⟩ := exists_reads_of_mem_concat member
  obtain rfl : word = [] := (none ▸ isWord.isReading).eq_nil
  obtain ⟨gap, _, spaced, isGap, member⟩ := exists_reads_of_mem_concat member
  obtain ⟨sign, last, signed, isSign, member⟩ := exists_reads_of_mem_concat member
  obtain ⟨c, rfl, isColon⟩ := isSign.one
  obtain rfl : ':' = c := by simpa using isColon
  have whole : content = gap ++ (':' :: last.after) := by
    rw [← List.singleton_append, ← signed, ← spaced]
    exact worded
  obtain ⟨gap', after, remains, blank, kept⟩ :=
    Layout.of_mem_ends_remainder (fun lineFeed => single (by simp [whole, lineFeed])) member
  have unspaced : gap = [] := by
    cases gap with
    | nil => rfl
    | cons c gap => simp [whole, startsBlank, isGap.isBlank c (.head _)] at solid
  refine ⟨last.after, by rw [whole, unspaced, List.nil_append], ?_⟩
  rw [Layout.kept_mk, kept, Option.getD_some, remains]
  simp only [trim, trimStart, List.dropWhile_append_of_pos blank]

theorem instancePattern_startsIn_colon (none : dialect.instanceMarks = []) {rest : List Char} (single : '\n' ∉ rest) :
    (instancePattern dialect).startsIn (':' :: rest) = true := by
  have unmarked : (keyword dialect.instanceMarks).Passes [] := IsReading.passes (.inr ⟨none, rfl⟩)
  have colon : (mark ':').Passes [':'] := .one rfl
  have goes := unmarked.goesThrough ((Passes.blanks (List.forall_mem_nil _)).goesThrough
    (colon.goesThrough (Layout.goesThrough_remainder (List.forall_mem_nil _) single 1)))
  obtain ⟨stop, member⟩ := goes [] []
  exact startsIn_iff.mpr ⟨stop, mem_ends_concat_cons.mpr ⟨_, List.mem_singleton.mpr rfl, member⟩⟩

/-! ## Runs without words -/

/-- Where the instance has no marks, a line names it exactly if it starts with a colon and no class before takes it. -/
theorem Takes.names_instance_iff {reached : ReadState} (taken : Takes dialect line state lineClass reached)
    (none : dialect.instanceMarks = []) (single : '\n' ∉ line.content) (solid : startsBlank line.content = false) :
    lineClass = .instanceName ↔ line.content.head? = some ':' ∧ lineClass ≠ .comment ∧ lineClass ≠ .header := by
  constructor
  · rintro rfl
    have accepted := taken.accepted
    cases accepted with
    | instanceName matched =>
      obtain ⟨rest, begins, -⟩ := instancePattern_of_no_marks none single solid matched
      simp [begins]
  · rintro ⟨colon, noComment, noHeader⟩
    obtain ⟨before, after, split, left⟩ := taken.first
    -- The instance is the third class that is tried.
    rcases before with _ | ⟨_, _ | ⟨_, _ | ⟨third, before⟩⟩⟩
    · exact absurd (List.cons.inj split).1.symm noComment
    · exact absurd (List.cons.inj (List.cons.inj split).2).1.symm noHeader
    · exact (List.cons.inj (List.cons.inj (List.cons.inj split).2).2).1.symm
    · obtain rfl : .instanceName = third := (List.cons.inj (List.cons.inj (List.cons.inj split).2).2).1
      obtain ⟨rest, begins⟩ : ∃ rest, line.content = ':' :: rest := List.head?_eq_some_iff.mp colon
      have starts := instancePattern_startsIn_colon none
        (fun lineFeed => single (by rw [begins]; exact List.mem_cons_of_mem _ lineFeed))
      have passed := left .instanceName (by simp)
      rw [← begins, startsIn, Option.isSome_iff_exists] at starts
      obtain ⟨found, matched⟩ := starts
      simp [LineClass.rule, LineRule.instanceName, matched] at passed

/-- What is known about the name of the instance after lines of a text, where it has no marks. -/
structure ReadState.NamedByColons (text : List (List Char)) (state : ReadState) : Prop where
  classes : ∀ entry ∈ state.trace, ∃ line ∈ solidLines 1 text, entry.line = line.number ∧
    (entry.lineClass = .instanceName ↔
      line.content.head? = some ':' ∧ entry.lineClass ≠ .comment ∧ entry.lineClass ≠ .header)
  named : state.instanceName = "" ∨ ∃ line ∈ solidLines 1 text, ∃ rest, line.content = ':' :: rest ∧
    state.instanceName = String.ofList (trim rest)

theorem startsBlank_of_mem_solidLines {number : Nat} {text : List (List Char)}
    (present : line ∈ solidLines number text) : startsBlank line.content = false := by
  obtain ⟨index, chars, -, solid⟩ := mem_solidLines.mp present
  rw [content_of_ofChars? solid]
  exact startsBlank_trim chars

namespace ReadState.NamedByColons

variable {text : List (List Char)}

theorem start (text : List (List Char)) : ReadState.NamedByColons text {} :=
  ⟨List.forall_mem_nil _, .inl rfl⟩

theorem blankLine (colons : state.NamedByColons text) : state.blankLine.NamedByColons text := by
  obtain ⟨_, _, _, same⟩ := state.blankLine_eq
  rw [same]
  exact ⟨colons.classes, colons.named⟩

theorem taken (none : dialect.instanceMarks = []) (single : '\n' ∉ line.content) {reached : ReadState}
    (colons : state.NamedByColons text) (present : line ∈ solidLines 1 text)
    (taken : Takes dialect line state lineClass reached) : (reached.classify line lineClass).NamedByColons text := by
  have solid := startsBlank_of_mem_solidLines present
  refine ⟨?_, ?_⟩
  · intro entry member
    rw [classify, taken.accepted.trace_eq] at member
    rcases List.mem_append.mp member with before | here
    · exact colons.classes entry before
    · obtain rfl := List.mem_singleton.mp here
      exact ⟨line, present, rfl, taken.names_instance_iff none single solid⟩
  · rcases taken.accepted.instanceName_eq with same | ⟨found, matched, named⟩
    · rw [classify, same]
      exact colons.named
    · obtain ⟨rest, begins, same⟩ := instancePattern_of_no_marks none single solid matched
      exact .inr ⟨line, present, rest, begins, by rw [classify, named, same]⟩

end ReadState.NamedByColons

theorem namedByColons_of_readLines (none : dialect.instanceMarks = []) {text : List Char}
    (read : readLines dialect LineClass.standard 1 {} (lines text) = .ok state) : state.NamedByColons (lines text) :=
  @readLines_keeps_taken dialect (lines text) (fun _ between => between.NamedByColons (lines text)) (.start _)
    (fun _ colons => colons.blankLine)
    (fun present taken colons => colons.taken none (single_of_mem_solidLines present) present taken) state read

/-- Without metadata a program has the name of the instance that its text gives. -/
theorem instanceName_of_readProgram {text : String} {reading : Reading}
    (read : readProgram dialect text {} = .ok reading)
    (ran : readLines dialect LineClass.standard 1 {} (lines text.toList) = .ok state) :
    reading.program.instanceName = state.instanceName := by
  unfold readProgram readWith at read
  rw [ran] at read
  dsimp only [bind, Except.bind] at read
  split at read
  · cases read
  · rename_i filled applied
    cases read
    obtain ⟨_, -, ⟨⟩⟩ := bind_eq_ok applied
    rw [ReadState.reportAll_eq]
    rfl

/-- Every condition of a program is said by a line of its text. -/
theorem exists_says_of_readProgram {text : String} {metadata : Metadata} {reading : Reading}
    (read : readProgram dialect text metadata = .ok reading) {condition : Condition}
    (member : condition ∈ reading.program.allConditions) :
    ∃ line ∈ solidLines 1 (lines text.toList), line.Says dialect condition := by
  obtain ⟨state, ran, -, steps, vars, -⟩ := readProgram_eq_ok read
  have same : reading.program.allConditions = state.program.allConditions := by
    rw [Program.allConditions, Program.entryAndExitConditions, Program.otherConditions, steps, vars]
    rfl
  rw [same] at member
  exact (counts_of_readLines ran).said condition (List.mem_append_left _ member)

/-- What a dialect recognizes where one of its lists of words is empty: no negation and no end of a step, but every
number with a unit or word with a number as a time, and every colon at the start of a line as that of the instance. -/
theorem readProgram_without_words {text : String} {reading : Reading}
    (read : readProgram dialect text {} = .ok reading) :
    (dialect.conditions.negation = [] → ∀ condition ∈ reading.program.allConditions, condition.negated = false) ∧
    (dialect.stepWords.ending = [] →
      ∀ entry ∈ reading.trace, entry.lineClass = .declaration → entry.declared.isSome = true) ∧
    (dialect.tables.timer = [] → ∀ condition ∈ reading.program.allConditions,
      (condition.timer.isSome = true ↔ ConditionLine.HasNumberWithUnit dialect condition.text.toList)) ∧
    (dialect.conditions.timerUnits = [] → ∀ condition ∈ reading.program.allConditions,
      (condition.timer.isSome = true ↔ ConditionLine.HasWordWithNumber dialect condition.text.toList)) ∧
    (dialect.instanceMarks = [] →
      (∀ line ∈ solidLines 1 (lines text.toList), ∀ entry ∈ reading.trace, entry.line = line.number →
        (entry.lineClass = .instanceName ↔
          line.content.head? = some ':' ∧ entry.lineClass ≠ .comment ∧ entry.lineClass ≠ .header)) ∧
      (reading.program.instanceName = "" ∨ ∃ line ∈ solidLines 1 (lines text.toList), ∃ rest,
        line.content = ':' :: rest ∧ reading.program.instanceName = String.ofList (trim rest))) := by
  obtain ⟨state, ran, trace, -⟩ := readProgram_eq_ok read
  refine ⟨?_, ?_, ?_, ?_, ?_⟩
  · intro none condition member
    obtain ⟨line, -, found, extracted, rfl⟩ := exists_says_of_readProgram read member
    exact negated_of_no_words none extracted
  · intro none entry member declares
    have accounts := (ReadState.Accounts.start dialect).readLines ran
    obtain ⟨line, -, traced⟩ := accounts.exists_line (trace ▸ member)
    rw [← Bool.not_eq_false, traced.ends declares]
    simp [endsStep, none]
  · intro none condition member
    obtain ⟨line, -, found, extracted, rfl⟩ := exists_says_of_readProgram read member
    exact (ConditionLine.isSome_timer_iff extracted).trans (ConditionLine.exists_hasTime_iff_of_no_words none)
  · intro none condition member
    obtain ⟨line, -, found, extracted, rfl⟩ := exists_says_of_readProgram read member
    exact (ConditionLine.isSome_timer_iff extracted).trans (ConditionLine.exists_hasTime_iff_of_no_units none)
  · intro none
    have colons := namedByColons_of_readLines none ran
    refine ⟨?_, ?_⟩
    · intro line present entry member number
      obtain ⟨other, there, same, names⟩ := colons.classes entry (trace ▸ member)
      obtain rfl := eq_of_number_eq present there (number.symm.trans same)
      exact names
    · rw [instanceName_of_readProgram read ran]
      exact colons.named

/-- A dialect without words of negation, ends of steps, times, units and instances. -/
def wordless : Dialect :=
  { stepWords := { ending := [] }, tables := { timer := [] }, conditions := { negation := [], timerUnits := [] }
    instanceMarks := [] }

def wordlessText : String := "STAP 1: a\n- NIET b\n- 5 s\n- ~ 6\nEND\n: pump"

/-- The numbers of both lines are times, the last line names the instance, and nothing is negated or ended. -/
theorem readProgram_without_words_wordlessText :
    ∃ reading, readProgram wordless wordlessText {} = .ok reading ∧
      reading.trace.map ClassifiedLine.lineClass =
        [.declaration, .condition, .condition, .condition, .unrecognized, .instanceName] ∧
      reading.program.allConditions.map Condition.timer = [none, some ⟨5, ""⟩, some ⟨6, ""⟩] ∧
      reading.program.instanceName = "pump" ∧
      (∀ condition ∈ reading.program.allConditions, condition.negated = false) ∧
      (∀ entry ∈ reading.trace, entry.lineClass = .declaration → entry.declared.isSome = true) ∧
      (∀ condition ∈ reading.program.allConditions,
        (condition.timer.isSome = true ↔ ConditionLine.HasNumberWithUnit wordless condition.text.toList) ∧
        (condition.timer.isSome = true ↔ ConditionLine.HasWordWithNumber wordless condition.text.toList)) ∧
      ∀ line ∈ solidLines 1 (lines wordlessText.toList), ∀ entry ∈ reading.trace, entry.line = line.number →
        (entry.lineClass = .instanceName ↔
          line.content.head? = some ':' ∧ entry.lineClass ≠ .comment ∧ entry.lineClass ≠ .header) := by
  have evaluated : (readProgram wordless wordlessText {}).toOption.map (fun reading =>
      (reading.trace.map ClassifiedLine.lineClass, reading.program.allConditions.map Condition.timer,
        reading.program.instanceName)) =
      some ([.declaration, .condition, .condition, .condition, .unrecognized, .instanceName],
        [none, some ⟨5, ""⟩, some ⟨6, ""⟩], "pump") := by
    decide +kernel
  obtain ⟨reading, done, found⟩ := Option.map_eq_some_iff.mp evaluated
  obtain ⟨classes, found⟩ := Prod.mk.inj found
  obtain ⟨timers, named⟩ := Prod.mk.inj found
  have read := eq_ok_of_toOption_eq_some done
  obtain ⟨negation, ending, words, units, colons⟩ := readProgram_without_words read
  exact ⟨reading, read, classes, timers, named, negation rfl, ending rfl,
    fun condition member => ⟨words rfl condition member, units rfl condition member⟩, (colons rfl).1⟩

/-- Without words for times, a number with a unit is still read as a time. -/
theorem readProgram_times_bare_number :
    ∃ reading, readProgram { tables := { timer := [] } } "STAP 1: a\n- 5 s" {} = .ok reading ∧
      ∃ condition ∈ reading.program.allConditions, condition.timer = some ⟨5, "s"⟩ := by
  have evaluated : (readProgram { tables := { timer := [] } } "STAP 1: a\n- 5 s" {}).toOption.map (fun reading =>
      reading.program.allConditions.map Condition.timer) = some [some ⟨5, "s"⟩] := by
    decide +kernel
  obtain ⟨reading, done, timers⟩ := Option.map_eq_some_iff.mp evaluated
  have listed : some ⟨5, "s"⟩ ∈ reading.program.allConditions.map Condition.timer := by
    rw [timers]
    exact List.mem_singleton.mpr rfl
  obtain ⟨condition, member, timed⟩ := List.mem_map.mp listed
  exact ⟨reading, eq_ok_of_toOption_eq_some done, condition, member, timed⟩

end StepFlow
