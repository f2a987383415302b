import StepFlow.Proofs.Reading.Reports
import StepFlow.Proofs.Reading.Runs

/-! # Marks before conditions

A line needs no mark to be a condition where it is indented or looks like one. With a hyphen before its content it is
the same condition: no other class takes a line that starts with a hyphen, and the mark is the first thing that is taken
off a condition. So the whole text is read as before, and only the reports on the line quote it in its new form.
-/

namespace StepFlow

open Text LineRule

/-! ## How patterns begin -/

namespace Pattern

variable {c : Char} {pattern first second : Pattern}

/-- The pattern reads no text that starts with the given character. -/
def Avoids (c : Char) (pattern : Pattern) : Prop := ∀ part, pattern.Reads part → part.head? ≠ some c

/-- The pattern reads only texts that start with another character than the given one. -/
def Refuses (c : Char) (pattern : Pattern) : Prop := ∀ part, pattern.Reads part → ∃ d ∈ part.head?, d ≠ c

theorem Refuses.avoids (refuses : pattern.Refuses c) : pattern.Avoids c := by
  intro part reads here
  obtain ⟨d, there, other⟩ := refuses part reads
  exact other (Option.mem_unique there here)

theorem Refuses.group (refuses : pattern.Refuses c) (index : Nat) : (group index pattern).Refuses c :=
  fun part reads => refuses part reads.group

theorem Avoids.group (avoids : pattern.Avoids c) (index : Nat) : (Pattern.group index pattern).Avoids c :=
  fun part reads => avoids part reads.group

theorem Refuses.seq (refuses : first.Refuses c) (second : Pattern) : (seq first second).Refuses c := by
  intro part reads
  obtain ⟨left, right, rfl, isLeft, -⟩ := Reads.seq reads
  obtain ⟨d, here, other⟩ := refuses left isLeft
  exact ⟨d, by simp [Option.mem_def.mp here], other⟩

theorem ends_optional (body : Pattern) (place : Place) :
    (loop body .optional true).ends place = body.ends place ++ [place] := by
  simp [ends, Bounds.optional, roundPlaces, morePlaces]

theorem Avoids.optional (avoids : pattern.Avoids c) : (loop pattern .optional true).Avoids c := by
  rintro part ⟨place, reached, member, split⟩
  rw [ends_optional, List.mem_append, List.mem_singleton] at member
  rcases member with there | rfl
  · exact avoids part ⟨place, reached, there, split⟩
  · rw [List.self_eq_append_left.mp split]
    simp

theorem refuses_one {test : CharTest} (fails : test.holds c = false) : (one test).Refuses c := by
  intro part reads
  obtain ⟨d, rfl, holds⟩ := Reads.one reads
  refine ⟨d, rfl, ?_⟩
  rintro rfl
  rw [fails] at holds
  cases holds

theorem avoids_span {test : CharTest} (fails : test.holds c = false) (bounds : Bounds) (greedy : Bool) :
    (span test bounds greedy).Avoids c := by
  intro part reads here
  have holds := reads.span.1 c (List.mem_of_head? here)
  rw [fails] at holds
  cases holds

/-- The word starts with a letter that is not the given one, in any letter case. -/
def startsApart (c : Char) (word : String) : Bool := word.toList.head?.any fun d => !sameFolded d c

theorem exists_head?_of_spells {word : String} {part : List Char} (apart : startsApart c word = true)
    (spells : Spells word.toList part) : ∃ d ∈ part.head?, d ≠ c := by
  unfold startsApart at apart
  revert apart spells
  cases word.toList with
  | nil => simp
  | cons d rest =>
    intro apart spells
    obtain ⟨e, more, same, -, rfl⟩ := List.forall₂_cons_left_iff.mp spells
    refine ⟨e, rfl, ?_⟩
    rintro rfl
    simp [same] at apart

theorem refuses_literal {word : String} (apart : startsApart c word = true) : (literal .full word).Refuses c :=
  fun _ reads => exists_head?_of_spells apart reads.letters

theorem refuses_keyword {words : List String} (nonempty : words ≠ [])
    (apart : ∀ word ∈ words, startsApart c word = true) : (keyword words).Refuses c := by
  intro part reads
  obtain ⟨word, isWord, spells⟩ := reads.keyword nonempty
  exact exists_head?_of_spells (apart word isWord) spells

/-- A part that refuses the first character of a text is not passed, even behind parts that avoid it. -/
theorem not_mem_ends_of_refuses {skipped parts : List Pattern} (skips : ∀ pattern ∈ skipped, pattern.Avoids c)
    (refuses : first.Refuses c) {place reached : Place} (here : place.after.head? = some c) :
    reached ∉ (concat (skipped ++ first :: parts)).ends place := by
  intro member
  induction skipped generalizing place with
  | nil =>
    obtain ⟨taken, middle, after, reads, -⟩ := exists_reads_of_mem_concat member
    obtain ⟨d, there, other⟩ := refuses taken reads
    rw [after, List.head?_append, there, Option.some_or, Option.some.injEq] at here
    exact other here
  | cons pattern skipped ih =>
    obtain ⟨avoids, skips⟩ := List.forall_mem_cons.mp skips
    obtain ⟨taken, middle, after, reads, member⟩ := exists_reads_of_mem_concat member
    refine ih skips ?_ member
    -- The part has read nothing, so the next one starts at the same character.
    cases taken with
    | nil => rwa [after] at here
    | cons d taken =>
      rw [after] at here
      exact absurd here (avoids (d :: taken) reads)

theorem matchStart?_eq_none_of_refuses (skipped : List Pattern) {parts : List Pattern}
    (skips : ∀ pattern ∈ skipped, pattern.Avoids c) (refuses : first.Refuses c) (rest : List Char) :
    (concat (start :: (skipped ++ first :: parts))).matchStart? (c :: rest) = none := by
  rw [← Option.not_isSome_iff_eq_none]
  intro starts
  obtain ⟨stop, member⟩ := startsIn_iff.mp starts
  obtain ⟨place, isStart, member⟩ := mem_ends_concat_cons.mp member
  obtain rfl : place = ⟨[], c :: rest, []⟩ := by simpa [start, ends, Edge.holds] using isStart
  exact not_mem_ends_of_refuses skips refuses rfl member

end Pattern

/-! ## The hyphen -/

/-- The hyphen is the mark of conditions, and nothing else of the dialect starts with it. -/
structure Dialect.ReservesHyphen (dialect : Dialect) : Prop where
  andMark : dialect.conditions.andMark = "-"
  orMark : dialect.conditions.orMark = "+"
  comment : dialect.commentMark.toList.head? ≠ some '-'
  words_ne_nil : dialect.instanceMarks ≠ [] ∧ dialect.declarationWords ≠ []
  words : ∀ word ∈ dialect.conditions.transition ::
    (dialect.instanceMarks ++ dialect.stepWords.ending ++ dialect.declarationWords), Pattern.startsApart '-' word = true

theorem Dialect.reservesHyphen_default : ({} : Dialect).ReservesHyphen where
  andMark := rfl
  orMark := rfl
  comment := by decide
  words_ne_nil := by decide
  words := by decide +kernel

namespace Dialect.ReservesHyphen

variable {dialect : Dialect} (reserves : dialect.ReservesHyphen) (rest : List Char)
include reserves

theorem isComment_eq_false : dialect.isComment ('-' :: rest) = false := by
  rw [isComment, Bool.and_eq_false_iff]
  by_cases unmarked : dialect.commentMark.isEmpty = true
  · exact .inl (by rw [unmarked]; rfl)
  · refine .inr (Bool.eq_false_iff.mpr fun starts => reserves.comment ?_)
    have given : dialect.commentMark.toList ≠ [] := by simpa using unmarked
    obtain ⟨d, mark, isMark⟩ := List.exists_cons_of_ne_nil given
    rw [isMark, List.isPrefixOf_iff_prefix, List.cons_prefix_cons] at starts
    rw [isMark, starts.1]
    rfl

omit rest in
theorem refuses_keyword {words : List String} (nonempty : words ≠ [])
    (known : words ⊆ dialect.instanceMarks ++ dialect.stepWords.ending ++ dialect.declarationWords) :
    (Pattern.keyword words).Refuses '-' :=
  Pattern.refuses_keyword nonempty fun word isWord => reserves.words word (.tail _ (known isWord))

theorem matchStart?_instancePattern : (instancePattern dialect).matchStart? ('-' :: rest) = none := by
  have refuses := reserves.refuses_keyword reserves.words_ne_nil.1 (by simp)
  exact Pattern.matchStart?_eq_none_of_refuses [] (List.forall_mem_nil _) refuses rest

theorem endsStep_eq_false : endsStep dialect ('-' :: rest) = false := by
  rw [endsStep, Bool.and_eq_false_iff]
  by_cases wordless : dialect.stepWords.ending = []
  · exact .inl (by rw [wordless]; rfl)
  · refine .inr ?_
    have refuses := reserves.refuses_keyword wordless (by simp)
    have unread : (endPattern dialect).matchStart? ('-' :: rest) = none :=
      Pattern.matchStart?_eq_none_of_refuses [] (List.forall_mem_nil _) refuses rest
    rw [Pattern.startsIn, unread, Option.isSome_none]

theorem matchStart?_declarationPattern : (declarationPattern dialect).matchStart? ('-' :: rest) = none := by
  have refuses := reserves.refuses_keyword reserves.words_ne_nil.2 (by simp)
  exact Pattern.matchStart?_eq_none_of_refuses [] (List.forall_mem_nil _) (refuses.group 1) rest

theorem matchStart?_transitionPattern : (transitionPattern dialect).matchStart? ('-' :: rest) = none := by
  have plus : (Pattern.literal .full dialect.conditions.orMark).Refuses '-' := by
    rw [reserves.orMark]
    exact Pattern.refuses_literal (by decide)
  have skips := ((plus.seq .blanks).group 1).avoids.optional
  exact Pattern.matchStart?_eq_none_of_refuses [_] (List.forall_mem_singleton.mpr skips)
    (Pattern.refuses_literal (reserves.words _ (.head _))) rest

omit reserves in
theorem matchStart?_assignmentPattern : assignmentPattern.matchStart? ('-' :: rest) = none := by
  have initial : (Pattern.one (.set ("-+=<>!()".toList.map .char ++ [.ofKind .blank false false]) .exact true)).Refuses
      '-' := Pattern.refuses_one (by decide)
  have name := (initial.seq (.span (.noneOf "=<>!()") .anyNumber false)).avoids.optional.group 1
  have blank : Pattern.blanks.Avoids '-' := Pattern.avoids_span (by decide) .anyNumber true
  have equals : (Pattern.mark '=').Refuses '-' := Pattern.refuses_one (by decide)
  exact Pattern.matchStart?_eq_none_of_refuses [_, _]
    (List.forall_mem_cons.mpr ⟨name, List.forall_mem_singleton.mpr blank⟩) equals rest

end Dialect.ReservesHyphen

/-! ## Lines -/

theorem startsBlank_trim (text : List Char) : startsBlank (trim text) = false := by
  cases trimmed : trim text with
  | nil => rfl
  | cons c rest =>
    have begins : trim text <+: trimStart text := by
      rw [trim, trimEnd, ← List.reverse_suffix, List.reverse_reverse]
      exact List.dropWhile_suffix _
    obtain ⟨after, whole⟩ := begins
    rw [trimmed] at whole
    exact Pattern.isBlank_of_dropWhile whole.symm

theorem trimEnd_trim (text : List Char) : trimEnd (trim text) = trim text := by
  simp only [trim, trimEnd, List.reverse_reverse, List.dropWhile_idempotent]

theorem trim_of_solid {text : List Char} (solid : startsBlank text = false) : trim text = trimEnd text := by
  cases text with
  | nil => rfl
  | cons c rest => rw [trim, trimStart, List.dropWhile_cons, if_neg (by simpa [startsBlank] using solid)]

theorem trim_trim (text : List Char) : trim (trim text) = trim text := by
  rw [trim_of_solid (startsBlank_trim text), trimEnd_trim]

/-- A text that is trimmed and not empty is still trimmed behind a hyphen. -/
theorem trim_hyphen {content : List Char} (trimmed : trim content = content) (nonempty : content ≠ []) :
    trimEnd ('-' :: ' ' :: content) = '-' :: ' ' :: content ∧ trim ('-' :: ' ' :: content) = '-' :: ' ' :: content := by
  have closed : trimEnd content = content := by rw [← trimmed, trimEnd_trim]
  have ends : trimEnd ('-' :: ' ' :: content) = '-' :: ' ' :: content := by
    have appended := @Layout.trimEnd_append ['-', ' '] content (closed.symm ▸ nonempty)
    rwa [closed] at appended
  exact ⟨ends, (trim_of_solid rfl).trans ends⟩

/-- The line with a hyphen before its content. -/
def markLine (chars : List Char) : List Char := '-' :: ' ' :: trim chars

/-- The line that is read where a hyphen stands before the content. -/
def Line.marked (line : Line) : Line :=
  { line with raw := '-' :: ' ' :: line.content, content := '-' :: ' ' :: line.content }

theorem ofChars?_markLine {number : Nat} {chars : List Char} {line : Line}
    (solid : Line.ofChars? number chars = some line) :
    Line.ofChars? number (markLine chars) = some line.marked := by
  obtain ⟨ends, both⟩ := trim_hyphen (trim_trim chars) (trim_ne_nil_of_ofChars? solid).1
  rw [Line.ofChars?, markLine, both, ends, Line.marked, content_of_ofChars? solid, number_of_ofChars? solid]
  rfl

/-- The diagnostic with another text of the line, if it quotes the line of the given number. -/
def Diagnostic.requote (number : Nat) (text : String) (diagnostic : Diagnostic) : Diagnostic :=
  if diagnostic.line = some (number : Int) then { diagnostic with text := diagnostic.text.map fun _ => text }
  else diagnostic

theorem Diagnostic.severity_requote (number : Nat) (text : String) (diagnostic : Diagnostic) :
    (diagnostic.requote number text).severity = diagnostic.severity := by
  unfold requote
  split <;> rfl

theorem Diagnostic.requote_eq_self {number other : Nat} (apart : other ≠ number) (text : String)
    {diagnostic : Diagnostic} (there : diagnostic.line = some (other : Int)) :
    diagnostic.requote number text = diagnostic := by
  rw [requote, if_neg]
  rw [there, Option.some.injEq, Int.natCast_inj]
  exact apart

theorem requote_orphanWarning (number : Nat) (text : String) (transition : Transition) :
    (orphanWarning transition).requote number text = orphanWarning transition := by
  unfold Diagnostic.requote
  split <;> rfl

namespace ConditionLine

variable {dialect : Dialect}

/-- What a mark leaves of a trimmed line is trimmed. -/
theorem trim_splitMark (content : List Char) :
    trim (splitMark dialect (trim content)).rest = (splitMark dialect (trim content)).rest := by
  have trimmed {mark : String} {rest : List Char} (found : afterMark? mark (trim content) = some rest) :
      trim rest = rest := by
    rw [afterMark?] at found
    split at found
    · cases found
    · obtain ⟨after, -, rfl⟩ := Option.map_eq_some_iff.mp found
      exact trim_trim after
  unfold splitMark
  split
  · exact trimmed ‹_›
  · split
    · exact trimmed ‹_›
    · exact trim_trim content

theorem splitMark_of_plain (reserves : dialect.ReservesHyphen) {content : List Char}
    (plain : ∀ c ∈ content.head?, c ≠ '-' ∧ c ≠ '+') : splitMark dialect content = ⟨content, false, false⟩ := by
  rw [splitMark, reserves.orMark, reserves.andMark]
  cases content with
  | nil => rfl
  | cons c rest =>
    obtain ⟨noHyphen, noPlus⟩ := plain c rfl
    simp [afterMark?, stripStart?, noHyphen.symm, noPlus.symm]

theorem splitMark_hyphen (reserves : dialect.ReservesHyphen) {content : List Char} (trimmed : trim content = content) :
    splitMark dialect ('-' :: ' ' :: content) = ⟨content, false, true⟩ := by
  have unspaced : trim (' ' :: content) = content := trimmed
  rw [splitMark, reserves.orMark, reserves.andMark]
  simp [afterMark?, stripStart?, unspaced]

theorem findReference_requote (line other : String) (number : Nat) (body : List Char) :
    findReference dialect other (some number) body =
      (findReference dialect line (some number) body).map fun found =>
        (found.1, found.2.map (Diagnostic.requote number other)) := by
  unfold findReference
  split
  · rfl
  · dsimp only
    split
    · simp [Except.map, Diagnostic.requote]
    · cases (Pattern.numeral.findAll (Match.kept _ 2)).mapM ReadFault.ofNumeral with
      | error fault => rfl
      | ok numbers =>
        simp only [bind, Except.bind]
        cases CrossReference.ofNumbers? _ _ _ _ <;> rfl

theorem ambiguity_requote (line other : String) {condition : Condition} {number : Nat}
    (here : condition.line = some (number : Int)) :
    ambiguity other condition = (ambiguity line condition).map (Diagnostic.requote number other) := by
  unfold ambiguity
  split
  · simp [Diagnostic.requote, here]
  · rfl

/-- With a hyphen before it, a line is read as the same condition; what is reported on it quotes the hyphen. -/
theorem extract_marked (reserves : dialect.ReservesHyphen) {line : Line} (trimmed : trim line.content = line.content)
    (nonempty : line.content ≠ []) (plain : ∀ c ∈ line.content.head?, c ≠ '-' ∧ c ≠ '+') :
    extract dialect line.marked.text (some line.number) =
      (extract dialect line.text (some line.number)).map fun found =>
        ⟨found.condition, true, found.diagnostics.map (Diagnostic.requote line.number line.marked.text)⟩ := by
  have bare : splitMark dialect (trim line.text.toList) = ⟨line.content, false, false⟩ := by
    rw [Line.text, String.toList_ofList, trimmed, splitMark_of_plain reserves plain]
  have signed : splitMark dialect (trim line.marked.text.toList) = ⟨line.content, false, true⟩ := by
    rw [Line.text, String.toList_ofList, Line.marked, (trim_hyphen trimmed nonempty).2,
      splitMark_hyphen reserves trimmed]
  simp only [extract, bare, signed]
  rw [findReference_requote line.text]
  cases findReference dialect line.text (some line.number) _ with
  | error fault => rfl
  | ok found =>
    simp only [Except.map, bind, Except.bind]
    cases findTime dialect _ with
    | error fault => rfl
    | ok timer =>
      cases findComparison _ with
      | error fault => rfl
      | ok comparison =>
        simp only [pure, Except.pure, List.map_append]
        rw [ambiguity_requote line.text line.marked.text rfl]

end ConditionLine

section Rules

variable {dialect : Dialect} {line : Line} {state reached : ReadState}

/-- Where a name can no longer stand, a line with a hyphen is left to the conditions. -/
theorem rule_marked (reserves : dialect.ReservesHyphen) (late : state.hasContent = true) {lineClass : LineClass}
    (before : lineClass ∈ [.comment, .header, .instanceName, .declaration, .transition, .assignment]) :
    lineClass.rule dialect line.marked state = .ok none := by
  cases lineClass with
  | comment => exact rule_comment (reserves.isComment_eq_false _)
  | header => simp only [LineClass.rule, header, late, Bool.true_or, ↓reduceIte]
  | instanceName => simp only [LineClass.rule, instanceName, Line.marked, reserves.matchStart?_instancePattern]
  | declaration =>
    simp only [LineClass.rule, declaration, Line.marked, reserves.endsStep_eq_false,
      reserves.matchStart?_declarationPattern, Bool.false_eq_true, ↓reduceIte]
  | transition => simp only [LineClass.rule, transition, Line.marked, reserves.matchStart?_transitionPattern]
  | assignment =>
    simp only [LineClass.rule, assignment, Line.marked, Dialect.ReservesHyphen.matchStart?_assignmentPattern, ite_self]
  | _ => simp at before

/-- The rule of conditions leaves with the hyphen what it leaves without it, in a state without reports on the line. -/
theorem condition_marked (reserves : dialect.ReservesHyphen) (trimmed : trim line.content = line.content)
    (nonempty : line.content ≠ []) (plain : ∀ c ∈ line.content.head?, c ≠ '-' ∧ c ≠ '+')
    (fresh : state.mapReports (Diagnostic.requote line.number line.marked.text) = state)
    (accepted : Accepted dialect line state .condition reached) :
    condition dialect line.marked state =
      .ok (some (reached.mapReports (Diagnostic.requote line.number line.marked.text))) := by
  cases accepted with
  | @condition taken signed found extracted =>
    have hyphen : (ConditionLine.splitMark dialect line.marked.content).isMarked = true := by
      rw [Line.marked, ConditionLine.splitMark_hyphen reserves trimmed]
    have again := ConditionLine.extract_marked reserves trimmed nonempty plain
    rw [extracted] at again
    have reports := state.mapReports_reportAll fun diagnostic (_ : diagnostic ∈ found.diagnostics) =>
      diagnostic.severity_requote line.number line.marked.text
    rw [fresh] at reports
    have number : line.marked.number = line.number := rfl
    simp only [condition, taken, hyphen, number, Bool.or_true, Bool.true_or, Bool.not_true, Bool.false_eq_true,
      ↓reduceIte]
    rw [again]
    refine congrArg (fun next => Except.ok (some next)) ?_
    rw [ReadState.mapReports_file]
    exact congrArg (fun reported : ReadState => file dialect found.condition { reported with
      crossReferences := reported.crossReferences ++ found.condition.crossReference.toList
      external := reported.external + found.condition.external.toList.length }) reports.symm

theorem Accepted.takesConditions (accepted : Accepted dialect line state .condition reached) :
    takesConditions state = true := by
  cases accepted with
  | condition taken => exact taken

/-- A condition is read with the hyphen as without it. -/
theorem readLine_marked (reserves : dialect.ReservesHyphen) (late : state.hasContent = true)
    (trimmed : trim line.content = line.content) (nonempty : line.content ≠ [])
    (plain : ∀ c ∈ line.content.head?, c ≠ '-' ∧ c ≠ '+')
    (fresh : state.mapReports (Diagnostic.requote line.number line.marked.text) = state)
    (accepted : Accepted dialect line state .condition reached) :
    readLine dialect line.marked state LineClass.standard =
      .ok ((reached.classify line .condition).mapReports (Diagnostic.requote line.number line.marked.text)) := by
  have left {lineClass : LineClass}
      (before : lineClass ∈ [.comment, .header, .instanceName, .declaration, .transition, .assignment]) :
      lineClass.rule dialect line.marked state = .ok none := rule_marked reserves late before
  have taken := condition_marked reserves trimmed nonempty plain fresh accepted
  rw [LineClass.standard, readLine_of_none (left (by simp)), readLine_of_none (left (by simp)),
    readLine_of_none (left (by simp)), readLine_of_none (left (by simp)), readLine_of_none (left (by simp)),
    readLine_of_none (left (by simp)), readLine, LineClass.rule, taken]
  rfl

end Rules

/-! ## Texts -/

section Traces

variable {dialect : Dialect} {state : ReadState}

/-- The classes that were given to lines, whether or not reading came to its end. -/
def traceOf {α : Type} (trace : α → List ClassifiedLine) : Except StoppedReading α → List ClassifiedLine
  | .ok value => trace value
  | .error stopped => stopped.trace

theorem traceOf_readProgram (text : String) (metadata : Metadata) :
    traceOf Reading.trace (readProgram dialect text metadata) =
      traceOf ReadState.trace (readLines dialect LineClass.standard 1 {} (lines text.toList)) := by
  rw [readProgram_eq_bind]
  cases readLines dialect LineClass.standard 1 {} (lines text.toList) with
  | error stopped => rfl
  | ok state =>
    simp only [bind, Except.bind, ReadState.conclude]
    cases state.finish metadata <;> rfl

theorem ReadState.trace_blankLine (state : ReadState) : state.blankLine.trace = state.trace := by
  obtain ⟨_, _, _, same⟩ := state.blankLine_eq
  rw [same]

/-- A line that is read gets one class. -/
theorem exists_accepted_of_readLine {line : Line} {next : ReadState}
    (read : readLine dialect line state LineClass.standard = .ok next) :
    ∃ lineClass reached, Accepted dialect line state lineClass reached ∧ next = reached.classify line lineClass := by
  rcases readLine_eq_ok read with ⟨left, -⟩ | ⟨_, lineClass, _, reached, _, _, accepted, rfl⟩
  · have taken := left .unrecognized (by decide)
    cases taken
  · exact ⟨lineClass, reached, accepted, rfl⟩

/-- Lines add their classes to those of the lines before. -/
theorem exists_traceOf_readLines (dialect : Dialect) (number : Nat) (state : ReadState) (rest : List (List Char)) :
    ∃ more, traceOf ReadState.trace (readLines dialect LineClass.standard number state rest) = state.trace ++ more ∧
      ∀ entry ∈ more, number ≤ entry.line ∧ entry.line < number + rest.length := by
  induction rest generalizing number state with
  | nil => exact ⟨[], (List.append_nil _).symm, nofun⟩
  | cons chars rest ih =>
    rw [readLines]
    cases solid : Line.ofChars? number chars with
    | none =>
      obtain ⟨more, traced, within⟩ := ih (number + 1) state.blankLine
      refine ⟨more, state.trace_blankLine ▸ traced, fun entry member => ?_⟩
      have := within entry member
      rw [List.length_cons]
      omega
    | some line =>
      dsimp only
      cases read : readLine dialect line state LineClass.standard with
      | error fault => exact ⟨[], (List.append_nil _).symm, nofun⟩
      | ok next =>
        obtain ⟨lineClass, reached, accepted, rfl⟩ := exists_accepted_of_readLine read
        obtain ⟨more, traced, within⟩ := ih (number + 1) (reached.classify line lineClass)
        refine ⟨⟨line.number, lineClass, declaredLabel lineClass line reached⟩ :: more, ?_, ?_⟩
        · rw [traced, ReadState.classify, accepted.trace_eq, List.append_assoc]
          rfl
        · rw [List.length_cons]
          refine List.forall_mem_cons.mpr ⟨?_, fun entry member => ?_⟩
          · have := number_of_ofChars? solid
            dsimp only
            omega
          · have := within entry member
            omega

theorem readLines_append (classes : List LineClass) (number : Nat) (state : ReadState)
    (before rest : List (List Char)) :
    readLines dialect classes number state (before ++ rest) =
      readLines dialect classes number state before >>= fun between =>
        readLines dialect classes (number + before.length) between rest := by
  induction before generalizing number state with
  | nil => rfl
  | cons chars before ih =>
    rw [List.cons_append, readLines, readLines, List.length_cons, Nat.add_comm before.length, ← Nat.add_assoc]
    cases Line.ofChars? number chars with
    | none => exact ih (number + 1) state.blankLine
    | some line =>
      dsimp only
      cases readLine dialect line state classes with
      | error fault => rfl
      | ok next => exact ih (number + 1) next

/-- What can take conditions was opened by a line, so no name can follow. -/
theorem hasContent_of_takesConditions {before : List (List Char)}
    (read : readLines dialect LineClass.standard 1 {} before = .ok state) (taken : takesConditions state = true) :
    state.hasContent = true := by
  refine @readLines_keeps dialect before (fun _ state => takesConditions state = true → state.hasContent = true) nofun
    ?_ ?_ state read taken
  · intro number state _ late taken
    rw [ReadState.hasContent_blankLine]
    apply late
    unfold ReadState.blankLine at taken
    unfold takesConditions at taken ⊢
    cases focused : state.focus <;> simp_all [ReadState.close, ReadState.turnTo]
  · intro line state lineClass reached _ accepted late taken
    cases accepted with
    | comment => exact (Bool.or_false _).trans (late taken)
    | _ => exact Bool.or_true _

/-- A line with a class in the trace was accepted by that class. -/
theorem exists_accepted_of_mem_traceOf {before rest : List (List Char)} {chars : List Char}
    (read : readLines dialect LineClass.standard 1 {} before = .ok state) {entry : ClassifiedLine}
    (member : entry ∈ traceOf ReadState.trace
      (readLines dialect LineClass.standard (before.length + 1) state (chars :: rest)))
    (here : entry.line = before.length + 1) :
    ∃ line reached, Line.ofChars? (before.length + 1) chars = some line ∧
      Accepted dialect line state entry.lineClass reached ∧
      readLine dialect line state LineClass.standard = .ok (reached.classify line entry.lineClass) := by
  obtain ⟨earlier, traced, within⟩ := exists_traceOf_readLines dialect 1 {} before
  rw [read] at traced
  -- Lines before have smaller numbers and lines after have greater ones, so the entry is the one that this line adds.
  have old (isOld : entry ∈ state.trace) : False := by
    have := within entry (traced ▸ isOld : entry ∈ [] ++ earlier)
    omega
  have new {next : ReadState} (isNew : entry ∈ traceOf ReadState.trace
      (readLines dialect LineClass.standard (before.length + 1 + 1) next rest)) : entry ∈ next.trace := by
    obtain ⟨later, traced, within⟩ := exists_traceOf_readLines dialect (before.length + 1 + 1) next rest
    rw [traced, List.mem_append] at isNew
    refine isNew.resolve_right fun isLater => ?_
    have := within entry isLater
    omega
  rw [readLines] at member
  cases solid : Line.ofChars? (before.length + 1) chars with
  | none =>
    rw [solid] at member
    exact (old (state.trace_blankLine ▸ new member)).elim
  | some line =>
    rw [solid] at member
    dsimp only at member
    cases ran : readLine dialect line state LineClass.standard with
    | error fault =>
      rw [ran] at member
      exact (old member).elim
    | ok next =>
      rw [ran] at member
      obtain ⟨lineClass, reached, accepted, rfl⟩ := exists_accepted_of_readLine ran
      have added := new member
      rw [ReadState.classify, accepted.trace_eq, List.mem_append, List.mem_singleton] at added
      obtain rfl := added.resolve_left old
      exact ⟨line, reached, rfl, accepted, ran⟩

/-- What was reported while the lines before were read is about those lines. -/
theorem mapReports_requote_of_readLines {before : List (List Char)}
    (read : readLines dialect LineClass.standard 1 {} before = .ok state) (text : String) :
    state.mapReports (Diagnostic.requote (before.length + 1) text) = state := by
  refine ReadState.mapReports_eq_self fun diagnostic member => ?_
  have placed := placedIn_of_readLines read
  obtain ⟨line, present, reports, -⟩ := placed.reports diagnostic member
  obtain ⟨place, chars, listed, solid⟩ := mem_solidLines.mp present
  have inside := (List.getElem?_eq_some_iff.mp listed).1
  have number := number_of_ofChars? solid
  exact Diagnostic.requote_eq_self (by omega) text reports

end Traces

/-- The text with a hyphen before the content of the line at the given place. -/
def markText (index : Nat) (text : String) : String :=
  String.ofList (unlines ((lines text.toList).modify index markLine))

/-- A line with a hyphen is a line of its own, at the place of the one without. -/
theorem exists_lines_markText {text : String} {index : Nat} {chars : List Char}
    (listed : (lines text.toList)[index]? = some chars) :
    ∃ before rest, before.length = index ∧ lines text.toList = before ++ chars :: rest ∧
      lines (markText index text).toList = before ++ markLine chars :: rest := by
  obtain ⟨inside, rfl⟩ := List.getElem?_eq_some_iff.mp listed
  have whole : lines text.toList = (lines text.toList).take index ++
      (lines text.toList)[index] :: (lines text.toList).drop (index + 1) := by
    rw [List.getElem_cons_drop, List.take_append_drop]
  have single : AreLines (lines text.toList) := fun line member lineFeed => (mem_of_mem_splitAt member lineFeed).2 rfl
  refine ⟨(lines text.toList).take index, (lines text.toList).drop (index + 1), List.length_take_of_le inside.le, whole,
    ?_⟩
  rw [markText, String.toList_ofList, List.modify_eq_take_cons_drop inside, lines_unlines _ (by simp)]
  intro line member
  rcases List.mem_append.mp member with before | later
  · exact single line (List.mem_of_mem_take before)
  · rcases List.mem_cons.mp later with rfl | after
    · have feedless := single _ (List.getElem_mem inside)
      simp only [markLine, List.mem_cons, not_or]
      exact ⟨by decide, by decide, fun lineFeed => feedless (Layout.trim_subset _ lineFeed)⟩
    · exact single line (List.mem_of_mem_drop after)

/-- With a hyphen before its content, a line that is read as a condition without mark is read as the same condition, and
so is all the rest. Only the text in the reports on that line is another one. -/
theorem readProgram_markText {text : String} {metadata : Metadata} {index : Nat} {chars : List Char}
    {entry : ClassifiedLine} (listed : (lines text.toList)[index]? = some chars)
    (traced : entry ∈ traceOf Reading.trace (readProgram {} text metadata)) (here : entry.line = index + 1)
    (isCondition : entry.lineClass = .condition) (plain : ∀ c ∈ (trim chars).head?, c ≠ '-' ∧ c ≠ '+') :
    readProgram {} (markText index text) metadata = (readProgram {} text metadata).map
      (Reading.mapReports (Diagnostic.requote (index + 1) (String.ofList (markLine chars)))) := by
  obtain ⟨before, rest, rfl, whole, marked⟩ := exists_lines_markText listed
  rw [traceOf_readProgram, whole, readLines_append] at traced
  rw [readProgram_eq_bind, readProgram_eq_bind, whole, marked, readLines_append, readLines_append]
  cases read : readLines {} LineClass.standard 1 {} before with
  | error stopped => rfl -- Both texts are read up to the same line before the mark.
  | ok state =>
    rw [read, Nat.add_comm] at traced
    simp only [bind, Except.bind, Nat.add_comm 1 before.length]
    obtain ⟨line, reached, solid, accepted, ran⟩ := exists_accepted_of_mem_traceOf read traced here
    have content := content_of_ofChars? solid
    have number := number_of_ofChars? solid
    have quoted : String.ofList (markLine chars) = line.marked.text := by
      rw [Line.text, Line.marked, content, markLine]
    rw [isCondition] at accepted ran
    have late := hasContent_of_takesConditions read accepted.takesConditions
    have again := readLine_marked Dialect.reservesHyphen_default late (by rw [content, trim_trim])
      (content ▸ (trim_ne_nil_of_ofChars? solid).1) (content ▸ plain)
      (number ▸ mapReports_requote_of_readLines read line.marked.text) accepted
    rw [number, ← quoted] at again
    have later (diagnostic : Diagnostic) (other : Nat) (after : before.length + 1 + 1 ≤ other)
        (there : diagnostic.line = some (other : Int)) :
        diagnostic.requote (before.length + 1) (String.ofList (markLine chars)) = diagnostic :=
      Diagnostic.requote_eq_self (by omega) _ there
    have goesOn := @readLines_mapReports _ {} _ later LineClass.standard (reached.classify line .condition) rest
    simp only [readLines, solid, ofChars?_markLine solid, ran, again, goesOn]
    cases readLines {} LineClass.standard (before.length + 1 + 1) (reached.classify line .condition) rest with
    | error stopped => rfl
    | ok last => exact last.conclude_mapReports (requote_orphanWarning _ _) metadata

/-- A step with a condition of two forms, which sets a name if it is not indented, and a line of no known form. -/
def ambiguousText : String := "STAP 1: Vullen\n  x = TIJD 5 s > 3\n???"

theorem readProgram_markText_ambiguousText :
    (lines ambiguousText.toList)[1]? = some "  x = TIJD 5 s > 3".toList ∧
      ⟨2, .condition, none⟩ ∈ traceOf Reading.trace (readProgram {} ambiguousText {}) ∧
      ((readProgram {} ambiguousText {}).map fun reading => reading.program.warnings.map Diagnostic.text).toOption =
        some [some "x = TIJD 5 s > 3", some "???"] ∧
      markText 1 ambiguousText = "STAP 1: Vullen\n- x = TIJD 5 s > 3\n???" ∧
      readProgram {} (markText 1 ambiguousText) {} = (readProgram {} ambiguousText {}).map
        (Reading.mapReports (Diagnostic.requote 2 (String.ofList (markLine "  x = TIJD 5 s > 3".toList)))) := by
  have listed : (lines ambiguousText.toList)[1]? = some "  x = TIJD 5 s > 3".toList := by decide +kernel
  have traced : ⟨2, .condition, none⟩ ∈ traceOf Reading.trace (readProgram {} ambiguousText {}) := by decide +kernel
  have plain : ∀ c ∈ (trim "  x = TIJD 5 s > 3".toList).head?, c ≠ '-' ∧ c ≠ '+' := by
    have first : (trim "  x = TIJD 5 s > 3".toList).head? = some 'x' := by decide +kernel
    intro c here
    obtain rfl := Option.mem_unique here first
    decide
  exact ⟨listed, traced, by decide +kernel, by decide +kernel, readProgram_markText listed traced rfl rfl plain⟩

end StepFlow
