import StepFlow.Proofs.Layout.Labels
import StepFlow.Proofs.Reading.Declarations
import StepFlow.Proofs.Reading.Faults

/-! # Labels read back

The label of a step is a declaration. Under a name it is read back, and declares one step, which is the step it labels:
its word, its kind with the number, and its description are the same.
-/

namespace StepFlow

open Text Layout LineRule

/-! ## Labels as declarations -/

/-- The digits in the label of a step. -/
def StepKind.labelDigits : StepKind → List Char
  | .rest => []
  | .sequential number => Nat.toDigits 10 number

/-- What stands before the colon in the label of a step. -/
def Step.labelHead (step : Step) : List Char :=
  match step.kind with
  | .rest => step.keyword.toList
  | .sequential number => step.keyword.toList ++ ' ' :: Nat.toDigits 10 number

theorem Step.toList_label (step : Step) : step.label.toList = labelOf step.labelHead step.description.toList := by
  rw [label, labelHead, trimmed, String.toList_ofList, labelOf]
  cases step.kind <;> simp only [String.toList_append, Nat.toString_eq_repr, Nat.toList_repr, List.append_assoc] <;> rfl

section Kinds

variable {dialect : Dialect} {keyword : String} {digits : List Char} {kind : StepKind}

/-- The word tells whether a step is a rest step. The number of any other step is not too long to be read. -/
theorem kindOf_eq_ok (known : kindOf dialect keyword digits = .ok kind) :
    (dialect.isRestWord keyword = true ∧ kind = .rest) ∨
      (dialect.isRestWord keyword = false ∧ ∃ number < 10 ^ maxDigits, kind = .sequential number) := by
  unfold kindOf at known
  split at known
  · cases known
    exact .inl ⟨‹_›, rfl⟩
  · refine .inr ⟨Bool.eq_false_iff.mpr ‹_›, ?_⟩
    split at known
    · cases known
      exact ⟨1, Nat.one_lt_pow (by decide) (by decide), rfl⟩
    · cases read : ReadFault.ofNumeral digits with
      | error fault =>
        rw [read] at known
        cases known
      | ok number =>
        rw [read] at known
        cases known
        exact ⟨number, lt_of_readNumeral (mapError_eq_ok read), rfl⟩

/-- The kind of a declared step is read from the digits of its label again. -/
theorem kindOf_labelDigits (known : kindOf dialect keyword digits = .ok kind) :
    kindOf dialect keyword kind.labelDigits = .ok kind := by
  rw [kindOf]
  rcases kindOf_eq_ok known with ⟨isRest, rfl⟩ | ⟨noRest, number, short, rfl⟩
  · rw [isRest, if_pos rfl]
  · have given : ¬(Nat.toDigits 10 number).isEmpty = true := by simp [Nat.toDigits_ne_nil]
    rw [noRest, if_neg Bool.false_ne_true, StepKind.labelDigits, if_neg given, ReadFault.ofNumeral,
      readNumeral_toDigits short]
    rfl

/-- A word in upper case that declares a rest step is a word of rest. -/
theorem isKeyword_of_isRestWord (readable : dialect.Readable) (upper : upperChars keyword.toList = keyword.toList)
    (isRest : dialect.isRestWord keyword = true) : IsKeyword dialect.stepWords.rest keyword.toList := by
  obtain ⟨word, isWord, same⟩ := List.mem_map.mp (List.contains_iff_mem.mp isRest)
  have itself := Spells.refl word.toList
  have spells := (itself.upperChars (readable.rest.isLetter isWord)).1
  rw [String.ofList_injective same, upper] at spells
  exact ⟨word, isWord, spells⟩

end Kinds

/-! ## The line of a step -/

section Steps

variable {dialect : Dialect} {source : SourceKind} {line : Line} {step : Step}

/-- What a line says about the step it declares. -/
theorem exists_of_declares (declares : line.Declares dialect step.head) :
    ∃ declaration : Declaration, declaration.IsWritten dialect line.content ∧
      step.keyword.toList = upperChars declaration.word ∧ step.description.toList = trim declaration.description ∧
      kindOf dialect step.keyword declaration.digits = .ok step.kind := by
  obtain ⟨declaration, written, keyword, description, -, known⟩ := declares
  exact ⟨declaration, written, (congrArg String.toList keyword).trans String.toList_ofList,
    (congrArg String.toList description).trans String.toList_ofList, known⟩

/-- The word of a declared step is a word of declarations in upper case. -/
theorem isKeyword_of_declares (readable : dialect.Readable) (declares : line.Declares dialect step.head) :
    IsKeyword dialect.declarationWords step.keyword.toList ∧ upperChars step.keyword.toList = step.keyword.toList := by
  obtain ⟨declaration, ⟨gap, gap', -, isWord, -⟩, keyword, -⟩ := exists_of_declares declares
  rw [keyword]
  exact ⟨isWord.upperChars readable.declaring, isWord.upperChars_upperChars readable.declaring⟩

/-- A declared step has the head of a label. -/
theorem isLabelHead_of_declares (readable : dialect.Readable) (declares : line.Declares dialect step.head) :
    IsLabelHead dialect step.labelHead := by
  have ⟨isKeyword, upper⟩ := isKeyword_of_declares readable declares
  obtain ⟨declaration, -, -, -, known⟩ := exists_of_declares declares
  rw [Step.labelHead]
  rcases kindOf_eq_ok known with ⟨isRest, kind⟩ | ⟨-, number, -, kind⟩
  · rw [kind]
    exact .rest (isKeyword_of_isRestWord readable upper isRest) upper
  · rw [kind]
    exact .numbered isKeyword upper Nat.toDigits_ne_nil fun c member =>
      isDecimal_of_isDigit (isDigit_of_mem_toDigits member)

/-- A canonical line that declares a step gives it a description in uniform spacing. -/
theorem isDescription_of_declares (readable : dialect.Readable) {chars : List Char}
    (canonical : IsCanonical dialect chars) (content : line.content = trim chars)
    (declares : line.Declares dialect step.head) :
    IsDescription step.description.toList := by
  obtain ⟨declaration, ⟨gap, gap', whole, isWord, -⟩, -, description, -⟩ := exists_of_declares declares
  have spaced := canonical.spacedBody_trim readable isWord (content.symm.trans whole)
  rw [← content, whole, ← List.append_assoc, ← List.append_assoc, ← List.append_assoc] at spaced
  rw [description]
  refine isDescription_of_spacedBody ?_ spaced
  obtain ⟨c, more, letter, start, spells⟩ := isWord.exists_cons readable.declaring
  rw [start]
  exact spells.not_blank

/-- The characters of a label come from the word and the description, but for digits, blanks and the colon. -/
theorem over_label {allowed : Char → Prop} (alphabet : Alphabet allowed) (keyword : Over allowed step.keyword.toList)
    (description : Over allowed step.description.toList) : Over allowed step.label.toList := by
  have digital (number : Nat) : Over allowed (Nat.toDigits 10 number) :=
    fun c member => alphabet.digits (isDigit_of_mem_toDigits member)
  rw [step.toList_label, labelOf]
  refine Over.of_subset ?_ (trim_subset _)
  rw [Step.labelHead]
  split <;> simp [keyword, description, digital, alphabet.signs]

/-- The characters of a label come from the line of its step, but for digits, blanks and the colon. -/
theorem allPlain_label (plain : AllPlain source line.content) (declares : line.Declares dialect step.head) :
    AllPlain source step.label.toList := by
  obtain ⟨declaration, ⟨gap, gap', whole, -⟩, keyword, description, -⟩ := exists_of_declares declares
  rw [whole] at plain
  simp only [allPlain_append, allPlain_cons] at plain
  obtain ⟨plainWord, -, -, -, -, plainDescription⟩ := plain
  refine over_label (alphabet_plain source) ?_ ?_
  · exact keyword ▸ (alphabet_plain source).upperChars plainWord
  · exact description ▸ plainDescription.of_subset (trim_subset _)

/-- The label of a declared step declares it. -/
theorem exists_isWritten_label (readable : dialect.Readable)
    (isKeyword : IsKeyword dialect.declarationWords step.keyword.toList)
    (isLabelHead : IsLabelHead dialect step.labelHead) (isDescription : IsDescription step.description.toList) :
    ∃ tail, (Declaration.mk step.keyword.toList step.kind.labelDigits tail).IsWritten dialect step.label.toList ∧
      trim tail = step.description.toList := by
  obtain ⟨-, tail, -, described, label⟩ := labelOf_eq (isLabelHead.isHead readable) isDescription
  refine ⟨tail, ?_, described⟩
  rw [step.toList_label, label, Step.labelHead]
  cases step.kind with
  | rest => exact ⟨[], [], rfl, isKeyword, nofun, nofun, nofun⟩
  | sequential number =>
    have digits : ∀ c ∈ Nat.toDigits 10 number, isDecimal c = true := fun c member =>
      isDecimal_of_isDigit (isDigit_of_mem_toDigits member)
    have space : ∀ c ∈ [' '], isBlank c = true := List.forall_mem_singleton.mpr (by decide)
    exact ⟨[' '], [], by simp [StepKind.labelDigits], isKeyword, space, digits, nofun⟩

end Steps

/-! ## Texts with one label -/

/-- The lines of a normalized text are canonical and plain, unless they are empty. -/
theorem isCanonical_of_mem_lines {dialect : Dialect} (readable : dialect.Readable) {source : SourceKind} {text : String}
    {chars : List Char} (isLine : chars ∈ lines (normalize dialect source text).toList) :
    chars = [] ∨ IsCanonical dialect chars ∧ AllPlain source chars := by
  have laid := laid_canonicalLines readable source text.toList
  rw [normalize, String.toList_ofList, trimLineFeeds_unlines laid.areLines] at isLine
  by_cases empty : trimLines (canonicalLines dialect source text.toList) = []
  · rw [empty] at isLine
    exact .inl (List.mem_singleton.mp isLine)
  · have kept := laid.of_subset (trimLines_subset _)
    rw [lines_unlines kept.areLines empty] at isLine
    exact (kept.canonical chars isLine).imp_right fun canonical => ⟨canonical, kept.plain chars isLine⟩

/-- The name of a program with a block. -/
def sampleName : String := "P FB1"

/-- The name and a line below it. -/
def underName (label : String) : String := "P FB1\n" ++ label

theorem toList_underName (label : String) : (underName label).toList = unlines [sampleName.toList, label.toList] := by
  have named : "P FB1\n".toList = sampleName.toList ++ ['\n'] := by decide
  rw [unlines_cons_cons, unlines_singleton, underName, String.toList_append, named, List.append_assoc]
  rfl

/-- A name and a canonical line that is settled are a normalized text. -/
theorem normalize_underName {source : SourceKind} {label : String} (plain : AllPlain source label.toList)
    (canonical : IsCanonical {} label.toList) (settled : Settled {} source label.toList) :
    normalize {} source (underName label) = underName label := by
  have readable := Dialect.readable_default
  have named : IsCanonical {} sampleName.toList :=
    ⟨.content (.inl rfl) (isContent_cons readable (by decide) (by decide) _), by decide, by decide⟩
  have laid : Laid {} source [sampleName.toList, label.toList] := by
    refine ⟨List.forall_mem_cons.mpr ⟨?_, List.forall_mem_singleton.mpr plain⟩,
      List.forall_mem_cons.mpr ⟨.inr named, List.forall_mem_singleton.mpr (.inr canonical)⟩⟩
    cases source <;> exact List.forall_iff_forall_mem.mp (by decide)
  have tight : Tight [sampleName.toList, label.toList] :=
    ⟨by simp [named.piece.ne_nil], by simp [canonical.piece.ne_nil]⟩
  have same := (laid.relaid_iff readable tight (by simp)).mpr
    (List.forall_mem_cons.mpr ⟨by cases source <;> decide, List.forall_mem_singleton.mpr settled⟩)
  rw [← toList_underName] at same
  rw [normalize, same, String.ofList_toList]

/-- The name is read as one. -/
theorem exists_readLine_sampleName :
    ∃ named, readLine {} ⟨1, sampleName.toList, sampleName.toList⟩ {} LineClass.standard = .ok named ∧
      named.hasContent = true ∧ named.allSteps = [] ∧ named.pending = [] := by
  have evaluated : (readLine {} ⟨1, sampleName.toList, sampleName.toList⟩ {} LineClass.standard).toOption.map
      (fun named => (named.hasContent, named.allSteps, named.pending)) = some (true, [], []) := by
    decide
  obtain ⟨named, done, found⟩ := Option.map_eq_some_iff.mp evaluated
  simp only [Prod.mk.injEq] at found
  exact ⟨named, eq_ok_of_toOption_eq_some done, found⟩

/-- A declaration below the name declares its step. -/
theorem readLines_underName {label : String} {declaration : Declaration} {kind : StepKind}
    (single : '\n' ∉ label.toList) (clean : trim label.toList = label.toList)
    (written : declaration.IsWritten {} label.toList)
    (known : kindOf {} (String.ofList (upperChars declaration.word)) declaration.digits = .ok kind) :
    ∃ state, readLines {} LineClass.standard 1 {} (lines (underName label).toList) = .ok state ∧
      state.allSteps = [declaration.step 2 [] kind] := by
  obtain ⟨named, first, content, noSteps, nonePending⟩ := exists_readLine_sampleName
  have areLines : AreLines [sampleName.toList, label.toList] :=
    List.forall_mem_cons.mpr ⟨by decide, List.forall_mem_singleton.mpr single⟩
  have nonempty : label.toList ≠ [] := fun empty => by simpa [empty] using written.colon_mem
  let line : Line := ⟨2, trimEnd label.toList, label.toList⟩
  have isFirst : Line.ofChars? 1 sampleName.toList = some ⟨1, sampleName.toList, sampleName.toList⟩ := by decide
  have isSecond : Line.ofChars? 2 label.toList = some line := by
    rw [Line.ofChars?, clean, if_neg (by simpa using nonempty)]
  have second : readLine {} line named LineClass.standard =
      .ok ((named.openStep (declaration.step 2 named.pending kind)).classify line .declaration) := by
    rw [readLine_written Dialect.unmistakable_default single written (.inl content), known]
    rfl
  refine ⟨(named.openStep (declaration.step 2 named.pending kind)).classify line .declaration, ?_, ?_⟩
  · rw [toList_underName, lines_unlines areLines (by simp), readLines, isFirst]
    simp only [first]
    rw [readLines, isSecond]
    simp only [second]
    rfl
  · have steps := named.allSteps_openStep (declaration.step 2 named.pending kind)
    rw [noSteps, nonePending] at steps
    rw [nonePending]
    exact steps

theorem exists_readProgram {dialect : Dialect} {text : String} {state : ReadState}
    (ran : readLines dialect LineClass.standard 1 {} (lines text.toList) = .ok state) :
    ∃ reading, readProgram dialect text {} = .ok reading ∧ reading.program.steps = state.allSteps := by
  obtain ⟨filled, applied⟩ := Metadata.exists_apply_empty
    (state.reportAll (state.pending.map orphanWarning)).program
  have read : ∃ reading, readProgram dialect text {} = .ok reading := by
    rw [readProgram, readWith, ran]
    simp only [bind, Except.bind, applied]
    exact ⟨_, rfl⟩
  obtain ⟨reading, read⟩ := read
  obtain ⟨state', ran', -, steps, -⟩ := readProgram_eq_ok read
  rw [ran] at ran'
  cases ran'
  exact ⟨reading, read, steps⟩

/-- Each step of an analysis is declared by a line of the normalized text. -/
theorem exists_line_of_analyze {setup : Setup} {source : SourceKind} {metadata : Metadata} {text : String}
    {analysis : Analysis} (unmistakable : setup.dialect.Unmistakable)
    (analyzed : analyze setup source metadata text = .ok analysis) {step : Step}
    (isStep : step ∈ analysis.program.steps) :
    ∃ (line : Line) (chars : List Char), chars ∈ lines (normalize setup.dialect source text).toList ∧
      line.content = trim chars ∧ line.Declares setup.dialect step.head := by
  have declared := declares_of_analyze unmistakable analyzed
  obtain ⟨index, bound, rfl⟩ := List.getElem_of_mem isStep
  have inside := declared.length_eq.symm ▸ bound
  have isLine := stepLines_subset setup.dialect false _ (List.getElem_mem inside)
  obtain ⟨position, chars, present, solid⟩ := mem_solidLines.mp isLine
  have same : analysis.text = normalize setup.dialect source text := by
    obtain ⟨reading, -, ⟨⟩⟩ := bind_eq_ok analyzed
    rfl
  exact ⟨_, chars, same ▸ List.mem_of_getElem? present, content_of_ofChars? solid, declared.get inside bound⟩

/-- The label of a step reads back as a program with that step alone: its word, its kind with its number, and its
description are the same. -/
theorem analyze_label {rules : CheckRules} {registry : Registry} {source : SourceKind} {metadata : Metadata}
    {text : String} {analysis : Analysis} (analyzed : analyze { rules, registry } source metadata text = .ok analysis)
    {step : Step} (isStep : step ∈ analysis.program.steps) :
    ∃ again relabelled, analyze { rules, registry } source {} ("P FB1\n" ++ step.label) = .ok again ∧
      again.program.steps = [relabelled] ∧ relabelled.keyword = step.keyword ∧ relabelled.kind = step.kind ∧
      relabelled.description = step.description := by
  have readable := Dialect.readable_default
  obtain ⟨line, chars, isLine, content, declares⟩ := exists_line_of_analyze Dialect.unmistakable_default analyzed isStep
  have ⟨isKeyword, upper⟩ := isKeyword_of_declares readable declares
  obtain ⟨canonical, plain⟩ := (isCanonical_of_mem_lines readable isLine).resolve_left fun empty => by
    obtain ⟨declaration, written, -⟩ := declares
    exact absurd written.colon_mem (by rw [content, empty]; decide)
  have isLabelHead := isLabelHead_of_declares readable declares
  have isDescription := isDescription_of_declares readable canonical content declares
  have plainContent : AllPlain source line.content := content ▸ plain.of_subset (trim_subset _)
  have plainLabel := allPlain_label plainContent declares
  obtain ⟨tail, written, described⟩ := exists_isWritten_label readable isKeyword isLabelHead isDescription
  have isCanonical := isLabelHead.isCanonical_labelOf readable isDescription
  have settled := isLabelHead.settled_labelOf readable isDescription source
  rw [← step.toList_label] at isCanonical settled
  obtain ⟨declaration, -, -, -, known⟩ := exists_of_declares declares
  have knownAgain :
      kindOf {} (String.ofList (upperChars step.keyword.toList)) step.kind.labelDigits = .ok step.kind := by
    rw [upper, String.ofList_toList]
    exact kindOf_labelDigits known
  have single : '\n' ∉ step.label.toList := fun lineFeed => plainLabel '\n' lineFeed (by cases source <;> decide)
  have clean : trim step.label.toList = step.label.toList := by
    rw [step.toList_label]
    exact (isClean_labelOf (isLabelHead.isHead readable) isDescription).1
  obtain ⟨state, ran, declared⟩ := readLines_underName single clean written knownAgain
  obtain ⟨reading, read, steps⟩ := exists_readProgram ran
  have again : analyze { rules, registry } source {} (underName step.label) =
      .ok ⟨source, underName step.label, reading, (reading.program.check rules registry).1,
        (reading.program.check rules registry).2⟩ := by
    rw [analyze]
    simp only [normalize_underName plainLabel isCanonical settled]
    rw [bind_of_eq_ok read]
    rfl
  refine ⟨_, _, again, steps.trans declared, ?_, rfl, ?_⟩
  · rw [Declaration.step, upper, String.ofList_toList]
  · rw [Declaration.step, described, String.ofList_toList]

/-- A text with loose spacing: a number in parentheses, signs without gaps, a word of rest that has no plain upper case,
and a rest step without description. -/
def looseStepsText : String := "Pomp FB7\nstap-(03) .  druk=5:3 (a:STAP 4)\n- open\nİdle: wacht==ok\nREST ."

/-- The word of the second step is no word of rest once it is in upper case, so its label has a number. -/
theorem analyze_label_looseStepsText :
    ∃ analysis, analyze {} .directEntry {} looseStepsText = .ok analysis ∧
      analysis.program.steps.map Step.label = ["STAP 3: . druk = 5:3 (a: STAP 4)", "İDLE 1: wacht==ok", "REST:"] ∧
      ∃ step ∈ analysis.program.steps, step.label = "İDLE 1: wacht==ok" ∧
        ∃ again relabelled, analyze {} .directEntry {} ("P FB1\n" ++ step.label) = .ok again ∧
          again.program.steps = [relabelled] ∧ relabelled.keyword = step.keyword ∧ relabelled.kind = step.kind ∧
          relabelled.description = step.description := by
  have evaluated : (analyze {} .directEntry {} looseStepsText).toOption.map
      (fun analysis => analysis.program.steps.map Step.label) =
        some ["STAP 3: . druk = 5:3 (a: STAP 4)", "İDLE 1: wacht==ok", "REST:"] := by
    decide +kernel
  obtain ⟨analysis, done, labels⟩ := Option.map_eq_some_iff.mp evaluated
  have analyzed := eq_ok_of_toOption_eq_some done
  obtain ⟨step, isStep, label⟩ : ∃ step ∈ analysis.program.steps, step.label = "İDLE 1: wacht==ok" :=
    List.mem_map.mp (labels ▸ by simp)
  exact ⟨analysis, analyzed, labels, step, isStep, label, analyze_label analyzed isStep⟩

end StepFlow
