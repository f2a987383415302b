import StepFlow.Proofs.Compilation
import StepFlow.Proofs.Netlist.Legality
import StepFlow.Proofs.Reading.Relabeling
import StepFlow.Proofs.Reading.Runs

/-! # When compiled texts are legal XML

The labels of steps and the name of the instance are made of the characters of a text, and nothing takes out those that
XML does not admit, but for the page breaks and vertical tabs of word processors. So a text of admitted characters gives
legal XML, and a control character in a label does not.
-/

namespace StepFlow

open Text Layout LineRule Netlist Xml

/-! ## The layout -/

theorem alphabet_isChar : Alphabet IsChar := by
  have admitted : IsChar = (· ∉ foreignChars) := funext fun c => propext (isChar_iff_notMem_foreignChars c)
  rw [admitted]
  exact alphabet_notMem (by decide +kernel) (by decide) (by decide)

/-- A character that XML admits, or that the first pass takes out. -/
def SourceKind.Admits (source : SourceKind) (c : Char) : Prop :=
  IsChar c ∨ source = .documentImport ∧ c ∈ ['\x0c', '\x0b']

instance (source : SourceKind) (c : Char) : Decidable (source.Admits c) := inferInstanceAs (Decidable (_ ∨ _))

/-- After the first pass, a text has admitted characters only. -/
theorem isChar_plainText {source : SourceKind} {text : List Char} (admitted : Over source.Admits text) :
    Over IsChar (plainText source text) := by
  have lineFeed : IsChar '\n' := by decide
  have plain : Over source.Admits ((unifyBreaks text).flatMap plainChar) := by
    have substituted : Over IsChar substitutes := by decide
    intro d member
    obtain ⟨c, isText, replaced⟩ := List.mem_flatMap.mp member
    rcases mem_plainChar replaced with substitute | ⟨rfl, _⟩
    · exact .inl (substituted d substitute)
    · rcases mem_unifyBreaks isText with rfl | ⟨_, inText⟩
      · exact .inl lineFeed
      · exact admitted d inText
  cases source with
  | directEntry => exact fun c member => (plain c member).resolve_right nofun
  | documentImport =>
    intro d member
    obtain ⟨c, isText, replaced⟩ := List.mem_flatMap.mp member
    rcases mem_documentChar replaced with rfl | ⟨rfl, differs⟩
    · exact lineFeed
    · exact (plain d isText).resolve_right fun dropped => differs dropped.2

theorem isChar_normalize {source : SourceKind} {text : String} (dialect : Dialect)
    (admitted : Over source.Admits text.toList) : LegalText (normalize dialect source text) := by
  have plain : ∀ line ∈ lines (plainText source text.toList), Over IsChar line :=
    fun line isLine => (isChar_plainText admitted).of_subset (infix_of_mem_lines isLine).subset
  have laid : Over IsChar (unlines (canonicalLines dialect source text.toList)) :=
    isChar_unlines.mpr (over_canonicalLines alphabet_isChar plain)
  rw [LegalText, normalize, String.toList_ofList]
  exact laid.of_subset (reverse_dropWhile_subset _ _)

/-! ## Reading -/

/-- The words and descriptions of the steps so far and the name of the instance are over an alphabet. -/
structure ReadState.Spelled (allowed : Char → Prop) (state : ReadState) : Prop where
  steps : ∀ head ∈ state.heads, Over allowed head.keyword.toList ∧ Over allowed head.description.toList
  instanceName : Over allowed state.instanceName.toList

variable {dialect : Dialect} {line : Line} {state next : ReadState} {lineClass : LineClass}

namespace ReadState.Spelled

variable {allowed : Char → Prop}

theorem start (allowed : Char → Prop) : ReadState.Spelled allowed {} := ⟨nofun, over_nil⟩

theorem blankLine (spelled : state.Spelled allowed) : state.blankLine.Spelled allowed := by
  refine ⟨state.heads_blankLine ▸ spelled.steps, ?_⟩
  obtain ⟨_, _, _, same⟩ := state.blankLine_eq
  rw [same]
  exact spelled.instanceName

theorem accepted (spelled : state.Spelled allowed) (alphabet : Alphabet allowed) (given : Over allowed line.content)
    (done : Accepted dialect line state lineClass next) : next.Spelled allowed := by
  constructor
  · rcases done.heads with same | ⟨found, head, matched, keyword, description, added⟩
    · exact same ▸ spelled.steps
    · have kept := given.kept matched
      rw [added]
      refine List.forall_mem_append.mpr ⟨spelled.steps, List.forall_mem_singleton.mpr ⟨?_, ?_⟩⟩
      · rw [keyword, String.toList_ofList]
        exact alphabet.upperChars (kept 1)
      · rw [description, String.toList_ofList]
        exact (kept 3).of_subset (trim_subset _)
  · rcases done.instanceName_eq with same | ⟨found, matched, named⟩
    · exact same ▸ spelled.instanceName
    · rw [named, String.toList_ofList]
      exact (given.kept matched 1).of_subset (trim_subset _)

end ReadState.Spelled

/-- The name that is filled in is the one that was there or one of those given. -/
theorem Metadata.fillName_cases (fields : List (String × Json)) (keys : List String) (name : String) :
    Metadata.fillName fields keys name = name ∨
      ∃ key ∈ keys, ∃ value ∈ fields.lookup key, Metadata.fillName fields keys name = value.nameText := by
  induction keys generalizing name with
  | nil => exact .inl rfl
  | cons key keys ih =>
    have later (other : String) (same : fillName fields (key :: keys) name = fillName fields keys other) :
        fillName fields (key :: keys) name = other ∨
          ∃ key' ∈ key :: keys, ∃ value ∈ fields.lookup key', fillName fields (key :: keys) name = value.nameText := by
      rw [same]
      refine (ih other).imp_right ?_
      rintro ⟨key', isKey, found⟩
      exact ⟨key', .tail _ isKey, found⟩
    cases found : fields.lookup key with
    | none => exact later name (by rw [fillName, found])
    | some value =>
      have step : fillName fields (key :: keys) name =
          fillName fields keys (if value.isGiven && name.isEmpty then value.nameText else name) := by
        rw [fillName, found]
      rcases later _ step with same | other
      · split at same
        · exact .inr ⟨key, .head _, value, found, same⟩
        · exact .inl same
      · exact .inr other

theorem readProgram_instanceName {text : String} {metadata : Metadata} {reading : Reading}
    (read : readProgram dialect text metadata = .ok reading)
    (ran : readLines dialect LineClass.standard 1 {} (lines text.toList) = .ok state) :
    reading.program.instanceName = Metadata.fillName metadata.fields Metadata.instanceKeys state.instanceName := by
  obtain ⟨other, same, read⟩ := bind_eq_ok read
  obtain rfl := Except.ok.inj (ran.symm.trans same)
  rw [ReadState.reportAll_eq] at read
  dsimp only at read
  split at read
  · cases read
  · rename_i program applied
    cases read
    obtain ⟨⟨block, kept⟩, _, ⟨⟩⟩ := bind_eq_ok applied
    rfl

/-- The labels of a program that was read are over an alphabet if the text is, and so is the name of its instance if the
names in the metadata are. -/
theorem readProgram_spelled {text : String} {metadata : Metadata} {reading : Reading} {allowed : Char → Prop}
    (alphabet : Alphabet allowed) (given : Over allowed text.toList)
    (read : readProgram dialect text metadata = .ok reading) :
    (∀ step ∈ reading.program.steps, Over allowed step.label.toList) ∧
      ((∀ key ∈ Metadata.instanceKeys, ∀ value ∈ metadata.fields.lookup key, Over allowed value.nameText.toList) →
        Over allowed reading.program.instanceName.toList) := by
  obtain ⟨state, ran, -, steps, -⟩ := readProgram_eq_ok read
  have content {line : Line} (present : line ∈ solidLines 1 (lines text.toList)) : Over allowed line.content := by
    obtain ⟨index, chars, listed, solid⟩ := mem_solidLines.mp present
    have isLine := infix_of_mem_lines (List.mem_of_getElem? listed)
    rw [content_of_ofChars? solid]
    exact (given.of_subset isLine.subset).of_subset (trim_subset chars)
  have spelled : state.Spelled allowed :=
    @readLines_keeps dialect (lines text.toList) (fun _ between => between.Spelled allowed) (.start allowed)
      (fun _ before => before.blankLine)
      (fun present accepted before =>
        let after := before.accepted alphabet (content present) accepted
        ⟨after.steps, after.instanceName⟩) state ran
  constructor
  · intro step member
    rw [steps] at member
    obtain ⟨keyword, description⟩ := spelled.steps step.head (List.mem_map_of_mem member)
    exact over_label alphabet keyword description
  · intro named
    rw [readProgram_instanceName read ran]
    rcases Metadata.fillName_cases metadata.fields Metadata.instanceKeys state.instanceName with
      same | ⟨key, isKey, value, found, same⟩
    · rw [same]
      exact spelled.instanceName
    · rw [same]
      exact named key isKey value found

/-! ## Compiling -/

section Compiled

variable {setup : Setup} {source : SourceKind} {metadata : Metadata} {text : String} {allowErrors : Bool}
  {options : GeneratorOptions} {pretty : Bool} {analysis : Analysis} {xml : String}
  (compiled : compile setup source metadata text allowErrors options pretty = .ok (analysis, xml))
include compiled

theorem legalText_compiled_iff :
    LegalText xml ↔ (∀ step ∈ analysis.program.steps, LegalText step.label) ∧
      (∀ culture ∈ options.cultures, LegalText culture) ∧
      (options.includeInstance = true → LegalText analysis.program.instanceName) := by
  obtain ⟨-, -, document, built, rfl⟩ := compile_eq_ok compiled
  rw [Document.legalText_render, Document.legal_toXml_iff built]

/-- The labels of a text of admitted characters are legal, and so is the name of its instance if the names in the
metadata are. -/
theorem legalText_of_admitted (admitted : Over source.Admits text.toList) :
    (∀ step ∈ analysis.program.steps, LegalText step.label) ∧
      ((∀ key ∈ Metadata.instanceKeys, ∀ value ∈ metadata.fields.lookup key, LegalText value.nameText) →
        LegalText analysis.program.instanceName) := by
  obtain ⟨analyzed, -⟩ := compile_eq_ok compiled
  obtain ⟨reading, read, ⟨⟩⟩ := bind_eq_ok analyzed
  exact readProgram_spelled alphabet_isChar (isChar_normalize setup.dialect admitted) read

/-- The XML of a text is legal exactly if the labels of the steps, the cultures and the name of the instance, if there
is one, are. It is legal if the text, the cultures and the names in the metadata have admitted characters only. -/
theorem compile_legal_iff :
    (LegalText xml ↔ (∀ step ∈ analysis.program.steps, LegalText step.label) ∧
      (∀ culture ∈ options.cultures, LegalText culture) ∧
      (options.includeInstance = true → LegalText analysis.program.instanceName)) ∧
    (Over source.Admits text.toList → (∀ culture ∈ options.cultures, LegalText culture) →
      (options.includeInstance = true →
        ∀ key ∈ Metadata.instanceKeys, ∀ value ∈ metadata.fields.lookup key, LegalText value.nameText) →
      LegalText xml) := by
  refine ⟨legalText_compiled_iff compiled, fun admitted spoken named => ?_⟩
  obtain ⟨labels, instanceName⟩ := legalText_of_admitted compiled admitted
  exact (legalText_compiled_iff compiled).mpr ⟨labels, spoken, fun included => instanceName (named included)⟩

end Compiled

/-- A text of a word processor, with a page break, a vertical tab and characters to escape, gives legal XML. -/
theorem compile_legal_iff_word_processor :
    ∃ analysis xml,
      compile {} .documentImport {} "Pomp FB7\x0c\x0bSTAP 1: vol & \"leeg\"" false { includeInstance := true } true =
        .ok (analysis, xml) ∧
      analysis.program.steps.map Step.label = ["STAP 1: vol & \"leeg\""] ∧ LegalText xml := by
  have evaluated : (compile {} .documentImport {} "Pomp FB7\x0c\x0bSTAP 1: vol & \"leeg\"" false
      { includeInstance := true } true).toOption.map (fun result => result.1.program.steps.map Step.label) =
      some ["STAP 1: vol & \"leeg\""] := by
    decide +kernel
  obtain ⟨⟨analysis, xml⟩, done, labels⟩ := Option.map_eq_some_iff.mp evaluated
  have compiled := eq_ok_of_toOption_eq_some done
  refine ⟨analysis, xml, compiled, labels, (compile_legal_iff compiled).2 ?_ ?_ ?_⟩
  · decide
  · decide
  · intro _ key _ value found
    cases found

/-- A control character in the description of a step is left in the XML. -/
theorem compile_control_character :
    ∃ analysis xml, compile {} .directEntry {} "STAP 1: a\x01b" false {} true = .ok (analysis, xml) ∧
      ¬LegalText xml := by
  have evaluated : (compile {} .directEntry {} "STAP 1: a\x01b" false {} true).toOption.map
      (fun result => result.1.program.steps.map Step.label) = some ["STAP 1: a\x01b"] := by
    decide +kernel
  obtain ⟨⟨analysis, xml⟩, done, labels⟩ := Option.map_eq_some_iff.mp evaluated
  have compiled := eq_ok_of_toOption_eq_some done
  refine ⟨analysis, xml, compiled, fun legal => ?_⟩
  have legalLabels : ∀ label ∈ analysis.program.steps.map Step.label, LegalText label := by
    simpa using ((legalText_compiled_iff compiled).mp legal).1
  rw [labels] at legalLabels
  exact absurd (legalLabels _ (.head _)) (by decide)

end StepFlow
