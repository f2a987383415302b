import Mathlib.Data.List.Sort
import StepFlow.Layout
import StepFlow.Proofs.Pattern.Keyword
import StepFlow.Reading.Program

/-! # Lists of keywords as sets

A list of keywords is put into an order of its own before it becomes a pattern: each word once, longer words first. The
order is strict and total, so lists of the same words give the same pattern, also where one word begins another one or
differs from it in letter case only. All other uses of keywords ask whether some word has a property. So dialects that
differ in the order and in the repetition of their keywords lay out and read every text in the same way.
-/

namespace StepFlow

open Text

/-! ## The order of keywords -/

/-- Lists with the same words, each any number of times and in any order. -/
def SameWords (words words' : List String) : Prop := ∀ word, word ∈ words ↔ word ∈ words'

instance (words words' : List String) : Decidable (SameWords words words') :=
  decidable_of_iff (words ⊆ words' ∧ words' ⊆ words) <| by
    simp only [SameWords, List.subset_def, iff_def, forall_and]

theorem SameWords.refl (words : List String) : SameWords words words := fun _ => Iff.rfl

theorem keywordBefore_iff {a b : String} :
    keywordBefore a b = true ↔ b.length < a.length ∨ a.length = b.length ∧ a.toList < b.toList := by
  simp [keywordBefore]

theorem keywordBefore_irrefl (a : String) : ¬keywordBefore a a = true := by
  rw [keywordBefore_iff]
  rintro (shorter | ⟨-, less⟩)
  · omega
  · exact List.lt_irrefl a.toList less

theorem keywordBefore_trans {a b c : String} (first : keywordBefore a b = true) (second : keywordBefore b c = true) :
    keywordBefore a c = true := by
  rw [keywordBefore_iff] at first second ⊢
  rcases first with longer | ⟨same, less⟩
  · left
    omega
  · rcases second with longer | ⟨same', less'⟩
    · left
      omega
    · exact .inr ⟨same.trans same', List.lt_trans less less'⟩

/-- Of two different words one is tried before the other. -/
theorem keywordBefore_of_not {a b : String} (differs : a ≠ b) (notBefore : ¬keywordBefore a b = true) :
    keywordBefore b a = true := by
  rw [keywordBefore_iff, not_or, not_and] at notBefore
  rw [keywordBefore_iff]
  by_cases longer : a.length < b.length
  · exact .inl longer
  · have same : a.length = b.length := by omega
    refine .inr ⟨same.symm, ?_⟩
    by_contra notLess
    exact differs (String.toList_inj.mp (List.le_antisymm notLess (notBefore.2 same)))

theorem pairwise_insertKeyword (word : String) {order : List String}
    (ordered : order.Pairwise fun a b => keywordBefore a b = true) :
    (insertKeyword word order).Pairwise fun a b => keywordBefore a b = true := by
  induction order with
  | nil => exact List.pairwise_singleton _ word
  | cons head rest ih =>
    obtain ⟨least, later⟩ := List.pairwise_cons.mp ordered
    rw [insertKeyword]
    split
    · exact ordered
    · rename_i differs
      split
      · rename_i before
        refine List.pairwise_cons.mpr ⟨List.forall_mem_cons.mpr ⟨before, fun other member => ?_⟩, ordered⟩
        exact keywordBefore_trans before (least other member)
      · rename_i notBefore
        refine List.pairwise_cons.mpr ⟨fun other member => ?_, ih later⟩
        rcases mem_insertKeyword.mp member with rfl | old
        · exact keywordBefore_of_not differs notBefore
        · exact least other old

theorem pairwise_keywordOrder (words : List String) :
    (keywordOrder words).Pairwise fun a b => keywordBefore a b = true := by
  induction words with
  | nil => exact .nil
  | cons word words ih => exact pairwise_insertKeyword word ih

/-- The order in which words are tried depends on the words only. -/
theorem SameWords.keywordOrder_eq {words words' : List String} (same : SameWords words words') :
    keywordOrder words = keywordOrder words' := by
  have irrefl : Std.Irrefl fun a b : String => keywordBefore a b = true := ⟨keywordBefore_irrefl⟩
  have antisymm : Std.Antisymm fun a b : String => keywordBefore a b = true :=
    ⟨fun a b before after => absurd (keywordBefore_trans before after) (keywordBefore_irrefl a)⟩
  apply (pairwise_keywordOrder words).eq_of_mem_iff (pairwise_keywordOrder words')
  intro word
  rw [mem_keywordOrder, mem_keywordOrder, same word]

theorem SameWords.keyword_eq {words words' : List String} (same : SameWords words words') :
    Pattern.keyword words = Pattern.keyword words' := by
  rw [Pattern.keyword, Pattern.keyword, same.keywordOrder_eq]

theorem SameWords.append {words words' more more' : List String} (same : SameWords words words')
    (sameMore : SameWords more more') : SameWords (words ++ more) (words' ++ more') := by
  intro word
  rw [List.mem_append, List.mem_append, same word, sameMore word]

theorem SameWords.any_eq {words words' : List String} (same : SameWords words words') (test : String → Bool) :
    words.any test = words'.any test := by
  rw [Bool.eq_iff_iff, List.any_eq_true, List.any_eq_true]
  exact exists_congr fun word => and_congr_left fun _ => same word

/-! ## Dialects with the same keywords -/

/-- Dialects that differ in the order and in the repetition of their keywords only. -/
structure Dialect.SameKeywords (dialect dialect' : Dialect) : Prop where
  step : SameWords dialect.stepWords.step dialect'.stepWords.step
  rest : SameWords dialect.stepWords.rest dialect'.stepWords.rest
  ending : SameWords dialect.stepWords.ending dialect'.stepWords.ending
  timer : SameWords dialect.tables.timer dialect'.tables.timer
  marker : SameWords dialect.tables.marker dialect'.tables.marker
  fault : SameWords dialect.tables.fault dialect'.tables.fault
  negation : SameWords dialect.conditions.negation dialect'.conditions.negation
  timerUnits : SameWords dialect.conditions.timerUnits dialect'.conditions.timerUnits
  instanceMarks : SameWords dialect.instanceMarks dialect'.instanceMarks
  andMark : dialect.conditions.andMark = dialect'.conditions.andMark
  orMark : dialect.conditions.orMark = dialect'.conditions.orMark
  transition : dialect.conditions.transition = dialect'.conditions.transition
  signals : dialect.signals = dialect'.signals
  commentMark : dialect.commentMark = dialect'.commentMark

namespace Dialect.SameKeywords

variable {dialect dialect' : Dialect} (same : dialect.SameKeywords dialect')
include same

theorem declarationWords : SameWords dialect.declarationWords dialect'.declarationWords := same.rest.append same.step

theorem isRestWord_eq (word : String) : dialect.isRestWord word = dialect'.isRestWord word := by
  rw [isRestWord, isRestWord, Bool.eq_iff_iff]
  simp only [List.contains_iff_mem, List.mem_map, same.rest _]

theorem isComment_eq (content : List Char) : dialect.isComment content = dialect'.isComment content := by
  rw [isComment, isComment, same.commentMark]

/-! ## Layout -/

theorem layoutTransition_eq : Layout.transition dialect = Layout.transition dialect' := by
  rw [Layout.transition, Layout.transition, same.transition, same.step.keyword_eq]

theorem embedded?_eq (body : List Char) : Layout.embedded? dialect body = Layout.embedded? dialect' body := by
  have rests : Layout.embeddedRest? dialect body = Layout.embeddedRest? dialect' body := by
    rw [Layout.embeddedRest?, Layout.embeddedRest?, Layout.embeddedRest, Layout.embeddedRest, same.rest.keyword_eq]
  rw [Layout.embedded?, Layout.embedded?, Layout.embeddedStep, Layout.embeddedStep, same.step.keyword_eq, rests]

theorem splitBody_eq (fuel : Nat) (body : List Char) :
    Layout.splitBody dialect fuel body = Layout.splitBody dialect' fuel body := by
  induction fuel generalizing body with
  | zero => rfl
  | succ fuel ih =>
    have starts : Layout.declarationStart dialect = Layout.declarationStart dialect' := by
      rw [Layout.declarationStart, Layout.declarationStart, same.declarationWords.keyword_eq]
    rw [Layout.splitBody, Layout.splitBody, starts, same.layoutTransition_eq, same.embedded?_eq]
    simp only [ih]

theorem splitLine_eq (line : List Char) : Layout.splitLine dialect line = Layout.splitLine dialect' line := by
  rw [Layout.splitLine, Layout.splitLine]
  simp only [same.isComment_eq, same.splitBody_eq]

theorem declarationForm?_eq (body : List Char) :
    Layout.declarationForm? dialect body = Layout.declarationForm? dialect' body := by
  simp only [Layout.declarationForm?, Layout.restHead, Layout.numberedHead, Layout.unnumberedHead, same.rest.keyword_eq,
    same.step.keyword_eq]

theorem lineForm_eq (line : List Char) : Layout.lineForm dialect line = Layout.lineForm dialect' line := by
  have heads : Layout.declarationHead dialect = Layout.declarationHead dialect' := by
    rw [Layout.declarationHead, Layout.declarationHead, same.declarationWords.keyword_eq]
  have transitions (body : List Char) : Layout.transitionForm? dialect body = Layout.transitionForm? dialect' body := by
    rw [Layout.transitionForm?, Layout.transitionForm?, same.layoutTransition_eq, same.transition]
  simp only [Layout.lineForm, same.isComment_eq, transitions, heads, same.declarationForm?_eq]

theorem normalize_eq (source : SourceKind) (text : String) :
    normalize dialect source text = normalize dialect' source text := by
  have splits : Layout.splitLine dialect = Layout.splitLine dialect' := funext same.splitLine_eq
  have forms : Layout.lineForm dialect = Layout.lineForm dialect' := funext same.lineForm_eq
  simp only [normalize, Layout.canonicalLines, splits, forms]

/-! ## Condition lines -/

theorem negationPattern_eq : ConditionLine.negation dialect = ConditionLine.negation dialect' := by
  rw [ConditionLine.negation, ConditionLine.negation, same.negation.keyword_eq]

theorem reference_eq : ConditionLine.reference dialect = ConditionLine.reference dialect' := by
  rw [ConditionLine.reference, ConditionLine.reference, same.step.keyword_eq]

theorem time_eq : ConditionLine.time dialect = ConditionLine.time dialect' := by
  rw [ConditionLine.time, ConditionLine.time, same.timer.keyword_eq, same.timerUnits.keyword_eq]

theorem splitMark_eq (content : List Char) :
    ConditionLine.splitMark dialect content = ConditionLine.splitMark dialect' content := by
  rw [ConditionLine.splitMark, ConditionLine.splitMark, same.orMark, same.andMark]

theorem looksLikeCondition_eq (line : List Char) :
    ConditionLine.looksLikeCondition dialect line = ConditionLine.looksLikeCondition dialect' line := by
  rw [ConditionLine.looksLikeCondition, ConditionLine.looksLikeCondition, ConditionLine.signalCount,
    ConditionLine.signalCount, same.signals, same.splitMark_eq, same.negationPattern_eq, same.time_eq,
    same.reference_eq]

theorem extract_eq (line : String) (number : Option Int) :
    ConditionLine.extract dialect line number = ConditionLine.extract dialect' line number := by
  simp only [ConditionLine.extract, ConditionLine.splitNegation, ConditionLine.findReference, ConditionLine.findTime,
    same.splitMark_eq, same.negationPattern_eq, same.reference_eq, same.time_eq]

/-! ## The rules of the line classes -/

theorem comment_eq (line : Line) (state : ReadState) :
    LineRule.comment dialect line state = LineRule.comment dialect' line state := by
  rw [LineRule.comment, LineRule.comment, same.isComment_eq, same.commentMark]

theorem header_eq (line : Line) (state : ReadState) :
    LineRule.header dialect line state = LineRule.header dialect' line state := by
  have keywords : LineRule.keywordLine dialect = LineRule.keywordLine dialect' := by
    have words := (same.declarationWords.append same.ending).append (SameWords.refl [dialect.conditions.transition])
    rw [LineRule.keywordLine, LineRule.keywordLine, words.keyword_eq, same.transition]
  rw [LineRule.header, LineRule.header, LineRule.isBareName, LineRule.isBareName, same.andMark, same.orMark, keywords]

theorem instanceName_eq (line : Line) (state : ReadState) :
    LineRule.instanceName dialect line state = LineRule.instanceName dialect' line state := by
  simp only [LineRule.instanceName, LineRule.instancePattern, same.instanceMarks.keyword_eq]

theorem declaration_eq (line : Line) (state : ReadState) :
    LineRule.declaration dialect line state = LineRule.declaration dialect' line state := by
  have ends : LineRule.endsStep dialect line.content = LineRule.endsStep dialect' line.content := by
    simp only [LineRule.endsStep, LineRule.endPattern, same.ending.any_eq, same.ending.keyword_eq]
  have declarations : LineRule.declarationPattern dialect = LineRule.declarationPattern dialect' := by
    rw [LineRule.declarationPattern, LineRule.declarationPattern, same.declarationWords.keyword_eq]
  simp only [LineRule.declaration, ends, LineRule.kindOf, same.isRestWord_eq, declarations]

theorem transition_eq (line : Line) (state : ReadState) :
    LineRule.transition dialect line state = LineRule.transition dialect' line state := by
  simp only [LineRule.transition, LineRule.transitionPattern, same.orMark, same.transition, same.step.keyword_eq]

theorem file_eq (condition : Condition) (state : ReadState) :
    LineRule.file dialect condition state = LineRule.file dialect' condition state := by
  simp only [LineRule.file, LineRule.recordNames, same.timer.any_eq, same.marker.any_eq, same.fault.any_eq]

theorem condition_eq (line : Line) (state : ReadState) :
    LineRule.condition dialect line state = LineRule.condition dialect' line state := by
  simp only [LineRule.condition, same.splitMark_eq, same.looksLikeCondition_eq, same.extract_eq, same.file_eq]

theorem rule_eq (lineClass : LineClass) (line : Line) (state : ReadState) :
    lineClass.rule dialect line state = lineClass.rule dialect' line state := by
  cases lineClass with
  | comment => exact same.comment_eq line state
  | header => exact same.header_eq line state
  | instanceName => exact same.instanceName_eq line state
  | declaration => exact same.declaration_eq line state
  | transition => exact same.transition_eq line state
  | condition => exact same.condition_eq line state
  | assignment | unrecognized | bare => rfl

/-! ## Programs -/

theorem readLine_eq (classes : List LineClass) (line : Line) (state : ReadState) :
    readLine dialect line state classes = readLine dialect' line state classes := by
  induction classes with
  | nil => rfl
  | cons lineClass rest ih => rw [readLine, readLine, same.rule_eq, ih]

theorem readLines_eq (classes : List LineClass) (number : Nat) (state : ReadState) (lines : List (List Char)) :
    readLines dialect classes number state lines = readLines dialect' classes number state lines := by
  induction lines generalizing number state with
  | nil => rfl
  | cons chars rest ih => simp only [readLines, same.readLine_eq, ih]

end Dialect.SameKeywords

/-- Keyword lists are sets: the order of keywords and their repetition change neither the layout of any
text nor what is read from it, whatever keywords are prefixes of one another. -/
theorem keywords_are_sets {dialect dialect' : Dialect} (same : dialect.SameKeywords dialect') :
    (∀ source text, normalize dialect source text = normalize dialect' source text) ∧
      (∀ classes text metadata,
        readWith dialect classes text metadata = readWith dialect' classes text metadata) ∧
      ∀ text metadata, readProgram dialect text metadata = readProgram dialect' text metadata := by
  have reads (classes : List LineClass) (text : String) (metadata : Metadata) :
      readWith dialect classes text metadata = readWith dialect' classes text metadata := by
    rw [readWith, readWith, same.readLines_eq]
  exact ⟨same.normalize_eq, reads, reads LineClass.standard⟩

/-- A dialect in which keywords are prefixes of one another and equal up to letter case. -/
def steppers : Dialect :=
  { stepWords := { step := ["STEP", "STEPPER", "Step"] }
    conditions := { negation := ["NO", "NOT"], timerUnits := ["s", "sec"] } }

/-- The same keywords in another order, some of them twice. -/
def reorderedSteppers : Dialect :=
  { stepWords := { step := ["STEPPER", "Step", "STEP", "STEPPER"] }
    conditions := { negation := ["NOT", "NO", "NOT"], timerUnits := ["sec", "s"] } }

theorem sameKeywords_steppers : steppers.SameKeywords reorderedSteppers where
  step := by decide
  rest := .refl _
  ending := .refl _
  timer := .refl _
  marker := .refl _
  fault := .refl _
  negation := by decide
  timerUnits := by decide
  instanceMarks := .refl _
  andMark := rfl
  orMark := rfl
  transition := rfl
  signals := rfl
  commentMark := rfl

theorem keywords_are_sets_steppers :
    steppers ≠ reorderedSteppers ∧
      (∀ source text, normalize steppers source text = normalize reorderedSteppers source text) ∧
      (∀ classes text metadata,
        readWith steppers classes text metadata = readWith reorderedSteppers classes text metadata) ∧
      ∀ text metadata, readProgram steppers text metadata = readProgram reorderedSteppers text metadata :=
  ⟨by decide, keywords_are_sets sameKeywords_steppers⟩

end StepFlow
