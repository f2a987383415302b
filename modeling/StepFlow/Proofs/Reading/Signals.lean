import StepFlow.Proofs.Pattern.Context
import StepFlow.Proofs.Reading.ExplicitMarks

/-! # Signals and features of conditions

A bare line is taken for a condition by its signals: a word of negation, a time, a comparison, a reference. They are
looked for in the line without its mark. What is read from a condition is looked for in a shorter text, from which the
word of negation is gone as well. Before that text stands a blank, and none of the patterns tells a place after a blank
from the start of a text. So whatever is read from a line was a signal of it.
-/

namespace StepFlow

open Text Pattern

/-- The number of features of a condition: that it is negated, and its special forms. -/
def Condition.features (condition : Condition) : Nat :=
  (if condition.negated then 1 else 0) + condition.forms.length

/-- All signs count. -/
structure Signals.AllCount (signals : Signals) : Prop where
  negation : signals.negation = true
  timer : signals.timer = true
  comparison : signals.comparison = true
  crossReference : signals.crossReference = true

theorem Signals.allCount_default : ({} : Signals).AllCount := ⟨rfl, rfl, rfl, rfl⟩

namespace ConditionLine

variable {dialect : Dialect}

/-! ## Patterns after a blank -/

theorem blindTo_reference (gap : Char) : (reference dialect).blindTo gap = true := by
  simp [reference, blindTo_concat, blindTo_keyword, blindTo_times, maybe, blindTo, blanks, mark, numeral]

section Blank

variable {gap : Char} (blank : isBlank gap = true)
include blank

theorem blindTo_time : (time dialect).blindTo gap = true := by
  have edge : wordEdge.blindTo gap = true := by
    simp [wordEdge, blindTo, Edge.blindTo, CharKind.holds, isWordChar_of_isBlank blank]
  simp [time, blindTo_concat, blindTo_keyword, blindTo_times, edge, maybe, blindTo, blanks, mark, numeral]

theorem blindTo_comparison : comparison.blindTo gap = true := by
  have subject : subjectChar.holds gap = false :=
    forall_blank (P := fun c => subjectChar.holds c = false) (by decide +kernel) blank
  simp [comparison, blindTo_concat, blindTo_anyOf, blindTo_literal, blindTo, Edge.blindTo, subject, blanks, finish]

end Blank

/-! ## The text without its negation -/

theorem trimEnd_of_suffix {part text : List Char} (ends : part <:+ text) (closed : trimEnd text = text) :
    trimEnd part = part := by
  obtain ⟨front, rfl⟩ := ends
  rcases List.eq_nil_or_concat part with rfl | ⟨init, last, rfl⟩
  · rfl
  · have backwards := congrArg List.reverse closed
    rw [trimEnd, List.reverse_reverse, List.dropWhile_eq_self_iff] at backwards
    have solid : isBlank last = false := by simpa using backwards
    simp [trimEnd, solid]

/-- A blank stands before what a word of negation leaves of a line. -/
theorem exists_blank_of_negation {content : List Char} {found : Match} (closed : trimEnd content = content)
    (matched : (negation dialect).matchStart? content = some found) :
    ∃ front gap, isBlank gap = true ∧ content = front ++ gap :: trim found.rest := by
  obtain ⟨stop, first, rfl⟩ := Option.map_eq_some_iff.mp matched
  obtain ⟨_, isStart, member⟩ := mem_ends_concat_cons.mp (List.mem_of_head? first)
  obtain rfl := List.mem_singleton.mp isStart
  obtain ⟨word, _, worded, -, member⟩ := exists_reads_of_mem_concat member
  obtain ⟨blanks, _, spaced, areBlanks, member⟩ := exists_reads_of_mem_concat member
  obtain rfl := List.mem_singleton.mp member
  have whole : content = word ++ (blanks ++ stop.after.takeWhile isBlank) ++ trimStart stop.after := by
    rw [List.append_assoc, List.append_assoc, trimStart, List.takeWhile_append_dropWhile, ← spaced, ← worded]
  have rest : trim stop.after = trimStart stop.after := trimEnd_of_suffix ⟨_, whole.symm⟩ closed
  -- The blank is the last one of those that the pattern reads and those that are trimmed after it.
  have given : blanks ++ stop.after.takeWhile isBlank ≠ [] :=
    List.append_ne_nil_of_left_ne_nil (List.ne_nil_of_length_pos areBlanks.span.2) _
  obtain ⟨init, gap, same⟩ := (List.eq_nil_or_concat _).resolve_left given
  have allBlank : ∀ c ∈ blanks ++ stop.after.takeWhile isBlank, isBlank c = true :=
    List.forall_mem_append.mpr ⟨areBlanks.isBlank, fun c => List.mem_takeWhile_imp⟩
  refine ⟨word ++ init, gap, allBlank gap (by simp [same]), ?_⟩
  rw [whole, same, Match.rest, rest]
  simp

section Negation

variable {content : List Char} (closed : trimEnd content = content)
include closed

/-- A pattern that does not see a blank before a place is found in a line if it is found in what a word of negation
leaves of it. -/
theorem occursIn_of_splitNegation {pattern : Pattern} (blind : ∀ gap, isBlank gap = true → pattern.blindTo gap = true)
    (occurs : pattern.occursIn (splitNegation dialect content).1 = true) : pattern.occursIn content = true := by
  rw [splitNegation] at occurs
  split at occurs
  · rename_i found matched
    obtain ⟨front, gap, blank, whole⟩ := exists_blank_of_negation closed matched
    rw [whole]
    exact occursIn_of_blindTo (blind gap blank) front occurs
  · exact occurs

theorem search?_of_absent {pattern : Pattern} (blind : ∀ gap, isBlank gap = true → pattern.blindTo gap = true)
    (absent : ¬pattern.occursIn content = true) : pattern.search? (splitNegation dialect content).1 = none :=
  Option.not_isSome_iff_eq_none.mp (mt (occursIn_of_splitNegation closed blind) absent)

theorem findReference_of_absent (absent : ¬(reference dialect).occursIn content = true) (line : String)
    (number : Option Int) : findReference dialect line number (splitNegation dialect content).1 = .ok (none, []) := by
  rw [findReference, search?_of_absent closed (fun gap _ => blindTo_reference gap) absent]

theorem findTime_of_absent (absent : ¬(time dialect).occursIn content = true) :
    findTime dialect (splitNegation dialect content).1 = .ok none := by
  rw [findTime, search?_of_absent closed (fun _ => blindTo_time) absent]

theorem findComparison_of_absent (absent : ¬comparison.occursIn content = true) :
    findComparison (splitNegation dialect content).1 = .ok none := by
  rw [findComparison, search?_of_absent closed (fun _ => blindTo_comparison) absent]

end Negation

theorem startsIn_of_splitNegation {content : List Char} (negated : (splitNegation dialect content).2 = true) :
    (negation dialect).startsIn content = true := by
  rw [splitNegation] at negated
  split at negated
  · rename_i found matched
    rw [startsIn, matched]
    rfl
  · cases negated

/-! ## Features and signals -/

/-- What is left of a line without its mark. -/
def unmarked (dialect : Dialect) (line : List Char) : List Char := (splitMark dialect (trim line)).rest

theorem trimEnd_unmarked (dialect : Dialect) (line : List Char) :
    trimEnd (unmarked dialect line) = unmarked dialect line := by
  rw [unmarked, ← trim_splitMark, trimEnd_trim]

section Lines

variable {line : String} {number : Option Int} {found : Extraction}

/-- What a condition is and has stands in a text. -/
structure Stands (dialect : Dialect) (condition : Condition) (content : List Char) : Prop where
  negated : condition.negated = true → (negation dialect).startsIn content = true
  crossReference : condition.crossReference.isSome = true → (reference dialect).occursIn content = true
  timer : condition.timer.isSome = true → (time dialect).occursIn content = true
  comparison : condition.comparison.isSome = true → ConditionLine.comparison.occursIn content = true

/-- What is read from a line stands in the line without its mark. -/
theorem stands_of_extract (extracted : extract dialect line number = .ok found) :
    Stands dialect found.condition (unmarked dialect line.toList) := by
  have closed := trimEnd_unmarked dialect line.toList
  obtain ⟨⟨reference, reported⟩, referred, extracted⟩ := bind_eq_ok extracted
  obtain ⟨timer, timed, extracted⟩ := bind_eq_ok extracted
  obtain ⟨comparison, compared, ⟨⟩⟩ := bind_eq_ok extracted
  refine ⟨startsIn_of_splitNegation, fun isThere => ?_, fun isThere => ?_, fun isThere => ?_⟩
  · by_contra absent
    cases referred.symm.trans (findReference_of_absent closed absent line number)
    cases isThere
  · by_contra absent
    cases timed.symm.trans (findTime_of_absent closed absent)
    cases isThere
  · by_contra absent
    cases compared.symm.trans (findComparison_of_absent closed absent)
    cases isThere

/-- A line that cannot be read has a reference, a time or a comparison. -/
theorem occurs_of_extract_error {fault : ReadFault} (failed : extract dialect line number = .error fault) :
    (reference dialect).occursIn (unmarked dialect line.toList) = true ∨
      (time dialect).occursIn (unmarked dialect line.toList) = true ∨
      comparison.occursIn (unmarked dialect line.toList) = true := by
  have closed := trimEnd_unmarked dialect line.toList
  by_contra none
  rw [not_or, not_or] at none
  obtain ⟨noReference, noTime, noComparison⟩ := none
  have referred := findReference_of_absent closed noReference line number
  have timed := findTime_of_absent closed noTime
  have compared := @findComparison_of_absent dialect _ closed noComparison
  rw [unmarked] at referred timed compared
  rw [extract] at failed
  simp only [referred, timed, compared] at failed
  cases failed

end Lines

theorem signalCount_of_allCount (all : dialect.signals.AllCount) (line : List Char) :
    signalCount dialect line =
      (if (negation dialect).startsIn (unmarked dialect line) then 1 else 0) +
        (if (time dialect).occursIn (unmarked dialect line) then 1 else 0) +
        (if comparison.occursIn (unmarked dialect line) then 1 else 0) +
        (if (reference dialect).occursIn (unmarked dialect line) then 1 else 0) := by
  rw [signalCount, all.negation, all.timer, all.comparison, all.crossReference]
  rfl

theorem ite_le_ite_of_imp {a b : Bool} (implies : a = true → b = true) :
    (if a then 1 else 0) ≤ if b then 1 else 0 := by
  cases a with
  | false => exact Nat.zero_le _
  | true => rw [implies rfl]

theorem Stands.features_le {condition : Condition} {line : List Char} (all : dialect.signals.AllCount)
    (stands : Stands dialect condition (unmarked dialect line)) : condition.features ≤ signalCount dialect line := by
  have forms : condition.forms.length = (if condition.crossReference.isSome then 1 else 0) +
      (if condition.timer.isSome then 1 else 0) + (if condition.comparison.isSome then 1 else 0) := by
    simp only [Condition.forms, List.length_append, apply_ite List.length, List.length_singleton, List.length_nil]
  have negated := ite_le_ite_of_imp stands.negated
  have referred := ite_le_ite_of_imp stands.crossReference
  have timed := ite_le_ite_of_imp stands.timer
  have compared := ite_le_ite_of_imp stands.comparison
  rw [signalCount_of_allCount all, Condition.features, forms]
  omega

/-- Signals dominate features: where all signs count, a line has at least as many signals as features are read from it.
So a line with as many features as signals are asked for is taken for a condition. A line that cannot be read has a
signal, too. -/
theorem features_le_signalCount (all : dialect.signals.AllCount) (line : String) (number : Option Int) :
    (∀ found, extract dialect line number = .ok found →
      found.condition.features ≤ signalCount dialect line.toList ∧
        (dialect.signals.least ≤ found.condition.features → looksLikeCondition dialect line.toList = true)) ∧
      ∀ fault, extract dialect line number = .error fault → 0 < signalCount dialect line.toList := by
  constructor
  · intro found extracted
    have dominated := (stands_of_extract extracted).features_le all
    exact ⟨dominated, fun enough => decide_eq_true (enough.trans dominated)⟩
  · intro fault failed
    rw [signalCount_of_allCount all]
    rcases occurs_of_extract_error failed with occurs | occurs | occurs <;> simp [occurs]

/-- A negated condition with a reference and a time. -/
def negatedReference : String := "NIET (Pomp STAP 3) TIJD 5 Sek"

theorem features_le_signalCount_negatedReference :
    (extract {} negatedReference none).toOption.map (·.condition.features) = some 3 ∧
      (∀ found, extract {} negatedReference none = .ok found →
        found.condition.features ≤ signalCount {} negatedReference.toList ∧
          (1 ≤ found.condition.features → looksLikeCondition {} negatedReference.toList = true)) ∧
      ∀ fault, extract {} negatedReference none = .error fault → 0 < signalCount {} negatedReference.toList :=
  ⟨by decide +kernel, features_le_signalCount Signals.allCount_default negatedReference none⟩

end ConditionLine

end StepFlow
