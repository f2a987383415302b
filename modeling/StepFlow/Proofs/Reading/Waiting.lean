import StepFlow.Proofs.Reading.Marks
import Mathlib.Data.List.Induction

/-! # Transitions that wait for a step

A transition waits until the next step is declared. Meanwhile conditions are filed under the last transition that
waits. Which transitions wait, and which conditions are filed under them, can be read off the classes of the
lines: a condition is filed under the nearest transition before it, unless a step was declared in between.
-/

namespace StepFlow

open LineRule

namespace ClassifiedLine

/-- The mark that objects of a line carry. -/
def mark (entry : ClassifiedLine) : Option Int := some (entry.line : Int)

/-- Whether a line declares a step. -/
def declaresStep (entry : ClassifiedLine) : Bool := entry.lineClass == .declaration && entry.declared.isSome

/-- The marks of the transitions that wait after one more line, each with those of its conditions. -/
def wait (waiting : List (Option Int × List (Option Int))) (entry : ClassifiedLine) :
    List (Option Int × List (Option Int)) :=
  match entry.lineClass with
  | .transition => waiting ++ [(entry.mark, [])]
  | .declaration => if entry.declared.isSome then [] else waiting
  | .condition =>
    match waiting.getLast? with
    | none => waiting
    | some last => waiting.dropLast ++ [(last.1, last.2 ++ [entry.mark])]
  | _ => waiting

/-- The marks of the transitions that wait after classified lines, each with those of its conditions. -/
def waiting (trace : List ClassifiedLine) : List (Option Int × List (Option Int)) := trace.foldl wait []

/-- The line of a transition is the nearest one before a line, with no declared step in between. -/
structure FiledUnder (trace : List ClassifiedLine) (origin entry : ClassifiedLine) : Prop where
  transition : origin.lineClass = .transition
  before : origin.line < entry.line
  between : ∀ other ∈ trace, origin.line < other.line → other.line < entry.line →
    other.lineClass ≠ .transition ∧ other.declaresStep = false

theorem waiting_concat (trace : List ClassifiedLine) (entry : ClassifiedLine) :
    waiting (trace ++ [entry]) = wait (waiting trace) entry := by
  simp only [waiting, List.foldl_append, List.foldl_cons, List.foldl_nil]

theorem lt_of_pairwise_concat {trace : List ClassifiedLine} {entry other : ClassifiedLine}
    (sorted : (trace ++ [entry]).Pairwise (·.line < ·.line)) (member : other ∈ trace) : other.line < entry.line :=
  (List.pairwise_append.mp sorted).2.2 other member entry (List.mem_singleton.mpr rfl)

/-- The ways in which a line can change the transitions that wait. -/
inductive Waits (waiting : List (Option Int × List (Option Int))) (entry : ClassifiedLine) :
    List (Option Int × List (Option Int)) → Prop where
  /-- One more transition waits. -/
  | join (isOrigin : entry.lineClass = .transition) : Waits waiting entry (waiting ++ [(entry.mark, [])])
  /-- A step takes all of them. -/
  | take (declares : entry.declaresStep = true) : Waits waiting entry []
  /-- A condition is filed under the last one. -/
  | file {before : List (Option Int × List (Option Int))} {last : Option Int × List (Option Int)}
      (conditional : entry.lineClass = .condition) (split : waiting = before ++ [last]) :
      Waits waiting entry (before ++ [(last.1, last.2 ++ [entry.mark])])
  /-- Other lines change nothing, nor do conditions while no transition waits. -/
  | stay (noOrigin : entry.lineClass ≠ .transition) (noStep : entry.declaresStep = false)
      (unfiled : entry.lineClass = .condition → waiting = []) : Waits waiting entry waiting

theorem waits_wait (waiting : List (Option Int × List (Option Int))) (entry : ClassifiedLine) :
    Waits waiting entry (wait waiting entry) := by
  unfold wait
  cases lineClass : entry.lineClass with
  | transition => exact .join lineClass
  | declaration =>
    cases declared : entry.declared.isSome with
    | true => exact .take (by simp [declaresStep, lineClass, declared])
    | false => exact .stay (by simp [lineClass]) (by simp [declaresStep, declared]) (by simp [lineClass])
  | condition =>
    cases found : waiting.getLast? with
    | none =>
      refine .stay (by simp [lineClass]) (by simp [declaresStep, lineClass]) fun _ => ?_
      exact List.getLast?_eq_none_iff.mp found
    | some last =>
      obtain ⟨before, split⟩ := List.getLast?_eq_some_iff.mp found
      simpa [split] using Waits.file lineClass split
  | comment | header | instanceName | assignment | unrecognized | bare =>
    exact .stay (by simp [lineClass]) (by simp [declaresStep, lineClass]) (by simp [lineClass])

theorem waits_concat (trace : List ClassifiedLine) (entry : ClassifiedLine) :
    Waits (waiting trace) entry (waiting (trace ++ [entry])) :=
  waiting_concat trace entry ▸ waits_wait (waiting trace) entry

/-- The last transition that waits is the last one in the trace, and no step was declared after it. -/
theorem of_getLast?_waiting {trace : List ClassifiedLine} {last : Option Int × List (Option Int)}
    (sorted : trace.Pairwise (·.line < ·.line)) (found : (waiting trace).getLast? = some last) :
    ∃ origin ∈ trace, origin.mark = last.1 ∧ origin.lineClass = .transition ∧
      ∀ other ∈ trace, origin.line < other.line → other.lineClass ≠ .transition ∧ other.declaresStep = false := by
  induction trace using List.reverseRecOn generalizing last with
  | nil => cases found
  | append_singleton trace entry ih =>
    -- A line that neither waits nor declares a step leaves the last transition as it was.
    have unchanged {before : Option Int × List (Option Int)} (waited : (waiting trace).getLast? = some before)
        (same : before.1 = last.1) (noOrigin : entry.lineClass ≠ .transition) (noStep : entry.declaresStep = false) :
        ∃ origin ∈ trace ++ [entry], origin.mark = last.1 ∧ origin.lineClass = .transition ∧
          ∀ other ∈ trace ++ [entry], origin.line < other.line →
            other.lineClass ≠ .transition ∧ other.declaresStep = false := by
      obtain ⟨origin, member, marked, transition, after⟩ := ih (List.pairwise_append.mp sorted).1 waited
      refine ⟨origin, List.mem_append_left _ member, marked.trans same, transition, ?_⟩
      exact List.forall_mem_append.mpr ⟨after, List.forall_mem_singleton.mpr fun _ => ⟨noOrigin, noStep⟩⟩
    have changed := waits_concat trace entry
    generalize waiting (trace ++ [entry]) = next at found changed
    cases changed with
    | join isOrigin =>
      rw [List.getLast?_concat] at found
      cases found
      refine ⟨entry, List.mem_append_right _ (List.mem_singleton.mpr rfl), rfl, isOrigin, ?_⟩
      refine List.forall_mem_append.mpr ⟨fun other old follows => ?_, List.forall_mem_singleton.mpr fun follows => ?_⟩
      · exact absurd follows (Nat.lt_asymm (lt_of_pairwise_concat sorted old))
      · exact absurd follows (Nat.lt_irrefl _)
    | take => cases found
    | @file _ last conditional split =>
      rw [List.getLast?_concat] at found
      cases found
      have waited : (waiting trace).getLast? = some last := by rw [split, List.getLast?_concat]
      exact unchanged waited rfl (by simp [conditional]) (by simp [declaresStep, conditional])
    | stay noOrigin noStep => exact unchanged found rfl noOrigin noStep

/-- A line after all others is filed under the last transition that waits. -/
theorem exists_filedUnder_last {trace : List ClassifiedLine} {entry : ClassifiedLine}
    {last : Option Int × List (Option Int)} (sorted : (trace ++ [entry]).Pairwise (·.line < ·.line))
    (found : (waiting trace).getLast? = some last) :
    ∃ origin ∈ trace, origin.mark = last.1 ∧ FiledUnder (trace ++ [entry]) origin entry := by
  obtain ⟨origin, member, marked, transition, after⟩ :=
    of_getLast?_waiting (List.pairwise_append.mp sorted).1 found
  refine ⟨origin, member, marked, transition, lt_of_pairwise_concat sorted member, ?_⟩
  refine List.forall_mem_append.mpr ⟨fun other old follows _ => after other old follows, ?_⟩
  exact List.forall_mem_singleton.mpr fun _ precedes => absurd precedes (Nat.lt_irrefl _)

/-- Later lines do not change under which transition an earlier one is filed. -/
theorem filedUnder_concat {trace : List ClassifiedLine} {entry origin earlier : ClassifiedLine}
    (sorted : (trace ++ [entry]).Pairwise (·.line < ·.line)) (member : earlier ∈ trace) :
    (origin ∈ trace ++ [entry] ∧ FiledUnder (trace ++ [entry]) origin earlier) ↔
      (origin ∈ trace ∧ FiledUnder trace origin earlier) := by
  have last := lt_of_pairwise_concat sorted member
  constructor
  · rintro ⟨present, filed⟩
    rcases List.mem_append.mp present with old | new
    · exact ⟨old, filed.transition, filed.before,
        fun other inside => filed.between other (List.mem_append_left _ inside)⟩
    · have before := filed.before
      rw [List.mem_singleton.mp new] at before
      omega
  · rintro ⟨present, filed⟩
    refine ⟨List.mem_append_left _ present, filed.transition, filed.before, ?_⟩
    intro other inside follows precedes
    rcases List.mem_append.mp inside with old | new
    · exact filed.between other old follows precedes
    · rw [List.mem_singleton.mp new] at precedes
      omega

/-- A mark is that of a condition filed under one of the given transitions. -/
def FiledIn (trace : List ClassifiedLine) (origins : List (Option Int)) (mark : Option Int) : Prop :=
  ∃ entry ∈ trace, entry.mark = mark ∧ entry.lineClass = .condition ∧
    ∃ origin, (origin ∈ trace ∧ FiledUnder trace origin entry) ∧ origin.mark ∈ origins

theorem filedIn_concat {trace : List ClassifiedLine} {entry : ClassifiedLine} {origins : List (Option Int)}
    {mark : Option Int} (sorted : (trace ++ [entry]).Pairwise (·.line < ·.line)) :
    FiledIn (trace ++ [entry]) origins mark ↔ FiledIn trace origins mark ∨
      (entry.mark = mark ∧ entry.lineClass = .condition ∧
        ∃ origin, (origin ∈ trace ++ [entry] ∧ FiledUnder (trace ++ [entry]) origin entry) ∧
          origin.mark ∈ origins) := by
  constructor
  · rintro ⟨found, present, marked, conditional, origin, filed, listed⟩
    rcases List.mem_append.mp present with old | new
    · exact .inl ⟨found, old, marked, conditional, origin, (filedUnder_concat sorted old).mp filed, listed⟩
    · rw [List.mem_singleton.mp new] at marked conditional filed
      exact .inr ⟨marked, conditional, origin, filed, listed⟩
  · rintro (⟨found, old, marked, conditional, origin, filed, listed⟩ | ⟨marked, conditional, filed⟩)
    · exact ⟨found, List.mem_append_left _ old, marked, conditional, origin,
        (filedUnder_concat sorted old).mpr filed, listed⟩
    · exact ⟨entry, List.mem_append_right _ (List.mem_singleton.mpr rfl), marked, conditional, filed⟩

/-- No line is filed under a later one. -/
theorem filedIn_concat_origins {trace : List ClassifiedLine} {entry : ClassifiedLine} {mark : Option Int}
    (sorted : (trace ++ [entry]).Pairwise (·.line < ·.line)) (origins : List (Option Int)) :
    FiledIn trace (origins ++ [entry.mark]) mark ↔ FiledIn trace origins mark := by
  refine exists_congr fun found => and_congr_right fun _ => and_congr_right fun _ =>
    and_congr_right fun _ => exists_congr fun origin => and_congr_right fun filed => ?_
  have earlier := lt_of_pairwise_concat sorted filed.1
  have differs : origin.mark ≠ entry.mark := by
    simp only [ClassifiedLine.mark, ne_eq, Option.some.injEq]
    omega
  simp [differs]

/-- The conditions of the transitions that wait are those that are filed under one of them. -/
theorem mem_conditions_waiting {trace : List ClassifiedLine} {mark : Option Int}
    (sorted : trace.Pairwise (·.line < ·.line)) :
    mark ∈ (waiting trace).flatMap Prod.snd ↔ FiledIn trace ((waiting trace).map Prod.fst) mark := by
  induction trace using List.reverseRecOn with
  | nil => simp [waiting, FiledIn]
  | append_singleton trace entry ih =>
    specialize ih (List.pairwise_append.mp sorted).1
    have changed := waits_concat trace entry
    generalize waiting (trace ++ [entry]) = next at changed ⊢
    cases changed with
    | join isOrigin =>
      rw [filedIn_concat sorted, List.map_append, List.map_singleton, filedIn_concat_origins sorted, ← ih]
      simp [isOrigin]
    | take => simp [FiledIn]
    | @file before last conditional split =>
      have waited : (waiting trace).getLast? = some last := by rw [split, List.getLast?_concat]
      obtain ⟨origin, member, marked, filed⟩ := exists_filedUnder_last sorted waited
      have listed : origin.mark ∈ (waiting trace).map Prod.fst := by simp [split, marked]
      have origins : (before ++ [(last.1, last.2 ++ [entry.mark])]).map Prod.fst = (waiting trace).map Prod.fst := by
        simp [split]
      have conditions : mark ∈ (before ++ [(last.1, last.2 ++ [entry.mark])]).flatMap Prod.snd ↔
          mark ∈ (waiting trace).flatMap Prod.snd ∨ entry.mark = mark := by
        simp [split, or_assoc, eq_comm]
      rw [conditions, origins, filedIn_concat sorted, ih]
      refine or_congr_right ⟨fun same => ⟨same, conditional, origin, ⟨?_, filed⟩, listed⟩, fun found => found.1⟩
      exact List.mem_append_left _ member
    | stay noOrigin noStep unfiled =>
      by_cases conditional : entry.lineClass = .condition
      · simp [unfiled conditional, FiledIn]
      · rw [filedIn_concat sorted, ih]
        simp [conditional]

end ClassifiedLine

/-- The mark of a transition and those of its conditions. -/
def Transition.waits (transition : Transition) : Option Int × List (Option Int) :=
  (transition.line, transition.conditions.map Condition.line)

variable {dialect : Dialect} {line : Line} {state next : ReadState} {lineClass : LineClass}

/-- Filing a condition changes what is open or what waits, and nothing else. -/
theorem file_eq (dialect : Dialect) (condition : Condition) (state : ReadState) :
    ∃ focus pending, file dialect condition state = { state with focus, pending } := by
  unfold file
  split
  · exact ⟨_, _, rfl⟩
  · split
    · exact ⟨_, _, rfl⟩
    · exact ⟨_, _, rfl⟩
    · exact ⟨_, _, rfl⟩

/-- A condition is filed under the last transition that waits. -/
theorem pending_file (dialect : Dialect) {condition : Condition} {entry : ClassifiedLine} (state : ReadState)
    (conditional : entry.lineClass = .condition) (marked : condition.line = entry.mark) :
    (file dialect condition state).pending.map Transition.waits =
      ClassifiedLine.wait (state.pending.map Transition.waits) entry := by
  unfold file
  cases last : state.pending.getLast? with
  | none =>
    rw [List.getLast?_eq_none_iff] at last
    simp only [ClassifiedLine.wait, conditional, last, List.map_nil, List.getLast?_nil]
    split <;> simp [last]
  | some transition =>
    simp [ClassifiedLine.wait, conditional, last, List.getLast?_map, List.map_dropLast, Transition.waits, marked]

namespace Accepted

theorem trace_eq (accepted : Accepted dialect line state lineClass next) : next.trace = state.trace := by
  cases accepted with
  | transition =>
    obtain ⟨_, _, _, closed⟩ := state.closeVariable_eq
    rw [closed]
  | condition =>
    obtain ⟨_, _, filed⟩ := file_eq dialect _ _
    rw [filed, ReadState.reportAll_eq]
  | _ => rfl

/-- The transitions that wait after a line are those that its class tells. -/
theorem pending_waits (accepted : Accepted dialect line state lineClass next) :
    next.pending.map Transition.waits = ClassifiedLine.wait (state.pending.map Transition.waits)
      ⟨line.number, lineClass, declaredLabel lineClass line next⟩ := by
  cases accepted with
  | ending => rfl
  | step => simp [ClassifiedLine.wait, declaredLabel, ReadState.turnTo]
  | transition => simp [ClassifiedLine.wait, ClassifiedLine.mark, Transition.waits]
  | condition taken signed extracted =>
    have marked := (ConditionLine.extract_marks extracted).1
    rw [ReadState.reportAll_eq]
    exact pending_file dialect _ rfl marked
  | _ => rfl

end Accepted

end StepFlow
