import StepFlow.Proofs.Checking.Places
import StepFlow.Proofs.Reading.Runs

/-! # Which conditions a variable collects

A variable that no step sets stays open until a blank line, a transition, a declaration or another variable follows. The
conditions in between are written under it. They become its conditions, except where a transition waits at the line of
the variable: that transition takes them all, and the variable is left with none.
-/

namespace StepFlow

open Text LineRule

variable {dialect : Dialect} {line : Line} {state next : ReadState} {lineClass : LineClass} {text : List (List Char)}

instance (text : List (List Char)) (number : Nat) : Decidable (BlankAt text number) :=
  decidable_of_iff (∃ index < number, number = index + 1 ∧ ∃ chars ∈ text[index]?, trim chars = []) (by
    constructor
    · rintro ⟨index, -, same, chars, listed, blank⟩
      exact ⟨index, chars, same, listed, blank⟩
    · rintro ⟨index, chars, same, listed, blank⟩
      exact ⟨index, by omega, same, chars, listed, blank⟩)

/-! ## Lines under a variable -/

namespace ClassifiedLine

/-- A line that closes an open variable, given the lines of all variables. -/
def Closes (declared : List (Option Int)) (entry : ClassifiedLine) : Prop :=
  entry.lineClass = .transition ∨ entry.lineClass = .declaration ∨ entry.mark ∈ declared

instance (declared : List (Option Int)) (entry : ClassifiedLine) : Decidable (entry.Closes declared) :=
  inferInstanceAs (Decidable (_ ∨ _))

/-- No line between two others is blank or closes a variable. -/
def Unbroken (text : List (List Char)) (trace : List ClassifiedLine) (declared : List (Option Int))
    (first last : Nat) : Prop :=
  (∀ number < last, first < number → ¬BlankAt text number) ∧
    ∀ entry ∈ trace, first < entry.line → entry.line < last → ¬entry.Closes declared

instance (text : List (List Char)) (trace : List ClassifiedLine) (declared : List (Option Int)) (first last : Nat) :
    Decidable (Unbroken text trace declared first last) :=
  inferInstanceAs (Decidable (_ ∧ _))

/-- A condition on a line after another one, with nothing in between that closes a variable. -/
def Under (text : List (List Char)) (trace : List ClassifiedLine) (declared : List (Option Int)) (first : Nat)
    (entry : ClassifiedLine) : Prop :=
  entry.lineClass = .condition ∧ first < entry.line ∧ Unbroken text trace declared first entry.line

instance (text : List (List Char)) (trace : List ClassifiedLine) (declared : List (Option Int)) (first : Nat)
    (entry : ClassifiedLine) : Decidable (entry.Under text trace declared first) :=
  inferInstanceAs (Decidable (_ ∧ _))

/-- The conditions under a line, in order. -/
def conditionsUnder (text : List (List Char)) (trace : List ClassifiedLine) (declared : List (Option Int))
    (first : Nat) : List ClassifiedLine :=
  trace.filter (Under text trace declared first)

/-- A transition waits at a line: no step is declared between the two. -/
def Awaited (trace : List ClassifiedLine) (entry : ClassifiedLine) : Prop :=
  ∃ origin ∈ trace, origin.lineClass = .transition ∧ origin.line < entry.line ∧
    ∀ other ∈ trace, origin.line < other.line → other.line < entry.line → other.declaresStep = false

instance (trace : List ClassifiedLine) (entry : ClassifiedLine) : Decidable (entry.Awaited trace) :=
  inferInstanceAs (Decidable (∃ origin ∈ trace, _))

variable {trace : List ClassifiedLine} {declared new : List (Option Int)} {first last : Nat}
  {entry other : ClassifiedLine}

/-- A later line, and a variable on it, close nothing before. -/
theorem unbroken_concat (earlier : ∀ other ∈ trace, other.line < entry.line) (own : ∀ mark ∈ new, mark = entry.mark)
    (bound : last ≤ entry.line) :
    Unbroken text (trace ++ [entry]) (declared ++ new) first last ↔ Unbroken text trace declared first last := by
  refine and_congr_right fun _ => ?_
  rw [List.forall_mem_append, List.forall_mem_singleton, and_iff_left fun _ early => by omega]
  refine forall₂_congr fun other member => ?_
  have unlike : other.mark ∉ new := by
    intro listed
    have same := own _ listed
    have smaller := earlier other member
    simp only [mark, Option.some.injEq] at same
    omega
  simp [Closes, unlike]

/-- One line further, it matters what that line does. -/
theorem unbroken_next (earlier : ∀ other ∈ trace, other.line < entry.line) (own : ∀ mark ∈ new, mark = entry.mark)
    (before : first < entry.line) :
    Unbroken text (trace ++ [entry]) (declared ++ new) first (entry.line + 1) ↔
      Unbroken text trace declared first entry.line ∧ ¬BlankAt text entry.line ∧ ¬entry.Closes (declared ++ new) := by
  rw [← unbroken_concat earlier own le_rfl]
  constructor
  · rintro ⟨solid, silent⟩
    refine ⟨⟨fun number early => solid number (by omega), fun other member after early => ?_⟩, ?_, ?_⟩
    · exact silent other member after (by omega)
    · exact solid _ (Nat.lt_succ_self _) before
    · exact silent entry (by simp) before (Nat.lt_succ_self _)
  · rintro ⟨⟨solid, silent⟩, here, goesOn⟩
    refine ⟨fun number early after => ?_, List.forall_mem_append.mpr ⟨fun other member after _ => ?_, ?_⟩⟩
    · rcases Nat.lt_succ_iff_lt_or_eq.mp early with smaller | rfl
      · exact solid number smaller after
      · exact here
    · exact silent other (List.mem_append_left _ member) after (earlier other member)
    · exact List.forall_mem_singleton.mpr fun _ _ => goesOn

/-- One more line is under another one if it is a condition and nothing is in between. -/
theorem conditionsUnder_concat (earlier : ∀ other ∈ trace, other.line < entry.line)
    (own : ∀ mark ∈ new, mark = entry.mark) :
    conditionsUnder text (trace ++ [entry]) (declared ++ new) first =
      conditionsUnder text trace declared first ++ if entry.Under text trace declared first then [entry] else [] := by
  have same (other : ClassifiedLine) (bound : other.line ≤ entry.line) :
      other.Under text (trace ++ [entry]) (declared ++ new) first ↔ other.Under text trace declared first :=
    and_congr_right fun _ => and_congr_right fun _ => unbroken_concat earlier own bound
  rw [conditionsUnder, List.filter_append, List.filter_singleton, conditionsUnder]
  congr 1
  · exact List.filter_congr fun other member => decide_eq_decide.mpr (same other (earlier other member).le)
  · simp only [same entry le_rfl, Bool.cond_decide]

/-- A later line does not change what waits at an earlier one. -/
theorem awaited_concat (earlier : ∀ other ∈ trace, other.line < entry.line) (member : other ∈ trace) :
    other.Awaited (trace ++ [entry]) ↔ other.Awaited trace := by
  have after := earlier other member
  simp only [Awaited, List.mem_append, List.mem_singleton]
  constructor
  · rintro ⟨origin, old | rfl, isOrigin, before, between⟩
    · exact ⟨origin, old, isOrigin, before, fun another inside => between another (.inl inside)⟩
    · omega
  · rintro ⟨origin, old, isOrigin, before, between⟩
    refine ⟨origin, .inl old, isOrigin, before, ?_⟩
    rintro another (inside | rfl) follows precedes
    · exact between another inside follows precedes
    · omega

/-- As long as no step is declared, transitions that wait go on waiting. -/
theorem wait_ne_nil {transitions : List (Option Int × List (Option Int))} (given : transitions ≠ [])
    (noStep : entry.declaresStep = false) : wait transitions entry ≠ [] := by
  have waits := waits_wait transitions entry
  generalize wait transitions entry = after at waits
  cases waits with
  | join => simp
  | take declares => simp [noStep] at declares
  | file => simp
  | stay => exact given

/-- Transitions wait after lines if one of them was a transition and none after it declared a step. -/
theorem waiting_ne_nil_iff (sorted : trace.Pairwise (·.line < ·.line)) :
    waiting trace ≠ [] ↔ ∃ origin ∈ trace, origin.lineClass = .transition ∧
      ∀ other ∈ trace, origin.line < other.line → other.declaresStep = false := by
  constructor
  · intro given
    obtain ⟨origin, member, -, isOrigin, after⟩ := of_getLast?_waiting sorted (List.getLast?_eq_some_getLast given)
    exact ⟨origin, member, isOrigin, fun other present follows => (after other present follows).2⟩
  · rintro ⟨origin, member, isOrigin, after⟩
    induction trace using List.reverseRecOn with
    | nil => exact absurd member List.not_mem_nil
    | append_singleton trace entry ih =>
      rw [waiting_concat]
      obtain ⟨sortedBefore, -, -⟩ := List.pairwise_append.mp sorted
      obtain ⟨afterBefore, afterLast⟩ := List.forall_mem_append.mp after
      rcases List.mem_append.mp member with old | new
      · have noStep := List.forall_mem_singleton.mp afterLast (lt_of_pairwise_concat sorted old)
        exact wait_ne_nil (ih sortedBefore old afterBefore) noStep
      · rw [← List.mem_singleton.mp new, wait, isOrigin]
        simp

/-- As long as nothing closes the variable of a line, a transition waits just if one waited at that line. -/
theorem awaited_iff_of_unbroken (sorted : trace.Pairwise (·.line < ·.line)) {number : Nat}
    (earlier : ∀ other ∈ trace, other.line < number) (member : entry ∈ trace) (isClass : entry.lineClass = .assignment)
    (unbroken : Unbroken text trace declared entry.line number) : entry.Awaited trace ↔ waiting trace ≠ [] := by
  have after (other : ClassifiedLine) (present : other ∈ trace) (follows : entry.line ≤ other.line) :
      other.lineClass ≠ .transition ∧ other.lineClass ≠ .declaration := by
    rcases follows.lt_or_eq with later | same
    · have goesOn := unbroken.2 other present later (earlier other present)
      exact ⟨fun isOther => goesOn (.inl isOther), fun isOther => goesOn (.inr (.inl isOther))⟩
    · have isEntry := eq_of_mark_eq sorted member present (by rw [mark, mark, same])
      simp [isEntry, isClass]
  rw [waiting_ne_nil_iff sorted]
  refine exists_congr fun origin => and_congr_right fun present => and_congr_right fun isOrigin => ?_
  have before : origin.line < entry.line := by
    by_contra late
    exact (after origin present (not_lt.mp late)).1 isOrigin
  constructor
  · rintro ⟨-, between⟩ other inside follows
    by_cases precedes : other.line < entry.line
    · exact between other inside follows precedes
    · simp [declaresStep, (after other inside (not_lt.mp precedes)).2]
  · exact fun all => ⟨before, fun other inside follows _ => all other inside follows⟩

end ClassifiedLine

/-! ## What a line does to variables -/

/-- A condition is the one that the line of an entry states. -/
def ClassifiedLine.States (dialect : Dialect) (text : List (List Char)) (entry : ClassifiedLine)
    (condition : Condition) : Prop :=
  ∃ line ∈ solidLines 1 text, line.number = entry.line ∧
    ∃ found, ConditionLine.extract dialect line.text (some (line.number : Int)) = .ok found ∧
      found.condition = condition

/-- The variable that is open. -/
def ReadState.opened (state : ReadState) : Option Variable :=
  match state.focus with
  | .variable current => some current
  | _ => none

theorem ReadState.allVariables_eq (state : ReadState) :
    state.allVariables = state.variables ++ state.opened.toList := by
  rcases focused : state.focus with _ | _ | _ <;> simp [allVariables, opened, focused]

/-- The ways in which a line can change the variables that are closed and the one that is open. -/
inductive Variables.Moves (dialect : Dialect) (line : Line) (state next : ReadState) : LineClass → Prop where
  /-- Other lines change nothing, nor do conditions while a transition waits or no variable is open. -/
  | stay {lineClass : LineClass} (goesOn : lineClass ≠ .transition ∧ lineClass ≠ .declaration)
      (unfiled : lineClass = .condition → state.pending ≠ [] ∨ state.opened = none)
      (closed : next.variables = state.variables) (opened : next.opened = state.opened) :
      Moves dialect line state next lineClass
  /-- The open variable is closed. -/
  | close {lineClass : LineClass} (closes : lineClass = .transition ∨ lineClass = .declaration)
      (closed : next.variables = state.allVariables) (opened : next.opened = none) :
      Moves dialect line state next lineClass
  /-- A variable is declared. -/
  | declare {var : Variable} (marked : var.line = some (line.number : Int)) (bare : var.conditions = [])
      (closed : next.variables = state.allVariables) (opened : next.opened = some var) :
      Moves dialect line state next .assignment
  /-- A condition goes to the open variable. -/
  | file {current : Variable} {found : ConditionLine.Extraction} (free : state.pending = [])
      (extracted : ConditionLine.extract dialect line.text (some (line.number : Int)) = .ok found)
      (before : state.opened = some current) (closed : next.variables = state.variables)
      (opened : next.opened = some { current with conditions := current.conditions ++ [found.condition] }) :
      Moves dialect line state next .condition

theorem ReadState.closeVariable_variables (state : ReadState) :
    state.closeVariable.variables = state.allVariables ∧ state.closeVariable.opened = none := by
  rcases focused : state.focus with _ | _ | _ <;>
    simp [closeVariable, close, turnTo, allVariables, opened, focused]

theorem ReadState.blankLine_variables (state : ReadState) :
    state.blankLine.variables = state.allVariables ∧ state.blankLine.opened = none := by
  rcases focused : state.focus with _ | _ | _ <;>
    simp [blankLine, close, turnTo, allVariables, opened, focused]

/-- A condition goes to the open variable if no transition waits. -/
theorem Variables.moves_file {found : ConditionLine.Extraction}
    (extracted : ConditionLine.extract dialect line.text (some (line.number : Int)) = .ok found) {other : ReadState}
    (pending : other.pending = state.pending) (closed : other.variables = state.variables)
    (focus : other.focus = state.focus) :
    Moves dialect line state (file dialect found.condition other) .condition := by
  unfold file
  cases last : other.pending.getLast? with
  | some transition =>
    have waits : state.pending ≠ [] := by
      rintro none
      rw [pending, none] at last
      cases last
    refine .stay (by decide) (fun _ => .inl waits) closed ?_
    simp only [ReadState.opened, focus]
  | none =>
    have free : state.pending = [] := pending ▸ List.getLast?_eq_none_iff.mp last
    rcases focused : other.focus with _ | ⟨current, leaving⟩ | current
    all_goals rw [focus] at focused
    · refine .stay (by decide) (fun _ => .inr ?_) closed ?_ <;> simp [ReadState.opened, focus, focused]
    · refine .stay (by decide) (fun _ => .inr ?_) closed ?_ <;> simp [ReadState.opened, focused]
    · exact .file free extracted (by simp [ReadState.opened, focused]) closed rfl

theorem Accepted.movesVariables (accepted : Accepted dialect line state lineClass next) :
    Variables.Moves dialect line state next lineClass := by
  cases accepted with
  | ending => exact .close (.inr rfl) rfl rfl
  | step => exact .close (.inr rfl) rfl rfl
  | transition => exact .close (.inl rfl) state.closeVariable_variables.1 state.closeVariable_variables.2
  | setting unindented matched named focused =>
    refine .stay (by decide) (by simp) rfl ?_
    simp [ReadState.opened, focused]
  | declaring => exact .declare rfl rfl rfl rfl
  | condition taken signed extracted =>
    rw [ReadState.reportAll_eq]
    exact Variables.moves_file extracted rfl rfl rfl
  | _ => exact .stay (by decide) (by simp) rfl rfl

/-! ## Runs -/

/-- A variable was declared on the line of an entry. It has the conditions under that line, or none where a transition
waits. -/
structure Variable.DeclaredOn (dialect : Dialect) (text : List (List Char)) (trace : List ClassifiedLine)
    (declared : List (Option Int)) (entry : ClassifiedLine) (var : Variable) : Prop where
  present : entry ∈ trace
  isClass : entry.lineClass = .assignment
  marked : var.line = entry.mark
  conditions : List.Forall₂ (ClassifiedLine.States dialect text)
    (if entry.Awaited trace then [] else ClassifiedLine.conditionsUnder text trace declared entry.line) var.conditions

section Steps

variable {trace : List ClassifiedLine} {declared new : List (Option Int)} {entry origin : ClassifiedLine}
  {var : Variable} {number : Nat}

namespace Variable.DeclaredOn

/-- One more line adds its condition to the variable that it is under, unless a transition waits. -/
theorem concat (declaredOn : var.DeclaredOn dialect text trace declared origin)
    (earlier : ∀ other ∈ trace, other.line < entry.line) (own : ∀ mark ∈ new, mark = entry.mark)
    {more : List Condition}
    (added : List.Forall₂ (ClassifiedLine.States dialect text)
      (if origin.Awaited trace then [] else if entry.Under text trace declared origin.line then [entry] else [])
      more) :
    { var with conditions := var.conditions ++ more }.DeclaredOn dialect text (trace ++ [entry]) (declared ++ new)
      origin := by
  obtain ⟨present, isClass, marked, conditions⟩ := declaredOn
  refine ⟨List.mem_append_left _ present, isClass, marked, ?_⟩
  simp only [ClassifiedLine.awaited_concat earlier present, ClassifiedLine.conditionsUnder_concat earlier own]
  by_cases waits : origin.Awaited trace
  · simp only [waits, if_true, List.forall₂_nil_left_iff] at conditions added ⊢
    rw [conditions, added, List.append_nil]
  · simp only [waits, if_false] at conditions added ⊢
    exact List.rel_append conditions added

/-- A line that gives the variable no condition. -/
theorem past (declaredOn : var.DeclaredOn dialect text trace declared origin)
    (earlier : ∀ other ∈ trace, other.line < entry.line) (own : ∀ mark ∈ new, mark = entry.mark)
    (foreign : origin.Awaited trace ∨ ¬entry.Under text trace declared origin.line) :
    var.DeclaredOn dialect text (trace ++ [entry]) (declared ++ new) origin := by
  have added : List.Forall₂ (ClassifiedLine.States dialect text) (if origin.Awaited trace then [] else
      if entry.Under text trace declared origin.line then [entry] else []) [] := by
    by_cases waits : origin.Awaited trace
    · simp [waits]
    · simp [foreign.resolve_left waits]
  have same := declaredOn.concat earlier own added
  rwa [List.append_nil] at same

end Variable.DeclaredOn

/-- What holds of variables before the line of the given number: each has the conditions under its line, and just the
lines after that of the open one do not close it. -/
structure Variables.Collect (dialect : Dialect) (text : List (List Char)) (number : Nat) (trace : List ClassifiedLine)
    (declared : List (Option Int)) (closed : List Variable) (opened : Option Variable) : Prop where
  sorted : trace.Pairwise (·.line < ·.line)
  earlier : ∀ entry ∈ trace, entry.line < number
  all : declared = (closed ++ opened.toList).map Variable.line
  closed : ∀ var ∈ closed, ∃ origin, var.DeclaredOn dialect text trace declared origin ∧
    ¬ClassifiedLine.Unbroken text trace declared origin.line number
  opened : ∀ var ∈ opened, ∃ origin, var.DeclaredOn dialect text trace declared origin ∧
    ClassifiedLine.Unbroken text trace declared origin.line number

namespace Variables.Collect

variable {closed : List Variable} {opened : Option Variable}

theorem start (dialect : Dialect) (text : List (List Char)) : Collect dialect text 1 [] [] [] none :=
  ⟨.nil, nofun, rfl, nofun, nofun⟩

/-- A blank line closes the open variable. -/
theorem blankLine (collect : Collect dialect text number trace declared closed opened) (blank : BlankAt text number) :
    Collect dialect text (number + 1) trace declared (closed ++ opened.toList) none := by
  have broken (origin : ClassifiedLine) (present : origin ∈ trace) :
      ¬ClassifiedLine.Unbroken text trace declared origin.line (number + 1) :=
    fun unbroken => unbroken.1 number (Nat.lt_succ_self _) (collect.earlier origin present) blank
  refine ⟨collect.sorted, fun entry member => Nat.lt_succ_of_lt (collect.earlier entry member), ?_, ?_, nofun⟩
  · simpa using collect.all
  · refine List.forall_mem_append.mpr ⟨fun var member => ?_, fun var member => ?_⟩
    · obtain ⟨origin, declaredOn, -⟩ := collect.closed var member
      exact ⟨origin, declaredOn, broken origin declaredOn.present⟩
    · obtain ⟨origin, declaredOn, -⟩ := collect.opened var (Option.mem_toList.mp member)
      exact ⟨origin, declaredOn, broken origin declaredOn.present⟩

theorem sorted_concat (collect : Collect dialect text entry.line trace declared closed opened) :
    (trace ++ [entry]).Pairwise (·.line < ·.line) ∧ ∀ other ∈ trace ++ [entry], other.line < entry.line + 1 := by
  refine ⟨List.pairwise_append.mpr ⟨collect.sorted, List.pairwise_singleton _ _, ?_⟩,
    List.forall_mem_append.mpr ⟨?_, List.forall_mem_singleton.mpr (Nat.lt_succ_self _)⟩⟩
  · exact fun other member last isLast => List.mem_singleton.mp isLast ▸ collect.earlier other member
  · exact fun other member => Nat.lt_succ_of_lt (collect.earlier other member)

/-- No line changes what a closed variable has. -/
theorem closed_concat (collect : Collect dialect text entry.line trace declared closed opened)
    (own : ∀ mark ∈ new, mark = entry.mark) :
    ∀ var ∈ closed, ∃ origin, var.DeclaredOn dialect text (trace ++ [entry]) (declared ++ new) origin ∧
      ¬ClassifiedLine.Unbroken text (trace ++ [entry]) (declared ++ new) origin.line (entry.line + 1) := by
  intro var member
  obtain ⟨origin, declaredOn, broken⟩ := collect.closed var member
  refine ⟨origin, declaredOn.past collect.earlier own (.inr fun under => broken under.2.2), fun unbroken => ?_⟩
  have before := collect.earlier origin declaredOn.present
  exact broken ((ClassifiedLine.unbroken_next collect.earlier own before).mp unbroken).1

/-- A line that closes the open variable leaves it as it is. -/
theorem opened_closes (collect : Collect dialect text entry.line trace declared closed opened)
    (own : ∀ mark ∈ new, mark = entry.mark) (unconditional : entry.lineClass ≠ .condition)
    (closes : entry.Closes (declared ++ new)) :
    ∀ var ∈ opened.toList, ∃ origin, var.DeclaredOn dialect text (trace ++ [entry]) (declared ++ new) origin ∧
      ¬ClassifiedLine.Unbroken text (trace ++ [entry]) (declared ++ new) origin.line (entry.line + 1) := by
  intro var member
  obtain ⟨origin, declaredOn, -⟩ := collect.opened var (Option.mem_toList.mp member)
  refine ⟨origin, declaredOn.past collect.earlier own (.inr fun under => unconditional under.1), fun unbroken => ?_⟩
  have before := collect.earlier origin declaredOn.present
  exact ((ClassifiedLine.unbroken_next collect.earlier own before).mp unbroken).2.2 closes

/-- A transition, a step or an end closes the open variable. -/
theorem close (collect : Collect dialect text entry.line trace declared closed opened)
    (closes : entry.lineClass = .transition ∨ entry.lineClass = .declaration) :
    Collect dialect text (entry.line + 1) (trace ++ [entry]) declared (closed ++ opened.toList) none := by
  have none : ∀ mark ∈ ([] : List (Option Int)), mark = entry.mark := nofun
  have unconditional : entry.lineClass ≠ .condition := by
    rcases closes with isClass | isClass <;> simp [isClass]
  have isClosed := collect.closed_concat none
  have nowClosed := collect.opened_closes none unconditional (closes.imp id .inl)
  rw [List.append_nil] at isClosed nowClosed
  obtain ⟨sorted, earlier⟩ := collect.sorted_concat
  exact ⟨sorted, earlier, by simpa using collect.all, List.forall_mem_append.mpr ⟨isClosed, nowClosed⟩, nofun⟩

/-- A variable is declared. -/
theorem declare (collect : Collect dialect text entry.line trace declared closed opened)
    (isClass : entry.lineClass = .assignment) (marked : var.line = entry.mark) (bare : var.conditions = []) :
    Collect dialect text (entry.line + 1) (trace ++ [entry]) (declared ++ [entry.mark]) (closed ++ opened.toList)
      (some var) := by
  have own : ∀ mark ∈ [entry.mark], mark = entry.mark := by simp
  have closes : entry.Closes (declared ++ [entry.mark]) := .inr (.inr (by simp))
  have isClosed := collect.closed_concat own
  have nowClosed := collect.opened_closes own (by simp [isClass]) closes
  obtain ⟨sorted, earlier⟩ := collect.sorted_concat
  refine ⟨sorted, earlier, ?_, List.forall_mem_append.mpr ⟨isClosed, nowClosed⟩, ?_⟩
  · rw [collect.all]
    simp [marked]
  · rintro _ ⟨⟩
    refine ⟨entry, ⟨by simp, isClass, marked, ?_⟩, fun number early after => by omega,
      fun other _ after early => by omega⟩
    have none : ClassifiedLine.conditionsUnder text (trace ++ [entry]) (declared ++ [entry.mark]) entry.line = [] := by
      refine List.filter_eq_nil_iff.mpr fun other member under => ?_
      have after := (of_decide_eq_true under).2.1
      have before := earlier other member
      omega
    rw [none, ite_self, bare]
    exact .nil

theorem mark_not_mem (collect : Collect dialect text entry.line trace declared closed opened) :
    entry.mark ∉ declared := by
  rw [collect.all]
  intro listed
  obtain ⟨var, member, marked⟩ := List.mem_map.mp listed
  have unlike (origin : ClassifiedLine) (declaredOn : var.DeclaredOn dialect text trace declared origin) : False := by
    have smaller := collect.earlier origin declaredOn.present
    have same := declaredOn.marked.symm.trans marked
    simp only [ClassifiedLine.mark, Option.some.injEq] at same
    omega
  rcases List.mem_append.mp member with isClosed | isOpen
  · obtain ⟨origin, declaredOn, -⟩ := collect.closed var isClosed
    exact unlike origin declaredOn
  · obtain ⟨origin, declaredOn, -⟩ := collect.opened var (Option.mem_toList.mp isOpen)
    exact unlike origin declaredOn

/-- A line that closes nothing: what it leaves to show of the open variable. -/
theorem goOn (collect : Collect dialect text entry.line trace declared closed opened)
    (solid : ¬BlankAt text entry.line) (goesOn : entry.lineClass ≠ .transition ∧ entry.lineClass ≠ .declaration)
    {next : Option Variable} (lines : next.map Variable.line = opened.map Variable.line)
    (kept : ∀ var ∈ next, ∃ origin, var.DeclaredOn dialect text (trace ++ [entry]) declared origin ∧
      origin ∈ trace ∧ ClassifiedLine.Unbroken text trace declared origin.line entry.line) :
    Collect dialect text (entry.line + 1) (trace ++ [entry]) declared closed next := by
  have none : ∀ mark ∈ ([] : List (Option Int)), mark = entry.mark := nofun
  have isClosed := collect.closed_concat none
  rw [List.append_nil] at isClosed
  obtain ⟨sorted, earlier⟩ := collect.sorted_concat
  refine ⟨sorted, earlier, ?_, isClosed, fun var member => ?_⟩
  · rw [collect.all, List.map_append, List.map_append, ← Option.toList_map, ← Option.toList_map, lines]
  · obtain ⟨origin, declaredOn, present, unbroken⟩ := kept var member
    refine ⟨origin, declaredOn, ?_⟩
    have silent : ¬entry.Closes declared := by simp [ClassifiedLine.Closes, goesOn, collect.mark_not_mem]
    rw [← List.append_nil declared] at silent ⊢
    exact (ClassifiedLine.unbroken_next collect.earlier none (collect.earlier origin present)).mpr
      ⟨unbroken, solid, silent⟩

/-- A line that closes nothing and, while a transition waits, any condition leaves the open variable as it is. -/
theorem stay (collect : Collect dialect text entry.line trace declared closed opened)
    (solid : ¬BlankAt text entry.line) (goesOn : entry.lineClass ≠ .transition ∧ entry.lineClass ≠ .declaration)
    (unfiled : entry.lineClass = .condition → ClassifiedLine.waiting trace ≠ [] ∨ opened = none) :
    Collect dialect text (entry.line + 1) (trace ++ [entry]) declared closed opened := by
  refine collect.goOn solid goesOn rfl fun var member => ?_
  obtain ⟨origin, declaredOn, unbroken⟩ := collect.opened var member
  refine ⟨origin, ?_, declaredOn.present, unbroken⟩
  have foreign : origin.Awaited trace ∨ ¬entry.Under text trace declared origin.line := by
    by_cases isClass : entry.lineClass = .condition
    · rcases unfiled isClass with waits | none
      · exact .inl ((ClassifiedLine.awaited_iff_of_unbroken collect.sorted collect.earlier declaredOn.present
          declaredOn.isClass unbroken).mpr waits)
      · rw [none] at member
        cases member
    · exact .inr fun under => isClass under.1
  rw [← List.append_nil declared]
  exact declaredOn.past collect.earlier nofun foreign

/-- A condition goes to the open variable if no transition waits. -/
theorem file {current : Variable} (collect : Collect dialect text entry.line trace declared closed (some current))
    (solid : ¬BlankAt text entry.line) (isClass : entry.lineClass = .condition)
    (free : ClassifiedLine.waiting trace = []) {condition : Condition} (states : entry.States dialect text condition) :
    Collect dialect text (entry.line + 1) (trace ++ [entry]) declared closed
      (some { current with conditions := current.conditions ++ [condition] }) := by
  refine collect.goOn solid (by simp [isClass]) rfl ?_
  rintro _ ⟨⟩
  obtain ⟨origin, declaredOn, unbroken⟩ := collect.opened current rfl
  refine ⟨origin, ?_, declaredOn.present, unbroken⟩
  have unawaited : ¬origin.Awaited trace := fun waits =>
    (ClassifiedLine.awaited_iff_of_unbroken collect.sorted collect.earlier declaredOn.present declaredOn.isClass
      unbroken).mp waits free
  have under : entry.Under text trace declared origin.line :=
    ⟨isClass, collect.earlier origin declaredOn.present, unbroken⟩
  have none : ∀ mark ∈ ([] : List (Option Int)), mark = entry.mark := nofun
  rw [← List.append_nil declared]
  refine declaredOn.concat collect.earlier none ?_
  rw [if_neg unawaited, if_pos under]
  exact .cons states .nil

end Variables.Collect

end Steps

/-- The variables of a state stand as they should before the line of the given number. -/
def ReadState.Collects (dialect : Dialect) (text : List (List Char)) (number : Nat) (state : ReadState) : Prop :=
  state.pending.map Transition.waits = ClassifiedLine.waiting state.trace ∧
    ∃ declared, Variables.Collect dialect text number state.trace declared state.variables state.opened

namespace ReadState.Collects

theorem start (dialect : Dialect) (text : List (List Char)) : ReadState.Collects dialect text 1 {} :=
  ⟨rfl, [], .start dialect text⟩

theorem blankLine {number : Nat} (collects : state.Collects dialect text number) (blank : BlankAt text number) :
    state.blankLine.Collects dialect text (number + 1) := by
  have same : state.blankLine.trace = state.trace ∧ state.blankLine.pending = state.pending := by
    obtain ⟨_, _, _, same⟩ := state.blankLine_eq
    rw [same]
    exact ⟨rfl, rfl⟩
  obtain ⟨waits, declared, collect⟩ := collects
  rw [ReadState.Collects, same.1, same.2, state.blankLine_variables.1, state.blankLine_variables.2,
    state.allVariables_eq]
  exact ⟨waits, declared, collect.blankLine blank⟩

theorem accepted (collects : state.Collects dialect text line.number) (present : line ∈ solidLines 1 text)
    (done : Accepted dialect line state lineClass next) :
    (next.classify line lineClass).Collects dialect text (line.number + 1) := by
  obtain ⟨waits, declared, collect⟩ := collects
  generalize current : (⟨line.number, lineClass, declaredLabel lineClass line next⟩ : ClassifiedLine) = entry
  have number : entry.line = line.number := by rw [← current]
  have isClass : entry.lineClass = lineClass := by rw [← current]
  have mark : some (line.number : Int) = entry.mark := by rw [ClassifiedLine.mark, number]
  have trace : (next.classify line lineClass).trace = state.trace ++ [entry] := by
    rw [← current, ← done.trace_eq]
    rfl
  have solid : ¬BlankAt text entry.line := number ▸ not_blankAt_of_mem present
  have pending : state.pending = [] ↔ ClassifiedLine.waiting state.trace = [] := by rw [← waits, List.map_eq_nil_iff]
  rw [← number] at collect
  rw [ReadState.Collects, trace, ← number]
  refine ⟨?_, ?_⟩
  · rw [ClassifiedLine.waiting_concat, ← waits, ← current]
    exact done.pending_waits
  change ∃ declared, Variables.Collect _ _ _ _ declared next.variables next.opened
  cases done.movesVariables with
  | stay goesOn unfiled closed opened =>
    rw [closed, opened]
    refine ⟨declared, collect.stay solid (isClass ▸ goesOn) fun isCondition => ?_⟩
    exact (unfiled (isClass ▸ isCondition)).imp_left (mt pending.mpr)
  | close closes closed opened =>
    rw [closed, opened, state.allVariables_eq]
    exact ⟨declared, collect.close (isClass ▸ closes)⟩
  | declare marked bare closed opened =>
    rw [closed, opened, state.allVariables_eq]
    exact ⟨_, collect.declare isClass (marked.trans mark) bare⟩
  | file free extracted before closed opened =>
    rw [closed, opened]
    rw [before] at collect
    exact ⟨declared, collect.file solid isClass (pending.mp free) ⟨line, present, number.symm, _, extracted, rfl⟩⟩

end ReadState.Collects

/-- The lines of the variables of a program. -/
def Program.variableLines (program : Program) : List (Option Int) := program.variables.map Variable.line

/-- A variable has the conditions of the given lines, in order, and nothing else of the program has one of them. -/
structure Variable.Collects (dialect : Dialect) (text : List (List Char)) (program : Program)
    (entries : List ClassifiedLine) (var : Variable) : Prop where
  stored : List.Forall₂ (ClassifiedLine.States dialect text) entries var.conditions
  alone : ∀ entry ∈ entries, program.marks.count entry.mark = 1

/-- Conditions carry the marks of the lines that state them. -/
theorem ClassifiedLine.map_mark_of_states {entries : List ClassifiedLine} {conditions : List Condition}
    (stored : List.Forall₂ (ClassifiedLine.States dialect text) entries conditions) :
    conditions.map Condition.line = entries.map ClassifiedLine.mark := by
  induction stored with
  | nil => rfl
  | cons states _ ih =>
    obtain ⟨line, -, number, found, extracted, rfl⟩ := states
    rw [List.map_cons, List.map_cons, ih, (ConditionLine.extract_marks extracted).1, ClassifiedLine.mark, number]

/-- No line is carried twice. -/
theorem count_marks_le_one {text : String} {metadata : Metadata} {reading : Reading}
    (read : readProgram dialect text metadata = .ok reading) {entry : ClassifiedLine} (member : entry ∈ reading.trace) :
    reading.program.marks.count entry.mark ≤ 1 := by
  obtain ⟨state, ran, trace, steps, vars, errors, warnings⟩ := readProgram_eq_ok read
  have accounts := (ReadState.Accounts.start dialect).readLines ran
  have sorted := accounts.sorted (pairwise_solidLines 1 _)
  have kept := ClassifiedLine.count_kept sorted (trace ▸ member)
  have total := accounts.count_program entry.mark
  rw [count_marks_of_read steps vars errors warnings]
  split at kept <;> omega

/-- Every variable of a program was declared on a line of its text. -/
theorem exists_declaredOn {text : String} {metadata : Metadata} {reading : Reading}
    (read : readProgram dialect text metadata = .ok reading) {var : Variable}
    (declared : var ∈ reading.program.variables) :
    ∃ entry, var.DeclaredOn dialect (lines text.toList) reading.trace reading.program.variableLines entry := by
  obtain ⟨state, ran, trace, -, vars, -, -⟩ := readProgram_eq_ok read
  obtain ⟨-, marks, collect⟩ : state.Collects dialect (lines text.toList) ((lines text.toList).length + 1) :=
    readLines_keeps (.start _ _) (fun blank collects => collects.blankLine blank)
      (fun present done collects => collects.accepted present done) ran
  have all : reading.program.variableLines = marks := by
    rw [collect.all, ← state.allVariables_eq, ← vars, Program.variableLines]
  rw [vars, state.allVariables_eq] at declared
  rw [trace, all]
  rcases List.mem_append.mp declared with isClosed | isOpen
  · obtain ⟨entry, declaredOn, -⟩ := collect.closed var isClosed
    exact ⟨entry, declaredOn⟩
  · obtain ⟨entry, declaredOn, -⟩ := collect.opened var (Option.mem_toList.mp isOpen)
    exact ⟨entry, declaredOn⟩

/-- A variable collects the conditions under its line exactly if no transition waits there, or if there are none. Where
a transition waits, the variable has no conditions. -/
theorem readProgram_collects_iff {text : String} {metadata : Metadata} {reading : Reading}
    (read : readProgram dialect text metadata = .ok reading) :
    ∀ var ∈ reading.program.variables, ∃ entry ∈ reading.trace, entry.lineClass = .assignment ∧
      var.line = entry.mark ∧
      (var.Collects dialect (lines text.toList) reading.program
          (ClassifiedLine.conditionsUnder (lines text.toList) reading.trace reading.program.variableLines entry.line) ↔
        ¬entry.Awaited reading.trace ∨
          ClassifiedLine.conditionsUnder (lines text.toList) reading.trace reading.program.variableLines entry.line =
            []) ∧
      (entry.Awaited reading.trace → var.conditions = []) := by
  intro var declared
  obtain ⟨entry, present, isClass, marked, conditions⟩ := exists_declaredOn read declared
  have bare (waits : entry.Awaited reading.trace) : var.conditions = [] := by
    rwa [if_pos waits, List.forall₂_nil_left_iff] at conditions
  refine ⟨entry, present, isClass, marked, ⟨fun collects => ?_, fun free => ?_⟩, bare⟩
  · by_cases waits : entry.Awaited reading.trace
    · have stored := collects.stored
      rw [bare waits, List.forall₂_nil_right_iff] at stored
      exact .inr stored
    · exact .inl waits
  · have stored : List.Forall₂ (ClassifiedLine.States dialect (lines text.toList))
        (ClassifiedLine.conditionsUnder (lines text.toList) reading.trace reading.program.variableLines entry.line)
        var.conditions := by
      rcases free with unawaited | none
      · rwa [if_neg unawaited] at conditions
      · rwa [none, ite_self, ← none] at conditions
    refine ⟨stored, fun other listed => Nat.le_antisymm ?_ ?_⟩
    · exact count_marks_le_one read (List.mem_filter.mp listed).1
    · refine List.count_pos_iff.mpr (Program.mem_marks_of_variable declared (List.mem_cons_of_mem _ ?_))
      rw [ClassifiedLine.map_mark_of_states stored]
      exact List.mem_map_of_mem listed

/-- Two variables. Between the first condition of the first one and the second stand a comment, an assignment without
name and a line that no rule accepts. Nothing takes the condition after the blank line. -/
def collectingText : String := "x =\n- a\n// noot\n= 3\nonzin\n- b\ny = 2\n- c\n\n- d"

/-- The first variable has the conditions of lines 2 and 6, the second one that of line 8. -/
theorem readProgram_collects_iff_collectingText :
    ∃ reading, readProgram {} collectingText {} = .ok reading ∧
      reading.program.variables.map Variable.marks = [[some 1, some 2, some 6], [some 7, some 8]] ∧
      ∀ var ∈ reading.program.variables, ∃ entry ∈ reading.trace, var.line = entry.mark ∧
        ¬entry.Awaited reading.trace ∧
        var.Collects {} (lines collectingText.toList) reading.program
          (ClassifiedLine.conditionsUnder (lines collectingText.toList) reading.trace reading.program.variableLines
            entry.line) := by
  have evaluated : (readProgram {} collectingText {}).toOption.map (fun reading =>
      (reading.program.variables.map Variable.marks, reading.trace.map ClassifiedLine.lineClass)) =
      some ([[some 1, some 2, some 6], [some 7, some 8]],
        [.assignment, .condition, .comment, .assignment, .unrecognized, .condition, .assignment, .condition,
          .unrecognized]) := by
    decide +kernel
  obtain ⟨reading, done, found⟩ := Option.map_eq_some_iff.mp evaluated
  obtain ⟨marks, classes⟩ := Prod.mk.inj found
  have read := eq_ok_of_toOption_eq_some done
  refine ⟨reading, read, marks, fun var declared => ?_⟩
  obtain ⟨entry, present, -, marked, collects, -⟩ := readProgram_collects_iff read var declared
  have unawaited : ¬entry.Awaited reading.trace := by
    rintro ⟨origin, member, isOrigin, -⟩
    have listed : LineClass.transition ∈ reading.trace.map ClassifiedLine.lineClass :=
      isOrigin ▸ List.mem_map_of_mem member
    rw [classes] at listed
    exact absurd listed (by decide)
  exact ⟨entry, present, marked, unawaited, collects.mpr (.inl unawaited)⟩

/-- A transition that waits takes the condition under a variable. As no step takes the transition, the condition is
lost: neither the variable nor anything else has it. -/
theorem readProgram_variable_loses_condition :
    ∃ reading, readProgram {} "VON STAP 1\nx =\n- a" {} = .ok reading ∧
      reading.trace.map ClassifiedLine.lineClass = [.transition, .assignment, .condition] ∧
      reading.program.variables.map Variable.marks = [[some 2]] ∧ reading.program.marks.count (some 3) = 0 := by
  have evaluated : (readProgram {} "VON STAP 1\nx =\n- a" {}).toOption.map (fun reading =>
      (reading.trace.map ClassifiedLine.lineClass, reading.program.variables.map Variable.marks,
        reading.program.marks.count (some 3))) =
      some ([.transition, .assignment, .condition], [[some 2]], 0) := by
    decide +kernel
  obtain ⟨reading, done, found⟩ := Option.map_eq_some_iff.mp evaluated
  obtain ⟨classes, found⟩ := Prod.mk.inj found
  obtain ⟨marks, lost⟩ := Prod.mk.inj found
  exact ⟨reading, eq_ok_of_toOption_eq_some done, classes, marks, lost⟩

end StepFlow
