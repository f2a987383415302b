import StepFlow.Proofs.Reading.Runs

/-! # Which step takes which transition

A transition is announced on a line of its own and waits for the next step. That step takes all transitions that wait,
in the order of their lines. Until then a condition goes to the transition announced last, whatever else is open. Those
that still wait at the end are reported. So the transitions of the steps, followed by the reported ones, are those that
lines announce, in order, and the conditions of each are the condition lines up to the next transition or to its step.
-/

namespace StepFlow

open Text LineRule

variable {dialect : Dialect} {line : Line} {state next : ReadState} {lineClass : LineClass}

/-- A line announces a transition: its origin, its mark and its number are those of the line. -/
def Line.Announces (dialect : Dialect) (line : Line) (transition : Transition) : Prop :=
  ∃ found origin, (transitionPattern dialect).matchStart? line.content = some found ∧
    ReadFault.ofNumeral (found.kept 2) = .ok origin ∧ transition.origin = (origin : Int) ∧
    transition.isOr = !(found.kept 1).isEmpty ∧ transition.line = some (line.number : Int)

theorem Line.Announces.mark {transition : Transition} (announced : line.Announces dialect transition) :
    transition.line = some (line.number : Int) := by
  obtain ⟨found, origin, -, -, -, -, marked⟩ := announced
  exact marked

/-! ## What a line does to transitions -/

/-- The mark of a step, and the transitions that it has taken. -/
def Step.taken (step : Step) : Option Int × List Transition := (step.line, step.transitions)

/-- What the steps so far have taken. -/
def ReadState.taken (state : ReadState) : List (Option Int × List Transition) := state.allSteps.map Step.taken

/-- The ways in which a line can change the transitions that were taken and those that wait. -/
inductive Transitions.Moves (dialect : Dialect) (line : Line) (state next : ReadState) : LineClass → Prop where
  /-- Other lines change nothing, nor do conditions while no transition waits. -/
  | stay {lineClass : LineClass} (silent : lineClass ≠ .transition)
      (unfiled : lineClass = .condition → state.pending = []) (taken : next.taken = state.taken)
      (pending : next.pending = state.pending) : Moves dialect line state next lineClass
  /-- A transition is announced. -/
  | announce {transition : Transition} (announced : line.Announces dialect transition)
      (bare : transition.conditions = []) (taken : next.taken = state.taken)
      (pending : next.pending = state.pending ++ [transition]) : Moves dialect line state next .transition
  /-- A step takes all transitions that wait. -/
  | take (taken : next.taken = state.taken ++ [(some (line.number : Int), state.pending)])
      (pending : next.pending = []) : Moves dialect line state next .declaration
  /-- A condition goes to the transition announced last. -/
  | file {before : List Transition} {last : Transition} {condition : Condition}
      (waiting : state.pending = before ++ [last]) (marked : condition.line = some (line.number : Int))
      (taken : next.taken = state.taken)
      (pending : next.pending = before ++ [{ last with conditions := last.conditions ++ [condition] }]) :
      Moves dialect line state next .condition

theorem taken_file (dialect : Dialect) (condition : Condition) (state : ReadState) :
    (file dialect condition state).taken = state.taken := by
  unfold file
  split
  · rfl
  · split
    · rfl
    · rename_i current focused
      simp [ReadState.taken, ReadState.allSteps, focused]
    · rename_i current leaving focused
      have same : (recordNames dialect.tables condition (addCondition leaving condition current)).taken =
          current.taken := by
        unfold addCondition
        split <;> rfl
      simp [ReadState.taken, ReadState.allSteps, focused, same]

theorem moves_file (dialect : Dialect) {condition : Condition} (marked : condition.line = some (line.number : Int))
    {other : ReadState} (pending : other.pending = state.pending) (taken : other.taken = state.taken) :
    Transitions.Moves dialect line state (file dialect condition other) .condition := by
  have kept := (taken_file dialect condition other).trans taken
  cases found : other.pending.getLast? with
  | some last =>
    obtain ⟨before, waiting⟩ := List.getLast?_eq_some_iff.mp found
    refine .file (pending ▸ waiting) marked kept ?_
    simp [file, waiting]
  | none =>
    refine .stay nofun (fun _ => pending ▸ List.getLast?_eq_none_iff.mp found) kept ?_
    unfold file
    rw [found]
    dsimp only
    split <;> exact pending

theorem Accepted.moves (accepted : Accepted dialect line state lineClass next) :
    Transitions.Moves dialect line state next lineClass := by
  cases accepted with
  | step => exact .take (List.map_append ..) rfl
  | transition matched known =>
    refine .announce ⟨_, _, matched, known, rfl, rfl, rfl⟩ rfl ?_ rfl
    exact congrArg (List.map Step.taken) (congrArg Program.steps state.program_closeVariable)
  | setting unindented matched named focused =>
    refine .stay (by decide) (fun isCondition => absurd isCondition (by decide)) ?_ rfl
    simp [ReadState.taken, ReadState.allSteps, focused, Step.taken]
  | condition taken signed extracted =>
    have marked := (ConditionLine.extract_marks extracted).1
    rw [ReadState.reportAll_eq]
    exact moves_file dialect marked rfl rfl
  | _ => exact .stay (by decide) (fun isCondition => absurd isCondition (by decide)) rfl rfl

/-! ## The conditions of a transition -/

namespace ClassifiedLine

/-- A condition line between two marks, with no transition line between the first mark and itself. -/
def BelongsTo (trace : List ClassifiedLine) (start stop : Option Int) (entry : ClassifiedLine) : Prop :=
  entry.lineClass = .condition ∧ Precedes start entry.mark ∧ Precedes entry.mark stop ∧
    ∀ other ∈ trace, other.lineClass = .transition → Precedes start other.mark → ¬Precedes other.mark entry.mark

instance (trace : List ClassifiedLine) (start stop : Option Int) (entry : ClassifiedLine) :
    Decidable (entry.BelongsTo trace start stop) :=
  inferInstanceAs (Decidable (_ ∧ _))

/-- The condition lines between two marks, up to the first transition line there. -/
def conditionsWithin (trace : List ClassifiedLine) (start stop : Option Int) : List ClassifiedLine :=
  trace.filter (BelongsTo trace start stop)

variable {trace : List ClassifiedLine} {start stop : Option Int} {entry other : ClassifiedLine}

theorem precedes_mark : Precedes other.mark entry.mark ↔ other.line < entry.line := Precedes.some_iff

/-- A later line does not change to what an earlier one belongs. -/
theorem belongsTo_concat (earlier : other.line < entry.line) :
    other.BelongsTo (trace ++ [entry]) start stop ↔ other.BelongsTo trace start stop := by
  refine and_congr_right fun _ => and_congr_right fun _ => and_congr_right fun _ => ?_
  rw [List.forall_mem_append, List.forall_mem_singleton]
  refine and_iff_left fun _ _ => ?_
  rw [precedes_mark]
  omega

/-- Lines from the second mark on do not count. -/
theorem conditionsWithin_concat (earlier : ∀ other ∈ trace, other.line < entry.line)
    (ended : ¬Precedes entry.mark stop) :
    conditionsWithin (trace ++ [entry]) start stop = conditionsWithin trace start stop := by
  have last : ¬entry.BelongsTo (trace ++ [entry]) start stop := fun belongs => ended belongs.2.2.1
  rw [conditionsWithin, List.filter_append, List.filter_singleton, decide_eq_false last, conditionsWithin]
  refine (List.append_nil _).trans (List.filter_congr fun other member => ?_)
  exact decide_eq_decide.mpr (belongsTo_concat (earlier other member))

/-- A line number after all lines is as good as the next one. -/
theorem conditionsWithin_succ {number : Nat} (earlier : ∀ other ∈ trace, other.line < number) :
    conditionsWithin trace start (some ((number + 1 : Nat) : Int)) =
      conditionsWithin trace start (some (number : Int)) := by
  refine List.filter_congr fun other member => decide_eq_decide.mpr ?_
  have before : Precedes other.mark (some (number : Int)) := Precedes.some_iff.mpr (earlier other member)
  rw [BelongsTo, BelongsTo, iff_true_intro before, iff_true_intro before.succ]

/-- The conditions up to the next line: this line is the only new one. -/
theorem conditionsWithin_next (earlier : ∀ other ∈ trace, other.line < entry.line) :
    conditionsWithin (trace ++ [entry]) start (some ((entry.line + 1 : Nat) : Int)) =
      conditionsWithin trace start entry.mark ++
        if entry.BelongsTo (trace ++ [entry]) start (some ((entry.line + 1 : Nat) : Int)) then [entry] else [] := by
  rw [mark, ← conditionsWithin_succ earlier, conditionsWithin, List.filter_append, List.filter_singleton,
    conditionsWithin]
  congr 1
  · exact List.filter_congr fun other member => decide_eq_decide.mpr (belongsTo_concat (earlier other member))
  · simp

end ClassifiedLine

/-! ## Runs -/

/-- A transition waits up to a mark: no step is declared in between, and it has just the conditions in between. -/
structure Transition.WaitsUntil (trace : List ClassifiedLine) (declared : List (Option Int)) (transition : Transition)
    (stop : Option Int) : Prop where
  announced : Precedes transition.line stop
  unserved : ∀ mark ∈ declared, Precedes transition.line mark → ¬Precedes mark stop
  conditions : transition.conditions.map Condition.line =
    (ClassifiedLine.conditionsWithin trace transition.line stop).map ClassifiedLine.mark

namespace Transition.WaitsUntil

variable {trace : List ClassifiedLine} {declared : List (Option Int)} {transition : Transition} {stop : Option Int}
  {entry : ClassifiedLine}

/-- A line from the stop on, and a step that it declares, do not matter. -/
theorem later (waits : transition.WaitsUntil trace declared stop) (earlier : ∀ other ∈ trace, other.line < entry.line)
    (ended : ¬Precedes entry.mark stop) {others : List (Option Int)} (own : ∀ mark ∈ others, mark = entry.mark) :
    transition.WaitsUntil (trace ++ [entry]) (declared ++ others) stop := by
  refine ⟨waits.announced, List.forall_mem_append.mpr ⟨waits.unserved, fun mark member _ => ?_⟩, ?_⟩
  · rwa [own mark member]
  · rw [ClassifiedLine.conditionsWithin_concat earlier ended]
    exact waits.conditions

/-- A line that declares no step is waited through; its condition is the next one of the transition it belongs to. -/
theorem through (waits : transition.WaitsUntil trace declared entry.mark)
    (earlier : ∀ other ∈ trace, other.line < entry.line) (before : ∀ mark ∈ declared, Precedes mark entry.mark)
    {conditions : List Condition}
    (added : conditions.map Condition.line = transition.conditions.map Condition.line ++
      if entry.BelongsTo (trace ++ [entry]) transition.line (some ((entry.line + 1 : Nat) : Int)) then [entry.mark]
      else []) :
    { transition with conditions }.WaitsUntil (trace ++ [entry]) declared (some ((entry.line + 1 : Nat) : Int)) := by
  refine ⟨waits.announced.succ, fun mark member after => ?_, ?_⟩
  · exact absurd (before mark member) (waits.unserved mark member after)
  · refine added.trans ?_
    rw [ClassifiedLine.conditionsWithin_next earlier, List.map_append, waits.conditions, apply_ite (List.map _)]
    rfl

/-- The same where the line is no condition of the transition. -/
theorem past (waits : transition.WaitsUntil trace declared entry.mark)
    (earlier : ∀ other ∈ trace, other.line < entry.line) (before : ∀ mark ∈ declared, Precedes mark entry.mark)
    (foreign : ¬entry.BelongsTo (trace ++ [entry]) transition.line (some ((entry.line + 1 : Nat) : Int))) :
    transition.WaitsUntil (trace ++ [entry]) declared (some ((entry.line + 1 : Nat) : Int)) := by
  refine waits.through earlier before ?_
  rw [if_neg foreign, List.append_nil]

end Transition.WaitsUntil

namespace Transitions

/-- What holds before the line of the given number: all lines and steps so far come earlier. -/
structure Located (number : Nat) (trace : List ClassifiedLine) (taken : List (Option Int × List Transition)) :
    Prop where
  sorted : trace.Pairwise (·.line < ·.line)
  earlier : ∀ entry ∈ trace, entry.line < number
  declared : ∀ mark ∈ taken.map Prod.fst, Precedes mark (some (number : Int))

/-- What holds of transitions before the line of the given number: those that were taken and those that wait are the
ones that lines announce, in order; a step has taken those that waited for it, and the others still wait. -/
structure Attach (dialect : Dialect) (text : List (List Char)) (number : Nat) (trace : List ClassifiedLine)
    (taken : List (Option Int × List Transition)) (pending : List Transition) : Prop
    extends Located number trace taken where
  listed : (taken.flatMap Prod.snd ++ pending).map Transition.line =
    (trace.filter fun entry => entry.lineClass == .transition).map ClassifiedLine.mark
  announced : ∀ transition ∈ taken.flatMap Prod.snd ++ pending,
    ∃ line ∈ solidLines 1 text, line.Announces dialect transition
  attached : ∀ pair ∈ taken, ∀ transition ∈ pair.2, transition.WaitsUntil trace (taken.map Prod.fst) pair.1
  waiting : ∀ transition ∈ pending, transition.WaitsUntil trace (taken.map Prod.fst) (some (number : Int))

variable {text : List (List Char)} {number : Nat} {trace : List ClassifiedLine}
  {taken : List (Option Int × List Transition)} {pending : List Transition} {entry : ClassifiedLine}

theorem Located.concat (located : Located entry.line trace taken) {new : List (Option Int × List Transition)}
    (own : ∀ mark ∈ new.map Prod.fst, mark = entry.mark) :
    Located (entry.line + 1) (trace ++ [entry]) (taken ++ new) := by
  refine ⟨?_, ?_, ?_⟩
  · refine List.pairwise_append.mpr ⟨located.sorted, List.pairwise_singleton _ _, fun other member last isLast => ?_⟩
    rw [List.mem_singleton.mp isLast]
    exact located.earlier other member
  · refine List.forall_mem_append.mpr ⟨fun other member => Nat.lt_succ_of_lt (located.earlier other member), ?_⟩
    exact List.forall_mem_singleton.mpr (Nat.lt_succ_self _)
  · rw [List.map_append]
    refine List.forall_mem_append.mpr ⟨fun mark member => (located.declared mark member).succ, fun mark member => ?_⟩
    rw [own mark member]
    exact Precedes.some_iff.mpr (Nat.lt_succ_self _)

namespace Attach

theorem start (dialect : Dialect) (text : List (List Char)) : Attach dialect text 1 [] [] [] :=
  ⟨⟨.nil, nofun, nofun⟩, rfl, nofun, nofun, nofun⟩

theorem blankLine (attach : Attach dialect text number trace taken pending) :
    Attach dialect text (number + 1) trace taken pending := by
  refine ⟨⟨attach.sorted, ?_, ?_⟩, attach.listed, attach.announced, attach.attached, ?_⟩
  · exact fun entry member => Nat.lt_succ_of_lt (attach.earlier entry member)
  · exact fun mark member => (attach.declared mark member).succ
  · intro transition member
    obtain ⟨before, unserved, conditions⟩ := attach.waiting transition member
    refine ⟨before.succ, fun mark isDeclared after => ?_, ?_⟩
    · exact absurd (attach.declared mark isDeclared) (unserved mark isDeclared after)
    · rw [ClassifiedLine.conditionsWithin_succ attach.earlier]
      exact conditions

/-- No line changes what earlier steps have taken. -/
theorem attached_concat (attach : Attach dialect text entry.line trace taken pending)
    {new : List (Option Int × List Transition)} (own : ∀ mark ∈ new.map Prod.fst, mark = entry.mark) :
    ∀ pair ∈ taken, ∀ transition ∈ pair.2,
      transition.WaitsUntil (trace ++ [entry]) ((taken ++ new).map Prod.fst) pair.1 := by
  intro pair member transition isTaken
  have before := attach.declared pair.1 (List.mem_map_of_mem member)
  rw [List.map_append]
  exact (attach.attached pair member transition isTaken).later attach.earlier before.asymm own

/-- A step takes all transitions that wait. -/
theorem take (attach : Attach dialect text entry.line trace taken pending)
    (isDeclaration : entry.lineClass = .declaration) :
    Attach dialect text (entry.line + 1) (trace ++ [entry]) (taken ++ [(entry.mark, pending)]) [] := by
  have own : ∀ mark ∈ [(entry.mark, pending)].map Prod.fst, mark = entry.mark := by simp
  have all : (taken ++ [(entry.mark, pending)]).flatMap Prod.snd ++ [] = taken.flatMap Prod.snd ++ pending := by simp
  refine ⟨attach.concat own, ?_, ?_, List.forall_mem_append.mpr ⟨attach.attached_concat own, ?_⟩, nofun⟩
  · rw [all, attach.listed]
    simp [isDeclaration]
  · rw [all]
    exact attach.announced
  · refine List.forall_mem_singleton.mpr fun transition member => ?_
    rw [List.map_append]
    exact (attach.waiting transition member).later attach.earlier (Precedes.irrefl _) own

/-- A line that declares no step: what it leaves to show of the transitions that wait. -/
theorem concat (attach : Attach dialect text entry.line trace taken pending) {next : List Transition}
    (listed : next.map Transition.line =
      pending.map Transition.line ++ if entry.lineClass = .transition then [entry.mark] else [])
    (announced : ∀ transition ∈ next, ∃ line ∈ solidLines 1 text, line.Announces dialect transition)
    (waiting : ∀ transition ∈ next,
      transition.WaitsUntil (trace ++ [entry]) (taken.map Prod.fst) (some ((entry.line + 1 : Nat) : Int))) :
    Attach dialect text (entry.line + 1) (trace ++ [entry]) taken next := by
  have none : ∀ mark ∈ ([] : List (Option Int × List Transition)).map Prod.fst, mark = entry.mark := by simp
  have located := attach.toLocated.concat none
  have attached := attach.attached_concat none
  rw [List.append_nil] at located attached
  refine ⟨located, ?_, ?_, attached, waiting⟩
  · rw [List.map_append, listed, ← List.append_assoc, ← List.map_append, attach.listed, List.filter_append,
      List.map_append]
    congr 1
    split <;> simp_all
  · exact List.forall_mem_append.mpr ⟨(List.forall_mem_append.mp attach.announced).1, announced⟩

theorem announced_pending (attach : Attach dialect text number trace taken pending) :
    ∀ transition ∈ pending, ∃ line ∈ solidLines 1 text, line.Announces dialect transition :=
  (List.forall_mem_append.mp attach.announced).2

/-- A line that is neither a transition nor, while one waits, a condition. -/
theorem stay (attach : Attach dialect text entry.line trace taken pending) (silent : entry.lineClass ≠ .transition)
    (unfiled : entry.lineClass = .condition → pending = []) :
    Attach dialect text (entry.line + 1) (trace ++ [entry]) taken pending := by
  refine attach.concat ?_ attach.announced_pending fun transition member => ?_
  · rw [if_neg silent, List.append_nil]
  · refine (attach.waiting transition member).past attach.earlier attach.declared fun belongs => ?_
    rw [unfiled belongs.1] at member
    exact List.not_mem_nil member

/-- A transition is announced. -/
theorem announce (attach : Attach dialect text entry.line trace taken pending) (isClass : entry.lineClass = .transition)
    {transition : Transition} (announced : ∃ line ∈ solidLines 1 text, line.Announces dialect transition)
    (marked : transition.line = entry.mark) (bare : transition.conditions = []) :
    Attach dialect text (entry.line + 1) (trace ++ [entry]) taken (pending ++ [transition]) := by
  have foreign (start stop : Option Int) : ¬entry.BelongsTo (trace ++ [entry]) start stop := by
    intro belongs
    cases isClass.symm.trans belongs.1
  refine attach.concat ?_ ?_ (List.forall_mem_append.mpr ⟨fun other member => ?_, List.forall_mem_singleton.mpr ?_⟩)
  · simp [isClass, marked]
  · exact List.forall_mem_append.mpr ⟨attach.announced_pending, List.forall_mem_singleton.mpr announced⟩
  · exact (attach.waiting other member).past attach.earlier attach.declared (foreign _ _)
  · refine ⟨marked ▸ Precedes.some_iff.mpr (Nat.lt_succ_self _), fun mark isDeclared after => ?_, ?_⟩
    · rw [marked] at after
      exact absurd after (attach.declared mark isDeclared).asymm
    · have none : ClassifiedLine.conditionsWithin trace entry.mark entry.mark = [] := by
        refine List.filter_eq_nil_iff.mpr fun other _ belongs => ?_
        have within := of_decide_eq_true belongs
        exact within.2.1.asymm within.2.2.1
      rw [marked, ClassifiedLine.conditionsWithin_next attach.earlier, if_neg (foreign _ _), none, bare]
      rfl

/-- The transition announced last is on the last line of its class. -/
theorem line_last {before : List Transition} {last : Transition}
    (attach : Attach dialect text number trace taken (before ++ [last])) :
    (∀ transition ∈ before, Precedes transition.line last.line) ∧
      (∃ entry ∈ trace, entry.lineClass = .transition ∧ entry.mark = last.line) ∧
      ∀ entry ∈ trace, entry.lineClass = .transition → ¬Precedes last.line entry.mark := by
  have listed := attach.listed
  have ordered : ((taken.flatMap Prod.snd ++ (before ++ [last])).map Transition.line).Pairwise Precedes := by
    rw [listed, List.pairwise_map]
    exact (attach.sorted.filter _).imp ClassifiedLine.precedes_mark.mpr
  rw [← List.append_assoc, List.map_append] at listed ordered
  have smaller := (List.pairwise_append.mp ordered).2.2
  have isListed (mark : Option Int) : (∃ entry ∈ trace, entry.lineClass = .transition ∧ entry.mark = mark) ↔
      mark ∈ (taken.flatMap Prod.snd ++ before).map Transition.line ++ [last.line] := by
    rw [← List.map_singleton, listed]
    simp [and_assoc]
  refine ⟨fun transition member => ?_, (isListed _).mpr (by simp), fun entry member isClass => ?_⟩
  · refine smaller _ ?_ _ (List.mem_singleton_self _)
    exact List.mem_map_of_mem (List.mem_append_right _ member)
  · rcases List.mem_append.mp ((isListed _).mp ⟨entry, member, isClass, rfl⟩) with early | same
    · exact (smaller _ early _ (List.mem_singleton_self _)).asymm
    · rw [List.mem_singleton.mp same]
      exact Precedes.irrefl _

/-- A condition goes to the transition announced last. -/
theorem file {before : List Transition} {last : Transition}
    (attach : Attach dialect text entry.line trace taken (before ++ [last])) (isClass : entry.lineClass = .condition)
    {condition : Condition} (marked : condition.line = entry.mark) :
    Attach dialect text (entry.line + 1) (trace ++ [entry]) taken
      (before ++ [{ last with conditions := last.conditions ++ [condition] }]) := by
  obtain ⟨smaller, ⟨latest, traced, isLatest, mark⟩, greatest⟩ := attach.line_last
  obtain ⟨announced, announcedLast⟩ := List.forall_mem_append.mp attach.announced_pending
  obtain ⟨waiting, waitingLast⟩ := List.forall_mem_append.mp attach.waiting
  rw [List.forall_mem_singleton] at announcedLast waitingLast
  refine attach.concat ?_ (List.forall_mem_append.mpr ⟨announced, List.forall_mem_singleton.mpr announcedLast⟩)
    (List.forall_mem_append.mpr ⟨fun transition member => ?_, List.forall_mem_singleton.mpr ?_⟩)
  · simp [isClass]
  · -- The last transition stands between an earlier one and this line.
    refine (waiting transition member).past attach.earlier attach.declared fun belongs => ?_
    refine belongs.2.2.2 latest (List.mem_append_left _ traced) isLatest ?_ ?_
    · rw [mark]
      exact smaller transition member
    · exact ClassifiedLine.precedes_mark.mpr (attach.earlier latest traced)
  · have belongs : entry.BelongsTo (trace ++ [entry]) last.line (some ((entry.line + 1 : Nat) : Int)) := by
      refine ⟨isClass, waitingLast.announced, Precedes.some_iff.mpr (Nat.lt_succ_self _), ?_⟩
      refine List.forall_mem_append.mpr ⟨fun other member isOther after => ?_, List.forall_mem_singleton.mpr ?_⟩
      · exact absurd after (greatest other member isOther)
      · intro isOther
        cases isClass.symm.trans isOther
    refine waitingLast.through attach.earlier attach.declared ?_
    rw [if_pos belongs, List.map_append, List.map_singleton, marked]

end Attach

end Transitions

/-- The transitions of a state stand as they should before the line of the given number. -/
def ReadState.Attaches (dialect : Dialect) (text : List (List Char)) (number : Nat) (state : ReadState) : Prop :=
  Transitions.Attach dialect text number state.trace state.taken state.pending

namespace ReadState.Attaches

variable {text : List (List Char)} {number : Nat}

theorem blankLine (attaches : state.Attaches dialect text number) :
    state.blankLine.Attaches dialect text (number + 1) := by
  have same : state.blankLine.trace = state.trace ∧ state.blankLine.pending = state.pending := by
    obtain ⟨_, _, _, same⟩ := state.blankLine_eq
    rw [same]
    exact ⟨rfl, rfl⟩
  have taken : state.blankLine.taken = state.taken :=
    congrArg (List.map Step.taken) (congrArg Program.steps state.program_blankLine)
  rw [ReadState.Attaches, same.1, same.2, taken]
  exact Transitions.Attach.blankLine attaches

theorem accepted (attaches : state.Attaches dialect text line.number) (present : line ∈ solidLines 1 text)
    (done : Accepted dialect line state lineClass next) :
    (next.classify line lineClass).Attaches dialect text (line.number + 1) := by
  generalize current : (⟨line.number, lineClass, declaredLabel lineClass line next⟩ : ClassifiedLine) = entry
  have number : entry.line = line.number := by rw [← current]
  have isClass : entry.lineClass = lineClass := by rw [← current]
  have mark : some (line.number : Int) = entry.mark := by rw [ClassifiedLine.mark, number]
  have trace : (next.classify line lineClass).trace = state.trace ++ [entry] := by
    rw [← current, ← done.trace_eq]
    rfl
  have attach : Transitions.Attach dialect text entry.line state.trace state.taken state.pending := number ▸ attaches
  rw [ReadState.Attaches, trace, ← number]
  change Transitions.Attach _ _ _ _ next.taken next.pending
  cases done.moves with
  | stay silent unfiled taken pending =>
    rw [taken, pending]
    exact attach.stay (isClass ▸ silent) (isClass ▸ unfiled)
  | announce announced bare taken pending =>
    rw [taken, pending]
    exact attach.announce isClass ⟨line, present, announced⟩ (announced.mark.trans mark) bare
  | take taken pending =>
    rw [taken, pending, mark]
    exact attach.take isClass
  | file waiting marked taken pending =>
    rw [taken, pending]
    rw [waiting] at attach
    exact attach.file isClass (marked.trans mark)

end ReadState.Attaches

/-- The transitions of the steps, followed by those that are reported as orphans, are the ones that lines of the text
announce, each once and in order. A transition of a step was announced before that step and after every earlier one, and
its conditions are the condition lines up to the next transition line or to the step. No step follows an orphan. -/
theorem readProgram_attaches_transitions {text : String} {metadata : Metadata} {reading : Reading}
    (read : readProgram dialect text metadata = .ok reading) :
    ∃ orphans : List Transition,
      (reading.program.warnings.filter fun warning => warning.code == .orphanTransition) =
        orphans.map orphanWarning ∧
      (reading.program.steps.flatMap Step.transitions ++ orphans).map Transition.line =
        (reading.trace.filter fun entry => entry.lineClass == .transition).map ClassifiedLine.mark ∧
      (∀ transition ∈ reading.program.steps.flatMap Step.transitions ++ orphans,
        ∃ line ∈ solidLines 1 (lines text.toList), line.Announces dialect transition) ∧
      (∀ step ∈ reading.program.steps, ∀ transition ∈ step.transitions,
        transition.WaitsUntil reading.trace (reading.program.steps.map Step.line) step.line) ∧
      ∀ transition ∈ orphans, ∀ step ∈ reading.program.steps, ¬Precedes transition.line step.line := by
  obtain ⟨state, ran, trace, steps, -, -, warnings⟩ := readProgram_eq_ok read
  have attach : state.Attaches dialect (lines text.toList) ((lines text.toList).length + 1) :=
    readLines_keeps (.start _ _) (fun _ attaches => attaches.blankLine)
      (fun present done attaches => attaches.accepted present done) ran
  have transitions : state.taken.flatMap Prod.snd = state.allSteps.flatMap Step.transitions := List.flatMap_map ..
  have marks : state.taken.map Prod.fst = state.allSteps.map Step.line := List.map_map ..
  refine ⟨state.pending, ?_, ?_, ?_, fun step member => ?_, fun transition member step isStep after => ?_⟩
  · have accounts := (ReadState.Accounts.start dialect).readLines ran
    rw [warnings, List.filter_append, List.filter_eq_nil_iff.mpr, List.nil_append, List.filter_eq_self.mpr]
    · simp [orphanWarning]
    · exact fun warning member => by simpa using accounts.unreported warning member
  · rw [steps, trace, ← transitions]
    exact attach.listed
  · rw [steps, ← transitions]
    exact attach.announced
  · rw [steps] at member ⊢
    rw [trace, ← marks]
    exact attach.attached step.taken (List.mem_map_of_mem member)
  · have declared : step.line ∈ state.taken.map Prod.fst := marks ▸ steps ▸ List.mem_map_of_mem isStep
    exact (attach.waiting transition member).unserved step.line declared after (attach.declared step.line declared)

/-- Two transitions that wait for one step, past a blank line, an end and an assignment; one that the next step takes,
and one that no step takes. -/
def waitingText : String :=
  "RUST: wacht\n- start\nVON STAP 2\n- vol\n\n- leeg\n+ VON STAP 1\n// noot\nEND\n- druk\nx = 1\n- klaar\n" ++
    "STAP 1: vullen\n- hoog\nVON STAP 1\n- laag\nSTAP 2: legen\nVON STAP 2\n- nooit"

theorem readProgram_attaches_transitions_waitingText :
    ∃ reading, readProgram {} waitingText {} = .ok reading ∧
      reading.program.steps.map (fun step => step.line :: step.transitions.flatMap Transition.marks) =
        [[some 1], [some 13, some 3, some 4, some 6, some 7, some 10, some 12], [some 17, some 15, some 16]] ∧
      ∃ orphans : List Transition,
        (reading.program.warnings.filter fun warning => warning.code == .orphanTransition) =
          orphans.map orphanWarning ∧
        (reading.program.steps.flatMap Step.transitions ++ orphans).map Transition.line =
          [some 3, some 7, some 15, some 18] ∧
        (∀ step ∈ reading.program.steps, ∀ transition ∈ step.transitions,
          transition.WaitsUntil reading.trace (reading.program.steps.map Step.line) step.line) ∧
        ∀ transition ∈ orphans, ∀ step ∈ reading.program.steps, ¬Precedes transition.line step.line := by
  have evaluated : (readProgram {} waitingText {}).toOption.map (fun reading =>
      (reading.program.steps.map (fun step => step.line :: step.transitions.flatMap Transition.marks),
        (reading.trace.filter fun entry => entry.lineClass == .transition).map ClassifiedLine.mark)) =
      some ([[some 1], [some 13, some 3, some 4, some 6, some 7, some 10, some 12], [some 17, some 15, some 16]],
        [some 3, some 7, some 15, some 18]) := by
    decide +kernel
  obtain ⟨reading, done, found⟩ := Option.map_eq_some_iff.mp evaluated
  obtain ⟨taken, announced⟩ := Prod.mk.inj found
  have read := eq_ok_of_toOption_eq_some done
  obtain ⟨orphans, reported, listed, -, attached, unserved⟩ := readProgram_attaches_transitions read
  exact ⟨reading, read, taken, orphans, reported, listed.trans announced, attached, unserved⟩

end StepFlow
