import StepFlow.CommandLine.Run

/-! # What an action does

An action that writes no file only adds lines to the two streams. What it adds depends on the console only in that a
verbose one shows more of the log. So actions can be described by their result and by the lines that they add, and the
description of a sequence puts those of its parts together.
-/

namespace StepFlow.CommandLine

namespace Action

variable {α β : Type} {verbose : Bool}

/-- On a console of the given kind the action has the result and adds the lines to the two streams. -/
def Does (verbose : Bool) (action : Action α) (result : Except Stop α) (out err : List String) : Prop :=
  ∀ console : Console, console.verbose = verbose →
    action.run.run console = (result, { console with out := console.out ++ out, err := console.err ++ err })

namespace Does

theorem pure (value : α) : Does verbose (Pure.pure value : Action α) (.ok value) [] [] := by
  intro console _
  simp only [List.append_nil]
  rfl

/-- The result of the first action goes to the second one, which adds its lines after those of the first. -/
theorem bind {action : Action α} {next : α → Action β} {value : α} {result : Except Stop β}
    {out err out' err' : List String} (first : Does verbose action (.ok value) out err)
    (second : Does verbose (next value) result out' err') :
    Does verbose (action >>= next) result (out ++ out') (err ++ err') := by
  intro console kind
  have done := first console kind
  have later := second { console with out := console.out ++ out, err := console.err ++ err } kind
  simp only [List.append_assoc] at later
  rw [← later]
  simp only [ExceptT.run_bind, StateT.run_bind, done]
  rfl

/-- Before an action may stand one that adds nothing. -/
theorem after {action : Action α} {next : α → Action β} {value : α} {result : Except Stop β} {out err : List String}
    (first : Does verbose action (.ok value) [] []) (second : Does verbose (next value) result out err) :
    Does verbose (action >>= next) result out err := by
  have both := first.bind second
  rwa [List.nil_append, List.nil_append] at both

theorem print (line : String) : Does verbose (Action.print line) (.ok ()) [line] [] := by
  intro console _
  simp only [List.append_nil]
  rfl

theorem complainAll (lines : List String) : Does verbose (Action.complainAll lines) (.ok ()) [] lines := by
  intro console _
  simp only [List.append_nil]
  rfl

theorem log (records : List LogRecord) :
    Does verbose (Action.log records) (.ok ()) [] (records.filterMap (LogRecord.line? verbose)) := by
  rintro console rfl
  simp only [List.append_nil]
  rfl

theorem exit (code : Nat) : Does verbose (Action.exit code : Action α) (.error (.exit code)) [] [] := by
  intro console _
  simp only [List.append_nil]
  rfl

theorem flatMap_nothing (items : List α) : (items.flatMap fun _ => ([] : List String)) = [] :=
  List.flatMap_eq_nil_iff.mpr fun _ _ => rfl

/-- Actions that succeed on each item add their lines one after another. -/
theorem mapM {items : List α} {action : α → Action β} {value : α → β} {out err : α → List String}
    (each : ∀ item ∈ items, Does verbose (action item) (.ok (value item)) (out item) (err item)) :
    Does verbose (items.mapM action) (.ok (items.map value)) (items.flatMap out) (items.flatMap err) := by
  induction items with
  | nil =>
    rw [List.mapM_nil]
    exact pure []
  | cons item rest ih =>
    rw [List.mapM_cons, List.flatMap_cons, List.flatMap_cons]
    obtain ⟨here, later⟩ := List.forall_mem_cons.mp each
    refine here.bind ?_
    rw [← List.append_nil (rest.flatMap out), ← List.append_nil (rest.flatMap err)]
    exact (ih later).bind (pure _)

end Does

end Action

end StepFlow.CommandLine
