/-! # Computations that succeed

What follows when a computation that may fail has given a value: each of its stages has given one.
-/

namespace StepFlow

variable {ε δ α β : Type}

theorem bind_eq_ok {stage : Except ε α} {next : α → Except ε β} {value : β}
    (success : (stage >>= next) = .ok value) : ∃ between, stage = .ok between ∧ next between = .ok value := by
  cases stage with
  | error fault => cases success
  | ok between => exact ⟨between, rfl, success⟩

theorem bind_of_eq_ok {stage : Except ε α} {between : α} (success : stage = .ok between) (next : α → Except ε β) :
    (stage >>= next) = next between := by
  rw [success]
  rfl

theorem mapError_eq_ok {stage : Except ε α} {change : ε → δ} {value : α}
    (success : stage.mapError change = .ok value) : stage = .ok value := by
  cases stage with
  | error fault => cases success
  | ok between => exact congrArg Except.ok (Except.ok.inj success)

theorem eq_ok_of_toOption_eq_some {stage : Except ε α} {value : α}
    (success : stage.toOption = some value) : stage = .ok value := by
  cases stage with
  | error fault => cases success
  | ok between => exact congrArg Except.ok (Option.some.inj success)

theorem length_of_mapM_eq_ok {inputs : List α} {stage : α → Except ε β} {values : List β}
    (success : inputs.mapM stage = .ok values) : values.length = inputs.length := by
  induction inputs generalizing values with
  | nil => exact congrArg List.length (Except.ok.inj success).symm
  | cons input rest ih =>
    rw [List.mapM_cons] at success
    obtain ⟨value, -, success⟩ := bind_eq_ok success
    obtain ⟨others, later, success⟩ := bind_eq_ok success
    cases success
    exact congrArg (· + 1) (ih later)

end StepFlow
