import StepFlow.Json.Schema
import StepFlow.Text.Numeral

/-! # Why reading stops

Reading a program collects what is wrong with it and goes on. It stops only where no program could be
given at all.
-/

namespace StepFlow

/-- The records that reading builds under rules of their own. -/
inductive ReadRecord where
  | block
  | crossReference
  | comparison
  deriving Repr, DecidableEq

/-- Why reading stops. -/
inductive ReadFault where
  /-- A numeral has no value. -/
  | numeral (fault : Text.NumeralFault)
  /-- A record breaks its rules. -/
  | invalid (record : ReadRecord) (faults : List Schema.Fault)
  /-- A line came to a class that has no rule. -/
  | noRule
  deriving Repr, DecidableEq

namespace ReadFault

/-- A numeral's value, or the fault of having none. -/
def ofNumeral (text : List Char) : Except ReadFault Nat :=
  (Text.readNumeral text).mapError .numeral

/-- A record without faults. -/
def ofChecked {α : Type} (record : ReadRecord) (value : Checked α) : Except ReadFault α :=
  value.toExcept.mapError (.invalid record)

end ReadFault

end StepFlow
