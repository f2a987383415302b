import Mathlib.Data.List.TakeWhile
import Mathlib.Data.Nat.Digits.Defs
import StepFlow.Text.Numeral

/-! # Numerals

A numeral is read unless it has too many digits, and the decimal numeral of a number reads back as that number.
-/

namespace StepFlow.Text

/-- A text of decimal digits is a numeral; the number of its digits is all that can be wrong with it. -/
theorem readNumeral_of_isDecimal {text : List Char} (nonempty : text ≠ []) (decimal : ∀ c ∈ text, isDecimal c) :
    readNumeral text =
      if maxDigits < text.length then .error (.tooLong text.length) else .ok (numeralValue 0 text) := by
  have whole : text.takeWhile isDecimal = text := List.takeWhile_eq_self_iff.mpr decimal
  simp [readNumeral, whole, nonempty]

theorem digitValue?_of_isDigit {c : Char} (digit : c.isDigit) : digitValue? c = some (c.toNat - '0'.toNat) := by
  obtain ⟨low, high⟩ : 48 ≤ c.toNat ∧ c.toNat ≤ 57 := by
    simpa [Char.isDigit, UInt32.le_iff_toNat_le] using digit
  rw [digitValue?, decimalZeros, digitValueFrom, if_neg (by omega), if_pos (by omega)]
  rfl

theorem isDecimal_of_isDigit {c : Char} (digit : c.isDigit) : isDecimal c := by
  rw [isDecimal, digitValue?_of_isDigit digit]
  rfl

theorem numeralValue_of_isDigit {text : List Char} (digits : ∀ c ∈ text, c.isDigit) (value : Nat) :
    numeralValue value text = Nat.ofDigitChars 10 text value := by
  induction text generalizing value with
  | nil => rfl
  | cons c rest ih =>
    obtain ⟨digit, later⟩ := List.forall_mem_cons.mp digits
    rw [numeralValue, digitValue?_of_isDigit digit, ih later]
    rfl

theorem isDigit_of_mem_toDigits {number : Nat} {c : Char} (member : c ∈ Nat.toDigits 10 number) : c.isDigit :=
  Nat.isDigit_of_mem_toDigits (by decide) (by decide) member

section Digits

variable (number : Nat) {c : Char} (stops : isDecimal c = false) (rest : List Char)

theorem isDecimal_of_mem_toDigits : ∀ c ∈ Nat.toDigits 10 number, isDecimal c = true :=
  fun _ member => isDecimal_of_isDigit (isDigit_of_mem_toDigits member)

include stops

theorem takeWhile_toDigits : (Nat.toDigits 10 number ++ c :: rest).takeWhile isDecimal = Nat.toDigits 10 number := by
  rw [List.takeWhile_append_of_pos (isDecimal_of_mem_toDigits number), List.takeWhile_cons_of_neg (by simp [stops]),
    List.append_nil]

theorem dropWhile_toDigits : (Nat.toDigits 10 number ++ c :: rest).dropWhile isDecimal = c :: rest := by
  rw [List.dropWhile_append_of_pos (isDecimal_of_mem_toDigits number), List.dropWhile_cons_of_neg (by simp [stops])]

end Digits

@[simp] theorem numeralValue_toDigits (number : Nat) : numeralValue 0 (Nat.toDigits 10 number) = number := by
  rw [numeralValue_of_isDigit fun _ => isDigit_of_mem_toDigits, Nat.ofDigitChars_ten_toDigits]

/-- The decimal numeral of a number is read, if it is not too long, and gives that number. -/
theorem readNumeral_toDigits {number : Nat} (short : number < 10 ^ maxDigits) :
    readNumeral (Nat.toDigits 10 number) = .ok number := by
  have length : (Nat.toDigits 10 number).length ≤ maxDigits :=
    (Nat.length_toDigits_le_iff (by decide) (by decide)).mpr short
  rw [readNumeral_of_isDecimal Nat.toDigits_ne_nil (isDecimal_of_mem_toDigits number), if_neg (by omega),
    numeralValue_toDigits]

theorem digitValue?_lt {c : Char} {digit : Nat} (found : digitValue? c = some digit) : digit < 10 := by
  have below : ∀ starts : List Nat, digitValueFrom starts c.toNat = some digit → digit < 10 := by
    intro starts found
    induction starts with
    | nil => cases found
    | cons start rest ih =>
      rw [digitValueFrom] at found
      split at found
      · cases found
      · split at found
        · have value := Option.some.inj found
          omega
        · exact ih found
  exact below decimalZeros found

/-- A numeral of so many digits is less than that power of ten. -/
theorem numeralValue_lt (value : Nat) (text : List Char) :
    numeralValue value text < (value + 1) * 10 ^ text.length := by
  induction text generalizing value with
  | nil =>
    rw [numeralValue, List.length_nil]
    omega
  | cons c rest ih =>
    have digit : (digitValue? c).getD 0 < 10 := by
      cases found : digitValue? c with
      | none => decide
      | some digit => exact digitValue?_lt found
    calc numeralValue value (c :: rest)
        < (10 * value + (digitValue? c).getD 0 + 1) * 10 ^ rest.length := ih _
      _ ≤ ((value + 1) * 10) * 10 ^ rest.length := Nat.mul_le_mul_right _ (by omega)
      _ = (value + 1) * 10 ^ (c :: rest).length := by rw [List.length_cons, Nat.pow_succ', Nat.mul_assoc]

/-- A number that is read has a numeral that is not too long. -/
theorem lt_of_readNumeral {text : List Char} {number : Nat} (read : readNumeral text = .ok number) :
    number < 10 ^ maxDigits := by
  simp only [readNumeral] at read
  split at read
  · cases read
  · rename_i short
    split at read
    · cases read
    · rename_i whole
      cases read
      have length : text.length ≤ maxDigits := by
        simp only [Bool.or_eq_true, decide_eq_true_eq, not_or, Nat.not_lt] at whole
        omega
      have below := numeralValue_lt 0 text
      rw [Nat.zero_add, Nat.one_mul] at below
      exact below.trans_le (Nat.pow_le_pow_right (by decide) length)

theorem lt_pow_maxDigits {number : Nat} (small : number ≤ maxDigits) : number < 10 ^ maxDigits :=
  small.trans_lt (Nat.lt_pow_self (by decide))

end StepFlow.Text
