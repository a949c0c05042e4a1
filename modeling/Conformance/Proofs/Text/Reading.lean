import Conformance.Text.Reading

namespace Conformance.Text

/-!
# Numbers are read as they are printed

The digits of a number lead up to it without passing the range, so a number that is
printed in decimal is read back.
-/

/-- Further digits only lead upwards. -/
theorem le_ofDigitChars (digits : List Char) (number : Nat) :
    number ≤ Nat.ofDigitChars 10 digits number := by
  induction digits generalizing number with
  | nil => exact Nat.le_refl number
  | cons digit rest inductionHypothesis =>
      rw [Nat.ofDigitChars_cons]
      have later := inductionHypothesis (10 * number + (digit.toNat - '0'.toNat))
      omega

/-- Digits that lead to a number in the range are read to their end. -/
theorem readDigits_eq
    {digits : List Char}
    {number : Nat}
    (allDigits : ∀ digit ∈ digits, digit.isDigit = true)
    (inRange : (Nat.ofDigitChars 10 digits number : Int) ≤ Int64.maxValue.toInt) :
    readDigits true digits number = .ok (Nat.ofDigitChars 10 digits number) := by
  induction digits generalizing number with
  | nil => rfl
  | cons digit rest inductionHypothesis =>
      obtain ⟨isDigit, restDigits⟩ := List.forall_mem_cons.mp allDigits
      rw [Nat.ofDigitChars_cons] at inRange ⊢
      have notPast := le_ofDigitChars rest (10 * number + (digit.toNat - '0'.toNat))
      have read := inductionHypothesis restDigits inRange
      have notLarge :
          ¬ Int64.maxValue.toInt <
            10 * (number : Int) + ((digit.toNat - '0'.toNat : Nat) : Int) := by
        omega
      have notSmall :
          ¬ 10 * (number : Int) + ((digit.toNat - '0'.toNat : Nat) : Int) <
            Int64.minValue.toInt := by
        have negative : Int64.minValue.toInt < 0 := by decide
        omega
      simp only [readDigits, isDigit, ↓reduceIte, notLarge, notSmall]
      exact_mod_cast read

/-- Digits without a sign before them are read as they are. -/
theorem readSigned_of_isDigit
    {digit : Char}
    (isDigit : digit.isDigit = true)
    (rest : List Char) :
    readSigned (digit :: rest) = readDigits true (digit :: rest) 0 := by
  have notPlus : digit ≠ '+' := by
    rintro rfl
    contradiction
  have notMinus : digit ≠ '-' := by
    rintro rfl
    contradiction
  simp [readSigned, notPlus, notMinus]

/-- A number in the range is read from its decimal digits. -/
theorem readInteger_toString
    {number : Nat}
    (inRange : (number : Int) ≤ Int64.maxValue.toInt) :
    readInteger (toString number) = .ok (Int64.ofNat number) := by
  have digits : (toString number).toList = Nat.toDigits 10 number :=
    String.toList_ofList
  have allDigits : ∀ digit ∈ Nat.toDigits 10 number, digit.isDigit = true :=
    fun _ => Nat.isDigit_of_mem_toDigits (by decide) (by decide)
  have value : Nat.ofDigitChars 10 (Nat.toDigits 10 number) 0 = number :=
    Nat.ofDigitChars_toDigits (by decide) (by decide)
  have read : readDigits true (Nat.toDigits 10 number) 0 = .ok (number : Int) := by
    have readAll := readDigits_eq allDigits (value ▸ inRange)
    rwa [value] at readAll
  rw [readInteger, digits]
  cases shape : Nat.toDigits 10 number with
  | nil => exact absurd shape Nat.toDigits_ne_nil
  | cons first rest =>
      rw [shape] at read allDigits
      rw [readSigned_of_isDigit (allDigits first List.mem_cons_self), read]
      rfl

end Conformance.Text
