import Conformance.Decimal.Binary

namespace Conformance.Decimal

/-!
# A fixed number of places

The exact value of a double is rounded to a number of decimal places; a half
goes to the even neighbour, as in texts that ask for a precision.
-/

/-- A quotient rounded to the nearest whole number; a half goes to the even one. -/
def roundDiv (numerator denominator : Nat) : Nat :=
  let quotient := numerator / denominator
  let remainder := numerator % denominator
  if 2 * remainder < denominator then quotient
  else if denominator < 2 * remainder then quotient + 1
  else if quotient % 2 = 0 then quotient
  else quotient + 1

/-- Digits on the left, filled with zeros to a width. -/
def padded (width number : Nat) : List Char :=
  let digits := Nat.toDigits 10 number
  List.replicate (width - digits.length) '0' ++ digits

namespace Magnitude

/-- The magnitude in units of the last place, rounded. -/
def rounded (magnitude : Magnitude) (places : Nat) : Nat :=
  roundDiv
    (scaledBinary magnitude.significand (-places) magnitude.exponent)
    (Nat.pow 2 (-magnitude.exponent).toNat)

/-- The magnitude with a number of decimal places. -/
def fixed (magnitude : Magnitude) (places : Nat) : String :=
  let units := magnitude.rounded places
  String.ofList (Nat.toDigits 10 (units / Nat.pow 10 places) ++ ['.'] ++
    padded places (units % Nat.pow 10 places))

end Magnitude

end Conformance.Decimal
