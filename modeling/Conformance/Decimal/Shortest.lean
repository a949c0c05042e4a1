import Conformance.Decimal.Binary

namespace Conformance.Decimal

/-!
# The fewest digits that read back

A decimal reads back as a double if it lies between the midpoints to the
double's neighbours; the midpoints count exactly when the significand is even.
Of the decimals with the fewest digits that read back, the nearest is chosen,
and of two equally near ones the one with the even last digit.

A library writes doubles so for machines, and its format is assumed here: only the
program itself runs on it, while what is proved of reports for machines holds for
every way to write a double as a bare word.
-/

/-- The number `digits * 10 ^ exponent`. -/
structure Digits where
  digits : Nat
  exponent : Int
  deriving Repr, DecidableEq

namespace Magnitude

/-- Whether `digits * 10 ^ ten` reads back as the magnitude. -/
def readsBack (magnitude : Magnitude) (digits : Nat) (ten : Int) : Bool :=
  let two := magnitude.exponent - 2
  let low := 4 * magnitude.significand - (if magnitude.narrowBelow then 1 else 2)
  let high := 4 * magnitude.significand + 2
  let candidate := scaledDecimal digits ten two
  if magnitude.significand % 2 = 0 then
    decide (scaledBinary low ten two ≤ candidate) &&
      decide (candidate ≤ scaledBinary high ten two)
  else
    decide (scaledBinary low ten two < candidate) &&
      decide (candidate < scaledBinary high ten two)

/-- The least power of ten above the magnitude, sought upwards in so many steps. -/
def powerAbove (magnitude : Magnitude) : Nat → Int → Int
  | 0, power => power
  | steps + 1, power =>
      if scaledBinary magnitude.significand power magnitude.exponent <
          scaledDecimal 1 power magnitude.exponent then power
      else magnitude.powerAbove steps (power + 1)

/-- The least `k` with the magnitude below `10 ^ k`, found near the binary logarithm. -/
def scale (magnitude : Magnitude) : Int :=
  let binary := (Nat.log2 magnitude.significand : Int) + magnitude.exponent
  magnitude.powerAbove 6 ((binary * 30103).fdiv 100000 - 1)

/-- The better of two neighbouring candidates that both read back. -/
def nearer (magnitude : Magnitude) (lower : Nat) (ten : Int) : Nat :=
  let doubled := scaledBinary (2 * magnitude.significand) ten magnitude.exponent
  let middle := scaledDecimal (2 * lower + 1) ten magnitude.exponent
  if doubled < middle then lower
  else if middle < doubled then lower + 1
  else if lower % 2 = 0 then lower
  else lower + 1

/-- The candidate with digits down to a power of ten, if one reads back. -/
def candidate? (magnitude : Magnitude) (ten : Int) : Option Nat :=
  let lower :=
    scaledBinary magnitude.significand ten magnitude.exponent /
      scaledDecimal 1 ten magnitude.exponent
  match magnitude.readsBack lower ten, magnitude.readsBack (lower + 1) ten with
  | true, true => some (magnitude.nearer lower ten)
  | true, false => some lower
  | false, true => some (lower + 1)
  | false, false => none

/-- The magnitude as an exact decimal. -/
def exact (magnitude : Magnitude) : Digits :=
  if 0 ≤ magnitude.exponent then
    ⟨magnitude.significand * Nat.pow 2 magnitude.exponent.toNat, 0⟩
  else
    ⟨magnitude.significand * Nat.pow 5 (-magnitude.exponent).toNat,
      magnitude.exponent⟩

/-- The first candidate on ever finer grids, down to the exact decimal. -/
def searchFrom (magnitude : Magnitude) : Nat → Int → Digits
  | 0, _ => magnitude.exact
  | grids + 1, ten =>
      match magnitude.candidate? ten with
      | some digits => ⟨digits, ten⟩
      | none => magnitude.searchFrom grids (ten - 1)

/-- The fewest digits that read back as the magnitude. -/
def shortest (magnitude : Magnitude) : Digits :=
  if magnitude.significand = 0 then ⟨0, 0⟩
  else magnitude.searchFrom 17 (magnitude.scale - 1)

end Magnitude

namespace Digits

/-- Moves trailing zeros from the digits into the exponent. -/
def strip : Nat → Digits → Digits
  | 0, number => number
  | steps + 1, number =>
      if number.digits ≠ 0 ∧ number.digits % 10 = 0 then
        strip steps ⟨number.digits / 10, number.exponent + 1⟩
      else number

/-- The same number without trailing zeros among its digits. -/
def normal (number : Digits) : Digits :=
  strip (Nat.log2 number.digits + 1) number

end Digits

/--
Where positional notation ends: a number is written out if the power of ten
above it is greater than `least` and at most `most`.
-/
structure Notation where
  least : Int
  most : Int
  deriving Repr, DecidableEq

namespace Notation

/-- So many zeros. -/
def zeros (count : Int) : List Char :=
  List.replicate count.toNat '0'

/-- Writes a number: digits with a point, and an exponent where it is not written out. -/
def write (style : Notation) (number : Digits) : String :=
  if number.digits = 0 then "0.0"
  else
    let reduced := number.normal
    let digits := Nat.toDigits 10 reduced.digits
    let above := (digits.length : Int) + reduced.exponent
    let written :=
      if 0 ≤ reduced.exponent ∧ above ≤ style.most then
        digits ++ zeros reduced.exponent ++ ['.', '0']
      else if 0 < above ∧ above ≤ style.most then
        digits.take above.toNat ++ ['.'] ++ digits.drop above.toNat
      else if style.least < above ∧ above ≤ 0 then
        ['0', '.'] ++ zeros (-above) ++ digits
      else
        let mantissa := match digits with
          | [only] => [only]
          | first :: rest => first :: '.' :: rest
          | [] => []
        mantissa ++ ['e'] ++ (toString (above - 1)).toList
    String.ofList written

end Notation

end Conformance.Decimal
