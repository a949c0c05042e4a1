namespace Conformance.Decimal

/-!
# Binary magnitudes

A finite double is an integer times a power of two, in the binary format with
sixty-four bits.  Decimal forms are computed from these two numbers with integers
alone.
-/

/-- The value of the bit that normal doubles do not store, above fifty-two stored ones. -/
def hiddenBit : Nat :=
  4503599627370496

/-- The number `significand * 2 ^ exponent`. -/
structure Magnitude where
  significand : Nat
  exponent : Int
  deriving Repr, DecidableEq

namespace Magnitude

/-- The magnitude of the finite double with the given bits; the sign is left out. -/
def ofBits (bits : UInt64) : Magnitude :=
  let fraction : Nat := bits.toNat % hiddenBit
  let biased : Nat := bits.toNat / hiddenBit % 2048
  if biased = 0 then ⟨fraction, -1074⟩
  else ⟨fraction + hiddenBit, (biased : Int) - 1075⟩

/-- The magnitude of a finite double. -/
def ofFloat (number : Float) : Magnitude :=
  ofBits number.toBits

/-- Whether the next smaller double is nearer than the next larger one. -/
def narrowBelow (magnitude : Magnitude) : Bool :=
  magnitude.significand == hiddenBit && decide (-1074 < magnitude.exponent)

end Magnitude

/--
A decimal and a binary number over one denominator: the numerator of
`digits * 10 ^ ten` when both are scaled to whole numbers.
-/
def scaledDecimal (digits : Nat) (ten two : Int) : Nat :=
  digits * Nat.pow 10 ten.toNat * Nat.pow 2 (-two).toNat

/-- The numerator of `significand * 2 ^ two` over the same denominator. -/
def scaledBinary (significand : Nat) (ten two : Int) : Nat :=
  significand * Nat.pow 2 two.toNat * Nat.pow 10 (-ten).toNat

end Conformance.Decimal
