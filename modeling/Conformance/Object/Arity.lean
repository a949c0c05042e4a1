namespace Conformance

/-!
# Parameter counts

A callable declares how many arguments it takes: an exact number, or a least
number with more allowed.  A single signed number stands for both shapes.
-/

/-- The declared parameters of a callable. -/
inductive Arity where
  | exactly (count : Nat)
  | atLeast (count : Nat)
  deriving Repr, DecidableEq

namespace Arity

/-- Whether a call with so many arguments fits. -/
def accepts : Arity → Nat → Bool
  | .exactly count, given => given == count
  | .atLeast count, given => decide (count ≤ given)

/-- The number of arguments that must be there. -/
def required : Arity → Nat
  | .exactly count => count
  | .atLeast count => count

/-- Whether arguments beyond the required ones are handed on. -/
def takesMore : Arity → Bool
  | .exactly _ => false
  | .atLeast _ => true

/--
The signed number of an arity: the count itself when it is exact, and the
negated count less one when more are allowed, in 64-bit words.
-/
def signed : Arity → Int64
  | .exactly count => Int64.ofNat count
  | .atLeast count => -Int64.ofNat count - 1

/-- The arity that a signed number stands for. -/
def ofSigned (number : Int64) : Arity :=
  if 0 ≤ number.toInt then .exactly number.toInt.toNat
  else .atLeast (-(number.toInt + 1)).toNat

/-- How messages name the expected number of arguments. -/
def expected : Arity → String
  | .exactly count => toString count
  | .atLeast count => toString count ++ "+"

end Arity

end Conformance
