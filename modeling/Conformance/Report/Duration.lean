import Conformance.Decimal.Fixed
import Conformance.Decimal.Shortest

namespace Conformance

/-!
# Durations

Durations are measured in whole nanoseconds.  People read whole milliseconds and
hundredths of seconds; machines read doubles, which a library outside writes.
-/

/-- How long something took. -/
structure Duration where
  nanoseconds : Nat
  deriving Repr, DecidableEq

namespace Duration

/-- Whole milliseconds, what is left over being dropped. -/
def wholeMilliseconds (duration : Duration) : Nat :=
  duration.nanoseconds / 1000000

/-- Seconds: the whole ones and the fraction are rounded to doubles and then added. -/
def seconds (duration : Duration) : Float :=
  Float.ofNat (duration.nanoseconds / 1000000000) +
    Float.ofNat (duration.nanoseconds % 1000000000) / 1000000000

/-- Milliseconds: the double of the seconds, multiplied. -/
def milliseconds (duration : Duration) : Float :=
  duration.seconds * 1000

/-- Seconds for people, with two decimals of the exact double. -/
def secondsText (duration : Duration) : String :=
  (Decimal.Magnitude.ofFloat duration.seconds).fixed 2

end Duration

/-- A double is written out down to `0.00001` and below `10 ^ 16`. -/
def doubleStyle : Decimal.Notation :=
  ⟨-5, 16⟩

/--
A double that is not negative, in the fewest digits that give it back.  This is the
format that the library for JSON is assumed to have for doubles.
-/
def doubleText (number : Float) : String :=
  doubleStyle.write (Decimal.Magnitude.ofFloat number).shortest

end Conformance
