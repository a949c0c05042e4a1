import Conformance.Outcome

namespace Conformance

/-!
# Tallies

A tally counts the outcomes of a run by class, and its summary names the classes
that occurred.
-/

/-- How many scenarios ended in which class of outcome. -/
structure Tally where
  passed : Nat
  failed : Nat
  skipped : Nat
  errored : Nat
  deriving Repr, DecidableEq

namespace Tally

/-- The tally of a run that has reported nothing. -/
def empty : Tally :=
  ⟨0, 0, 0, 0⟩

/-- Counts one more outcome. -/
def record (tally : Tally) : Outcome → Tally
  | .passed => { tally with passed := tally.passed + 1 }
  | .failed _ => { tally with failed := tally.failed + 1 }
  | .skipped _ => { tally with skipped := tally.skipped + 1 }
  | .errored _ => { tally with errored := tally.errored + 1 }

/-- The number of outcomes counted. -/
def total (tally : Tally) : Nat :=
  tally.passed + tally.failed + tally.skipped + tally.errored

/-- Whether nothing failed and nothing went wrong. -/
def isSuccess (tally : Tally) : Bool :=
  tally.failed == 0 && tally.errored == 0

/-- The counts that are not zero, as a summary names them. -/
def parts (tally : Tally) : List String :=
  ([(tally.passed, "passed"), (tally.failed, "failed"), (tally.skipped, "skipped"),
      (tally.errored, "errored")].filter fun part => decide (0 < part.1)).map
    fun part => toString part.1 ++ " " ++ part.2

/-- The tally in words. -/
def summary (tally : Tally) : String :=
  match tally.parts with
  | [] => "no scenarios ran"
  | parts => ", ".intercalate parts

/-- Recording an outcome adds one to the total. -/
@[simp] theorem total_record
    (tally : Tally)
    (outcome : Outcome) :
    (tally.record outcome).total = tally.total + 1 := by
  cases outcome <;> simp [record, total] <;> omega

/-- A success stays one exactly when the recorded outcome is no failure. -/
@[simp] theorem isSuccess_record
    (tally : Tally)
    (outcome : Outcome) :
    (tally.record outcome).isSuccess = (tally.isSuccess && !outcome.isFailure) := by
  cases outcome <;> simp [record, isSuccess, Outcome.isFailure]

end Tally

end Conformance
