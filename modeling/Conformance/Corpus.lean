import Conformance.Corpus.GroupRecords
import Conformance.Corpus.HashFallback

namespace Conformance.Corpus

/-!
# The corpus

The built-in suite checks hash fallbacks and group lookup, in a fixed order.
-/

/-- Every group of the corpus. -/
def registry (host : Host) : Registry Unit Routine :=
  Registry.empty
    |>.registerGroup defaultProcGroup
    |>.registerGroup defaultProcAssignGroup
    |>.registerGroup (windowsGroup host)
    |>.registerGroup (otherGroup host)

/-- Calls in the corpus may be nested so deep. -/
def callDepth : Nat :=
  16

/-- The machine that the corpus runs on. -/
def machine : Machine Unit Routine :=
  ⟨program, callDepth⟩

end Conformance.Corpus
