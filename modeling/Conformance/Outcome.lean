import Conformance.Outcome.Fault

namespace Conformance

/-!
# Outcomes

Every scenario ends in exactly one outcome: it passed, failed, was skipped, or
went wrong for a reason that does not blame the system under test.
-/

/-- Why a scenario went wrong without blaming the system under test. -/
inductive Cause where
  | misuse (message : String)
  | unexpected (error : Raised)
  | hook (message : String)
  | panic (message : String)
  deriving Repr, DecidableEq

namespace Cause

/-- The cause as reports show it. -/
def text : Cause → String
  | .misuse message => "harness misuse: " ++ message
  | .unexpected error => "unexpected " ++ error.text
  | .hook message => "before_all hook failed: " ++ message
  | .panic message => "panicked: " ++ message

end Cause

/-- The final result of one scenario. -/
inductive Outcome where
  | passed
  | failed (message : String)
  | skipped (reason : String)
  | errored (cause : Cause)
  deriving Repr, DecidableEq

namespace Outcome

/-- The word for an outcome in reports. -/
def label : Outcome → String
  | .passed => "PASSED"
  | .failed _ => "FAILED"
  | .skipped _ => "SKIPPED"
  | .errored _ => "ERROR"

/-- Whether an outcome counts against the run. -/
def isFailure : Outcome → Bool
  | .passed => false
  | .failed _ => true
  | .skipped _ => false
  | .errored _ => true

/-- The text that explains an outcome; a passed scenario needs none. -/
def detail : Outcome → Option String
  | .passed => none
  | .failed message => some message
  | .skipped reason => some reason
  | .errored cause => some cause.text

end Outcome

namespace Fault

/-- The outcome of a scenario that a fault ended. -/
def outcome : Fault → Outcome
  | .assertion message => .failed message
  | .unmet call => .failed call.text
  | .misuse kind => .errored (.misuse kind.text)
  | .raised error => .errored (.unexpected error)

end Fault

end Conformance
