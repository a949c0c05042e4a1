import Conformance.Outcome

namespace Conformance

/-!
# The life of a scenario

A scenario is pending until it is started, running until it is finished, and
finished for ever after.  Every other step is refused.
-/

/-- How far a scenario has come. -/
inductive Lifecycle where
  | pending
  | running
  | finished (outcome : Outcome)
  deriving Repr, DecidableEq

namespace Lifecycle

/-- The word for a stage of life in messages. -/
def name : Lifecycle → String
  | .pending => "Pending"
  | .running => "Running"
  | .finished _ => "Finished"

/-- Starts a pending scenario. -/
def start : Lifecycle → Except Misuse Lifecycle
  | .pending => .ok .running
  | other => .error (.invalidTransition other.name "Running")

/-- Finishes a running scenario with its outcome. -/
def finish (outcome : Outcome) : Lifecycle → Except Misuse Lifecycle
  | .running => .ok (.finished outcome)
  | other => .error (.invalidTransition other.name outcome.label)

/-- The outcome of a finished scenario. -/
def outcome? : Lifecycle → Option Outcome
  | .finished outcome => some outcome
  | _ => none

/-- A step that someone asks for. -/
inductive Request where
  | start
  | finish (outcome : Outcome)
  deriving Repr, DecidableEq

/-- Tries a step; a refused one leaves the stage as it was and tells why. -/
def attempt (request : Request) (stage : Lifecycle) : Lifecycle × Option Misuse :=
  let step := match request with
    | .start => stage.start
    | .finish outcome => stage.finish outcome
  match step with
  | .ok next => (next, none)
  | .error misuse => (stage, some misuse)

end Lifecycle

end Conformance
