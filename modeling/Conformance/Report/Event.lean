import Conformance.Report.Duration
import Conformance.Suite.Run

namespace Conformance

/-!
# Run events

Whoever follows a run hears of its start, of every scenario, and of its end.  A
reporter writes each event as text, which may depend on the events before it.
-/

/-- What is told of a run, in order. -/
inductive Event where
  | started (platform : Platform)
  | reported (report : Report) (duration : Duration)
  | completed (tally : Tally) (duration : Duration)
  deriving Repr, DecidableEq

/-- A way of writing events, with what it remembers between them. -/
structure Reporter (State : Type) where
  initial : State
  write : Event → State → String × State

namespace Reporter

variable {State : Type}

/-- The texts written of events in order, and what is remembered after them. -/
def writeAll (reporter : Reporter State) : List Event → State → List String × State
  | [], state => ([], state)
  | event :: rest, state =>
      let (text, reached) := reporter.write event state
      let (texts, final) := reporter.writeAll rest reached
      (text :: texts, final)

/-- Everything written of events, from the beginning. -/
def transcript (reporter : Reporter State) (events : List Event) : String :=
  String.join (reporter.writeAll events reporter.initial).1

end Reporter

end Conformance
