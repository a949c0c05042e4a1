import Conformance.Report.Event

namespace Conformance

/-!
# Delivery

A run is delivered by pulling it to its end and telling every event as it
happens.  How long something takes is for a stopwatch to say.
-/

/-- A way to do something and to tell how long it took. -/
structure Stopwatch (Effect : Type → Type) where
  time : {Result : Type} → (Unit → Effect Result) → Effect (Result × Duration)

namespace Stopwatch

/-- A stopwatch that always tells the same duration. -/
def fixed
    {Effect : Type → Type}
    [Monad Effect]
    (duration : Duration) :
    Stopwatch Effect where
  time := fun action => do
    let result ← action ()
    pure (result, duration)

end Stopwatch

namespace Run

variable {Effect : Type → Type} [Monad Effect] {World Label : Type}

/-- Pulls so many times and tells every report. -/
def tellReports
    (machine : Machine World Label)
    (stopwatch : Stopwatch Effect)
    (tell : Event → Effect Unit) :
    Nat → Run World Label → Effect (Run World Label)
  | 0, run => pure run
  | count + 1, run => do
      match ← stopwatch.time fun _ => pure (run.next machine) with
      | ((none, after), _) => pure after
      | ((some report, after), duration) =>
          tell (.reported report duration)
          tellReports machine stopwatch tell count after

/-- Delivers a run from its start to its end, and gives the run that is left. -/
def deliver
    (machine : Machine World Label)
    (stopwatch : Stopwatch Effect)
    (tell : Event → Effect Unit)
    (run : Run World Label) :
    Effect (Run World Label) := do
  let (final, duration) ← stopwatch.time fun _ => do
    tell (.started run.platform)
    run.tellReports machine stopwatch tell run.owed
  tell (.completed final.tally duration)
  pure final

end Run

namespace Reporter

variable {State : Type}

/-- What a reporter remembers and what it has written so far. -/
structure Transcript (State : Type) where
  state : State
  written : String

/-- Tells a reporter an event and keeps what it writes. -/
def tell
    (reporter : Reporter State)
    (event : Event) :
    StateM (Transcript State) Unit :=
  modify fun transcript =>
    let (text, reached) := reporter.write event transcript.state
    ⟨reached, transcript.written ++ text⟩

variable {World Label : Type}

/--
Delivers a run to a reporter, with every duration alike: the text
and the run that is left.
-/
def follow
    (reporter : Reporter State)
    (machine : Machine World Label)
    (duration : Duration)
    (run : Run World Label) :
    String × Run World Label :=
  let delivery : StateM (Transcript State) (Run World Label) :=
    run.deliver machine (.fixed duration) reporter.tell
  let (final, transcript) := delivery.run ⟨reporter.initial, ""⟩
  (transcript.written, final)

end Reporter

end Conformance
