import Conformance.Report.Event

namespace Conformance

/-!
# Console reports

People read one line for every scenario, or in compact mode one mark.  What
failed or went wrong is shown again, with its explanation, when the run is over.
-/

/-- The colours of console reports. -/
inductive Colour where
  | red
  | green
  | yellow
  deriving Repr, DecidableEq

namespace Colour

/-- The escape sequence that turns a colour on. -/
def opening : Colour → String
  | .red => "\x1b[31m"
  | .green => "\x1b[32m"
  | .yellow => "\x1b[33m"

/-- The escape sequence that turns every colour off. -/
def closing : String :=
  "\x1b[0m"

/-- The colour of an outcome. -/
def ofOutcome : Outcome → Colour
  | .passed => .green
  | .failed _ => .red
  | .skipped _ => .yellow
  | .errored _ => .red

/-- The colour of a finished run. -/
def ofTally (tally : Tally) : Colour :=
  if tally.isSuccess then .green else .red

end Colour

/-- How much a console report shows, and whether in colours. -/
structure Console where
  verbose : Bool
  coloured : Bool
  deriving Repr, DecidableEq

namespace Console

/-- A text in a colour, if there are colours. -/
def paint (console : Console) (colour : Colour) (text : String) : String :=
  if console.coloured then colour.opening ++ text ++ Colour.closing else text

/-- The mark for an outcome in compact mode. -/
def mark : Outcome → String
  | .passed => "."
  | .failed _ => "F"
  | .skipped _ => "s"
  | .errored _ => "E"

/-- What is added to the label of an outcome: why it was skipped, or how long it took. -/
def remark (duration : Duration) : Outcome → String
  | .skipped reason => reason
  | _ => toString duration.wholeMilliseconds ++ "ms"

/-- What is written when a scenario has ended. -/
def progress (console : Console) (report : Report) (duration : Duration) : String :=
  let colour := Colour.ofOutcome report.outcome
  if console.verbose then
    report.description ++ " ... " ++ console.paint colour report.outcome.label ++
      " (" ++ remark duration report.outcome ++ ")\n"
  else console.paint colour (mark report.outcome)

/-- A failure with its explanation. -/
def failure (console : Console) (report : Report) : String :=
  console.paint .red
    (report.description ++ " [" ++ report.outcome.label ++ "]") ++ "\n" ++
    (match report.outcome.detail with
      | some text => text ++ "\n"
      | none => "") ++
    "\n"

/-- All failures under a headline; nothing if there are none. -/
def failures (console : Console) : List Report → String
  | [] => ""
  | reports =>
      "\n" ++ console.paint .red "====== FAILURES ======" ++ "\n" ++
        String.join (reports.map console.failure)

/-- The last line of a run. -/
def conclusion (console : Console) (tally : Tally) (duration : Duration) : String :=
  console.paint (Colour.ofTally tally)
      ("====== " ++ tally.summary ++ " in " ++ duration.secondsText ++ "s ======") ++
    "\n"

/-- Writes an event; the reports still to be shown as failures are remembered. -/
def write (console : Console) : Event → List Report → String × List Report
  | .started platform, pending =>
      (if console.verbose then "platform: " ++ platform.id ++ "\n" else "", pending)
  | .reported report duration, pending =>
      (console.progress report duration,
        if report.outcome.isFailure then pending ++ [report] else pending)
  | .completed tally duration, pending =>
      ((if console.verbose then "" else "\n") ++ console.failures pending ++
          console.conclusion tally duration,
        [])

/-- Reports for people. -/
def reporter (console : Console) : Reporter (List Report) where
  initial := []
  write := console.write

end Console

end Conformance
