import Conformance.Report.Event
import Conformance.Text.JsonLine

namespace Conformance

/-!
# Reports for machines

Every event is one object on one line.  How a double is written as a token is left
to a library outside, so it is a parameter.
-/

namespace Outcome

/-- The word for an outcome in reports for machines. -/
def status : Outcome → String
  | .passed => "passed"
  | .failed _ => "failed"
  | .skipped _ => "skipped"
  | .errored _ => "error"

end Outcome

namespace JsonLines

/-- The fields of an event. -/
def fields (number : Float → String) : Event → List (String × Text.Scalar)
  | .started platform => [("event", .text "start"), ("platform", .text platform.id)]
  | .reported report duration =>
      [("event", .text "scenario"),
        ("group", .text report.group),
        ("scenario", .text report.scenario),
        ("status", .text report.outcome.status),
        ("detail", match report.outcome.detail with
          | some text => .text text
          | none => .null),
        ("duration_ms", .decimal (number duration.milliseconds))]
  | .completed tally duration =>
      [("event", .text "summary"),
        ("passed", .count tally.passed),
        ("failed", .count tally.failed),
        ("skipped", .count tally.skipped),
        ("errored", .count tally.errored),
        ("success", .flag tally.isSuccess),
        ("duration_s", .decimal (number duration.seconds))]

/-- Reports for machines; nothing is remembered between events. -/
def reporter (number : Float → String) : Reporter Unit where
  initial := ()
  write :=
    fun event state => (String.ofList (Text.objectLine (fields number event)), state)

end JsonLines

end Conformance
