import Conformance.Proofs.Report.Durations
import Conformance.Report.JsonLines
import Conformance.Text.Lines

namespace Conformance

/-!
# Reports for machines can be read back

What is written of events is one line for each of them, and a reader that knows
the format gets everything back but the durations: two courses of events that
differ in anything else are written differently.  Doubles may be written in any
way, as long as they are bare words.
-/

namespace Text

/-- Lines that hold no line feed are told apart by those that end them. -/
theorem lines_append_newline
    {line : List Char}
    (single : '\n' ∉ line)
    (rest : List Char) :
    lines (line ++ '\n' :: rest) = line :: lines rest := by
  induction line with
  | nil => simp [lines]
  | cons character more inductionHypothesis =>
      obtain ⟨isNot, moreSingle⟩ := not_or.mp (mt List.mem_cons.mpr single)
      rw [List.cons_append, lines, if_neg (Ne.symm isNot),
        inductionHypothesis moreSingle]

theorem lines_flatMap_newline
    {bodies : List (List Char)}
    (single : ∀ body ∈ bodies, '\n' ∉ body) :
    lines (bodies.flatMap (· ++ ['\n'])) = bodies ++ [[]] := by
  induction bodies with
  | nil => rfl
  | cons body rest inductionHypothesis =>
      obtain ⟨bodySingle, restSingle⟩ := List.forall_mem_cons.mp single
      rw [List.flatMap_cons, List.append_assoc, List.singleton_append,
        lines_append_newline bodySingle,
          inductionHypothesis restSingle, List.cons_append]

end Text

theorem Outcome.status_eq_label (outcome : Outcome) :
    outcome.status = outcome.label.toLower := by
  have lowered : outcome.label.toLower = outcome.label.map Char.toLower := rfl
  rw [lowered, ← String.toList_inj, String.toList_map]
  cases outcome <;> simp only [status, label] <;> rfl

namespace JsonLines

/-- What a line tells of an event: everything but how long it took. -/
inductive Told where
  | started (platform : String)
  | reported (group scenario status : String) (detail : Option String)
  | completed (tally : Tally) (success : Bool)
  deriving Repr, DecidableEq

namespace Told

/--
What there is to tell of a report: its names, its status in
lower case, and its detail.
-/
def ofReport (report : Report) : Told :=
  .reported report.group report.scenario report.outcome.label.toLower
    report.outcome.detail

/-- What there is to tell of an event. -/
def ofEvent : Event → Told
  | .started platform => .started platform.id
  | .reported report _ => .ofReport report
  | .completed tally _ => .completed tally tally.isSuccess

end Told

/-- The fields of an object that was read, by their keys. -/
abbrev Fields : Type :=
  List (String × Text.Lexeme)

namespace Fields

variable (fields : Fields) (key : String)

/-- The text of a field. -/
def text? : Option String :=
  match fields.lookup key with
  | some (.text value) => some value
  | _ => none

/-- The text of a field that may be null instead. -/
def nullable? : Option (Option String) :=
  match fields.lookup key with
  | some (.text value) => some (some value)
  | some (.word "null") => some none
  | _ => none

/-- The number of a field. -/
def count? : Option Nat :=
  match fields.lookup key with
  | some (.word letters) => Text.number? letters
  | _ => none

/-- The truth value of a field. -/
def flag? : Option Bool :=
  match fields.lookup key with
  | some (.word "true") => some true
  | some (.word "false") => some false
  | _ => none

/-- What the fields of a line tell. -/
def told? : Option Told := do
  match ← fields.text? "event" with
  | "start" => return .started (← fields.text? "platform")
  | "scenario" =>
      return .reported (← fields.text? "group") (← fields.text? "scenario")
        (← fields.text? "status") (← fields.nullable? "detail")
  | "summary" =>
      return .completed
        ⟨← fields.count? "passed", ← fields.count? "failed",
          ← fields.count? "skipped",
          ← fields.count? "errored"⟩
        (← fields.flag? "success")
  | _ => none

end Fields

/-- The fields of an object as a reader takes them in. -/
def readFields (fields : List (String × Text.Scalar)) : Fields :=
  fields.map fun field => (field.1, field.2.lexeme)

theorem lookup_readFields (fields : List (String × Text.Scalar)) (key : String) :
    (readFields fields).lookup key = (fields.lookup key).map Text.Scalar.lexeme := by
  induction fields with
  | nil => rfl
  | cons field rest inductionHypothesis =>
      obtain ⟨fieldKey, value⟩ := field
      simp only [readFields, List.map_cons,
        List.lookup_cons] at inductionHypothesis ⊢
      split
      · rfl
      · exact inductionHypothesis

variable (number : Float → String)

/--
The fields of an event tell everything that there is to tell of
it, in whatever order.
-/
theorem told?_readFields (event : Event) :
    (readFields (Text.inKeyOrder (fields number event))).told? =
      some (.ofEvent event) := by
  cases event with
  | started platform =>
      simp [fields, Text.inKeyOrder, Text.lookup_putField, lookup_readFields,
        Fields.told?, Fields.text?, Text.Scalar.lexeme, Told.ofEvent]
  | reported report duration =>
      cases detail : report.outcome.detail <;>
        simp [fields, Text.inKeyOrder, Text.lookup_putField, lookup_readFields,
          Fields.told?, Fields.text?, Fields.nullable?,
          Text.Scalar.lexeme, Told.ofEvent,
          Told.ofReport, detail, Outcome.status_eq_label]
  | completed tally duration =>
      cases success : tally.isSuccess <;>
        simp [fields, Text.inKeyOrder, Text.lookup_putField, lookup_readFields,
          Fields.told?, Fields.text?, Fields.count?,
          Fields.flag?, Text.Scalar.lexeme,
          Text.number?_repr, Told.ofEvent, success]

/-- The line of an event, without its end. -/
def body (event : Event) : List Char :=
  Text.objectText (Text.inKeyOrder (fields number event))

theorem fields_ne_nil (event : Event) :
    Text.inKeyOrder (fields number event) ≠ [] := by
  apply Text.inKeyOrder_ne_nil
  cases event <;> nofun

section Words

variable {number : Float → String} (words : WritesWords number)

include words

/-- Every value of an event can be told from the punctuation around it. -/
theorem fields_legible (event : Event) :
    ∀ field ∈ Text.inKeyOrder (fields number event), field.2.Legible := by
  have legible : ∀ field ∈ fields number event, field.2.Legible := by
    cases event with
    | started platform =>
        simp only [fields, List.forall_mem_cons]
        exact ⟨.text _, .text _, nofun⟩
    | reported report duration =>
        simp only [fields, List.forall_mem_cons]
        refine ⟨.text _, .text _, .text _, .text _, ?_, words _, nofun⟩
        cases report.outcome.detail with
        | none => exact .null
        | some text => exact .text text
    | completed tally duration =>
        simp only [fields, List.forall_mem_cons]
        exact
          ⟨.text _, .count _, .count _, .count _, .count _, .flag _, words _, nofun⟩
  exact fun field member => legible field (Text.mem_of_mem_inKeyOrder member)

theorem no_newline_body (event : Event) : '\n' ∉ body number event :=
  Text.no_newline_objectText (fields_ne_nil number event)
    (fields_legible words event)

end Words

/-- What a line tells, if it can be read. -/
def told? (line : List Char) : Option Told :=
  (Text.object? line).bind Fields.told?

theorem told?_body
    {number : Float → String}
    (words : WritesWords number)
    (event : Event) :
    told? (body number event) = some (.ofEvent event) := by
  rw [told?, body,
    Text.object?_objectText (fields_ne_nil number event)
      (fields_legible words event)]
  exact told?_readFields number event

/-- What a text tells, line by line, if every line of it can be read and is ended. -/
def read? (text : String) : Option (List Told) :=
  let lines := Text.lines text.toList
  if lines.getLast? = some [] then lines.dropLast.mapM told? else none

/-- What is written of events is their lines, each of them ended. -/
theorem transcript_eq (events : List Event) :
    ((reporter number).transcript events).toList =
      (events.map (body number)).flatMap (· ++ ['\n']) := by
  have written (state : Unit) :
      ((reporter number).writeAll events state).1 = events.map fun event =>
        String.ofList (body number event ++ ['\n']) := by
    induction events generalizing state with
    | nil => rfl
    | cons event rest inductionHypothesis =>
        simp only [Reporter.writeAll, inductionHypothesis, List.map_cons]
        rw [body, ← Text.objectLine_eq]
        rfl
  rw [Reporter.transcript, written, String.toList_join,
    List.flatMap_map, List.flatMap_map]
  simp only [String.toList_ofList]

/-- What is written of events is read back, whatever texts they carry. -/
theorem read?_transcript
    {number : Float → String}
    (words : WritesWords number)
    (events : List Event) :
    read? ((reporter number).transcript events) = some (events.map .ofEvent) := by
  have single : ∀ line ∈ events.map (body number), '\n' ∉ line := by
    intro line member
    obtain ⟨event, -, rfl⟩ := List.mem_map.mp member
    exact no_newline_body words event
  have toldAll :
      (events.map (body number)).mapM told? = some (events.map .ofEvent) := by
    induction events with
    | nil => rfl
    | cons event rest inductionHypothesis =>
        rw [List.map_cons, List.mapM_cons, told?_body words, inductionHypothesis]
        · rfl
        · exact fun line member => single line (List.mem_cons_of_mem _ member)
  simp only [read?, transcript_eq, Text.lines_flatMap_newline single]
  simp [toldAll]

/-- The events of a run that starts, reports with some durations, and is completed. -/
def course
    (platform : Platform)
    (reports : List (Report × Duration))
    (tally : Tally)
    (lasted : Duration) :
    List Event :=
  .started platform :: reports.map (fun entry => .reported entry.1 entry.2) ++
    [.completed tally lasted]

/--
What is written of a run is one line for its start, one for each report and one
for its end, from which everything but the durations can be read back.
-/
structure Readable
    (number : Float → String)
    (platform : Platform)
    (reports : List (Report × Duration))
    (tally : Tally)
    (lasted : Duration) : Prop where
  lines : ∃ bodies : List String,
    bodies.length = 2 + reports.length ∧
      (reporter number).transcript (course platform reports tally lasted) =
        String.join (bodies.map (· ++ "\n")) ∧
      ∀ body ∈ bodies, '\n' ∉ body.toList
  read :
    read? ((reporter number).transcript (course platform reports tally lasted)) =
      some
        (.started platform.id :: reports.map (fun entry => .ofReport entry.1) ++
          [.completed tally tally.isSuccess])
  distinct : ∀ otherPlatform otherReports otherTally otherLasted,
    (reporter number).transcript (course platform reports tally lasted) =
      (reporter number).transcript
        (course otherPlatform otherReports otherTally otherLasted) →
    platform = otherPlatform ∧
      reports.map (fun entry => Told.ofReport entry.1) =
        otherReports.map (fun entry => Told.ofReport entry.1) ∧
      tally = otherTally

/-- Everything but the durations in the events of a run. -/
theorem map_ofEvent_course
    (platform : Platform)
    (reports : List (Report × Duration))
    (tally : Tally)
    (lasted : Duration) :
    (course platform reports tally lasted).map Told.ofEvent =
      .started platform.id :: reports.map (fun entry => .ofReport entry.1) ++
        [.completed tally tally.isSuccess] := by
  simp [course, Told.ofEvent]

/--
Whatever texts a run reports, they can be read back from its lines, if the library
that writes doubles writes bare words.
-/
theorem readable
    {number : Float → String}
    (words : WritesWords number)
    (platform : Platform)
    (reports : List (Report × Duration))
    (tally : Tally)
    (lasted : Duration) :
    Readable number platform reports tally lasted := by
  have read := read?_transcript words (course platform reports tally lasted)
  exact {
    lines := by
      refine
        ⟨(course platform reports tally lasted).map fun event =>
          String.ofList (body number event), by simp [course]; omega, ?_, ?_⟩
      · rw [← String.toList_inj, transcript_eq, String.toList_join, List.map_map,
          List.flatMap_map, List.flatMap_map]
        simp
      · intro line member
        obtain ⟨event, -, rfl⟩ := List.mem_map.mp member
        rw [String.toList_ofList]
        exact no_newline_body words event
    read := by rw [read, map_ofEvent_course]
    distinct := by
      intro otherPlatform otherReports otherTally otherLasted same
      have otherRead :=
        read?_transcript words (course otherPlatform otherReports otherTally otherLasted)
      rw [← same, read, map_ofEvent_course, map_ofEvent_course] at otherRead
      obtain ⟨sameStart, sameRest⟩ := List.cons.inj (Option.some.inj otherRead)
      obtain ⟨sameReports, sameEnd⟩ := List.append_inj' sameRest rfl
      refine ⟨?_, sameReports, ?_⟩
      · cases platform
        cases otherPlatform
        exact congrArg Platform.mk (Told.started.inj sameStart)
      · exact (Told.completed.inj (List.cons.inj sameEnd).1).1 }

/--
A run with a failure whose text holds a quote and a line feed,
doubles in fewest digits.
-/
theorem readable_doubleText :
    WritesWords doubleText ∧
      Readable doubleText ⟨"x86_64-linux"⟩
        [(⟨"Hash", "keeps \"keys\"", .failed "Expected \"a\"\nto equal nil"⟩, ⟨1500000⟩)]
        ⟨0, 1, 0, 0⟩ ⟨2500000000⟩ :=
  ⟨writesWords_doubleText, readable writesWords_doubleText _ _ _ _⟩

end JsonLines

end Conformance
