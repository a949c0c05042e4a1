import Conformance.Proofs.Suite.Tallies
import Conformance.Report.Console

namespace Conformance

/-!
# The failures that a console lists

A console writes the progress of a run at once and keeps the reports of what failed
until the run is over.  A console that is told of several runs, one after the other,
lists every failure once: at the end of the run that it belongs to, in the order in
which the reports came.  In compact mode the progress is one mark for each report,
and the marks can be read back.
-/

namespace Outcome

/-- The classes of outcomes. -/
inductive Kind where
  | passed
  | failed
  | skipped
  | errored
  deriving Repr, DecidableEq

/-- The class of an outcome. -/
def kind : Outcome → Kind
  | .passed => .passed
  | .failed _ => .failed
  | .skipped _ => .skipped
  | .errored _ => .errored

end Outcome

namespace Event

/-- The report that an event tells of. -/
def report? : Event → Option Report
  | .reported report _ => some report
  | _ => none

/-- Whether an event is the end of a run. -/
def isCompletion : Event → Bool
  | .completed _ _ => true
  | _ => false

/-- The reports of what failed or went wrong, in order. -/
def failures (events : List Event) : List Report :=
  (events.filterMap report?).filter fun report =>
    report.outcome matches .failed _ | .errored _

theorem failures_append (earlier later : List Event) :
    failures (earlier ++ later) = failures earlier ++ failures later := by
  rw [failures, List.filterMap_append, List.filter_append]
  rfl

theorem fails_of_mem_failures
    {events : List Event}
    {report : Report}
    (member : report ∈ failures events) :
    report.outcome.Fails := by
  have isFailure := (List.mem_filter.mp member).2
  cases outcome : report.outcome with
  | failed message => exact .failed message
  | errored cause => exact .errored cause
  | passed | skipped => simp [outcome] at isFailure

end Event

namespace Reporter

variable {State : Type} (reporter : Reporter State)

/-- What is written of later events depends on the earlier ones by what these leave. -/
theorem writeAll_append (earlier later : List Event) (state : State) :
    reporter.writeAll (earlier ++ later) state =
      ((reporter.writeAll earlier state).1 ++
          (reporter.writeAll later (reporter.writeAll earlier state).2).1,
        (reporter.writeAll later (reporter.writeAll earlier state).2).2) := by
  induction earlier generalizing state with
  | nil => rfl
  | cons event rest inductionHypothesis =>
      simp only [List.cons_append, writeAll, inductionHypothesis]

/-- Each event is written as one text. -/
theorem length_writeAll (events : List Event) (state : State) :
    (reporter.writeAll events state).1.length = events.length := by
  induction events generalizing state with
  | nil => rfl
  | cons event rest inductionHypothesis =>
      simp only [writeAll, List.length_cons, inductionHypothesis]

end Reporter

namespace Console

/--
Reports are listed one after the other, each under its description and
label with its detail.
-/
inductive Lists (console : Console) : List Report → String → Prop where
  | nil : Lists console [] ""
  | cons
      {report : Report}
      {rest : List Report}
      {detail text : String}
      (explained : report.outcome.detail = some detail)
      (later : Lists console rest text) :
      Lists console (report :: rest)
        (console.paint .red
          (report.description ++ " [" ++ report.outcome.label ++ "]") ++ "\n" ++
          detail ++ "\n\n" ++ text)

/-- The headline of the failures. -/
def headline : String :=
  "====== FAILURES ======"

/-- Reports are listed under the headline; if there are none, nothing is written. -/
inductive Headed (console : Console) : List Report → String → Prop where
  | none : Headed console [] ""
  | some
      {reports : List Report}
      {text : String}
      (notEmpty : reports ≠ [])
      (lists : Lists console reports text) :
      Headed console reports ("\n" ++ console.paint .red headline ++ "\n" ++ text)

/-- What a compact console writes of a report. -/
def paintedMark (console : Console) (report : Report) : String :=
  console.paint (Colour.ofOutcome report.outcome) (mark report.outcome)

/--
What a console makes of events: a text for each of them, the reports that are listed
in it, and the reports that are left for later.
-/
structure ListsFailures
    (console : Console)
    (events : List Event)
    (texts : List String)
    (listed : List (List Report))
    (pending : List Report) : Prop where
  written : console.reporter.writeAll events console.reporter.initial =
    (texts, pending)
  inOrder : listed.flatten ++ pending = Event.failures events
  onlyFailures : ∀ report ∈ listed.flatten ++ pending, report.outcome.Fails
  completed : ∀ {place : Nat} {tally duration},
    events[place]? = some (Event.completed tally duration) →
    ∃ reports listing,
      listed[place]? = some reports ∧
        console.Headed reports listing ∧
        texts[place]? =
          some ((if console.verbose then "" else "\n") ++ listing ++
            console.conclusion tally duration)
  elsewhere : ∀ {place : Nat} {event},
    events[place]? = some event → event.isCompletion = false →
      listed[place]? = some []
  caughtUp : ∀ {place : Nat} {tally duration},
    events[place]? = some (Event.completed tally duration) →
    (listed.take (place + 1)).flatten = Event.failures (events.take (place + 1))
  headed : ∀ {place : Nat} {tally duration text reports},
    events[place]? = some (Event.completed tally duration) →
    texts[place]? = some text →
    listed[place]? = some reports →
    (Text.occursIn headline text = true ↔ reports ≠ [])
  marks : ∀ {front stretch back},
    console.verbose = false →
    events = front ++ stretch ++ back →
    (∀ event ∈ stretch, event.isCompletion = false) →
    ∃ before between after,
      texts = before ++ between ++ after ∧
        before.length = front.length ∧
        between.length = stretch.length ∧
        String.join between =
          String.join ((stretch.filterMap Event.report?).map console.paintedMark)
  telling : ∀ {reports others : List Report},
    String.join (reports.map console.paintedMark) =
      String.join (others.map console.paintedMark) ↔
      reports.map (fun report => report.outcome.kind) =
        others.map (fun report => report.outcome.kind)

/--
The reports that are listed at each event, with those that are
pending before the first one.
-/
def listedFrom (console : Console) : List Event → List Report → List (List Report)
  | [], _ => []
  | event :: rest, pending =>
      (if event.isCompletion then pending else []) ::
        listedFrom console rest (console.write event pending).2

variable {console : Console} {events : List Event} {pending : List Report}

/-- A failure is always explained. -/
theorem lists_of_failures
    (allFail : ∀ report ∈ pending, report.outcome.Fails) :
    console.Lists pending (String.join (pending.map console.failure)) := by
  induction pending with
  | nil => exact .nil
  | cons report rest inductionHypothesis =>
      obtain ⟨fails, restFail⟩ := List.forall_mem_cons.mp allFail
      have later := inductionHypothesis restFail
      obtain ⟨detail, explained⟩ :
          ∃ detail, report.outcome.detail = some detail := by
        cases outcome : report.outcome with
        | passed | skipped =>
            rw [outcome] at fails
            cases fails
        | failed message => exact ⟨message, rfl⟩
        | errored cause => exact ⟨cause.text, rfl⟩
      have shape :
          String.join ((report :: rest).map console.failure) =
            console.paint .red
              (report.description ++ " [" ++ report.outcome.label ++ "]") ++
              "\n" ++ detail ++ "\n\n" ++
                String.join (rest.map console.failure) := by
        simp only [List.map_cons, String.join_cons, failure, explained,
          String.append_assoc]
        rfl
      rw [shape]
      exact .cons explained later

theorem headed_failures
    (allFail : ∀ report ∈ pending, report.outcome.Fails) :
    console.Headed pending (console.failures pending) := by
  cases pending with
  | nil => exact .none
  | cons report rest => exact .some nofun (lists_of_failures allFail)

/--
At one event, what is listed and then what is left is what was
pending and what failed.
-/
theorem listed_write
    (console : Console)
    (event : Event)
    (pending : List Report) :
    (if event.isCompletion then pending else []) ++ (console.write event pending).2 =
      pending ++ Event.failures [event] := by
  cases event with
  | started platform => exact (List.append_nil pending).symm
  | completed tally duration => rfl
  | reported report duration =>
      cases outcome : report.outcome <;>
        simp [Event.isCompletion, Event.failures, Event.report?, write,
          Outcome.isFailure, outcome]

/--
What is listed at the events, and then what is left, is what was
pending and what failed.
-/
theorem listedFrom_flatten
    (console : Console)
    (events : List Event)
    (pending : List Report) :
    (console.listedFrom events pending).flatten ++
        (console.reporter.writeAll events pending).2 =
      pending ++ Event.failures events := by
  induction events generalizing pending with
  | nil => simp [listedFrom, Reporter.writeAll, Event.failures]
  | cons event rest inductionHypothesis =>
      have later := inductionHypothesis (console.write event pending).2
      calc
        (console.listedFrom (event :: rest) pending).flatten ++
              (console.reporter.writeAll (event :: rest) pending).2
            = (if event.isCompletion then pending else []) ++
                ((console.listedFrom rest (console.write event pending).2).flatten ++
                  (console.reporter.writeAll rest (console.write event pending).2).2) :=
          List.append_assoc _ _ _
        _ = (if event.isCompletion then pending else []) ++
              (console.write event pending).2 ++ Event.failures rest := by
          rw [later, List.append_assoc]
        _ = pending ++ Event.failures (event :: rest) := by
          rw [listed_write, List.append_assoc, ← Event.failures_append,
            List.singleton_append]

/-- The end of a run leaves nothing of what failed until then for later. -/
theorem listedFrom_take
    {place : Nat}
    {tally : Tally}
    {duration : Duration}
    (isCompleted : events[place]? = some (Event.completed tally duration))
    (console : Console)
    (pending : List Report) :
    ((console.listedFrom events pending).take (place + 1)).flatten =
      pending ++ Event.failures (events.take (place + 1)) := by
  induction events generalizing place pending with
  | nil => simp at isCompleted
  | cons event rest inductionHypothesis =>
      cases place with
      | zero =>
          cases isCompleted
          simp [listedFrom, Event.isCompletion, Event.failures, Event.report?]
      | succ place =>
          have later :=
            inductionHypothesis isCompleted (console.write event pending).2
          rw [listedFrom, List.take_succ_cons, List.flatten_cons, later,
            ← List.append_assoc, listed_write, List.append_assoc,
            ← Event.failures_append,
            List.singleton_append, List.take_succ_cons]

theorem listedFrom_elsewhere
    {place : Nat}
    {event : Event}
    (isEvent : events[place]? = some event)
    (notCompleted : event.isCompletion = false)
    (console : Console)
    (pending : List Report) :
    (console.listedFrom events pending)[place]? = some [] := by
  induction events generalizing place pending with
  | nil => simp at isEvent
  | cons first rest inductionHypothesis =>
      cases place with
      | zero =>
          cases isEvent
          simp [listedFrom, notCompleted]
      | succ place =>
          exact inductionHypothesis isEvent (console.write first pending).2

/--
The end of a run writes the failures that are listed at it, and then the conclusion.
-/
theorem texts_of_completed
    {place : Nat}
    {tally : Tally}
    {duration : Duration}
    (isCompleted : events[place]? = some (Event.completed tally duration))
    (console : Console)
    (pending : List Report) :
    ∃ reports,
      (console.listedFrom events pending)[place]? = some reports ∧
        (console.reporter.writeAll events pending).1[place]? =
          some ((if console.verbose then "" else "\n") ++ console.failures reports ++
            console.conclusion tally duration) := by
  induction events generalizing place pending with
  | nil => simp at isCompleted
  | cons first rest inductionHypothesis =>
      cases place with
      | zero =>
          cases isCompleted
          exact ⟨pending, rfl, rfl⟩
      | succ place =>
          exact inductionHypothesis isCompleted (console.write first pending).2

/-- Between the ends of runs, a compact console writes one mark for each report. -/
theorem join_marks
    (compact : console.verbose = false)
    (uncompleted : ∀ event ∈ events, event.isCompletion = false)
    (pending : List Report) :
    String.join (console.reporter.writeAll events pending).1 =
      String.join ((events.filterMap Event.report?).map console.paintedMark) := by
  induction events generalizing pending with
  | nil => rfl
  | cons event rest inductionHypothesis =>
      obtain ⟨notCompleted, restUncompleted⟩ := List.forall_mem_cons.mp uncompleted
      have later :=
        inductionHypothesis restUncompleted (console.write event pending).2
      have split :
          String.join (console.reporter.writeAll (event :: rest) pending).1 =
            (console.write event pending).1 ++
              String.join (console.reporter.writeAll rest (console.write event pending).2).1 :=
        String.join_cons
      rw [split, later]
      cases event with
      | started platform =>
          simp only [write, compact, Bool.false_eq_true, ↓reduceIte,
            String.empty_append]
          rfl
      | reported report duration =>
          simp only [write, progress, compact, Bool.false_eq_true, ↓reduceIte]
          exact String.join_cons.symm
      | completed tally duration => cases notCompleted

section Telling

variable {reports others : List Report}

/-- All marks are equally long. -/
theorem length_paintedMark (console : Console) (report : Report) :
    (console.paintedMark report).toList.length =
      if console.coloured then 10 else 1 := by
  obtain ⟨verbose, coloured⟩ := console
  obtain ⟨group, scenario, outcome⟩ := report
  cases coloured <;> cases outcome <;>
    simp only [paintedMark, paint, Colour.ofOutcome, Colour.opening, Colour.closing,
      mark, Bool.false_eq_true, ↓reduceIte] <;>
    decide

/-- Two marks are the same for outcomes of one class and for no others. -/
theorem paintedMark_eq_iff {report other : Report} :
    console.paintedMark report = console.paintedMark other ↔
      report.outcome.kind = other.outcome.kind := by
  obtain ⟨verbose, coloured⟩ := console
  obtain ⟨group, scenario, outcome⟩ := report
  obtain ⟨otherGroup, otherScenario, otherOutcome⟩ := other
  cases coloured <;> cases outcome <;> cases otherOutcome <;>
    simp [paintedMark, paint, Colour.ofOutcome, Colour.opening,
      Colour.closing, mark, Outcome.kind]

theorem paintedMark_ne_empty (console : Console) (report : Report) :
    console.paintedMark report ≠ "" := by
  intro isEmpty
  have long := console.length_paintedMark report
  rw [isEmpty] at long
  cases coloured : console.coloured <;> simp [coloured] at long

/-- The classes of the outcomes can be read off the marks, and nothing else can. -/
theorem join_marks_eq_iff :
    String.join (reports.map console.paintedMark) =
        String.join (others.map console.paintedMark) ↔
      reports.map (fun report => report.outcome.kind) =
        others.map (fun report => report.outcome.kind) := by
  induction reports generalizing others with
  | nil =>
      cases others with
      | nil => simp
      | cons other rest => simp [String.join_cons, paintedMark_ne_empty]
  | cons report rest inductionHypothesis =>
      cases others with
      | nil => simp [String.join_cons, paintedMark_ne_empty]
      | cons other otherRest =>
          simp only [List.map_cons, String.join_cons, List.cons.injEq,
            ← inductionHypothesis]
          constructor
          · intro same
            rw [← String.toList_inj, String.toList_append,
              String.toList_append] at same
            have sameLength :
                (console.paintedMark report).toList.length =
                  (console.paintedMark other).toList.length := by
              rw [length_paintedMark, length_paintedMark]
            obtain ⟨sameFirst, sameRest⟩ := List.append_inj same sameLength
            exact ⟨paintedMark_eq_iff.mp (String.toList_inj.mp sameFirst),
              String.toList_inj.mp sameRest⟩
          · intro same
            rw [paintedMark_eq_iff.mpr same.1, same.2]

end Telling

section Headline

/-- What stands in joined parts stands in one of them or between them. -/
theorem mem_of_mem_intercalate
    {letter : Char}
    {separator : List Char}
    {parts : List (List Char)}
    (member : letter ∈ separator.intercalate parts) :
    letter ∈ separator ∨ ∃ part ∈ parts, letter ∈ part := by
  induction parts with
  | nil => simp at member
  | cons part rest inductionHypothesis =>
      cases rest with
      | nil => exact .inr ⟨part, List.mem_cons_self, by simpa using member⟩
      | cons next others =>
          rw [List.intercalate_cons_cons, List.mem_append, List.mem_append] at member
          rcases member with (inPart | between) | inRest
          · exact .inr ⟨part, List.mem_cons_self, inPart⟩
          · exact .inl between
          · rcases inductionHypothesis inRest with
              between | ⟨other, isOther, inOther⟩
            · exact .inl between
            · exact .inr ⟨other, List.mem_cons_of_mem _ isOther, inOther⟩

theorem isDigit_of_mem_digits
    {letter : Char}
    {number : Nat}
    (member : letter ∈ Nat.toDigits 10 number) :
    letter.isDigit = true :=
  Nat.isDigit_of_mem_toDigits (by decide) (by decide) member

/-- A number is written in digits. -/
theorem isDigit_of_mem_toString
    {letter : Char}
    {number : Nat}
    (member : letter ∈ (toString number).toList) :
    letter.isDigit = true := by
  have digits : (toString number).toList = Nat.toDigits 10 number :=
    String.toList_ofList
  rw [digits] at member
  exact isDigit_of_mem_digits member

/-- A summary is made of digits and of the words for the classes. -/
theorem mem_of_mem_summary
    {letter : Char}
    {tally : Tally}
    (member : letter ∈ tally.summary.toList) :
    letter.isDigit = true ∨
      letter ∈ "no scenarios ran, passed, failed, skipped, errored".toList := by
  unfold Tally.summary at member
  split at member
  · exact .inr (List.subset_def.mp (by decide) member)
  rw [String.toList_intercalate] at member
  rcases mem_of_mem_intercalate member with between | ⟨characters, isPart, inPart⟩
  · exact .inr (List.subset_def.mp (by decide) between)
  obtain ⟨part, isListed, rfl⟩ := List.mem_map.mp isPart
  obtain ⟨⟨number, word⟩, isCount, rfl⟩ := List.mem_map.mp isListed
  simp only [String.toList_append, List.mem_append] at inPart
  rcases inPart with (inNumber | isBlank) | inWord
  · exact .inl (isDigit_of_mem_toString inNumber)
  · exact .inr (List.subset_def.mp (by decide) isBlank)
  · have isOne := (List.mem_filter.mp isCount).1
    simp only [List.mem_cons, Prod.mk.injEq, List.not_mem_nil, or_false] at isOne
    right
    rcases isOne with ⟨-, rfl⟩ | ⟨-, rfl⟩ | ⟨-, rfl⟩ | ⟨-, rfl⟩ <;>
      exact List.subset_def.mp (by decide) inWord

/-- A number of seconds is made of digits and a point. -/
theorem mem_of_mem_secondsText
    {letter : Char}
    {duration : Duration}
    (member : letter ∈ duration.secondsText.toList) :
    letter.isDigit = true ∨ letter = '.' := by
  rw [Duration.secondsText, Decimal.Magnitude.fixed, String.toList_ofList,
    List.mem_append, List.mem_append] at member
  rcases member with (inWhole | isPoint) | inFraction
  · exact .inl (isDigit_of_mem_digits inWhole)
  · exact .inr (List.mem_singleton.mp isPoint)
  · rw [Decimal.padded, List.mem_append] at inFraction
    rcases inFraction with isZero | inDigits
    · obtain rfl := List.eq_of_mem_replicate isZero
      exact .inl rfl
    · exact .inl (isDigit_of_mem_digits inDigits)

theorem not_mem_paint
    {text : String}
    (notInText : 'F' ∉ text.toList)
    (console : Console)
    (colour : Colour) :
    'F' ∉ (console.paint colour text).toList := by
  cases coloured : console.coloured with
  | false => simpa [paint, coloured] using notInText
  | true =>
      have notInOpening : 'F' ∉ colour.opening.toList := by
        cases colour <;> decide
      have notInClosing : 'F' ∉ Colour.closing.toList := by decide
      simp [paint, coloured, notInOpening, notInText, notInClosing]

theorem not_mem_conclusion
    (console : Console)
    (tally : Tally)
    (duration : Duration) :
    'F' ∉ (console.conclusion tally duration).toList := by
  rw [conclusion, String.toList_append, List.mem_append, not_or]
  refine ⟨not_mem_paint ?_ console _, by decide⟩
  have notInSummary : 'F' ∉ tally.summary.toList := by
    intro member
    rcases mem_of_mem_summary member with isDigit | inWords
    · cases isDigit
    · revert inWords
      decide
  have notInSeconds : 'F' ∉ duration.secondsText.toList := by
    intro member
    rcases mem_of_mem_secondsText member with isDigit | isPoint
    · cases isDigit
    · cases isPoint
  simp only [String.toList_append, List.mem_append, not_or]
  exact ⟨⟨⟨⟨by decide, notInSummary⟩, by decide⟩, notInSeconds⟩, by decide⟩

theorem headline_in_paint
    (console : Console)
    (colour : Colour) :
    Text.occursIn headline (console.paint colour headline) = true := by
  cases coloured : console.coloured with
  | false =>
      simp only [paint, coloured, Bool.false_eq_true, ↓reduceIte]
      exact Text.occursIn_self headline
  | true =>
      simp only [paint, coloured, ↓reduceIte]
      exact Text.occursIn_middle colour.opening headline Colour.closing

/--
The headline stands in what is written at the end of a run exactly
if something is listed.
-/
theorem headline_iff
    (console : Console)
    (reports : List Report)
    (tally : Tally)
    (duration : Duration) :
    Text.occursIn headline
        ((if console.verbose then "" else "\n") ++ console.failures reports ++
          console.conclusion tally duration) = true ↔
      reports ≠ [] := by
  cases reports with
  | nil =>
      simp only [ne_eq, not_true_eq_false, iff_false]
      intro occurs
      obtain ⟨before, after, split⟩ := Text.occursIn_iff.mp occurs
      have inHeadline : 'F' ∈ headline.toList := by decide
      have inWhole :
          'F' ∈
            ((if console.verbose then "" else "\n") ++ console.failures [] ++
              console.conclusion tally duration).toList := by
        rw [← split]
        exact List.mem_append_left _ (List.mem_append_right _ inHeadline)
      simp only [failures, String.toList_append, List.mem_append] at inWhole
      rcases inWhole with (inLead | inNothing) | inConclusion
      · cases verbose : console.verbose <;> rw [verbose] at inLead <;> revert inLead
          <;> decide
      · revert inNothing
        decide
      · exact not_mem_conclusion console tally duration inConclusion
  | cons report rest =>
      simp only [ne_eq, reduceCtorEq, not_false_eq_true, iff_true]
      refine Text.occursIn_trans (console.headline_in_paint .red) ?_
      have shape :
          (if console.verbose then "" else "\n") ++ console.failures (report :: rest) ++
              console.conclusion tally duration =
            ((if console.verbose then "" else "\n") ++ "\n") ++
              console.paint .red headline ++
              ("\n" ++ String.join ((report :: rest).map console.failure) ++
                console.conclusion tally duration) := by
        simp only [failures, headline, String.append_assoc]
      rw [shape]
      exact Text.occursIn_middle _ _ _

end Headline

/--
Every failure is listed once, at the end of its run, and in compact mode each report has
a mark that tells the class of its outcome.
-/
theorem failuresListed (console : Console) (events : List Event) :
    ∃ texts listed pending, console.ListsFailures events texts listed pending := by
  have inOrder := console.listedFrom_flatten events []
  have onlyFailures :
      ∀ report ∈ (console.listedFrom events []).flatten ++
          (console.reporter.writeAll events []).2,
        report.outcome.Fails := by
    intro report member
    rw [inOrder] at member
    exact Event.fails_of_mem_failures member
  refine ⟨(console.reporter.writeAll events []).1, console.listedFrom events [],
    (console.reporter.writeAll events []).2, ?_⟩
  exact {
    written := rfl
    inOrder := inOrder
    onlyFailures := onlyFailures
    completed := by
      intro place tally duration isCompleted
      obtain ⟨reports, isListed, written⟩ :=
        texts_of_completed isCompleted console []
      refine ⟨reports, console.failures reports, isListed,
        headed_failures ?_, written⟩
      intro report member
      refine onlyFailures report (List.mem_append_left _ (List.mem_flatten.mpr ?_))
      exact ⟨reports, List.mem_of_getElem? isListed, member⟩
    elsewhere := fun isEvent notCompleted =>
      listedFrom_elsewhere isEvent notCompleted console []
    caughtUp := fun isCompleted => listedFrom_take isCompleted console []
    headed := by
      intro place tally duration text reports isCompleted isText isListed
      obtain ⟨listed, isThese, written⟩ := texts_of_completed isCompleted console []
      rw [isListed] at isThese
      cases isThese
      rw [written] at isText
      cases isText
      exact console.headline_iff reports tally duration
    marks := by
      intro front stretch back compact split uncompleted
      subst split
      have writtenApart :=
        console.reporter.writeAll_append (front ++ stretch) back []
      have writtenFront := console.reporter.writeAll_append front stretch []
      rw [writtenFront] at writtenApart
      refine ⟨_, _, _, congrArg Prod.fst writtenApart, ?_, ?_, ?_⟩
      · exact console.reporter.length_writeAll front []
      · exact console.reporter.length_writeAll stretch _
      · exact join_marks compact uncompleted _
    telling := join_marks_eq_iff }

end Console

end Conformance
