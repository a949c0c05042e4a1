import Conformance.Proofs.Suite.Tallies
import Conformance.Report.Delivery

namespace Conformance

/-!
# What a delivery tells

A delivery tells the start of a run, then every report of the run in order, and
then the tally of the run, whatever the reporter does with what it is told and
whatever the clock shows.
-/

/--
A stopwatch that sets a mark when an action begins, and tells the time
from there at its end.
-/
def Stopwatch.between
    {Effect : Type → Type} [Monad Effect]
    {Mark : Type}
    (mark : Effect Mark)
    (lap : Mark → Effect Duration) :
    Stopwatch Effect where
  time := fun action => do
    let began ← mark
    let result ← action ()
    let duration ← lap began
    pure (result, duration)

theorem Stopwatch.between_time
    {Effect : Type → Type} [Monad Effect]
    {Mark Result : Type}
    (mark : Effect Mark)
    (lap : Mark → Effect Duration)
    (action : Unit → Effect Result) :
    (Stopwatch.between mark lap).time action = (do
      let began ← mark
      let result ← action ()
      let duration ← lap began
      pure (result, duration)) :=
  rfl

section Telling

variable {World Label : Type} {machine : Machine World Label}
variable {Effect : Type → Type} [Monad Effect] [LawfulMonad Effect] {Mark : Type}
variable (mark : Effect Mark) (lap : Mark → Effect Duration)
variable (tell : Event → Effect Unit)

/-- Tells reports one after another, each with a time that the clock shows. -/
def Run.tellTimed : List Report → Effect Unit
  | [] => pure ()
  | report :: rest => do
      let began ← mark
      let duration ← lap began
      tell (.reported report duration)
      tellTimed rest

/-- The events of reports in order, each with the duration that the clock shows for it. -/
def Run.timed (reports : List Report) : Effect (List Event) :=
  reports.mapM fun report => do
    let began ← mark
    let duration ← lap began
    pure (.reported report duration)

/-- Looks at the clock for the call that answers nothing, if one of so many calls does. -/
def Run.lookIdly
    (machine : Machine World Label)
    (run : Run World Label)
    (count : Nat) :
    Effect Unit :=
  if (run.pull machine count).1.length < count then do
    let began ← mark
    let _ ← lap began
  else pure ()

/-- Telling what a run answers to so many calls is telling the reports that they yield. -/
theorem Run.tellReports_eq (run : Run World Label) (count : Nat) :
    run.tellReports machine (.between mark lap) tell count = (do
      tellTimed mark lap tell (run.pull machine count).1
      lookIdly mark lap machine run count
      pure (run.pull machine count).2) := by
  induction count generalizing run with
  | zero => simp [tellReports, pull, tellTimed, lookIdly]
  | succ count inductionHypothesis =>
      rcases pulled : run.next machine with ⟨_ | report, reached⟩
      · have nothing := pull_of_next_none pulled count
        simp [tellReports, pull, pulled, nothing, Stopwatch.between_time,
          tellTimed, lookIdly]
      · simp only [tellReports, Stopwatch.between_time, pull, pulled,
          inductionHypothesis, tellTimed, lookIdly, List.length_cons,
          Nat.add_lt_add_iff_right, bind_assoc, pure_bind]

/--
A delivery tells the start of a run, its reports, and its final tally,
and gives the run back.
-/
theorem Run.deliver_eq (run : Run World Label) :
    run.deliver machine (.between mark lap) tell = (do
      let began ← mark
      tell (.started run.platform)
      tellTimed mark lap tell (run.complete machine).1
      lookIdly mark lap machine run run.owed
      let duration ← lap began
      tell (.completed (run.complete machine).2.tally duration)
      pure (run.complete machine).2) := by
  simp only [deliver, Stopwatch.between_time, tellReports_eq, complete,
    bind_assoc, pure_bind]

end Telling

namespace Reporter

variable {State : Type}

/-- What a reporter remembers and has written when it has been told events in order. -/
def told
    (reporter : Reporter State)
    (events : List Event)
    (transcript : Transcript State) :
    Transcript State :=
  let (texts, reached) := reporter.writeAll events transcript.state
  ⟨reached, transcript.written ++ String.join texts⟩

variable {reporter : Reporter State} {transcript : Transcript State}

theorem told_nil : reporter.told [] transcript = transcript := by
  simp [told, writeAll]

/-- Telling events is telling the first one, and then the others to what it left. -/
theorem told_cons (event : Event) (events : List Event) :
    reporter.told (event :: events) transcript =
      reporter.told events ((reporter.tell event).run transcript).2 := by
  simp only [told, writeAll, String.join_cons, ← String.append_assoc]
  rfl

theorem told_append (earlier later : List Event) :
    reporter.told (earlier ++ later) transcript =
      reporter.told later (reporter.told earlier transcript) := by
  induction earlier generalizing transcript with
  | nil => rw [told_nil, List.nil_append]
  | cons event rest inductionHypothesis =>
      rw [List.cons_append, told_cons, told_cons, inductionHypothesis]

/-- What a reporter has been told from its beginning is in its transcript. -/
theorem told_initial (reporter : Reporter State) (events : List Event) :
    (reporter.told events ⟨reporter.initial, ""⟩).written =
      reporter.transcript events := by
  simp only [told, transcript, String.empty_append]

variable {World Label : Type} {machine : Machine World Label}
variable {Effect : Type → Type} [Monad Effect] {Mark : Type}

/-- Tells a reporter an event and has no other effect. -/
def tellBeside (reporter : Reporter State) (event : Event) :
    StateT (Transcript State) Effect Unit :=
  fun transcript => pure ((reporter.tell event).run transcript)

/-- Delivers a run to a reporter by a clock that may have effects of its own. -/
def attend
    (reporter : Reporter State)
    (machine : Machine World Label)
    (mark : Effect Mark)
    (lap : Mark → Effect Duration)
    (run : Run World Label) :
    StateT (Transcript State) Effect (Run World Label) :=
  run.deliver machine
    (.between (liftM mark) fun began => liftM (lap began)) reporter.tellBeside

theorem tellBeside_run (event : Event) :
    (reporter.tellBeside event).run transcript =
      (pure ((), ((reporter.tell event).run transcript).2) : Effect
        (Unit × Transcript State)) :=
  rfl

variable [LawfulMonad Effect]

theorem tellTimed_run
    (mark : Effect Mark)
    (lap : Mark → Effect Duration)
    (reports : List Report) :
    (Run.tellTimed (liftM mark) (fun began => liftM (lap began)) reporter.tellBeside
        reports).run transcript =
      (do
        let events ← Run.timed mark lap reports
        pure ((), reporter.told events transcript)) := by
  induction reports generalizing transcript with
  | nil => simp [Run.tellTimed, Run.timed, told_nil]
  | cons report rest inductionHypothesis =>
      simp [Run.tellTimed, Run.timed, tellBeside_run, inductionHypothesis, told_cons]

theorem lookIdly_run
    (mark : Effect Mark)
    (lap : Mark → Effect Duration)
    (run : Run World Label)
    (count : Nat) :
    (Run.lookIdly (liftM mark) (fun began => liftM (lap began)) machine run count :
        StateT (Transcript State) Effect Unit).run transcript =
      (do
        Run.lookIdly mark lap machine run count
        pure ((), transcript)) := by
  unfold Run.lookIdly
  split <;> simp

end Reporter

/--
Everything that there is to tell of a run, in order: its start, its reports, and
the tally that they come to.  Only the durations are up to the clock.
-/
def Run.events
    {World Label : Type} {Effect : Type → Type} [Monad Effect] {Mark : Type}
    (machine : Machine World Label)
    (mark : Effect Mark)
    (lap : Mark → Effect Duration)
    (run : Run World Label) :
    Effect (List Event) := do
  let began ← mark
  let reported ← timed mark lap (run.complete machine).1
  lookIdly mark lap machine run run.owed
  let lasted ← lap began
  pure (.started run.platform :: reported ++
    [.completed (run.complete machine).2.tally lasted])

/--
By a clock that always shows the same duration, this is the duration of every event.
-/
theorem Run.events_of_constant
    {World Label : Type} {Effect : Type → Type} [Monad Effect] [LawfulMonad Effect]
    (machine : Machine World Label)
    (duration : Duration)
    (run : Run World Label) :
    run.events machine (pure ()) (fun _ => pure duration) =
      (pure
        (.started run.platform ::
          (run.complete machine).1.map (fun report => .reported report duration) ++
            [.completed (run.complete machine).2.tally duration]) :
              Effect (List Event)) := by
  have idle :
      lookIdly (pure ()) (fun _ => pure duration) machine run run.owed =
        (pure () : Effect Unit) := by
    unfold lookIdly
    split <;> simp
  simp [events, timed, idle]

namespace Reporter

variable {State World Label : Type} (reporter : Reporter State)
variable {Effect : Type → Type} [Monad Effect] [LawfulMonad Effect] {Mark : Type}

/--
Whatever the clock and the reporter do, the reporter is told of
everything, in order and once.
-/
theorem attend_run
    (machine : Machine World Label)
    (mark : Effect Mark)
    (lap : Mark → Effect Duration)
    (run : Run World Label)
    (transcript : Transcript State) :
    (reporter.attend machine mark lap run).run transcript =
      (do
        let events ← run.events machine mark lap
        pure ((run.complete machine).2, reporter.told events transcript)) := by
  simp [attend, Run.deliver_eq, Run.events, tellTimed_run, lookIdly_run,
    tellBeside_run, told_nil, told_cons, told_append]

/--
A reporter that follows a run writes of everything in order, with
one duration throughout.
-/
theorem follow_eq
    (machine : Machine World Label)
    (duration : Duration)
    (run : Run World Label) :
    reporter.follow machine duration run =
      (reporter.transcript
          (.started run.platform ::
            (run.complete machine).1.map (fun report => .reported report duration) ++
              [.completed (run.complete machine).2.tally duration]),
        (run.complete machine).2) := by
  have same :
      reporter.attend machine (pure () : Id Unit) (fun _ => pure duration) run =
        run.deliver machine (.fixed duration) reporter.tell :=
    rfl
  have attended :=
    reporter.attend_run machine (pure () : Id Unit) (fun _ => pure duration) run
      ⟨reporter.initial, ""⟩
  rw [same, Run.events_of_constant, pure_bind] at attended
  rw [← told_initial, follow, attended]
  rfl

end Reporter

/--
A run keeps count of what it reports, and its delivery tells a reporter of all of
it: of the start, of every report in order, and of the tally that is given back.
-/
structure Run.CountedAndTold
    {World Label : Type}
    (machine : Machine World Label)
    (run : Run World Label) : Prop where
  counts : ∀ count, (run.after machine count).tally.Counts (run.pull machine count).1
  total : ∀ count, (run.after machine count).tally.total =
    (run.pull machine count).1.length
  success : ∀ count,
    (run.after machine count).tally.isSuccess = true ↔
      ∀ report ∈ (run.pull machine count).1, ¬ report.outcome.Fails
  ended : ∀ count, run.owed ≤ count → run.answer machine count = none
  told : ∀ {State Mark : Type} {Effect : Type →
    Type} [Monad Effect] [LawfulMonad Effect]
      (reporter : Reporter State) (mark : Effect Mark)
        (lap : Mark → Effect Duration),
    (reporter.attend machine mark lap run).run ⟨reporter.initial, ""⟩ =
      (do
        let events ← run.events machine mark lap
        pure ((run.complete machine).2, reporter.told events ⟨reporter.initial, ""⟩))
  followed : ∀ {State : Type} (reporter : Reporter State) (duration : Duration),
    reporter.follow machine duration run =
      (reporter.transcript
          (.started run.platform ::
            (run.complete machine).1.map (fun report => .reported report duration) ++
              [.completed (run.complete machine).2.tally duration]),
        (run.complete machine).2)

namespace Run

variable {World Label : Type}

/-- Every run keeps count of its reports, and its delivery tells of all of them. -/
theorem countedAndTold
    (machine : Machine World Label)
    (registry : Registry World Label)
    (platform : Platform)
    (options : RunOptions)
    (scene : Scene World Label) :
    (Run.start registry platform options scene).CountedAndTold machine := by
  have obeyed := obeys machine registry platform options scene
  have counts := tally_counts obeyed rfl
  exact {
    counts := counts
    total := fun count => (counts count).total
    success := fun count => (counts count).isSuccess_iff
    ended := fun _ notBefore => answer_of_owed_le notBefore
    told := fun reporter mark lap => reporter.attend_run machine mark lap _ _
    followed := fun reporter duration => reporter.follow_eq machine duration _ }

end Run

end Conformance
