import Conformance.Outcome.Lifecycle
import Conformance.Proofs.Suite.Calls
import Mathlib.Data.List.Induction

namespace Conformance

/-!
# The lives of scenarios

What was asked of a scenario settles how far it has come: its first start, and the
first finish after that.  Every other request is refused and changes nothing.  A run
asks for one start and one finish in this order, so the life of a scenario never goes
wrong in it, and it does not matter what would be reported of a life that did.
-/

namespace Lifecycle

/-- The one kind of request that a stage grants; a finished scenario grants none. -/
inductive Grants : Lifecycle → Request → Prop where
  | start : Grants .pending .start
  | finish (outcome : Outcome) : Grants .running (.finish outcome)

/-- Where a request leads to, in the word for it in messages. -/
def Request.target : Request → String
  | .start => running.name
  | .finish outcome => outcome.label

/-- The stage that is reached by asking for one step after another. -/
def after (stage : Lifecycle) (requests : List Request) : Lifecycle :=
  requests.foldl (fun reached request => (reached.attempt request).1) stage

/--
How far requests bring a pending scenario: the first start counts, and
then the first finish.
-/
inductive Reaches : List Request → Lifecycle → Prop where
  | pending
      {requests : List Request}
      (unstarted : .start ∉ requests) :
      Reaches requests .pending
  | running
      {before since : List Request}
      (unstarted : .start ∉ before)
      (unfinished : ∀ outcome, .finish outcome ∉ since) :
      Reaches (before ++ .start :: since) .running
  | finished
      {before between later : List Request}
      {outcome : Outcome}
      (unstarted : .start ∉ before)
      (unfinished : ∀ other, .finish other ∉ between) :
      Reaches (before ++ .start :: (between ++ .finish outcome :: later))
        (.finished outcome)

theorem after_append (stage : Lifecycle) (earlier later : List Request) :
    stage.after (earlier ++ later) = (stage.after earlier).after later :=
  List.foldl_append

theorem after_concat
    (stage : Lifecycle)
    (requests : List Request)
    (request : Request) :
    stage.after (requests ++ [request]) =
      ((stage.after requests).attempt request).1 := by
  rw [after_append]
  rfl

/-- A request that is not granted is refused with the stage and the target it names. -/
theorem attempt_of_not_grants
    {stage : Lifecycle}
    {request : Request}
    (refused : ¬ stage.Grants request) :
    stage.attempt request =
      (stage, some (.invalidTransition stage.name request.target)) := by
  cases stage with
  | pending =>
      cases request with
      | start => exact absurd .start refused
      | finish outcome => rfl
  | running =>
      cases request with
      | start => rfl
      | finish outcome => exact absurd (.finish outcome) refused
  | finished outcome => cases request <;> rfl

theorem answer_of_grants
    {stage : Lifecycle}
    {request : Request}
    (granted : stage.Grants request) :
    (stage.attempt request).2 = none := by
  cases granted <;> rfl

/-- What a request is answered, and when it is refused. -/
theorem answer_eq_some_iff
    {stage : Lifecycle}
    {request : Request}
    {misuse : Misuse} :
    (stage.attempt request).2 = some misuse ↔
      ¬ stage.Grants request ∧
        misuse = .invalidTransition stage.name request.target := by
  by_cases granted : stage.Grants request
  · simp [answer_of_grants granted, granted]
  · simp [attempt_of_not_grants granted, granted, eq_comm]

/-- One more request brings a scenario as far as all the requests together do. -/
theorem Reaches.attempt
    {requests : List Request}
    {stage : Lifecycle}
    (reaches : Reaches requests stage)
    (request : Request) :
    Reaches (requests ++ [request]) (stage.attempt request).1 := by
  cases reaches with
  | pending unstarted =>
      cases request with
      | start => exact .running unstarted (by simp)
      | finish outcome => exact .pending (by simp [unstarted])
  | @running before since unstarted unfinished =>
      rw [List.append_assoc, List.cons_append]
      cases request with
      | start => exact .running unstarted (by simp [unfinished])
      | finish outcome => exact .finished unstarted unfinished
  | @finished before between later outcome unstarted unfinished =>
      -- what ended the life stays where it is, and the request comes later
      rw [List.append_assoc, List.cons_append, List.append_assoc, List.cons_append]
      cases request <;> exact .finished unstarted unfinished

theorem reaches_after (requests : List Request) :
    Reaches requests (pending.after requests) := by
  induction requests using List.reverseRecOn with
  | nil => exact .pending List.not_mem_nil
  | append_singleton earlier request inductionHypothesis =>
      rw [after_concat]
      exact inductionHypothesis.attempt request

/-- Requests that a stage does not grant leave it as it is, however many they are. -/
theorem after_of_not_grants
    {stage : Lifecycle}
    {requests : List Request}
    (refused : ∀ request ∈ requests, ¬ stage.Grants request) :
    stage.after requests = stage := by
  induction requests with
  | nil => rfl
  | cons request rest inductionHypothesis =>
      rw [List.forall_mem_cons] at refused
      rw [after, List.foldl_cons, attempt_of_not_grants refused.1]
      exact inductionHypothesis refused.2

theorem after_pending {requests : List Request} (unstarted : .start ∉ requests) :
    pending.after requests = .pending := by
  refine after_of_not_grants fun request member granted => ?_
  cases granted
  exact unstarted member

theorem after_running
    {requests : List Request}
    (unfinished : ∀ outcome, .finish outcome ∉ requests) :
    running.after requests = .running := by
  refine after_of_not_grants fun request member granted => ?_
  cases granted with
  | finish outcome => exact unfinished outcome member

theorem after_finished (outcome : Outcome) (requests : List Request) :
    (finished outcome).after requests = .finished outcome :=
  after_of_not_grants fun _ _ granted => nomatch granted

/--
Requests bring a pending scenario exactly as far as the first start
and finish among them do.
-/
theorem after_eq_iff_reaches {requests : List Request} {stage : Lifecycle} :
    pending.after requests = stage ↔ Reaches requests stage := by
  constructor
  · rintro rfl
    exact reaches_after requests
  · intro reaches
    cases reaches with
    | pending unstarted => exact after_pending unstarted
    | @running before since unstarted unfinished =>
        rw [after_append, after_pending unstarted]
        exact after_running unfinished
    | @finished before between later outcome unstarted unfinished =>
        rw [after_append, after_pending unstarted]
        change running.after (between ++ .finish outcome :: later) = _
        rw [after_append, after_running unfinished]
        exact after_finished outcome later

end Lifecycle

section Runs

variable {World Label : Type}

/--
Takes a scenario of a group treated so through its life: it runs once it has been
started, and its life is finished with what it came to.
-/
def Mode.live
    (machine : Machine World Label)
    (group place : Nat)
    (scenario : Scenario World Label)
    (scene : Scene World Label)
    (mode : Mode) :
    (Except Misuse Outcome × List Activity) × Scene World Label :=
  match Lifecycle.pending.start with
  | .error misuse => ((.error misuse, []), scene)
  | .ok started =>
      let ((outcome, activities), reached) :=
        mode.settle machine group place scenario scene
      match started.finish outcome with
      | .error misuse => ((.error misuse, activities), reached)
      | .ok finished =>
          match finished.outcome? with
          | some outcome => ((.ok outcome, activities), reached)
          | none =>
              ((.error (.invalidTransition "Running" "Finished"), activities), reached)

/--
Reports one scenario of the active group; `otherwise` tells what a
life gone wrong comes to.
-/
def Run.reportOr
    (otherwise : Misuse → Outcome)
    (machine : Machine World Label)
    (run : Run World Label)
    (active : ActiveGroup World Label)
    (place : Nat)
    (scenario : Scenario World Label) :
    Report × Run World Label :=
  let ((life, activities), scene) :=
    active.mode.live machine active.place place scenario run.scene
  let outcome := match life with
    | .ok outcome => outcome
    | .error misuse => otherwise misuse
  (⟨active.name, scenario.name, outcome⟩,
    { run with
      active := some active
      tally := run.tally.record outcome
      halted := run.options.stopOnFail && outcome.isFailure
      journal := run.journal ++ activities
      scene := scene })

/--
A life that is started and then finished goes well, and ends with
what the scenario came to.
-/
theorem Mode.live_eq
    (machine : Machine World Label)
    (group place : Nat)
    (scenario : Scenario World Label)
    (scene : Scene World Label)
    (mode : Mode) :
    mode.live machine group place scenario scene =
      ((.ok (mode.settle machine group place scenario scene).1.1,
          (mode.settle machine group place scenario scene).1.2),
        (mode.settle machine group place scenario scene).2) :=
  rfl

/-- What would be reported of a life gone wrong makes no difference to any report. -/
theorem Run.reportOr_eq
    (otherwise : Misuse → Outcome)
    (machine : Machine World Label)
    (run : Run World Label)
    (active : ActiveGroup World Label)
    (place : Nat)
    (scenario : Scenario World Label) :
    run.reportOr otherwise machine active place scenario =
      run.report machine active place scenario := by
  rcases settles :
      active.mode.settle machine active.place place scenario run.scene with
    ⟨⟨outcome, activities⟩, reached⟩
  rw [report_eq run active place scenario settles, reportOr, Mode.live_eq, settles]

/-- Whatever a run yields, it yields by reporting one scenario. -/
theorem Run.report_of_next
    {machine : Machine World Label}
    {run next : Run World Label}
    {report : Report}
    (yields : run.next machine = (some report, next)) :
    ∃ entered active place scenario,
      Run.report machine entered active place scenario = (report, next) := by
  unfold Run.next at yields
  split at yields
  · cases yields
  · split at yields
    · obtain ⟨isReport, isNext⟩ := Prod.mk.inj yields
      exact ⟨_, _, _, _, Prod.ext (Option.some.inj isReport) isNext⟩
    · split at yields
      · cases yields
      · obtain ⟨isReport, isNext⟩ := Prod.mk.inj yields
        exact ⟨_, _, _, _, Prod.ext (Option.some.inj isReport) isNext⟩

/-- The life of the scenario of a call. -/
def Call.life
    (machine : Machine World Label)
    (platform : Platform)
    (call : Call World Label) :
    Except Misuse Outcome :=
  ((call.activation machine platform).1.1.live machine call.turn.place call.turn.index
    call.turn.scenario (call.ready machine platform)).1.1

end Runs

/--
Requests move a scenario forward only: a stage grants one kind of request and refuses
the others.  In a run every request is granted, so that no life goes wrong, and what a
run yields would be the same if such a life were reported in any other way.
-/
structure Lifecycle.MovesForward : Prop where
  stages : ∀ requests stage, pending.after requests = stage ↔ Reaches requests stage
  lasts : ∀ requests later outcome,
    pending.after requests = .finished outcome →
    pending.after (requests ++ later) = .finished outcome
  refused_iff : ∀ requests request misuse,
    ((pending.after requests).attempt request).2 = some misuse ↔
      ¬ (pending.after requests).Grants request ∧
        misuse = .invalidTransition (pending.after requests).name request.target
  unchanged : ∀ requests request,
    ¬ (pending.after requests).Grants request →
    pending.after (requests ++ [request]) = pending.after requests
  lives : ∀ {World Label : Type} (machine : Machine World Label)
      group place scenario scene mode,
    (Mode.live machine group place scenario scene mode).1.1 =
      .ok (Mode.settle machine group place scenario scene mode).1.1
  reports : ∀ {World Label : Type} (machine : Machine World Label)
      run active place scenario,
    ∀ otherwise,
      Run.reportOr otherwise machine run active place scenario =
        Run.report machine run active place scenario
  yields : ∀ {World Label : Type} (machine : Machine World Label) run report next,
    Run.next machine run = (some report, next) →
    ∃ entered active place scenario,
      ∀ otherwise, Run.reportOr otherwise machine entered active place scenario =
        (report, next)
  answers : ∀ {World Label : Type} (machine : Machine World Label)
      registry platform options scene count report,
    (Run.start registry platform options scene).answer machine count = some report →
    ∃ turn,
      (registry.turns options)[count]? = some turn ∧
        ((Run.start registry platform options scene).call machine
          (registry.turns options) count turn).life machine platform =
            .ok report.outcome

/-- Lives move forward only, and in no run does one go wrong. -/
theorem Lifecycle.moves_forward : MovesForward where
  stages _ _ := after_eq_iff_reaches
  lasts := by
    intro requests later outcome isFinished
    rw [after_append, isFinished, after_finished]
  refused_iff _ _ _ := answer_eq_some_iff
  unchanged := by
    intro requests request refused
    rw [after_concat, attempt_of_not_grants refused]
  lives machine group place scenario scene mode := by
    rw [Mode.live_eq]
  reports machine run active place scenario otherwise :=
    run.reportOr_eq otherwise machine active place scenario
  yields := by
    intro World Label machine run report next yields
    obtain ⟨entered, active, place, scenario, reports⟩ := Run.report_of_next yields
    refine ⟨entered, active, place, scenario, fun otherwise => ?_⟩
    rw [Run.reportOr_eq, reports]
  answers := by
    intro World Label machine registry platform options scene count report answered
    have obeyed := Run.obeys machine registry platform options scene
    rcases Run.answers_or_silent obeyed count with
      ⟨turn, isDue, answers⟩ | ⟨-, silent⟩
    · rw [answers.answer] at answered
      obtain rfl := Option.some.inj answered
      refine ⟨turn, isDue, ?_⟩
      rw [Call.life, Mode.live_eq]
      rfl
    · rw [silent.answer] at answered
      cases answered

/-- A finish before the start, a second start and a second finish are refused. -/
example :
    Lifecycle.pending.after
        [.finish .passed, .start, .start,
          .finish (.skipped "windows only"), .finish .passed] =
      .finished (.skipped "windows only") :=
  rfl

end Conformance
