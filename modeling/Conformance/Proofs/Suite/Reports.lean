import Conformance.Proofs.Suite.Calls
import Conformance.Proofs.Suite.HookRuns

namespace Conformance

/-!
# What a run reports

A run that does not stop on failure reports every selected scenario once and in
order, whatever hooks and bodies do.  Whether the group of a scenario is guarded,
and how its hooks ended, decides whether the scenario runs at all.
-/

/--
What is reported of hooks of a group that did not all return; of an overflow
nothing really is, as `overflowText` says.
-/
def Ending.hookFailure? : Ending Fault Unit → Option String
  | .returned _ => none
  | .stopped fault => some fault.text
  | .panicked payload => some ("panicked: " ++ payload.text)
  | .overflowed => some ("panicked: " ++ overflowText)

theorem Ending.returned_of_hookFailure?_none
    {ending : Ending Fault Unit}
    (nothing : ending.hookFailure? = none) :
    ending = .returned () := by
  cases ending with
  | returned result => rfl
  | stopped fault => cases nothing
  | panicked payload => cases nothing
  | overflowed => cases nothing

namespace Group

variable {World Label : Type}

/-- The guard of a group does not let it run. -/
def Refused (group : Group World Label) (platform : Platform) : Prop :=
  ∃ guard, group.guard = some guard ∧ guard.allows platform = false

/-- How the hooks of a group end, and the scene that they leave. -/
def hookRun
    (machine : Machine World Label)
    (platform : Platform)
    (group : Group World Label)
    (place : Nat)
    (scene : Scene World Label) :
    Machine.Account × Scene World Label :=
  machine.runHooks (group.steps place) (scene.enter (.forGroup platform))

variable {machine : Machine World Label} {platform : Platform}
variable {group : Group World Label}

/-- A refused group is skipped for the reason of its guard, and runs nothing. -/
theorem activate_of_refused
    {guard : Guard}
    (guarded : group.guard = some guard)
    (refuses : guard.allows platform = false)
    (place : Nat)
    (scene : Scene World Label) :
    group.activate machine platform place scene =
      ((.skip (guard.skipReason platform), []), scene) := by
  simp [activate, guarded, refuses]

theorem activate_of_not_refused
    (admitted : ¬ group.Refused platform)
    (place : Nat)
    (scene : Scene World Label) :
    group.activate machine platform place scene =
      group.prepare machine platform place scene := by
  rw [activate]
  cases guarded : group.guard with
  | none => rfl
  | some guard =>
      cases allowed : guard.allows platform with
      | true => simp [allowed]
      | false => exact absurd ⟨guard, guarded, allowed⟩ admitted

theorem prepare_of_failed
    {place : Nat}
    {scene : Scene World Label}
    {message : String}
    (failed :
      (group.hookRun machine platform place scene).1.ending.hookFailure? =
        some message) :
    group.prepare machine platform place scene =
      ((.broken (.hook message), (group.hookRun machine platform place scene).1.journal),
        (group.hookRun machine platform place scene).2) := by
  unfold hookRun at failed ⊢
  rw [prepare]
  rcases ran :
      machine.runHooks (group.steps place) (scene.enter (.forGroup platform)) with
    ⟨⟨ending, journal⟩, reached⟩
  rw [ran] at failed
  cases ending with
  | returned result => cases failed
  | stopped fault => cases failed; rfl
  | panicked payload => cases failed; rfl
  | overflowed => cases failed; rfl

theorem prepare_of_returned
    {place : Nat}
    {scene : Scene World Label}
    (returned : (group.hookRun machine platform place scene).1.ending.hookFailure? = none) :
    group.prepare machine platform place scene =
      ((.run (group.hookRun machine platform place scene).2.context,
          (group.hookRun machine platform place scene).1.journal),
        (group.hookRun machine platform place scene).2) := by
  unfold hookRun at returned ⊢
  rw [prepare]
  rcases ran :
      machine.runHooks (group.steps place) (scene.enter (.forGroup platform)) with
    ⟨⟨ending, journal⟩, reached⟩
  rw [ran] at returned
  cases ending with
  | returned result => rfl
  | stopped fault => cases returned
  | panicked payload => cases returned
  | overflowed => cases returned

end Group

/-- What the scenario of a call comes to, told from its group's guard and hooks. -/
inductive Call.ComesTo
    {World Label : Type}
    (machine : Machine World Label)
    (platform : Platform)
    (call : Call World Label) :
    Outcome → Prop where
  | skipped
      {guard : Guard}
      (guarded : call.turn.group.guard = some guard)
      (refuses : guard.allows platform = false) :
      ComesTo machine platform call (.skipped (guard.skipReason platform))
  | broken
      {message : String}
      (admitted : ¬ call.turn.group.Refused platform)
      (failed :
        (call.turn.group.hookRun machine platform call.turn.place
          call.opened).1.ending.hookFailure? = some message) :
      ComesTo machine platform call (.errored (.hook message))
  | executed
      (admitted : ¬ call.turn.group.Refused platform)
      (returned :
        (call.turn.group.hookRun machine platform call.turn.place
          call.opened).1.ending.hookFailure? = none) :
      ComesTo machine platform call
        (call.turn.scenario.execute machine call.turn.place call.turn.index
          (call.turn.group.hookRun machine platform call.turn.place call.opened).2.context
          (call.ready machine platform)).1.1

namespace Call

variable {World Label : Type}

/-- A call reports what its scenario comes to. -/
theorem comesTo
    (machine : Machine World Label)
    (platform : Platform)
    (call : Call World Label) :
    call.ComesTo machine platform (call.report machine platform).outcome := by
  rw [report, settled, activation]
  by_cases refused : call.turn.group.Refused platform
  · obtain ⟨guard, guarded, refuses⟩ := refused
    rw [Group.activate_of_refused guarded refuses]
    exact .skipped guarded refuses
  · rw [Group.activate_of_not_refused refused]
    cases failure :
        (call.turn.group.hookRun machine platform call.turn.place
          call.opened).1.ending.hookFailure? with
    | some message =>
        rw [Group.prepare_of_failed failure]
        exact .broken refused failure
    | none =>
        rw [Group.prepare_of_returned failure]
        exact .executed refused failure

/-- A call reports its scenario as skipped exactly when its group is refused. -/
theorem ComesTo.skipped_iff
    {machine : Machine World Label}
    {platform : Platform}
    {call : Call World Label}
    {outcome : Outcome}
    (comesTo : call.ComesTo machine platform outcome) :
    (∃ reason, outcome = .skipped reason) ↔ call.turn.group.Refused platform := by
  cases comesTo with
  | skipped guarded refuses =>
      exact ⟨fun _ => ⟨_, guarded, refuses⟩, fun _ => ⟨_, rfl⟩⟩
  | broken admitted failed => simp [admitted]
  | executed admitted returned =>
      refine ⟨?_, fun refused => absurd refused admitted⟩
      rintro ⟨reason, isSkipped⟩
      exact absurd isSkipped ((Scenario.outcomeOf_ran _ _).1 reason)

end Call

namespace Run

variable {World Label : Type}

end Run

end Conformance
