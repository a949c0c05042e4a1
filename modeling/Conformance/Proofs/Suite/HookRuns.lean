import Conformance.Proofs.Program.Growth

namespace Conformance

/-!
# How hooks run

Hooks run in order, each on the scene that the one before it left, and none runs
after one that did not return.  The journal names exactly those that ran.
-/

namespace Machine

variable {World Label Error Result : Type}

/-- The moments of running code on the machine. -/
def moments
    (machine : Machine World Label)
    (code : Code World Label Error Result)
    (scene : Scene World Label) :
    List (Moment World Label) :=
  machine.program.moments machine.depth code scene

/--
The scene that the first hooks of a list leave, so many of them, if all of them run.
-/
def reach
    (machine : Machine World Label) :
    List (Activity × Hook World Label) → Scene World Label → Nat → Scene World Label
  | (_, hook) :: rest, scene, count + 1 =>
      machine.reach rest (machine.run hook scene).2 count
  | _, scene, _ => scene

/-- How the hook at an index ends, if those before it run. -/
def endingAt
    (machine : Machine World Label)
    (steps : List (Activity × Hook World Label))
    (scene : Scene World Label)
    (index : Nat) :
    Option (Ending Fault Unit) :=
  steps[index]?.map fun step =>
    (machine.run step.2 (machine.reach steps scene index)).1

/--
Hooks ran in order up to the first one that did not return: every one that ran
before another one returned, and if some did not run then the last one that did
run ended otherwise.
-/
structure UpToFailure
    (machine : Machine World Label)
    (steps : List (Activity × Hook World Label))
    (scene : Scene World Label)
    (account : Account)
    (finish : Scene World Label) : Prop where
  journal : account.journal <+: steps.map Prod.fst
  finish : finish = machine.reach steps scene account.journal.length
  returned : ∀ index,
    index + 1 < account.journal.length →
      machine.endingAt steps scene index = some (.returned ())
  last : ∀ index,
    index + 1 = account.journal.length →
    machine.endingAt steps scene index = some account.ending
  none : account.journal = [] → account.ending = .returned ()
  failed : account.journal.length < steps.length → account.ending ≠ .returned ()

/-- The moments of running hooks up to the first one that does not return. -/
def hookMoments
    (machine : Machine World Label) :
    List (Activity × Hook World Label) → Scene World Label →
      List (Moment World Label)
  | [], _ => []
  | (_, hook) :: rest, scene =>
      machine.moments hook scene ++
        match machine.run hook scene with
        | (.returned _, reached) => machine.hookMoments rest reached
        | _ => []

variable {machine : Machine World Label}
variable {steps rest : List (Activity × Hook World Label)}
variable {scene reached : Scene World Label}
variable {activity : Activity} {hook : Hook World Label}

theorem runHooks_of_returned
    (returned : machine.run hook scene = (.returned (), reached)) :
    machine.runHooks ((activity, hook) :: rest) scene =
      (⟨(machine.runHooks rest reached).1.ending,
          activity :: (machine.runHooks rest reached).1.journal⟩,
        (machine.runHooks rest reached).2) := by
  rw [runHooks, returned]

theorem runHooks_of_failed
    {ending : Ending Fault Unit}
    (failed : machine.run hook scene = (ending, reached))
    (notReturned : ending ≠ .returned ()) :
    machine.runHooks ((activity, hook) :: rest) scene =
      (⟨ending, [activity]⟩, reached) := by
  rw [runHooks, failed]
  cases ending with
  | returned result => exact absurd rfl notReturned
  | _ => rfl

/-- A hook that returned goes before what ran after it. -/
theorem UpToFailure.cons_returned
    {account : Account}
    {finish : Scene World Label}
    (ran : machine.UpToFailure rest reached account finish)
    (returned : machine.run hook scene = (.returned (), reached)) :
    machine.UpToFailure ((activity, hook) :: rest) scene
      ⟨account.ending, activity :: account.journal⟩ finish := by
  have later (index : Nat) :
      machine.endingAt ((activity, hook) :: rest) scene (index + 1) =
        machine.endingAt rest reached index := by
    simp only [endingAt, List.getElem?_cons_succ, reach, returned]
  have first :
      machine.endingAt ((activity, hook) :: rest) scene 0 = some (.returned ()) := by
    simp only [endingAt, List.getElem?_cons_zero, reach, returned, Option.map_some]
  exact {
    journal := by
      rw [List.map_cons]
      exact List.cons_prefix_cons.mpr ⟨rfl, ran.journal⟩
    finish := by
      rw [List.length_cons, reach, returned]
      exact ran.finish
    returned := by
      intro index before
      cases index with
      | zero => exact first
      | succ index =>
          rw [later]
          exact ran.returned index (Nat.lt_of_succ_lt_succ before)
    last := by
      intro index atEnd
      cases index with
      | zero =>
          have nothingElse : account.journal = [] :=
            List.length_eq_zero_iff.mp (Nat.succ.inj atEnd).symm
          rw [first, ran.none nothingElse]
      | succ index =>
          rw [later]
          exact ran.last index (Nat.succ.inj atEnd)
    none := by simp
    failed := fun shorter => ran.failed (Nat.lt_of_succ_lt_succ shorter) }

/-- Hooks run in order up to the first one that does not return. -/
theorem runHooks_upToFailure
    (machine : Machine World Label)
    (steps : List (Activity × Hook World Label))
    (scene : Scene World Label) :
    machine.UpToFailure steps scene
      (machine.runHooks steps scene).1 (machine.runHooks steps scene).2 := by
  induction steps generalizing scene with
  | nil =>
      exact ⟨List.nil_prefix,
        rfl, by simp [runHooks], by simp [runHooks], fun _ => rfl,
        by simp⟩
  | cons step rest inductionHypothesis =>
      obtain ⟨activity, hook⟩ := step
      rcases ran : machine.run hook scene with ⟨ending, reached⟩
      by_cases returned : ending = .returned ()
      · subst returned
        rw [runHooks_of_returned ran]
        exact (inductionHypothesis reached).cons_returned ran
      · rw [runHooks_of_failed ran returned]
        have first :
            machine.endingAt ((activity, hook) :: rest) scene 0 = some ending := by
          simp only [endingAt, List.getElem?_cons_zero, reach, ran, Option.map_some]
        exact {
          journal := by simp
          finish := by
            simp only [List.length_singleton, reach, ran]
          returned := by simp
          last := by
            intro index atEnd
            obtain rfl : index = 0 := Nat.succ.inj atEnd
            exact first
          none := by simp
          failed := fun _ => returned }

theorem hookMoments_along
    {related : Scene World Label → Scene World Label → Prop}
    (respects : machine.program.Respects related fun _ => True)
    (steps : List (Activity × Hook World Label))
    (scene : Scene World Label) :
    Along related scene (machine.hookMoments steps scene)
      (machine.runHooks steps scene).2 := by
  induction steps generalizing scene with
  | nil =>
      exact .nil (respects.refl scene)
  | cons step rest inductionHypothesis =>
      obtain ⟨activity, hook⟩ := step
      have first :
          Along related scene (machine.moments hook scene)
            (machine.run hook scene).2 :=
        respects.moments_along machine.depth hook scene fun _ _ => trivial
      rw [hookMoments]
      rcases ran : machine.run hook scene with ⟨ending, reached⟩
      rw [ran] at first
      by_cases returned : ending = .returned ()
      · subst returned
        rw [runHooks_of_returned ran]
        exact .append respects.trans first (inductionHypothesis reached)
      · rw [runHooks_of_failed ran returned]
        cases ending with
        | returned result => exact absurd rfl returned
        | _ => exact .append respects.trans first (.nil (respects.refl reached))

theorem hookMoments_faithful
    (machine : Machine World Label)
    (steps : List (Activity × Hook World Label))
    (scene : Scene World Label) :
    ∀ moment ∈ machine.hookMoments steps scene, moment.Faithful machine.program := by
  induction steps generalizing scene with
  | nil =>
      simp [hookMoments]
  | cons step rest inductionHypothesis =>
      obtain ⟨activity, hook⟩ := step
      rw [hookMoments]
      refine List.forall_mem_append.mpr
        ⟨machine.program.moments_faithful machine.depth hook scene, ?_⟩
      split
      · exact inductionHypothesis _
      · simp

theorem grows_of_mem_hookMoments
    {moment : Moment World Label}
    (member : moment ∈ machine.hookMoments steps scene) :
    scene.Grows moment.scene ∧
      moment.scene.Grows (machine.runHooks steps scene).2 := by
  have along := hookMoments_along machine.program.respects_grows steps scene
  exact ⟨along.fromStart moment member, along.toFinish moment member⟩

theorem runHooks_grows
    (machine : Machine World Label)
    (steps : List (Activity × Hook World Label))
    (scene : Scene World Label) :
    scene.Grows (machine.runHooks steps scene).2 :=
  (hookMoments_along machine.program.respects_grows steps scene).through

end Machine

namespace Group

variable {World Label : Type}

/-- The moments of the hooks of a group. -/
def moments
    (machine : Machine World Label)
    (platform : Platform)
    (group : Group World Label)
    (place : Nat)
    (scene : Scene World Label) :
    List (Moment World Label) :=
  machine.hookMoments (group.steps place) (scene.enter (.forGroup platform))

/-- While the hooks of a group run, their context holds no stub. -/
theorem stubs_of_mem_moments
    {machine : Machine World Label}
    {platform : Platform}
    {group : Group World Label}
    {place : Nat}
    {scene : Scene World Label}
    {moment : Moment World Label}
    (member : moment ∈ group.moments machine platform place scene) :
    moment.scene.context.stubs = [] := by
  obtain ⟨grows, -⟩ := Machine.grows_of_mem_hookMoments member
  obtain ⟨made, shape, -, noneMade⟩ := grows.stubs
  rw [shape, noneMade rfl]
  rfl

/-- A hook of a group that asks for a stub is refused, and nothing is recorded. -/
theorem refused_of_mem_moments
    {machine : Machine World Label}
    {platform : Platform}
    {group : Group World Label}
    {place : Nat}
    {scene before after : Scene World Label}
    {name : String}
    {answer : Except Misuse Value}
    (member :
      .askedStub name before answer after ∈
        group.moments machine platform place scene) :
    answer = .error (.groupStub name) ∧ after = before := by
  have asked : before.makeStub name = (answer, after) :=
    machine.hookMoments_faithful _ _ _ member
  obtain ⟨grows, -⟩ := Machine.grows_of_mem_hookMoments member
  have groupLevelAfter : after.context.groupLevel = true := grows.groupLevel
  have groupLevel : before.context.groupLevel = true := by
    rw [← (before.grows_makeStub name).groupLevel, asked]
    exact groupLevelAfter
  rw [Scene.makeStub_of_groupLevel groupLevel] at asked
  cases asked
  exact ⟨rfl, rfl⟩

end Group

namespace Scenario

variable {World Label : Type}

/-- The moments of a scenario that runs. -/
def moments
    (machine : Machine World Label)
    (scenario : Scenario World Label)
    (group place : Nat)
    (context : Context)
    (scene : Scene World Label) :
    List (Moment World Label) :=
  machine.hookMoments (scenario.steps group place) (scene.enter context.fork)

/-- A stub that is recorded while a scenario runs was made by that scenario. -/
theorem made_of_mem_moments
    {machine : Machine World Label}
    {scenario : Scenario World Label}
    {group place : Nat}
    {context : Context}
    {scene : Scene World Label}
    {moment : Moment World Label}
    (member : moment ∈ scenario.moments machine group place context scene)
    {stub : Nat}
    (recorded : stub ∈ moment.scene.context.stubs) :
    scene.store.next ≤ stub ∧
      stub < (scenario.execute machine group place context scene).2.store.next := by
  obtain ⟨fromStart, toFinish⟩ := Machine.grows_of_mem_hookMoments member
  obtain ⟨made, shape, fresh, -⟩ := fromStart.stubs
  have isMade : stub ∈ made := by
    rw [shape] at recorded
    simpa [Scene.enter, Context.fork] using recorded
  obtain ⟨new, old⟩ := fresh stub isMade
  exact ⟨new, Nat.lt_of_lt_of_le old toFinish.store.next_le⟩

/--
A scenario that runs is never reported as skipped, nor as failed
by a hook of its group.
-/
theorem outcomeOf_ran
    (scene : Scene World Label)
    (ending : Ending Fault Unit) :
    (∀ reason, outcomeOf scene ending ≠ .skipped reason) ∧
      (∀ message, outcomeOf scene ending ≠ .errored (.hook message)) := by
  cases ending with
  | returned result =>
      cases unmet : scene.firstUnmet? <;> simp [outcomeOf, unmet, Fault.outcome]
  | stopped fault => cases fault <;> simp [outcomeOf, Fault.outcome]
  | panicked payload => simp [outcomeOf]
  | overflowed => simp [outcomeOf]

end Scenario

end Conformance
