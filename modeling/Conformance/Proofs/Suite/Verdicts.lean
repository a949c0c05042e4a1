import Conformance.Proofs.Program.Keeping
import Conformance.Proofs.Program.Variables
import Conformance.Proofs.Stub.Verification
import Conformance.Proofs.Suite.HookRuns

namespace Conformance

/-!
# How a scenario is judged

The first of the hooks and the body that does not return decides the outcome of a
scenario, and nothing runs after it.  Only if all of them return do stubs count:
those that were made through the context meanwhile, in that order, as they are at
the end.  No other scenario has made any of them.
-/

namespace Machine

variable {World Label : Type}

/-- Hooks stop so many steps in: at the first that does not return, or at their end. -/
inductive StopsAt
    (machine : Machine World Label)
    (steps : List (Activity × Hook World Label))
    (scene : Scene World Label) :
    Ending Fault Unit → Nat → Prop where
  | failed
      {index : Nat}
      {ending : Ending Fault Unit}
      (earlier : ∀ before < index,
        machine.endingAt steps scene before = some (.returned ()))
      (fails : machine.endingAt steps scene index = some ending)
      (notReturned : ending ≠ .returned ()) :
      StopsAt machine steps scene ending (index + 1)
  | finished
      (all : ∀ index < steps.length,
        machine.endingAt steps scene index = some (.returned ())) :
      StopsAt machine steps scene (.returned ()) steps.length

/--
The variables that the first hooks of a list set, so many of
them, if all of them run.
-/
def writesBefore
    (machine : Machine World Label) :
    List (Activity × Hook World Label) → Scene World Label → Nat →
      List (String × Value)
  | (_, hook) :: rest, scene, count + 1 =>
      machine.program.writes machine.depth hook scene ++
        machine.writesBefore rest (machine.run hook scene).2 count
  | _, _, _ => []

end Machine

/--
What an ending comes to, given the stubs that were made before it.  An overflow
comes to nothing in a real process, as `overflowText` says.
-/
inductive Store.Judges
    {Label : Type}
    (store : Store Label)
    (stubs : List Nat) :
    Ending Fault Unit → Outcome → Prop where
  | faulted {fault : Fault} : Judges store stubs (.stopped fault) fault.outcome
  | panicked {payload : Payload} :
      Judges store stubs (.panicked payload) (.errored (.panic payload.text))
  | overflowed : Judges store stubs .overflowed (.errored (.panic overflowText))
  | unmet
      {call : UnmetCall}
      (first : store.FirstUnmet stubs call) :
      Judges store stubs (.returned ()) (.failed call.text)
  | passed
      (met : ∀ stub ∈ stubs, (store.stubs stub).AllMet) :
      Judges store stubs (.returned ()) .passed

/-- The stub that a moment made through the context, if it made one. -/
def Moment.madeStub? {World Label : Type} : Moment World Label → Option Nat
  | .askedStub _ _ (.ok (.object (.stub id))) _ => some id
  | _ => none

/-- The stubs that a scenario makes through its context, in order. -/
def Scenario.madeStubs
    {World Label : Type}
    (machine : Machine World Label)
    (scenario : Scenario World Label)
    (group place : Nat)
    (context : Context)
    (scene : Scene World Label) :
    List Nat :=
  (scenario.moments machine group place context scene).filterMap Moment.madeStub?

/--
The scene that a scenario leaves after so many of its hooks and its
body, if all of them run.
-/
def Scenario.sceneAt
    {World Label : Type}
    (machine : Machine World Label)
    (scenario : Scenario World Label)
    (group place : Nat)
    (context : Context)
    (scene : Scene World Label)
    (count : Nat) :
    Scene World Label :=
  machine.reach (scenario.steps group place) (scene.enter context.fork) count

/-- A scenario is judged by the first thing that goes wrong in it, and by nothing else. -/
structure Scenario.Judged
    {World Label : Type}
    (machine : Machine World Label)
    (scenario : Scenario World Label)
    (group place : Nat)
    (context : Context)
    (scene : Scene World Label) : Prop where
  verdict : ∀ outcome journal finish,
    scenario.execute machine group place context scene =
      ((outcome, journal), finish) ↔
      ∃ ending count,
        machine.StopsAt (scenario.steps group place)
          (scene.enter context.fork) ending count ∧
          journal = ((scenario.steps group place).map Prod.fst).take count ∧
          finish = scenario.sceneAt machine group place context scene count ∧
          finish.store.Judges (scenario.madeStubs machine group place context scene)
            ending outcome
  passed :
    (scenario.execute machine group place context scene).1.1 = .passed ↔
      (∀ index < (scenario.steps group place).length,
          machine.endingAt (scenario.steps group place)
            (scene.enter context.fork) index =
            some (.returned ())) ∧
        ∀ stub ∈ scenario.madeStubs machine group place context scene,
          ((scenario.execute machine group place context scene).2.store.stubs stub).AllMet
  reads : ∀ count name value,
    machine.run (Code.readVariable name)
          (scenario.sceneAt machine group place context scene count) =
        (.returned value, scenario.sceneAt machine group place context scene count) ↔
      (lastWritten?
          (machine.writesBefore (scenario.steps group place)
            (scene.enter context.fork) count)
          name).or (context.bindings name) =
        some value
  fresh : ∀ stub ∈ scenario.madeStubs machine group place context scene,
    scene.store.next ≤ stub ∧
      stub < (scenario.execute machine group place context scene).2.store.next
  apart : ∀ (other : Scenario World Label) otherGroup otherPlace otherContext later,
    (scenario.execute machine group place context scene).2.store.Grows later.store →
    ∀ stub ∈ scenario.madeStubs machine group place context scene,
      stub ∉ other.madeStubs machine otherGroup otherPlace otherContext later

namespace Machine

variable {World Label : Type} {machine : Machine World Label}
variable {steps : List (Activity × Hook World Label)}
variable {scene finish : Scene World Label}

/-- Hooks stop in one way only. -/
theorem StopsAt.unique
    {ending otherEnding : Ending Fault Unit}
    {count otherCount : Nat}
    (stops : machine.StopsAt steps scene ending count)
    (other : machine.StopsAt steps scene otherEnding otherCount) :
    ending = otherEnding ∧ count = otherCount := by
  have within {index : Nat} {found : Ending Fault Unit}
      (ends : machine.endingAt steps scene index = some found) :
        index < steps.length := by
    obtain ⟨step, isStep, -⟩ := Option.map_eq_some_iff.mp ends
    exact (List.getElem?_eq_some_iff.mp isStep).1
  have returns {index : Nat} {found : Ending Fault Unit}
      (returned : machine.endingAt steps scene index = some (.returned ()))
      (ends : machine.endingAt steps scene index = some found) :
        found = .returned () := by
    rw [returned] at ends
    exact (Option.some.inj ends).symm
  cases stops with
  | @failed index _ earlier fails notReturned =>
      cases other with
      | @failed otherIndex _ otherEarlier otherFails otherNotReturned =>
          -- of two failures the earlier one would have had to return for the other
          rcases Nat.lt_trichotomy index otherIndex with before | same | after
          · exact absurd (returns (otherEarlier index before) fails) notReturned
          · subst same
            rw [fails] at otherFails
            exact ⟨Option.some.inj otherFails, rfl⟩
          · exact absurd (returns (earlier otherIndex after) otherFails) otherNotReturned
      | finished all =>
          exact absurd (returns (all index (within fails)) fails) notReturned
  | finished all =>
      cases other with
      | @failed index _ _ fails notReturned =>
          exact absurd (returns (all index (within fails)) fails) notReturned
      | finished => exact ⟨rfl, rfl⟩

theorem UpToFailure.stopsAt
    {account : Account}
    (ran : machine.UpToFailure steps scene account finish) :
    machine.StopsAt steps scene account.ending account.journal.length := by
  by_cases returned : account.ending = .returned ()
  · have noLess : ¬ account.journal.length < steps.length :=
      fun shorter => ran.failed shorter returned
    have noMore : account.journal.length ≤ steps.length := by
      simpa using ran.journal.length_le
    have complete : account.journal.length = steps.length := by omega
    rw [returned, complete]
    apply StopsAt.finished
    intro index inside
    by_cases isLast : index + 1 = account.journal.length
    · rw [ran.last index isLast, returned]
    · apply ran.returned
      omega
  · cases length : account.journal.length with
    | zero => exact absurd (ran.none (List.length_eq_zero_iff.mp length)) returned
    | succ index =>
        apply StopsAt.failed _ (ran.last index length.symm) returned
        intro before earlier
        apply ran.returned
        omega

/--
After some hooks a variable has what they last wrote to it, or
else what it had before.
-/
theorem reach_wrote
    (machine : Machine World Label)
    (steps : List (Activity × Hook World Label))
    (scene : Scene World Label)
    (count : Nat) :
    scene.context.Wrote (machine.writesBefore steps scene count)
      (machine.reach steps scene count).context := by
  induction steps generalizing scene count with
  | nil => exact .nil _
  | cons step rest inductionHypothesis =>
      obtain ⟨activity, hook⟩ := step
      cases count with
      | zero => exact .nil _
      | succ count =>
          have first := machine.program.run_wrote machine.depth hook scene
          exact first.trans (inductionHypothesis (machine.run hook scene).2 count)

/-- The moments of hooks are a trail from the start to where the hooks stop. -/
theorem hookMoments_trail
    (machine : Machine World Label)
    (steps : List (Activity × Hook World Label))
    (scene : Scene World Label) :
    Trail machine.program Scene.Idle scene (machine.hookMoments steps scene)
      (machine.runHooks steps scene).2 := by
  induction steps generalizing scene with
  | nil => exact .nil (.refl scene)
  | cons step rest inductionHypothesis =>
      obtain ⟨activity, hook⟩ := step
      have first :
          Trail machine.program Scene.Idle scene (machine.moments hook scene)
            (machine.run hook scene).2 :=
        machine.program.moments_trail machine.depth hook scene
      rw [hookMoments]
      rcases ran : machine.run hook scene with ⟨ending, reached⟩
      rw [ran] at first
      by_cases returned : ending = .returned ()
      · subst returned
        rw [runHooks_of_returned ran]
        exact first.append (fun _ _ _ => .trans) (inductionHypothesis reached)
      · rw [runHooks_of_failed ran returned]
        cases ending with
        | returned result => exact absurd rfl returned
        | _ => exact first.append (fun _ _ _ => .trans) (.nil (.refl reached))

end Machine

/-- A step records the stub that its moment made, and no other. -/
theorem Moment.Follows.stubs_eq
    {World Label : Type}
    {program : Program World Label}
    {scene : Scene World Label}
    {moment : Moment World Label}
    (follows : moment.Follows program Scene.Idle scene) :
    moment.scene.context.stubs = scene.context.stubs ++ moment.madeStub?.toList := by
  cases follows with
  | passed rests => simpa [madeStub?, Moment.scene] using rests.stubs
  | began rests => simpa [madeStub?, Moment.scene] using rests.stubs
  | @askedStub name before reached answer rests asked =>
      rw [← rests.stubs]
      rcases Scene.makeStub_cases asked with ⟨rfl, rfl⟩ | ⟨rfl, rfl⟩
      · simp [madeStub?, Moment.scene]
      · rfl
  | @ended depth operation start reached ending rests performed =>
      have sameContext := operation.perform_context (program.invoke depth) start
      have sameStubs := rests.stubs
      rw [← sameContext, performed] at sameStubs
      simpa [madeStub?, Moment.scene] using sameStubs

theorem Trail.stubs_eq
    {World Label : Type}
    {program : Program World Label}
    {start finish : Scene World Label}
    {moments : List (Moment World Label)}
    (trail : Trail program Scene.Idle start moments finish) :
    finish.context.stubs =
      start.context.stubs ++ moments.filterMap Moment.madeStub? := by
  induction trail with
  | nil rests => simpa using rests.stubs
  | @cons start _ moment rest follows _ inductionHypothesis =>
      rw [inductionHypothesis, follows.stubs_eq]
      cases made : moment.madeStub? with
      | none => simp [made]
      | some id => simp [made]

namespace Scene

variable {World Label : Type}

theorem judges_outcomeOf
    (scene : Scene World Label)
    (ending : Ending Fault Unit) :
    scene.store.Judges scene.context.stubs ending
      (Scenario.outcomeOf scene ending) := by
  cases ending with
  | stopped fault => exact .faulted
  | panicked payload => exact .panicked
  | overflowed => exact .overflowed
  | returned =>
      cases unmet : scene.firstUnmet? with
      | none =>
          simp only [Scenario.outcomeOf, unmet]
          exact .passed (Store.findSome?_firstUnmet?_eq_none_iff.mp unmet)
      | some call =>
          simp only [Scenario.outcomeOf, unmet]
          exact .unmet (Store.findSome?_firstUnmet?_eq_some_iff.mp unmet)

end Scene

/-- An ending comes to one outcome only. -/
theorem Store.Judges.unique
    {Label : Type}
    {store : Store Label}
    {stubs : List Nat}
    {ending : Ending Fault Unit}
    {outcome other : Outcome}
    (judges : store.Judges stubs ending outcome)
    (judgesToo : store.Judges stubs ending other) :
    outcome = other := by
  cases judges with
  | faulted | panicked | overflowed =>
      cases judgesToo
      rfl
  | unmet first =>
      have reported := Store.findSome?_firstUnmet?_eq_some_iff.mpr first
      cases judgesToo with
      | unmet otherFirst =>
          rw [Store.findSome?_firstUnmet?_eq_some_iff.mpr otherFirst] at reported
          cases reported
          rfl
      | passed met =>
          rw [Store.findSome?_firstUnmet?_eq_none_iff.mpr met] at reported
          cases reported
  | passed met =>
      cases judgesToo with
      | unmet first =>
          have reported := Store.findSome?_firstUnmet?_eq_some_iff.mpr first
          rw [Store.findSome?_firstUnmet?_eq_none_iff.mpr met] at reported
          cases reported
      | passed => rfl

theorem Store.Judges.passed_iff
    {Label : Type}
    {store : Store Label}
    {stubs : List Nat}
    {ending : Ending Fault Unit} :
    store.Judges stubs ending .passed ↔
      ending = .returned () ∧ ∀ stub ∈ stubs, (store.stubs stub).AllMet := by
  constructor
  · intro judges
    generalize isPassed : Outcome.passed = outcome at judges
    cases judges with
    | @faulted fault => cases fault <;> cases isPassed
    | panicked | overflowed | unmet => cases isPassed
    | passed met => exact ⟨rfl, met⟩
  · rintro ⟨rfl, met⟩
    exact .passed met

namespace Machine

variable {World Label : Type} (machine : Machine World Label)

theorem stopsAt_returned_iff
    {steps : List (Activity × Hook World Label)}
    {scene : Scene World Label} :
    (∃ count, machine.StopsAt steps scene (.returned ()) count) ↔
      ∀ index < steps.length,
        machine.endingAt steps scene index = some (.returned ()) := by
  constructor
  · rintro ⟨count, stops⟩
    cases stops with
    | failed _ _ notReturned => exact absurd rfl notReturned
    | finished all => exact all
  · intro all
    exact ⟨_, .finished all⟩

/-- Reading a variable gives its value exactly if it has one. -/
theorem run_readVariable_iff
    {name : String}
    {value : Value}
    {scene : Scene World Label} :
    machine.run (Code.readVariable name) scene = (.returned value, scene) ↔
      scene.context.bindings name = some value := by
  unfold run Program.run Code.readVariable
  simp only [Code.execute]
  cases scene.context.bindings name with
  | none => simp [Code.stop, Code.execute]
  | some found => simp [Code.execute]

end Machine

namespace Scenario

variable {World Label : Type}
variable (machine : Machine World Label) (scenario : Scenario World Label)
variable (group place : Nat) (context : Context) (scene : Scene World Label)

/-- The stubs that a scenario is checked against are those that it made. -/
theorem stubs_execute :
    (scenario.execute machine group place context scene).2.context.stubs =
      scenario.madeStubs machine group place context scene :=
  (machine.hookMoments_trail (scenario.steps group place) (scene.enter context.fork)).stubs_eq

theorem madeStubs_fresh
    (stub : Nat)
    (member : stub ∈ scenario.madeStubs machine group place context scene) :
    scene.store.next ≤ stub ∧
      stub < (scenario.execute machine group place context scene).2.store.next := by
  obtain ⟨made, shape, fresh, -⟩ :=
    (machine.runHooks_grows (scenario.steps group place) (scene.enter context.fork)).stubs
  have sameStubs :
      scenario.madeStubs machine group place context scene = [] ++ made :=
    (scenario.stubs_execute machine group place context scene).symm.trans shape
  have isMade : stub ∈ made := by
    simpa [sameStubs] using member
  exact fresh stub isMade

/-- A scenario stops somewhere, and what it stops with decides its outcome. -/
theorem exists_verdict :
    ∃ ending count,
      machine.StopsAt (scenario.steps group place)
        (scene.enter context.fork) ending count ∧
        (scenario.execute machine group place context scene).1.2 =
          ((scenario.steps group place).map Prod.fst).take count ∧
        (scenario.execute machine group place context scene).2 =
          scenario.sceneAt machine group place context scene count ∧
        (scenario.execute machine group place context scene).2.store.Judges
          (scenario.madeStubs machine group place context scene) ending
          (scenario.execute machine group place context scene).1.1 := by
  have ran :=
    machine.runHooks_upToFailure (scenario.steps group place)
      (scene.enter context.fork)
  refine ⟨_, _, ran.stopsAt, List.prefix_iff_eq_take.mp ran.journal, ran.finish, ?_⟩
  rw [← stubs_execute]
  exact Scene.judges_outcomeOf _ _

/-- Every scenario is judged by the first thing that goes wrong in it. -/
theorem judged : scenario.Judged machine group place context scene := by
  obtain ⟨ending, count, stops, journal, finish, judges⟩ :=
    scenario.exists_verdict machine group place context scene
  exact {
    verdict := by
      intro outcome activities reached
      constructor
      · intro executed
        rw [executed] at journal finish judges
        exact ⟨ending, count, stops, journal, finish, judges⟩
      · rintro ⟨otherEnding, otherCount, otherStops, rfl, rfl, otherJudges⟩
        obtain ⟨rfl, rfl⟩ := stops.unique otherStops
        rw [← finish] at otherJudges ⊢
        rw [← journal, ← judges.unique otherJudges]
    passed := by
      constructor
      · intro isPassed
        rw [isPassed] at judges
        obtain ⟨rfl, met⟩ := Store.Judges.passed_iff.mp judges
        exact ⟨machine.stopsAt_returned_iff.mp ⟨count, stops⟩, met⟩
      · rintro ⟨all, met⟩
        obtain ⟨otherCount, otherStops⟩ := machine.stopsAt_returned_iff.mpr all
        obtain ⟨rfl, rfl⟩ := stops.unique otherStops
        exact judges.unique (.passed met)
    reads := by
      intro taken name value
      have wrote :=
        machine.reach_wrote (scenario.steps group place)
          (scene.enter context.fork) taken name
      rw [machine.run_readVariable_iff, sceneAt, wrote]
      rfl
    fresh := scenario.madeStubs_fresh machine group place context scene
    apart := by
      intro other otherGroup otherPlace otherContext later grows stub member otherMember
      have first :=
        scenario.madeStubs_fresh machine group place context scene stub member
      have second :=
        other.madeStubs_fresh machine otherGroup otherPlace otherContext later stub
        otherMember
      have older := grows.next_le
      omega }

end Scenario

end Conformance
