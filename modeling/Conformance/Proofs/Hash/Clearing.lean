import Conformance.Proofs.Hash.Assigning
import Conformance.Proofs.Hash.Fallbacks
import Conformance.Proofs.Hash.Storing
import Mathlib.Data.Set.Finite.Basic

namespace Conformance

/-!
# Dropping the default callable

Assigning `nil` as the default callable is to leave a hash that answers `nil` for
every key that is not stored.  It drops the callable and touches nothing else: a
fixed value that is in place without a callable stays there, and answers from then
on as it did before.  A hash with a callable has no fixed value, so this is the
only history in which the promise is not kept.
-/

namespace HashRef

variable {World Label : Type}

/--
A hash answers one value for every key that is not stored, and calls nothing for it.
-/
structure AbsentAnswer
    (hash : HashRef)
    (value : Value)
    (scene : Scene World Label) : Prop where
  noCallable : (scene.store.hash hash).defaultProc = none
  answer : ∀ (invoke : Invoke World Label) key,
    (scene.store.hash hash).contains key = false →
    hash.get invoke key scene = (.returned value, scene)

/--
Assigning `nil` as the default callable answers `nil`, as every
absent key does afterwards.
-/
def ClearsFallback
    (invoke : Invoke World Label)
    (hash : HashRef)
    (scene : Scene World Label) : Prop :=
  ∃ after,
    hash.setDefaultProc invoke .nil scene = (.returned .nil, after) ∧
      hash.AbsentAnswer .nil after

end HashRef

/--
What assigning `nil` as the default callable is to promise, at
every point of a course.
-/
def ClearingPromise
    {World Label : Type}
    (start : Scene World Label)
    (moments : List (Moment World Label))
    (hash : HashRef) : Prop :=
  ∀ earlier (invoke : Invoke World Label),
    earlier <+: moments →
    ((Moment.sceneAfter start earlier).store.hash hash).frozen = false →
    hash.ClearsFallback invoke (Moment.sceneAfter start earlier)

/--
What setting a fallback ensures at every point of a course: all of the promise, but
for a fixed value that assigning `nil` leaves in place.
-/
structure ClearingEnsures
    {World Label : Type}
    (start : Scene World Label)
    (moments : List (Moment World Label))
    (hash : HashRef) : Prop where
  dropped : ∀ {earlier} (invoke : Invoke World Label),
    earlier <+: moments →
    ((Moment.sceneAfter start earlier).store.hash hash).frozen = false →
    ∃ after,
      hash.setDefaultProc invoke .nil (Moment.sceneAfter start earlier) =
        (.returned .nil, after) ∧
        after.store.hash hash =
          { (Moment.sceneAfter start earlier).store.hash hash with defaultProc := none } ∧
        hash.AbsentAnswer ((Moment.sceneAfter start earlier).store.hash hash).default after
  ofCallable : ∀ {earlier callable} (invoke : Invoke World Label),
    earlier <+: moments →
    ((Moment.sceneAfter start earlier).store.hash hash).frozen = false →
    ((Moment.sceneAfter start earlier).store.hash hash).defaultProc = some callable →
    hash.ClearsFallback invoke (Moment.sceneAfter start earlier)
  fixedSet : ∀ {earlier} value,
    earlier <+: moments →
    ((Moment.sceneAfter start earlier).store.hash hash).frozen = false →
    ∃ after,
      hash.setDefault value (Moment.sceneAfter start earlier) =
        (.returned value, after) ∧
        hash.AbsentAnswer value after
  callableSet : ∀ {earlier argument answer after} (invoke : Invoke World Label),
    earlier <+: moments →
    argument ≠ .nil →
    hash.setDefaultProc invoke argument (Moment.sceneAfter start earlier) =
      (.returned answer, after) →
    (after.store.hash hash).default = .nil ∧
      ∃ callable, (after.store.hash hash).defaultProc = some callable
  lasting : ∀ {earlier between value},
    earlier ++ between <+: moments →
    hash.id < (Moment.sceneAfter start earlier).store.next →
    (∀ moment ∈ between, ¬ moment.SetsFallback hash) →
    hash.AbsentAnswer value (Moment.sceneAfter start earlier) →
    hash.AbsentAnswer value (Moment.sceneAfter start (earlier ++ between))

/-- There is always a key that is not stored. -/
theorem HashState.exists_absent (state : HashState) :
    ∃ key, state.contains key = false := by
  have many : (Set.range fun id => Value.hash ⟨id⟩).Infinite :=
    Set.infinite_range_of_injective fun first second same => by simpa using same
  obtain ⟨_, ⟨id, rfl⟩, fresh⟩ :=
    many.exists_notMem_finset (state.entries.map fun entry => entry.1.content).toFinset
  refine ⟨.hash ⟨id⟩, List.any_eq_false.mpr ?_⟩
  intro entry member isEqual
  apply fresh
  rw [List.mem_toFinset, List.mem_map]
  exact ⟨entry, member, Value.equal_iff.mp isEqual⟩

namespace HashRef

variable {World Label : Type} {hash : HashRef} {scene : Scene World Label}

/-- What a hash without a callable answers for absent keys is its fixed value. -/
theorem absentAnswer_iff {value : Value} :
    hash.AbsentAnswer value scene ↔
      (scene.store.hash hash).fallback = (value, none) := by
  have absent {key :
      Value} (notStored : (scene.store.hash hash).contains key = false) :
      (scene.store.hash hash).find? key = none := by
    simpa [HashState.contains_eq_isSome] using notStored
  constructor
  · intro answers
    obtain ⟨key, notStored⟩ := (scene.store.hash hash).exists_absent
    have answered := answers.answer (fun _ _ => Act.done .nil) key notStored
    simp only [get, absent notStored, answers.noCallable] at answered
    cases answered
    simp [HashState.fallback, answers.noCallable]
  · intro fallback
    obtain ⟨rfl, noCallable⟩ := Prod.mk.inj fallback
    refine ⟨noCallable, fun invoke key notStored => ?_⟩
    simp only [get, absent notStored, noCallable]

/--
Assigning `nil` clears what a hash falls back to exactly when no
fixed value is in place.
-/
theorem clearsFallback_iff
    {invoke : Invoke World Label}
    (unfrozen : (scene.store.hash hash).frozen = false) :
    hash.ClearsFallback invoke scene ↔ (scene.store.hash hash).default = .nil := by
  have performed :
      hash.setDefaultProc invoke .nil scene =
        (.returned .nil, hash.update HashState.withoutDefaultProc scene) :=
    (Assignment.dropped unfrozen rfl).performed
  have dropped :
      (hash.update HashState.withoutDefaultProc scene).store.hash hash =
        (scene.store.hash hash).withoutDefaultProc :=
    store_hash_update _ _ _
  constructor
  · rintro ⟨after, cleared, answers⟩
    rw [performed] at cleared
    cases cleared
    have fallback := absentAnswer_iff.mp answers
    rw [dropped] at fallback
    exact congrArg Prod.fst fallback
  · intro noFixed
    refine ⟨_, performed, absentAnswer_iff.mpr ?_⟩
    rw [dropped, ← noFixed]
    rfl

/-- Dropping the callable of a hash touches nothing else of it. -/
theorem setDefaultProc_nil
    (invoke : Invoke World Label)
    (unfrozen : (scene.store.hash hash).frozen = false) :
    ∃ after,
      hash.setDefaultProc invoke .nil scene = (.returned .nil, after) ∧
        after.store.hash hash = { scene.store.hash hash with defaultProc := none } ∧
        hash.AbsentAnswer (scene.store.hash hash).default after := by
  refine ⟨_, (Assignment.dropped unfrozen rfl).performed,
    store_hash_update _ _ _, ?_⟩
  apply absentAnswer_iff.mpr
  rw [store_hash_update]
  rfl

/-- A fixed value takes the place of whatever a hash fell back to. -/
theorem setDefault_answers
    (value : Value)
    (unfrozen : (scene.store.hash hash).frozen = false) :
    ∃ after,
      hash.setDefault value scene = (.returned value, after) ∧
        hash.AbsentAnswer value after := by
  refine ⟨hash.update (fun state => state.withDefault value) scene, ?_, ?_⟩
  · simp [setDefault_apply, unfrozen]
  · apply absentAnswer_iff.mpr
    rw [store_hash_update]
    rfl

end HashRef

namespace Program

variable {World Label : Type}

/--
Assigning `nil` keeps its promise in exactly those courses in which the hash never
has a fixed value while it is unfrozen; what setting a fallback ensures of the
promise it ensures in every course.
-/
theorem clearingPromise_iff
    (program : Program World Label)
    (depth : Nat)
    (tasks : List (Task World Label))
    (context : Context)
    (world : World)
    (hash : HashRef) :
    let start : Scene World Label := .fresh context world
    let moments := program.course depth tasks start
    ClearingEnsures start moments hash ∧
      (ClearingPromise start moments hash ↔
        ∀ earlier,
          earlier <+: moments →
          ((Moment.sceneAfter start earlier).store.hash hash).frozen = false →
          ((Moment.sceneAfter start earlier).store.hash hash).default = .nil) := by
  intro start moments
  obtain ⟨finish, trail⟩ := program.course_trail depth tasks start
  refine ⟨?ensures, ?kept⟩
  case ensures => exact {
    dropped := fun invoke _ unfrozen => HashRef.setDefaultProc_nil invoke unfrozen
    ofCallable := by
      intro earlier callable invoke point unfrozen falls
      apply (HashRef.clearsFallback_iff unfrozen).mpr
      exact trail.everyHash HashState.fallsBackOnce_invariant point hash callable falls
    fixedSet := fun value _ unfrozen => HashRef.setDefault_answers value unfrozen
    callableSet := by
      intro earlier argument answer after invoke _ notNil performed
      obtain ⟨-, callable, reached, -, -, stored⟩ :=
        (HashRef.setDefaultProc_eq_iff.mp performed).stores notNil
      rw [stored]
      exact ⟨rfl, callable, rfl⟩
    lasting := by
      intro earlier between value points made noSetter answers
      have kept := (trail.stretch .refl points).fallback_eq made noSetter
      exact HashRef.absentAnswer_iff.mpr
        (kept.trans (HashRef.absentAnswer_iff.mp answers)) }
  case kept =>
    constructor
    · intro promise earlier point unfrozen
      have clears := promise earlier (fun _ _ => Act.done .nil) point unfrozen
      exact (HashRef.clearsFallback_iff unfrozen).mp clears
    · intro noFixed earlier invoke point unfrozen
      exact (HashRef.clearsFallback_iff unfrozen).mpr
        (noFixed earlier point unfrozen)

end Program

/-- A program without bodies. -/
def bodiless : Program Unit Empty where
  body label _ := label.elim

/-- Makes a hash with a fixed value. -/
def makeFixed : Task Unit Empty where
  context := .new ⟨"x86_64-linux"⟩
  code := do
    let _ ← Code.perform (.newHash (.fixed (.integer 42)))
    pure ()

/-- The promise is not kept when the hash has a fixed value. -/
theorem not_clearingPromise_makeFixed :
    ¬ ClearingPromise (.fresh (.new ⟨"x86_64-linux"⟩) ())
      (bodiless.course 1 [makeFixed] (.fresh (.new ⟨"x86_64-linux"⟩) ())) ⟨0⟩ := by
  intro promise
  have clears := promise _ (fun _ _ => Act.done .nil) List.prefix_rfl rfl
  have noFixed := (HashRef.clearsFallback_iff rfl).mp clears
  cases noFixed

end Conformance
