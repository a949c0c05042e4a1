import Conformance.Proofs.Program.Keeping

namespace Conformance

/-!
# Hashes along a course

A hash is made in one of three ways and changed in five.  What all of these respect
is true of every hash at every point of a course.  An operation changes no hash but
the one that it is aimed at, so a hash is the same after every step that is not
aimed at it.
-/

/-- The hash that an operation is to change. -/
def Operation.target? {Label : Type} : Operation Label → Option HashRef
  | .insert hash _ _ => some hash
  | .setDefault hash _ => some hash
  | .setDefaultProc hash _ => some hash
  | .freeze hash => some hash
  | _ => none

/-- The hash that the operation of a moment is to change. -/
def Moment.target?
    {World Label : Type}
    (moment : Moment World Label) :
    Option HashRef :=
  moment.act?.bind Operation.target?

/-- Every way of making a hash and every change of one respects a property. -/
structure HashState.Invariant (holds : HashState → Prop) : Prop where
  new : ∀ fallback, holds (.new fallback)
  insert : ∀ {state}, holds state → ∀ key value, holds (state.insert key value)
  withDefault : ∀ {state}, holds state → ∀ value, holds (state.withDefault value)
  withDefaultProc : ∀ {state}, holds state →
    ∀ callable, holds (state.withDefaultProc callable)
  withoutDefaultProc : ∀ {state}, holds state → holds state.withoutDefaultProc
  freeze : ∀ {state}, holds state → holds state.freeze

/-- Every hash of a store has a property. -/
def Store.EveryHash
    {Label : Type}
    (holds : HashState → Prop)
    (store : Store Label) : Prop :=
  ∀ hash, holds (store.hash hash)

namespace Store

variable {Label : Type}

/--
A part that a new state of one hash has in common with the old one
is kept in every hash.
-/
theorem part_putHash
    {Part : Type}
    (part : HashState → Part)
    (store : Store Label)
    (target hash : HashRef)
    (state : HashState)
    (kept : part state = part (store.hash target)) :
    part ((store.putHash target state).hash hash) = part (store.hash hash) := by
  by_cases same : hash = target
  · subst same
    rw [hash_putHash_same]
    exact kept
  · rw [hash_putHash_other store state same]

/-- Making a hash leaves every hash that is already there as it is. -/
theorem hash_newHash
    {store : Store Label}
    {hash : HashRef}
    (made : hash.id < store.next)
    (fallback : Fallback) :
    (store.newHash fallback).2.hash hash = store.hash hash := by
  apply hash_putHash_other
  rintro rfl
  exact Nat.lt_irrefl _ made

theorem EveryHash.putHash
    {holds : HashState → Prop}
    {store : Store Label}
    (every : store.EveryHash holds)
    (target : HashRef)
    {state : HashState}
    (holdsOfState : holds state) :
    (store.putHash target state).EveryHash holds := by
  intro hash
  by_cases same : hash = target
  · subst same
    rw [hash_putHash_same]
    exact holdsOfState
  · rw [hash_putHash_other store state same]
    exact every hash

end Store

namespace Operation.Change

variable {Label : Type} {operation : Operation Label} {before after : Store Label}

/-- A change leaves every hash as it is that its operation is not aimed at. -/
theorem hash_eq
    {hash : HashRef}
    (change : operation.Change before after)
    (made : hash.id < before.next)
    (untargeted : operation.target? ≠ some hash) :
    after.hash hash = before.hash hash := by
  have apart (target : HashRef) (aims : operation.target? = some target) :
    hash ≠ target := by
    rintro rfl
    exact untargeted aims
  cases change with
  | newHash => exact Store.hash_newHash made _
  | newText | newGroup | newProc | newObject | newStub => rfl
  | insert | setDefault | dropDefaultProc | setDefaultProc | freeze =>
      exact Store.hash_putHash_other _ _ (apart _ rfl)
  | count | shouldReceive | andReturn | exactly => rfl

theorem everyHash
    {holds : HashState → Prop}
    (change : operation.Change before after)
    (invariant : HashState.Invariant holds)
    (every : before.EveryHash holds) :
    after.EveryHash holds := by
  cases change with
  | newHash => exact every.putHash ⟨before.next⟩ (invariant.new _)
  | newText | newGroup | newProc | newObject | newStub => exact every
  | @insert target =>
      exact every.putHash target (invariant.insert (every target) _ _)
  | @setDefault target =>
      exact every.putHash target (invariant.withDefault (every target) _)
  | @dropDefaultProc target =>
      exact every.putHash target (invariant.withoutDefaultProc (every target))
  | @setDefaultProc target =>
      exact every.putHash target (invariant.withDefaultProc (every target) _)
  | @freeze target => exact every.putHash target (invariant.freeze (every target))
  | count | shouldReceive | andReturn | exactly => exact every

end Operation.Change

namespace HashRef

variable {World Label : Type}

theorem store_hash_update
    (hash : HashRef)
    (change : HashState → HashState)
    (scene : Scene World Label) :
    (hash.update change scene).store.hash hash = change (scene.store.hash hash) :=
  Store.hash_putHash_same _ _ _

/-- A new hash has the state that comes with what it falls back to. -/
theorem made_of_newHash
    {invoke : Invoke World Label}
    {fallback : Fallback}
    {hash : HashRef}
    {before after : Scene World Label}
    (performed :
      (Operation.newHash fallback).perform invoke before =
        (.returned (.hash hash), after)) :
    hash.id < after.store.next ∧ after.store.hash hash = .new fallback := by
  cases performed
  exact ⟨Nat.lt_succ_self _, Store.hash_putHash_same _ _ _⟩

end HashRef

namespace Moment.Follows

variable {World Label : Type} {program : Program World Label}
variable {scene : Scene World Label} {moment : Moment World Label} {hash : HashRef}

/-- A step changes no hash that the operation of its moment is not aimed at. -/
theorem hash_eq
    (follows : moment.Follows program Scene.SameObjects scene)
    (made : hash.id < scene.store.next)
    (untargeted : moment.target? ≠ some hash) :
    moment.scene.store.hash hash = scene.store.hash hash := by
  apply follows.keeps (fun store => store.hash hash) made
  intro operation before after acts change stillMade
  apply change.hash_eq stillMade
  intro aims
  apply untargeted
  rw [target?, acts]
  exact aims

end Moment.Follows

/--
What every change of a hash respects is true of every hash at
every point of a trail.
-/
theorem Trail.everyHash
    {World Label : Type}
    {program : Program World Label}
    {context : Context}
    {world : World}
    {finish : Scene World Label}
    {earlier moments : List (Moment World Label)}
    {holds : HashState → Prop}
    (invariant : HashState.Invariant holds)
    (trail : Trail program Scene.SameObjects (.fresh context world) moments finish)
    (point : earlier <+: moments) :
    (Moment.sceneAfter (.fresh context world) earlier).store.EveryHash holds :=
  (trail.upTo .refl point).carries (Store.EveryHash holds)
    (fun _ => invariant.new .nothing)
    fun change every => change.everyHash invariant every

end Conformance
