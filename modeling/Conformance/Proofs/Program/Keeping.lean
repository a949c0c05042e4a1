import Conformance.Proofs.Program.Courses

namespace Conformance

/-!
# What a course keeps

Every step of a course changes the objects only as one operation changes them: the
one that ends there, or the making of a stub that was asked for.  So a part of the
objects that no operation of a stretch changes is the same at its end, and what
every change respects holds all along.
-/

/-- The operation whose changes a moment comes with, if it comes with any. -/
def Moment.act?
    {World Label : Type} :
    Moment World Label → Option (Operation Label)
  | .askedStub name _ _ _ => some (.newStub name)
  | .ended _ operation _ _ _ => some operation
  | _ => none

/-- A change that the operation of a moment makes. -/
def Moment.Change
    {World Label : Type}
    (moment : Moment World Label)
    (before after : Store Label) : Prop :=
  ∃ operation, moment.act? = some operation ∧ operation.Change before after

namespace Scene

variable {World Label : Type}

/--
Asking for a stub is either refused and changes nothing, or
makes one and records it.
-/
theorem makeStub_cases
    {before reached : Scene World Label}
    {name : String}
    {answer : Except Misuse Value}
    (asked : before.makeStub name = (answer, reached)) :
    (answer = .error (.groupStub name) ∧ reached = before) ∨
      (answer = .ok (.object (.stub before.store.next)) ∧
        reached =
          { before with
            store := (before.store.newStub name).2
            context := before.context.addStub before.store.next }) := by
  cases group : before.context.groupLevel with
  | true =>
      rw [makeStub_of_groupLevel group] at asked
      cases asked
      exact .inl ⟨rfl, rfl⟩
  | false =>
      simp only [makeStub, group, Bool.false_eq_true, ↓reduceIte] at asked
      cases asked
      exact .inr ⟨rfl, rfl⟩

end Scene

namespace Moment.Follows

variable {World Label : Type} {program : Program World Label}
variable {scene : Scene World Label} {moment : Moment World Label}

/-- A step changes the objects only as the operation of its moment does. -/
theorem changes (follows : moment.Follows program Scene.SameObjects scene) :
    Relation.ReflTransGen moment.Change scene.store moment.scene.store := by
  cases follows with
  | passed rests =>
      rw [← rests]
      exact .refl
  | began rests =>
      rw [← rests]
      exact .refl
  | @askedStub name before reached answer rests asked =>
      rw [← rests]
      rcases Scene.makeStub_cases asked with ⟨rfl, rfl⟩ | ⟨rfl, rfl⟩
      · exact .refl
      · exact .single ⟨.newStub name, rfl, .newStub⟩
  | @ended depth operation start reached ending rests performed =>
      obtain ⟨store, changes, finish⟩ :=
        operation.perform_finishes (program.invoke depth) start
      rw [performed] at finish
      subst finish
      rw [← rests]
      exact Relation.ReflTransGen.mono
        (fun _ _ change => ⟨operation, rfl, change⟩) _ _ changes

/-- What holds before a step holds after it, if the changes of its moment respect it. -/
theorem carries
    (holds : Store Label → Prop)
    (follows : moment.Follows program Scene.SameObjects scene)
    (first : holds scene.store)
    (respected : ∀ operation before after,
      moment.act? = some operation →
      operation.Change before after →
      holds before →
      holds after) :
    holds moment.scene.store := by
  have along (store : Store Label)
      (changes : Relation.ReflTransGen moment.Change scene.store store) :
        holds store := by
    induction changes with
    | refl => exact first
    | tail _ change inductionHypothesis =>
        obtain ⟨operation, acts, change⟩ := change
        exact respected operation _ _ acts change inductionHypothesis
  exact along moment.scene.store follows.changes

theorem grows (follows : moment.Follows program Scene.SameObjects scene) :
    scene.store.Grows moment.scene.store :=
  follows.carries scene.store.Grows (.refl scene.store)
    fun _ _ _ _ change earlier => earlier.trans change.grows

/-- A part of an object that no change of a moment touches is the same after it. -/
theorem keeps
    {Part : Type}
    {id : Nat}
    (part : Store Label → Part)
    (follows : moment.Follows program Scene.SameObjects scene)
    (made : id < scene.store.next)
    (kept : ∀ operation before after,
      moment.act? = some operation →
      operation.Change before after →
      id < before.next →
      part after = part before) :
    part moment.scene.store = part scene.store := by
  have keeping :=
    follows.carries (fun store => id < store.next ∧
      part store = part scene.store) ⟨made, rfl⟩
      fun operation before after acts change held =>
        ⟨Nat.lt_of_lt_of_le held.1 change.grows.next_le,
          (kept operation before after acts change held.1).trans held.2⟩
  exact keeping.2

end Moment.Follows

namespace Trail

variable {World Label : Type} {program : Program World Label}
variable {start finish : Scene World Label} {moments : List (Moment World Label)}

/-- What every change respects holds at the end of a trail if it held at its start. -/
theorem carries
    (holds : Store Label → Prop)
    (trail : Trail program Scene.SameObjects start moments finish)
    (first : holds start.store)
    (respected : ∀ {operation : Operation Label} {before after},
      operation.Change before after → holds before → holds after) :
    holds finish.store := by
  induction trail with
  | nil rests =>
      rw [rests]
      exact first
  | cons follows _ inductionHypothesis =>
      apply inductionHypothesis
      exact follows.carries holds first fun _ _ _ _ change held =>
        respected change held

/--
A part of an object that every step changes by the event of its moment, if it has
one, is changed by a trail by the events of its moments in order.
-/
theorem replays
    {Part Event : Type}
    {id : Nat}
    (part : Store Label → Part)
    (event? : Moment World Label → Option Event)
    (apply : Part → Event → Part)
    (trail : Trail program Scene.SameObjects start moments finish)
    (made : id < start.store.next)
    (step : ∀ moment ∈ moments, ∀ scene,
      moment.Follows program Scene.SameObjects scene →
      id < scene.store.next →
      part moment.scene.store =
        (event? moment).toList.foldl apply (part scene.store)) :
    part finish.store =
      (moments.filterMap event?).foldl apply (part start.store) := by
  induction trail with
  | nil rests =>
      rw [rests]
      rfl
  | @cons start _ moment rest follows _ inductionHypothesis =>
      have stillMade : id < moment.scene.store.next :=
        Nat.lt_of_lt_of_le made follows.grows.next_le
      have later :=
        inductionHypothesis stillMade fun other member =>
          step other (List.mem_cons_of_mem _ member)
      rw [later, step moment List.mem_cons_self start follows made]
      cases event : event? moment with
      | none => simp [event]
      | some found => simp [event]

/-- A part of an object that no step of a trail changes is the same at its end. -/
theorem keeps
    {Part : Type}
    {id : Nat}
    (part : Store Label → Part)
    (trail : Trail program Scene.SameObjects start moments finish)
    (made : id < start.store.next)
    (step : ∀ moment ∈ moments, ∀ scene,
      moment.Follows program Scene.SameObjects scene →
      id < scene.store.next →
      part moment.scene.store = part scene.store) :
    part finish.store = part start.store := by
  have replayed :=
    trail.replays part (fun _ => (none : Option Empty))
      (fun kept _ => kept) made step
  have noEvents : moments.filterMap (fun _ => (none : Option Empty)) = [] :=
    List.filterMap_eq_nil_iff.mpr fun _ _ => rfl
  rw [replayed, noEvents]
  rfl

end Trail

end Conformance
