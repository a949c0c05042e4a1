import Conformance.Proofs.Hash.Invariants

namespace Conformance

/-!
# The fallbacks of hashes

Two fields of a hash say what it falls back to, a fixed value and a callable.  A hash
with a callable has no fixed value besides it, so a key that is not stored is
answered in one way.  Only the two setters write these fields, and only when they
succeed: the conversion of an argument may change a hash, as any code may, but a
setter that fails has written nothing by itself.
-/

/-- What a hash falls back to: its fixed value and its callable. -/
def HashState.fallback (state : HashState) : Value × Option Proc :=
  (state.default, state.defaultProc)

/-- A hash that falls back to a callable has no fixed value besides it. -/
def HashState.FallsBackOnce (state : HashState) : Prop :=
  ∀ callable, state.defaultProc = some callable → state.default = .nil

/-- The operations that are to change what a hash falls back to. -/
inductive Operation.SetsFallback
    {Label : Type}
    (hash : HashRef) :
    Operation Label → Prop where
  | setDefault (value : Value) : SetsFallback hash (.setDefault hash value)
  | setDefaultProc (argument : Value) :
      SetsFallback hash (.setDefaultProc hash argument)

/-- The successful end of a change of what a hash falls back to. -/
inductive Moment.SetsFallback
    {World Label : Type}
    (hash : HashRef) :
    Moment World Label → Prop where
  | intro
      {nesting : Nat}
      {operation : Operation Label}
      {before after : Scene World Label}
      {answer : Value}
      (sets : operation.SetsFallback hash) :
      SetsFallback hash (.ended nesting operation before (.returned answer) after)

/--
The ways in which a key is looked up in a hash, with the moments that come past in
the meantime: those of one call of the callable, if the key is not stored and there
is a callable, and no moments at all otherwise.
-/
inductive HashRef.Resolves
    {World Label : Type}
    (program : Program World Label)
    (hash : HashRef)
    (key : Value)
    (depth : Nat)
    (before : Scene World Label) :
    List (Moment World Label) → Ending Raised Value → Scene World Label → Prop where
  | stored
      {value : Value}
      (found : (before.store.hash hash).find? key = some value) :
      Resolves program hash key depth before [] (.returned value) before
  | computed
      {callable : Proc}
      {ending : Ending Raised Value}
      {after : Scene World Label}
      (absent : (before.store.hash hash).find? key = none)
      (falls : (before.store.hash hash).defaultProc = some callable)
      (called :
        callable.call (program.invoke depth) [.hash hash,
          key] before = (ending, after)) :
      Resolves program hash key depth before
        ((Operation.call callable [.hash hash, key]).moments
          (program.within depth) before)
        ending after
  | fixed
      (absent : (before.store.hash hash).find? key = none)
      (noCallable : (before.store.hash hash).defaultProc = none) :
      Resolves program hash key depth before []
        (.returned (before.store.hash hash).default) before

/-- The ways in which the assignment of a default callable can end. -/
inductive HashRef.Assigns
    {World Label : Type}
    (invoke : Invoke World Label)
    (hash : HashRef)
    (argument : Value)
    (before : Scene World Label) :
    Ending Raised Value → Scene World Label → Prop where
  | frozen
      (isFrozen : (before.store.hash hash).frozen = true) :
      Assigns invoke hash argument before (.stopped (.frozen "Hash")) before
  | dropped
      (isNil : argument = .nil) :
      Assigns invoke hash argument before (.returned argument)
        (hash.update HashState.withoutDefaultProc before)
  | stored
      {callable : Proc}
      {converted : Scene World Label}
      (notNil : argument ≠ .nil)
      (conversion : argument.toProc? invoke before =
        (.returned (some callable), converted))
      (computes : HashRef.computes callable = true) :
      Assigns invoke hash argument before (.returned argument)
        (hash.update (fun state => state.withDefaultProc callable) converted)
  | refused
      {ending : Ending Raised Value}
      (unfrozen : (before.store.hash hash).frozen = false)
      (failed : ∀ answer, ending ≠ .returned answer) :
      Assigns invoke hash argument before ending (argument.toProc? invoke before).2

/-- What a hash falls back to along the moments of a course, and what comes of it. -/
structure FallbackGoverned
    {World Label : Type}
    (program : Program World Label)
    (start : Scene World Label)
    (moments : List (Moment World Label))
    (hash : HashRef) : Prop where
  exclusive : ∀ {earlier},
    earlier <+: moments →
    ((Moment.sceneAfter start earlier).store.hash hash).FallsBackOnce
  born : ∀ {nesting fallback before after},
    .ended nesting (.newHash fallback) before
      (.returned (.hash hash)) after ∈ moments →
    hash.id < after.store.next ∧ after.store.hash hash = .new fallback
  resolves : ∀ {nesting key before ending after},
    .ended nesting (.get hash key) before ending after ∈ moments →
    ∃ called,
      hash.Resolves program key nesting before called ending after ∧
        .began (.get hash key) before ::
            (called ++ [.ended nesting (.get hash key) before ending after]) <:+:
          moments
  defaultSet : ∀ {nesting value before answer after},
    .ended nesting (.setDefault hash value) before
      (.returned answer) after ∈ moments →
    answer = value ∧ (after.store.hash hash).fallback = (value, none)
  procDropped : ∀ {nesting before answer after},
    .ended nesting (.setDefaultProc hash .nil) before
      (.returned answer) after ∈ moments →
    answer = .nil ∧
      (after.store.hash hash).fallback = ((before.store.hash hash).default, none)
  procSet : ∀ {nesting argument before answer after},
    argument ≠ .nil →
    .ended nesting (.setDefaultProc hash argument) before
      (.returned answer) after ∈ moments →
    answer = argument ∧
      ∃ callable converted,
        argument.toProc? (program.invoke nesting) before =
            (.returned (some callable), converted) ∧
          HashRef.computes callable = true ∧
          (after.store.hash hash).fallback = (.nil, some callable)
  failed : ∀ {earlier nesting operation before ending after},
    earlier ++ [.ended nesting operation before ending after] <+: moments →
    operation.SetsFallback hash →
    (∀ answer, ending ≠ .returned answer) →
    after.store.hash hash = (Moment.sceneAfter start earlier).store.hash hash
  lasting : ∀ {earlier between},
    earlier ++ between <+: moments →
    hash.id < (Moment.sceneAfter start earlier).store.next →
    (∀ moment ∈ between, ¬ moment.SetsFallback hash) →
    ((Moment.sceneAfter start (earlier ++ between)).store.hash hash).fallback =
      ((Moment.sceneAfter start earlier).store.hash hash).fallback

namespace HashState

theorem fallsBackOnce_of_no_callable
    {state : HashState}
    (noCallable : state.defaultProc = none) :
    state.FallsBackOnce := by
  intro callable falls
  rw [noCallable] at falls
  cases falls

theorem fallsBackOnce_invariant : Invariant FallsBackOnce where
  new fallback := by
    cases fallback with
    | nothing => exact fallsBackOnce_of_no_callable rfl
    | fixed value => exact fallsBackOnce_of_no_callable rfl
    | computed callable => exact fun _ _ => rfl
  insert once key value := once
  withDefault _ value := fallsBackOnce_of_no_callable rfl
  withDefaultProc _ callable := fun _ _ => rfl
  withoutDefaultProc _ := fallsBackOnce_of_no_callable rfl
  freeze once := once

end HashState

namespace Operation

variable {World Label : Type} {hash : HashRef}

/--
A change of another operation than the setters of a hash keeps
what it falls back to.
-/
theorem Change.fallback_eq
    {operation : Operation Label}
    {before after : Store Label}
    (change : operation.Change before after)
    (made : hash.id < before.next)
    (noSetter : ¬ operation.SetsFallback hash) :
    (after.hash hash).fallback = (before.hash hash).fallback := by
  cases change with
  | newHash => exact congrArg HashState.fallback (Store.hash_newHash made _)
  | newText | newGroup | newProc | newObject | newStub => rfl
  | insert | freeze => exact Store.part_putHash HashState.fallback _ _ hash _ rfl
  | @setDefault target value =>
      have different : hash ≠ target := by
        rintro rfl
        exact noSetter (.setDefault value)
      exact congrArg HashState.fallback (Store.hash_putHash_other _ _ different)
  | @dropDefaultProc target argument | @setDefaultProc target argument =>
      have different : hash ≠ target := by
        rintro rfl
        exact noSetter (.setDefaultProc argument)
      exact congrArg HashState.fallback (Store.hash_putHash_other _ _ different)
  | count | shouldReceive | andReturn | exactly => rfl

/-- A conversion by itself changes no hash. -/
theorem Finishes.hash_eq_of_toProc
    {value : Value}
    {handed finish : Scene World Label}
    (finishes : (Operation.toProc value).Finishes handed finish) :
    finish.store.hash hash = handed.store.hash hash := by
  obtain ⟨store, changes, rfl⟩ := finishes
  induction changes with
  | refl => rfl
  | tail _ change inductionHypothesis =>
      cases change with
      | count => exact inductionHypothesis

end Operation

namespace HashRef

variable {World Label : Type}

theorem setDefaultProc_assigns
    (invoke : Invoke World Label)
    (hash : HashRef)
    (argument : Value)
    (before : Scene World Label) :
    hash.Assigns invoke argument before
      (hash.setDefaultProc invoke argument before).1
      (hash.setDefaultProc invoke argument before).2 := by
  rw [setDefaultProc_apply]
  cases frozen : (before.store.hash hash).frozen with
  | true => exact .frozen frozen
  | false =>
      cases isNil : argument.isNil with
      | true =>
          cases argument with
          | nil => exact .dropped rfl
          | _ => cases isNil
      | false =>
          have notNil : argument ≠ .nil := by
            rintro rfl
            cases isNil
          have refused {ending : Ending Raised Value}
              (failed : ∀ answer, ending ≠ .returned answer) :
              hash.Assigns invoke argument before ending
                (argument.toProc? invoke before).2 :=
            .refused frozen failed
          simp only [Bool.false_eq_true, ↓reduceIte, Act.bind_apply]
          rcases conversion : argument.toProc? invoke before with ⟨ending, converted⟩
          rw [conversion] at refused
          rcases ending with (_ | callable) | error | text | _
          · exact refused (by simp [storeDefaultProc])
          · cases computes : HashRef.computes callable with
            | true =>
                simp only [storeDefaultProc, computes, ↓reduceIte]
                exact .stored notNil conversion computes
            | false =>
                simp only [storeDefaultProc, computes,
                  Bool.false_eq_true, ↓reduceIte]
                exact refused (by simp)
          · exact refused (by simp)
          · exact refused (by simp)
          · exact refused (by simp)

theorem assigns_of_performed
    {invoke : Invoke World Label}
    {hash : HashRef}
    {argument : Value}
    {before after : Scene World Label}
    {ending : Ending Raised Value}
    (performed :
      (Operation.setDefaultProc hash argument).perform invoke before =
        (ending, after)) :
    hash.Assigns invoke argument before ending after := by
  have assigns := hash.setDefaultProc_assigns invoke argument before
  rw [Operation.perform] at performed
  rw [performed] at assigns
  exact assigns

/-- A lookup comes past the moments of the one call that its answer comes from, if any. -/
theorem get_resolves
    (program : Program World Label)
    (hash : HashRef)
    (key : Value)
    (depth : Nat)
    (before : Scene World Label) :
    hash.Resolves program key depth before
      ((Operation.get hash key).moments (program.within depth) before)
      (hash.get (program.invoke depth) key before).1
      (hash.get (program.invoke depth) key before).2 := by
  cases found : (before.store.hash hash).find? key with
  | some value =>
      simp only [get, Operation.moments, Operation.callee?, found]
      exact .stored found
  | none =>
      cases fallback : (before.store.hash hash).defaultProc with
      | none =>
          simp only [get, Operation.moments, Operation.callee?, found, fallback]
          exact .fixed found fallback
      | some callable =>
          simp only [get, Operation.moments, Operation.callee?, found, fallback]
          exact .computed found fallback rfl

end HashRef

namespace Moment.Follows

variable {World Label : Type} {program : Program World Label}
variable {scene : Scene World Label} {hash : HashRef}

/-- A setter that fails leaves the hash as the conversion of its argument left it. -/
theorem hash_eq_of_failed
    {nesting : Nat}
    {operation : Operation Label}
    {before after : Scene World Label}
    {ending : Ending Raised Value}
    (follows :
      (Moment.ended nesting operation before ending after).Follows
        program Scene.SameObjects scene)
    (sets : operation.SetsFallback hash)
    (failed : ∀ answer, ending ≠ .returned answer) :
    after.store.hash hash = scene.store.hash hash := by
  cases follows with
  | ended rests performed =>
      rw [← rests]
      cases sets with
      | setDefault value =>
          rw [Operation.perform, HashRef.setDefault_apply] at performed
          split at performed
          · cases performed
            rfl
          · cases performed
            exact absurd rfl (failed _)
      | setDefaultProc argument =>
          cases HashRef.assigns_of_performed performed with
          | frozen isFrozen =>
              simp only [Operation.handed, Operation.callee?, isFrozen, ↓reduceIte]
              rfl
          | dropped => exact absurd rfl (failed _)
          | stored => exact absurd rfl (failed _)
          | refused unfrozen =>
              -- nothing was stored, and the conversion by itself changes no hash
              have converts :=
                argument.toProc?_finishes (program.invoke nesting)
                  (.toProc argument) before
              simp only [Operation.handed, Operation.callee?, unfrozen,
                Bool.false_eq_true, ↓reduceIte]
              exact converts.hash_eq_of_toProc

/-- A step that ends no successful setter of a hash keeps what the hash falls back to. -/
theorem fallback_eq
    {moment : Moment World Label}
    (follows : moment.Follows program Scene.SameObjects scene)
    (made : hash.id < scene.store.next)
    (noSetter : ¬ moment.SetsFallback hash) :
    (moment.scene.store.hash hash).fallback = (scene.store.hash hash).fallback := by
  by_cases attempts :
      ∃ operation, moment.act? = some operation ∧ operation.SetsFallback hash
  · obtain ⟨operation, acts, sets⟩ := attempts
    cases moment with
    | passed | began => cases acts
    | askedStub =>
        cases acts
        cases sets
    | ended nesting other before ending after =>
        cases acts
        have failed : ∀ answer, ending ≠ .returned answer := by
          rintro answer rfl
          exact noSetter (.intro sets)
        exact congrArg HashState.fallback (follows.hash_eq_of_failed sets failed)
  · apply follows.keeps (fun store => (store.hash hash).fallback) made
    intro operation before after acts change stillMade
    exact change.fallback_eq stillMade fun sets => attempts ⟨operation, acts, sets⟩

end Moment.Follows

/--
A hash falls back to the same at the end of a trail that no
setter of it succeeds on.
-/
theorem Trail.fallback_eq
    {World Label : Type}
    {program : Program World Label}
    {start finish : Scene World Label}
    {moments : List (Moment World Label)}
    {hash : HashRef}
    (trail : Trail program Scene.SameObjects start moments finish)
    (made : hash.id < start.store.next)
    (noSetter : ∀ moment ∈ moments, ¬ moment.SetsFallback hash) :
    (finish.store.hash hash).fallback = (start.store.hash hash).fallback := by
  apply trail.keeps (fun store => (store.hash hash).fallback) made
  intro moment member scene follows stillMade
  exact follows.fallback_eq stillMade (noSetter moment member)

namespace Program

variable {World Label : Type}

/--
In every course every hash falls back in one way, and only its
successful setters change it.
-/
theorem fallbackGoverned
    (program : Program World Label)
    (depth : Nat)
    (tasks : List (Task World Label))
    (context : Context)
    (world : World)
    (hash : HashRef) :
    FallbackGoverned program (.fresh context world)
      (program.course depth tasks (.fresh context world)) hash := by
  obtain ⟨finish, trail⟩ := program.course_trail depth tasks (.fresh context world)
  exact {
    exclusive :=
      fun point => trail.everyHash HashState.fallsBackOnce_invariant point hash
    born := by
      intro nesting fallback before after member
      exact HashRef.made_of_newHash (trail.performed_of_mem .refl member)
    resolves := by
      intro nesting key before ending after member
      have performed := trail.performed_of_mem .refl member
      have resolved := hash.get_resolves program key nesting before
      rw [Operation.perform] at performed
      rw [performed] at resolved
      exact ⟨_, resolved, program.episode_of_mem_course member⟩
    defaultSet := by
      intro nesting value before answer after member
      have performed := trail.performed_of_mem .refl member
      rw [Operation.perform, HashRef.setDefault_apply] at performed
      split at performed
      · cases performed
      · cases performed
        refine ⟨rfl, ?_⟩
        rw [HashRef.store_hash_update]
        rfl
    procDropped := by
      intro nesting before answer after member
      cases HashRef.assigns_of_performed (trail.performed_of_mem .refl member) with
      | dropped =>
          refine ⟨rfl, ?_⟩
          rw [HashRef.store_hash_update]
          rfl
      | stored notNil => exact absurd rfl notNil
      | refused _ failed => exact absurd rfl (failed _)
    procSet := by
      intro nesting argument before answer after notNil member
      cases HashRef.assigns_of_performed (trail.performed_of_mem .refl member) with
      | dropped isNil => exact absurd isNil notNil
      | @stored callable converted _ conversion computes =>
          refine ⟨rfl, callable, converted, conversion, computes, ?_⟩
          rw [HashRef.store_hash_update]
          rfl
      | refused _ failed => exact absurd rfl (failed _)
    failed := by
      intro earlier nesting operation before ending after point sets failed
      exact (trail.follows_of_prefix .refl point).hash_eq_of_failed sets failed
    lasting := fun points made noSetter =>
      (trail.stretch .refl points).fallback_eq made noSetter }

end Program

end Conformance
