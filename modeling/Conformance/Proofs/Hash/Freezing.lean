import Conformance.Proofs.Program.Growth

namespace Conformance

/-!
# Freezing a hash

Whether a hash is frozen is looked at when a change of it begins.  Between that
look and the change itself only one operation runs a body of the program: the
assignment of a default callable converts its argument first.  A conversion that
freezes the hash is overtaken by the assignment it is part of, and this is the
only way in which a frozen hash still changes.
-/

/-- A hash that exists is frozen. -/
def Store.Frozen {Label : Type} (store : Store Label) (hash : HashRef) : Prop :=
  hash.id < store.next ∧ (store.hash hash).frozen = true

/-- Once a hash is frozen it stays frozen, and nothing about it changes. -/
def Scene.KeepsFrozen
    {World Label : Type}
    (hash : HashRef)
    (before after : Scene World Label) : Prop :=
  before.store.Frozen hash →
    after.store.Frozen hash ∧ after.store.hash hash = before.store.hash hash

/-- Once a hash is frozen it stays frozen, and its entries do not change. -/
def Scene.KeepsEntries
    {World Label : Type}
    (hash : HashRef)
    (before after : Scene World Label) : Prop :=
  before.store.Frozen hash →
    after.store.Frozen hash ∧
      (after.store.hash hash).entries = (before.store.hash hash).entries

/-- The operations that are to change a hash. -/
inductive Operation.Mutates
    {Label : Type}
    (hash : HashRef) :
    Operation Label → Prop where
  | insert (key value : Value) : Mutates hash (.insert hash key value)
  | setDefault (value : Value) : Mutates hash (.setDefault hash value)
  | setDefaultProc (argument : Value) : Mutates hash (.setDefaultProc hash argument)

/--
The end of an assignment of a default callable that began before the hash was
frozen, with an argument whose conversion froze the hash and still gave a callable
that the hash takes.
-/
inductive Moment.Overtakes
    {World Label : Type}
    (program : Program World Label)
    (hash : HashRef) :
    Moment World Label → Prop where
  | intro
      {depth : Nat}
      {argument : Value}
      {callable : Proc}
      {start converted finish : Scene World Label}
      {ending : Ending Raised Value}
      (unfrozen : (start.store.hash hash).frozen = false)
      (conversion :
        argument.toProc? (program.invoke depth) start =
          (.returned (some callable), converted))
      (frozen : converted.store.Frozen hash)
      (computes : HashRef.computes callable = true) :
      Overtakes program hash
        (.ended depth (.setDefaultProc hash argument) start ending finish)

/-- What freezing a hash is to promise for the whole of a run. -/
structure FreezePromise
    {World Label Result : Type}
    (program : Program World Label)
    (depth : Nat)
    (code : Code World Label Error Result)
    (scene : Scene World Label)
    (hash : HashRef) : Prop where
  kept :
    Along (Scene.KeepsFrozen hash) scene
      (program.moments depth code scene) (program.run depth code scene).2
  freezes : ∀ {nesting start ending finish},
    .ended nesting (.freeze hash) start ending finish ∈
      program.moments depth code scene →
    hash.id < start.store.next →
    ending = .returned (.hash hash) ∧ finish.store.Frozen hash
  refused : ∀ {nesting operation start ending finish},
    .ended nesting operation start ending finish ∈ program.moments depth code scene →
    operation.Mutates hash →
    start.store.Frozen hash →
    ending = .stopped (.frozen "Hash") ∧ finish = start
  interrupted : ∀ {nesting operation start ending finish},
    .ended nesting operation start ending finish ∈ program.moments depth code scene →
    operation.Mutates hash →
    finish.store.Frozen hash →
    ∀ value, ending ≠ .returned value

/--
What freezing a hash ensures in every run: all of the promise, but for what an
overtaking assignment does.
-/
structure FreezeEnsures
    {World Label Result : Type}
    (program : Program World Label)
    (depth : Nat)
    (code : Code World Label Error Result)
    (scene : Scene World Label)
    (hash : HashRef) : Prop where
  keptEntries :
    Along (Scene.KeepsEntries hash) scene
      (program.moments depth code scene) (program.run depth code scene).2
  freezes : ∀ {nesting start ending finish},
    .ended nesting (.freeze hash) start ending finish ∈
      program.moments depth code scene →
    hash.id < start.store.next →
    ending = .returned (.hash hash) ∧ finish.store.Frozen hash
  refused : ∀ {nesting operation start ending finish},
    .ended nesting operation start ending finish ∈ program.moments depth code scene →
    operation.Mutates hash →
    start.store.Frozen hash →
    ending = .stopped (.frozen "Hash") ∧ finish = start
  interrupted : ∀ {nesting operation start ending finish},
    .ended nesting operation start ending finish ∈ program.moments depth code scene →
    operation.Mutates hash →
    finish.store.Frozen hash →
    ¬ (Moment.ended nesting operation start ending finish).Overtakes program hash →
    ∀ value, ending ≠ .returned value
  overtaken : ∀ {nesting argument start ending finish},
    .ended nesting (.setDefaultProc hash argument) start ending finish ∈
      program.moments depth code scene →
    (Moment.ended nesting (.setDefaultProc hash argument) start ending finish).Overtakes
      program hash →
    ending = .returned argument ∧ finish.store.Frozen hash ∧
      (finish.store.hash hash).default = .nil ∧
      ∃ callable, (finish.store.hash hash).defaultProc = some callable

namespace Store.Frozen

variable {Label : Type} {store : Store Label} {hash : HashRef}

theorem putHash_same
    (frozen : store.Frozen hash)
    {state : HashState}
    (stays : state.frozen = true) :
    (store.putHash hash state).Frozen hash := by
  refine ⟨frozen.1, ?_⟩
  rw [Store.hash_putHash_same]
  exact stays

theorem putHash_other
    (frozen : store.Frozen hash)
    {target : HashRef}
    (state : HashState)
    (different : hash ≠ target) :
    (store.putHash target state).Frozen hash ∧
      (store.putHash target state).hash hash = store.hash hash := by
  have unchanged := Store.hash_putHash_other store state different
  refine ⟨⟨frozen.1, ?_⟩, unchanged⟩
  rw [unchanged]
  exact frozen.2

theorem ne_of_unfrozen
    (frozen : store.Frozen hash)
    {target : HashRef}
    (unfrozen : (store.hash target).frozen = false) :
    hash ≠ target := by
  rintro rfl
  have isFrozen := frozen.2
  rw [unfrozen] at isFrozen
  contradiction

theorem ne_next (frozen : store.Frozen hash) : hash ≠ ⟨store.next⟩ := by
  rintro rfl
  exact Nat.lt_irrefl _ frozen.1

end Store.Frozen

namespace HashState

theorem freeze_of_frozen
    {state : HashState}
    (frozen : state.frozen = true) :
    state.freeze = state := by
  cases state
  subst frozen
  rfl

end HashState

namespace Operation.Change

variable {Label : Type} {operation : Operation Label} {before after : Store Label}
variable {hash : HashRef}

/--
A change leaves a frozen hash as it is, unless it is the late assignment of a
default callable.
-/
theorem frozen
    (change : operation.Change before after)
    (frozen : before.Frozen hash) :
    after.Frozen hash ∧
      (after.hash hash = before.hash hash ∨
        ∃ argument callable,
          operation = .setDefaultProc hash argument ∧
            after.hash hash = (before.hash hash).withDefaultProc callable) := by
  have made := frozen.1
  have isFrozen := frozen.2
  cases change with
  | newHash =>
      obtain ⟨⟨_, stays⟩, unchanged⟩ := frozen.putHash_other (.new _) frozen.ne_next
      exact ⟨⟨Nat.lt_succ_of_lt made, stays⟩, .inl unchanged⟩
  | newText | newGroup | newProc | newObject | newStub =>
      exact ⟨⟨Nat.lt_succ_of_lt made, isFrozen⟩, .inl rfl⟩
  | insert unfrozen | setDefault unfrozen | dropDefaultProc unfrozen =>
      obtain ⟨stays, unchanged⟩ :=
        frozen.putHash_other _ (frozen.ne_of_unfrozen unfrozen)
      exact ⟨stays, .inl unchanged⟩
  | @setDefaultProc target argument callable _ computes =>
      by_cases same : hash = target
      · subst same
        exact
          ⟨frozen.putHash_same isFrozen,
            .inr ⟨argument, callable, rfl, Store.hash_putHash_same _ _ _⟩⟩
      · obtain ⟨stays, unchanged⟩ := frozen.putHash_other _ same
        exact ⟨stays, .inl unchanged⟩
  | @freeze target =>
      by_cases same : hash = target
      · subst same
        rw [HashState.freeze_of_frozen isFrozen]
        exact ⟨frozen.putHash_same isFrozen, .inl (Store.hash_putHash_same _ _ _)⟩
      · obtain ⟨stays, unchanged⟩ := frozen.putHash_other _ same
        exact ⟨stays, .inl unchanged⟩
  | count | shouldReceive | andReturn | exactly =>
      exact ⟨⟨made, isFrozen⟩, .inl rfl⟩

end Operation.Change

namespace Scene

variable {World Label : Type} {hash : HashRef}
variable {first second third : Scene World Label}

theorem KeepsFrozen.refl (hash : HashRef) (scene : Scene World Label) :
    scene.KeepsFrozen hash scene :=
  fun frozen => ⟨frozen, rfl⟩

theorem KeepsFrozen.trans
    (earlier : first.KeepsFrozen hash second)
    (later : second.KeepsFrozen hash third) :
    first.KeepsFrozen hash third := by
  intro frozen
  obtain ⟨stays, same⟩ := earlier frozen
  obtain ⟨staysOn, sameStill⟩ := later stays
  exact ⟨staysOn, sameStill.trans same⟩

theorem KeepsEntries.trans
    (earlier : first.KeepsEntries hash second)
    (later : second.KeepsEntries hash third) :
    first.KeepsEntries hash third := by
  intro frozen
  obtain ⟨stays, same⟩ := earlier frozen
  obtain ⟨staysOn, sameStill⟩ := later stays
  exact ⟨staysOn, sameStill.trans same⟩

theorem KeepsFrozen.entries (keeps : first.KeepsFrozen hash second) :
    first.KeepsEntries hash second := by
  intro frozen
  obtain ⟨stays, same⟩ := keeps frozen
  exact ⟨stays, congrArg HashState.entries same⟩

theorem keepsFrozen_makeStub
    (hash : HashRef)
    (scene : Scene World Label)
    (name : String) :
    scene.KeepsFrozen hash (scene.makeStub name).2 := by
  intro frozen
  cases group : scene.context.groupLevel with
  | true =>
      rw [makeStub_of_groupLevel group]
      exact ⟨frozen, rfl⟩
  | false =>
      simp only [makeStub, group, Bool.false_eq_true, ↓reduceIte]
      exact ⟨⟨Nat.lt_succ_of_lt frozen.1, frozen.2⟩, rfl⟩

end Scene

namespace Operation.Finishes

variable {World Label : Type} {operation : Operation Label}
variable {handed finish : Scene World Label}

theorem keepsEntries
    (finishes : operation.Finishes handed finish)
    (hash : HashRef) :
    handed.KeepsEntries hash finish := by
  obtain ⟨store, changes, rfl⟩ := finishes
  intro frozen
  induction changes with
  | refl => exact ⟨frozen, rfl⟩
  | tail _ change inductionHypothesis =>
      obtain ⟨stays, same⟩ := inductionHypothesis
      obtain ⟨staysOn, unchanged | ⟨argument, callable, -, assigned⟩⟩ :=
        change.frozen stays
      · exact ⟨staysOn, (congrArg HashState.entries unchanged).trans same⟩
      · exact ⟨staysOn, (congrArg HashState.entries assigned).trans same⟩

/--
An operation changes nothing about a frozen hash unless it assigns a
default callable to it.
-/
theorem keepsFrozen
    (finishes : operation.Finishes handed finish)
    (hash : HashRef)
    (other : ∀ argument, operation ≠ .setDefaultProc hash argument) :
    handed.KeepsFrozen hash finish := by
  obtain ⟨store, changes, rfl⟩ := finishes
  intro frozen
  induction changes with
  | refl => exact ⟨frozen, rfl⟩
  | tail _ change inductionHypothesis =>
      obtain ⟨stays, same⟩ := inductionHypothesis
      obtain ⟨staysOn, unchanged | ⟨argument, callable, assigns, -⟩⟩ :=
        change.frozen stays
      · exact ⟨staysOn, unchanged.trans same⟩
      · exact absurd assigns (other argument)

end Operation.Finishes

namespace HashRef

variable {World Label : Type}

/--
The assignment of a default callable keeps a frozen hash as it is, unless the
hash was frozen by a conversion that gave a callable it takes.
-/
theorem keepsFrozen_setDefaultProc
    (invoke : Invoke World Label)
    (hash : HashRef)
    (argument : Value)
    (start : Scene World Label)
    (inTime : ∀ callable converted,
      (start.store.hash hash).frozen = false →
      argument.toProc? invoke start = (.returned (some callable), converted) →
      computes callable = true →
      ¬ converted.store.Frozen hash) :
    Scene.KeepsFrozen hash ((Operation.setDefaultProc hash argument).handed invoke start)
      (hash.setDefaultProc invoke argument start).2 := by
  rw [setDefaultProc_apply]
  cases isFrozen : (start.store.hash hash).frozen with
  | true =>
      simp only [Operation.handed, Operation.callee?, isFrozen, ↓reduceIte]
      exact .refl hash start
  | false =>
      simp only [Operation.handed, Operation.callee?, isFrozen,
        Bool.false_eq_true, ↓reduceIte]
      cases isNil : argument.isNil with
      | true =>
          have noConverter : argument.converter? "to_proc" start.store = none := by
            cases argument <;> simp_all [Value.isNil, Value.converter?]
          intro frozen
          simp only [noConverter, Scene.afterCall] at frozen
          exact absurd rfl (frozen.ne_of_unfrozen isFrozen)
      | false =>
          have converts := argument.toProc?_finishes invoke (.toProc argument) start
          have converting := converts.keepsFrozen hash (by simp)
          simp only [Bool.false_eq_true, ↓reduceIte, Act.bind_apply]
          rcases conversion : argument.toProc? invoke start with ⟨ending, converted⟩
          rw [conversion] at converting
          cases ending with
          | returned found =>
              cases found with
              | none => exact converting
              | some callable =>
                  cases fits : computes callable with
                  | false => simpa [storeDefaultProc, fits] using converting
                  | true =>
                      intro frozen
                      exact absurd (converting frozen).1
                        (inTime callable converted isFrozen conversion fits)
          | stopped _ => exact converting
          | panicked _ => exact converting
          | overflowed => exact converting

end HashRef

namespace Operation.Mutates

variable {World Label : Type} {hash : HashRef} {operation : Operation Label}
variable {start finish : Scene World Label}

/--
A change of a hash that begins when the hash is frozen is
refused and touches nothing.
-/
theorem perform_of_frozen
    (mutates : operation.Mutates hash)
    (invoke : Invoke World Label)
    (frozen : (start.store.hash hash).frozen = true) :
    operation.perform invoke start = (.stopped (.frozen "Hash"), start) := by
  cases mutates with
  | insert key value =>
      apply Act.bind_of_stopped
      rw [HashRef.insert_apply, if_pos frozen]
  | setDefault value =>
      rw [perform, HashRef.setDefault_apply, if_pos frozen]
  | setDefaultProc argument =>
      rw [perform, HashRef.setDefaultProc_apply, if_pos frozen]

/--
A change of a hash that returns although the hash is frozen in the
end is an overtaking one.
-/
theorem overtakes_of_returned
    {program : Program World Label}
    {depth : Nat}
    {value : Value}
    (mutates : operation.Mutates hash)
    (performed : operation.perform (program.invoke depth) start =
      (.returned value, finish))
    (frozen : finish.store.Frozen hash) :
    (Moment.ended depth operation start (.returned value) finish).Overtakes
      program hash := by
  have unfrozen : (start.store.hash hash).frozen = false := by
    cases isFrozen : (start.store.hash hash).frozen with
    | false => rfl
    | true =>
        rw [mutates.perform_of_frozen _ isFrozen] at performed
        cases performed
  -- without a conversion in between, the hash is as unfrozen in the end
  -- as it was at first
  have atOnce (change : HashState → HashState)
      (keeps : (change (start.store.hash hash)).frozen = (start.store.hash hash).frozen)
      (updates : hash.update change start = finish) : False := by
    have stillFrozen := frozen.2
    rw [← updates, HashRef.update, Scene.withStore, Store.hash_putHash_same, keeps,
      unfrozen] at stillFrozen
    contradiction
  cases mutates with
  | insert key value =>
      rw [perform, Act.bind_apply, HashRef.insert_apply, unfrozen] at performed
      exact absurd (congrArg Prod.snd performed)
        (atOnce (fun state => state.insert key value) rfl)
  | setDefault value =>
      rw [perform, HashRef.setDefault_apply, unfrozen] at performed
      exact absurd (congrArg Prod.snd performed)
        (atOnce (fun state => state.withDefault value) rfl)
  | setDefaultProc argument =>
      rw [perform, HashRef.setDefaultProc_apply,
        if_neg (by simp [unfrozen])] at performed
      split at performed
      · exact (atOnce HashState.withoutDefaultProc rfl (congrArg Prod.snd performed)).elim
      · rw [Act.bind_apply] at performed
        rcases conversion : argument.toProc? (program.invoke depth) start with
          ⟨ending, converted⟩
        rw [conversion] at performed
        rcases ending with (_ | callable) | _ | _ | _
        · cases performed
        · cases fits : HashRef.computes callable with
          | false =>
              simp [HashRef.storeDefaultProc, fits] at performed
          | true =>
              simp only [HashRef.storeDefaultProc, fits, ↓reduceIte] at performed
              obtain rfl :
                  hash.update (fun state => state.withDefaultProc callable) converted =
                  finish := congrArg Prod.snd performed
              refine .intro unfrozen conversion ⟨frozen.1, ?_⟩ fits
              have stillFrozen := frozen.2
              rw [HashRef.update, Scene.withStore,
                Store.hash_putHash_same] at stillFrozen
              exact stillFrozen
        · cases performed
        · cases performed
        · cases performed

end Operation.Mutates

namespace Moment.Overtakes

variable {World Label : Type} {program : Program World Label} {hash : HashRef}

/-- An overtaking assignment answers its argument and leaves the frozen hash changed. -/
theorem performed
    {depth : Nat}
    {argument : Value}
    {start finish : Scene World Label}
    {ending : Ending Raised Value}
    (overtakes :
      (Moment.ended depth (.setDefaultProc hash argument) start ending finish).Overtakes
        program hash)
    (faithful :
      (Operation.setDefaultProc hash argument).perform (program.invoke depth) start =
        (ending, finish)) :
    ending = .returned argument ∧ finish.store.Frozen hash ∧
      (finish.store.hash hash).default = .nil ∧
      ∃ callable, (finish.store.hash hash).defaultProc = some callable := by
  cases overtakes with
  | @intro _ _ callable _ converted _ _ unfrozen conversion frozen computes =>
      have notNil : argument.isNil ≠ true := by
        intro isNil
        cases argument with
        | nil => cases conversion
        | _ => cases isNil
      have performs :
          (Operation.setDefaultProc hash argument).perform
            (program.invoke depth) start =
            (.returned argument,
              hash.update (fun state => state.withDefaultProc callable) converted) := by
        rw [Operation.perform, HashRef.setDefaultProc_apply,
          if_neg (by simp [unfrozen]), if_neg notNil,
          Act.bind_of_returned conversion]
        simp only [HashRef.storeDefaultProc, computes, ↓reduceIte]
        rfl
      rw [performs] at faithful
      cases faithful
      have assigned :
          (hash.update (fun state => state.withDefaultProc callable)
              converted).store.hash hash =
            (converted.store.hash hash).withDefaultProc callable :=
        Store.hash_putHash_same _ _ _
      refine ⟨rfl, frozen.putHash_same frozen.2, ?_, callable, ?_⟩
      · rw [assigned]
        rfl
      · rw [assigned]
        rfl

end Moment.Overtakes

namespace Program

variable {World Label Error Result : Type}

theorem respects_keepsEntries
    (program : Program World Label)
    (hash : HashRef) :
    program.Respects (Scene.KeepsEntries hash) fun _ => True where
  refl scene := (Scene.KeepsFrozen.refl hash scene).entries
  trans _ _ _ := .trans
  write scene world := (Scene.KeepsFrozen.refl hash scene).entries
  assign scene name value := (Scene.KeepsFrozen.refl hash scene).entries
  makeStub scene name := (scene.keepsFrozen_makeStub hash name).entries
  own depth operation start ending finish performed _ := by
    have finishes := operation.perform_finishes (program.invoke depth) start
    rw [performed] at finishes
    exact finishes.keepsEntries hash

/-- Every step of every run but an overtaking assignment keeps a frozen hash as it is. -/
theorem respects_keepsFrozen
    (program : Program World Label)
    (hash : HashRef) :
    program.Respects (Scene.KeepsFrozen hash) fun moment =>
      ¬ moment.Overtakes program hash where
  refl := .refl hash
  trans _ _ _ := .trans
  write scene world := .refl hash scene
  assign scene name value := .refl hash scene
  makeStub scene name := scene.keepsFrozen_makeStub hash name
  own depth operation start ending finish performed notOvertaking := by
    by_cases assigns : ∃ argument, operation = .setDefaultProc hash argument
    · obtain ⟨argument, rfl⟩ := assigns
      have keeps :=
        hash.keepsFrozen_setDefaultProc (program.invoke depth) argument start
          fun callable converted unfrozen conversion computes frozen =>
            notOvertaking (.intro unfrozen conversion frozen computes)
      rw [Operation.perform] at performed
      rw [performed] at keeps
      exact keeps
    · have finishes := operation.perform_finishes (program.invoke depth) start
      rw [performed] at finishes
      exact finishes.keepsFrozen hash fun argument isAssignment =>
        assigns ⟨argument, isAssignment⟩

variable (program : Program World Label)
variable (depth : Nat) (code : Code World Label Error Result)
variable (scene : Scene World Label)
variable (hash : HashRef)

theorem freezes_of_mem_moments
    {nesting : Nat}
    {start finish : Scene World Label}
    {ending : Ending Raised Value}
    (member :
      .ended nesting (.freeze hash) start ending finish ∈
        program.moments depth code scene)
    (made : hash.id < start.store.next) :
    ending = .returned (.hash hash) ∧ finish.store.Frozen hash := by
  have performed := program.moments_faithful depth code scene _ member
  cases performed
  refine ⟨rfl, made, ?_⟩
  exact congrArg HashState.frozen (Store.hash_putHash_same _ _ _)

/-- What freezing a hash ensures, it ensures in every run. -/
theorem freezeEnsures : FreezeEnsures program depth code scene hash where
  keptEntries :=
    (program.respects_keepsEntries hash).moments_along depth code scene fun _ _ => trivial
  freezes := program.freezes_of_mem_moments depth code scene hash
  refused {nesting operation start ending finish} member mutates frozen := by
    have performed :
        operation.perform (program.invoke nesting) start = (ending, finish) :=
      program.moments_faithful depth code scene _ member
    rw [mutates.perform_of_frozen _ frozen.2] at performed
    cases performed
    exact ⟨rfl, rfl⟩
  interrupted member mutates frozen notOvertaking value returned := by
    subst returned
    have performed := program.moments_faithful depth code scene _ member
    exact notOvertaking (mutates.overtakes_of_returned performed frozen)
  overtaken member overtakes :=
    overtakes.performed (program.moments_faithful depth code scene _ member)

/--
Freezing a hash keeps its promise in exactly those runs in which no assignment of
a default callable to the hash is overtaken by a freeze in its own conversion;
what it ensures of the promise it ensures in every run.
-/
theorem freezePromise_iff_not_overtaken :
    FreezeEnsures program depth code scene hash ∧
      (FreezePromise program depth code scene hash ↔
        ∀ moment ∈ program.moments depth code scene,
          ¬ moment.Overtakes program hash) := by
  have ensures := program.freezeEnsures depth code scene hash
  refine ⟨ensures, ?_, ?_⟩
  · intro promise moment member overtakes
    have overtaking := overtakes
    cases overtakes with
    | intro =>
        obtain ⟨returned, stays, -⟩ := ensures.overtaken member overtaking
        exact promise.interrupted member (.setDefaultProc _) stays _ returned
  · intro notOvertaken
    exact {
      kept :=
        (program.respects_keepsFrozen hash).moments_along depth code scene notOvertaken
      freezes := ensures.freezes
      refused := ensures.refused
      interrupted := fun member mutates frozen =>
        ensures.interrupted member mutates frozen (notOvertaken _ member) }

end Program

/--
A program with one body: it freezes the first object, a hash,
and gives a new callable.
-/
def freezingConversion : Program Unit Unit where
  body _ _ := do
    let _ ← Code.perform (.freeze ⟨0⟩)
    Code.perform (.newProc .plain (.exactly 2) (.constant .nil))

/-- Assigns to a new hash an object that converts to a callable. -/
def assignConverting : Code Unit Unit Fault Value := do
  let _ ← Code.perform (.newHash .nothing)
  let _ ← Code.perform (.newObject "Conv" [("to_proc", ())])
  Code.perform (.setDefaultProc ⟨0⟩ (.object (.host 1 "Conv")))

/-- The promise is not kept when the converted object freezes the hash. -/
theorem not_freezePromise_assignConverting :
    ¬ FreezePromise freezingConversion 1 assignConverting
      ⟨.empty, .new ⟨"x86_64-linux"⟩, ()⟩ ⟨0⟩ := by
  intro promise
  -- The moment that ends the assignment, after those of the conversion that it ran.
  have last :
      (freezingConversion.moments 1 assignConverting
        ⟨.empty, .new ⟨"x86_64-linux"⟩, ()⟩)[10]? = some _ := rfl
  refine promise.interrupted (List.mem_of_getElem? last)
    (.setDefaultProc _) ?frozen _ rfl
  case frozen => exact ⟨by decide, by decide⟩

end Conformance
