import Conformance.Program.Execution
import Mathlib.Logic.Relation

namespace Conformance

/-!
# What an operation calls and changes

An operation runs at most one body of the program, before it changes anything
itself.  `callee?` names that body, and `Change` lists what the operation does to
the objects afterwards: every scene in which it ends comes from the callee's by
changes of the list.
-/

namespace Proc

variable {Label : Type}

/-- The body that a call runs, with the arguments it receives. -/
def callee?
    (callable : Proc)
    (arguments : List Value)
    (store : Store Label) :
    Option (Label × List Value) :=
  match callable.receive arguments, store.behaviours callable.id with
  | .ok received, .body label => some (label, received)
  | _, _ => none

end Proc

namespace ObjectRef

variable {Label : Type}

/-- The body that a message to a host object runs; a stub runs none. -/
def callee?
    (receiver : ObjectRef)
    (method : String)
    (arguments : List Value)
    (store : Store Label) :
    Option (Label × List Value) :=
  match receiver with
  | .host id _ =>
      ((store.methods id).find? fun entry => entry.1 == method).map
        fun entry => (entry.2, arguments)
  | .stub _ => none

end ObjectRef

namespace Value

variable {Label : Type}

/-- The body that a value runs when it is asked for a conversion. -/
def converter?
    (method : String)
    (store : Store Label) :
    Value → Option (Label × List Value)
  | .object reference => reference.callee? method [] store
  | _ => none

end Value

namespace Scene

variable {World Label : Type}

/--
The scene that a body leaves when it is run, or the same scene
if there is none to run.
-/
def afterCall
    (invoke : Invoke World Label)
    (scene : Scene World Label) :
    Option (Label × List Value) → Scene World Label
  | none => scene
  | some (label, arguments) => (invoke label arguments scene).2

end Scene

namespace Operation

variable {World Label : Type}

/-- The body that an operation runs, with its arguments. -/
def callee? (store : Store Label) : Operation Label → Option (Label × List Value)
  | .get hash key =>
      match (store.hash hash).find? key, (store.hash hash).defaultProc with
      | none, some callable => callable.callee? [.hash hash, key] store
      | _, _ => none
  | .setDefaultProc hash argument =>
      if (store.hash hash).frozen then none else argument.converter? "to_proc" store
  | .call callable arguments => callable.callee? arguments store
  | .send receiver method arguments => receiver.callee? method arguments store
  | .toProc value => value.converter? "to_proc" store
  | .toInteger value => value.converter? "to_int" store
  | _ => none

/-- The scene that an operation gets back from the body it runs, and goes on with. -/
def handed
    (invoke : Invoke World Label)
    (operation : Operation Label)
    (scene : Scene World Label) :
    Scene World Label :=
  scene.afterCall invoke (operation.callee? scene.store)

/--
One change that an operation makes to the objects by itself.  A hash is changed
only while it is not frozen, but for freezing it and for the late assignment of
a default callable, which is decided when the operation begins.
-/
inductive Change : Operation Label → Store Label → Store Label → Prop where
  | newText {text : String} {store : Store Label} :
      Change (.newText text) store (store.newText text).2
  | newGroup {record : GroupRecord} {store : Store Label} :
      Change (.newGroup record) store (store.newGroup record).2
  | newHash {fallback : Fallback} {store : Store Label} :
      Change (.newHash fallback) store (store.newHash fallback).2
  | newProc
      {flavour : Flavour} {arity : Arity} {behaviour : Behaviour Label}
      {store : Store Label} :
      Change (.newProc flavour arity behaviour) store
        (store.newProc flavour arity behaviour).2
  | newObject
      {className : String} {methods : List (String × Label)}
      {store : Store Label} :
      Change (.newObject className methods) store
        (store.newObject className methods).2
  | newStub {name : String} {store : Store Label} :
      Change (.newStub name) store (store.newStub name).2
  | insert
      {hash : HashRef} {key value : Value} {store : Store Label}
      (unfrozen : (store.hash hash).frozen = false) :
      Change (.insert hash key value) store
        (store.putHash hash ((store.hash hash).insert key value))
  | setDefault
      {hash : HashRef} {value : Value} {store : Store Label}
      (unfrozen : (store.hash hash).frozen = false) :
      Change (.setDefault hash value) store
        (store.putHash hash ((store.hash hash).withDefault value))
  | dropDefaultProc
      {hash : HashRef} {argument : Value} {store : Store Label}
      (unfrozen : (store.hash hash).frozen = false) :
      Change (.setDefaultProc hash argument) store
        (store.putHash hash (store.hash hash).withoutDefaultProc)
  | setDefaultProc
      {hash : HashRef} {argument : Value} {callable : Proc} {store : Store Label}
      (computes : HashRef.computes callable = true) :
      Change (.setDefaultProc hash argument) store
        (store.putHash hash ((store.hash hash).withDefaultProc callable))
  | freeze {hash : HashRef} {store : Store Label} :
      Change (.freeze hash) store (store.putHash hash (store.hash hash).freeze)
  | count
      {operation : Operation Label} {stub : Nat} {method : String}
      {answer : Value} {counted : StubState} {store : Store Label}
      (received : (store.stubs stub).receive? method = some (answer, counted)) :
      Change operation store (store.putStub stub counted)
  | shouldReceive {stub : Nat} {method : String} {store : Store Label} :
      Change (.shouldReceive stub method) store
        (store.putStub stub ((store.stubs stub).shouldReceive method))
  | andReturn {stub : Nat} {method : String} {value : Value} {store : Store Label} :
      Change (.andReturn stub method value) store
        (store.putStub stub ((store.stubs stub).andReturn method value))
  | exactly {stub : Nat} {method : String} {count : Nat} {store : Store Label} :
      Change (.exactly stub method count) store
        (store.putStub stub ((store.stubs stub).exactly method count))

/-- An operation goes from one scene to another by changes of its own to the objects. -/
def Finishes
    (operation : Operation Label)
    (handed finish : Scene World Label) : Prop :=
  ∃ store,
    Relation.ReflTransGen operation.Change handed.store store ∧
      finish = handed.withStore store

namespace Finishes

variable {operation : Operation Label} {scene : Scene World Label}

theorem unchanged : operation.Finishes scene scene :=
  ⟨scene.store, .refl, rfl⟩

theorem one
    {store : Store Label}
    (change : operation.Change scene.store store) :
    operation.Finishes scene (scene.withStore store) :=
  ⟨store, .single change, rfl⟩

theorem trans
    {reached finish : Scene World Label}
    (first : operation.Finishes scene reached)
    (later : operation.Finishes reached finish) :
    operation.Finishes scene finish := by
  obtain ⟨between, changes, rfl⟩ := first
  obtain ⟨store, further, rfl⟩ := later
  exact ⟨store, changes.trans further, rfl⟩

/-- What goes on from an action makes its changes after those of the action. -/
theorem bind
    {Result Next : Type}
    {handed : Scene World Label}
    {action : Raising World Label Result}
    {next : Result → Raising World Label Next}
    (first : operation.Finishes handed (action scene).2)
    (later : ∀ result reached, operation.Finishes reached (next result reached).2) :
    operation.Finishes handed ((action >>= next) scene).2 := by
  rw [Act.bind_apply]
  rcases ran : action scene with ⟨ending, reached⟩
  rw [ran] at first
  cases ending with
  | returned result => exact first.trans (later result reached)
  | _ => exact first

end Finishes

end Operation

namespace Proc

variable {World Label : Type}

theorem call_scene
    (invoke : Invoke World Label)
    (callable : Proc)
    (arguments : List Value)
    (scene : Scene World Label) :
    (callable.call invoke arguments scene).2 =
      scene.afterCall invoke (callable.callee? arguments scene.store) := by
  unfold call callee?
  cases received : callable.receive arguments with
  | error refusal =>
      rfl
  | ok given =>
      cases behaviour : scene.store.behaviours callable.id with
      | constant value =>
          simp only [behaviour]
          rfl
      | body label =>
          simp only [behaviour]
          rfl

end Proc

namespace ObjectRef

variable {World Label : Type}

/-- A message changes nothing beyond what a host object's body does or a stub counts. -/
theorem send_finishes
    (invoke : Invoke World Label)
    (operation : Operation Label)
    (receiver : ObjectRef)
    (method : String)
    (arguments : List Value)
    (scene : Scene World Label) :
    operation.Finishes
      (scene.afterCall invoke (receiver.callee? method arguments scene.store))
      (receiver.send invoke method arguments scene).2 := by
  cases receiver with
  | host id className =>
      cases found :
          (scene.store.methods id).find? fun entry => entry.1 == method with
      | none =>
          simp only [callee?, send, found, Option.map_none, Scene.afterCall]
          exact .unchanged
      | some entry =>
          simp only [callee?, send, found, Option.map_some, Scene.afterCall]
          exact .unchanged
  | stub id =>
      cases received : (scene.store.stubs id).receive? method with
      | none =>
          simp only [callee?, send, received, Scene.afterCall]
          exact .unchanged
      | some answered =>
          simp only [callee?, send, received, Scene.afterCall]
          exact .one (.count received)

end ObjectRef

namespace Value

variable {World Label : Type}

theorem converter?_of_not_respondsTo
    {method : String}
    {store : Store Label}
    {reference : ObjectRef}
    (silent : store.respondsTo method reference = false) :
    (Value.object reference).converter? method store = none := by
  cases reference with
  | host id className =>
      simp only [Store.respondsTo, List.any_eq_false] at silent
      simp only [converter?, ObjectRef.callee?,
        Option.map_eq_none_iff, List.find?_eq_none]
      exact silent
  | stub id =>
      rfl

theorem ask_finishes
    {Result : Type}
    {operation : Operation Label}
    {accept : Value → Raising World Label Result}
    {otherwise : Raising World Label Result}
    (invoke : Invoke World Label)
    (method : String)
    (reference : ObjectRef)
    (scene : Scene World Label)
    (acceptIdle : ∀ answer reached, (accept answer reached).2 = reached)
    (otherwiseIdle : (otherwise scene).2 = scene) :
    operation.Finishes
      (scene.afterCall invoke ((Value.object reference).converter? method scene.store))
      ((if scene.store.respondsTo method reference then
          reference.send invoke method [] >>= accept
        else otherwise) scene).2 := by
  cases responds : scene.store.respondsTo method reference with
  | true =>
      apply (reference.send_finishes invoke operation method [] scene).bind
      intro answer reached
      rw [acceptIdle]
      exact .unchanged
  | false =>
      rw [converter?_of_not_respondsTo responds]
      simp only [Bool.false_eq_true, ↓reduceIte, otherwiseIdle, Scene.afterCall]
      exact .unchanged

theorem toProc?_finishes
    (invoke : Invoke World Label)
    (operation : Operation Label)
    (value : Value)
    (scene : Scene World Label) :
    operation.Finishes
      (scene.afterCall invoke (value.converter? "to_proc" scene.store))
      (value.toProc? invoke scene).2 := by
  cases value with
  | object reference =>
      apply ask_finishes
      · intro answer reached
        cases answer <;> rfl
      · rfl
  | _ => exact .unchanged

theorem toInteger_finishes
    (invoke : Invoke World Label)
    (operation : Operation Label)
    (value : Value)
    (scene : Scene World Label) :
    operation.Finishes
      (scene.afterCall invoke (value.converter? "to_int" scene.store))
      (value.toInteger invoke scene).2 := by
  cases value with
  | object reference =>
      apply ask_finishes
      · intro answer reached
        cases answer <;> rfl
      · rfl
  | _ => exact .unchanged

end Value

namespace HashRef

variable {World Label : Type}

theorem get_scene
    (invoke : Invoke World Label)
    (hash : HashRef)
    (key : Value)
    (scene : Scene World Label) :
    (hash.get invoke key scene).2 =
      (Operation.get hash key).handed invoke scene := by
  simp only [get, Operation.handed, Operation.callee?]
  cases found : (scene.store.hash hash).find? key with
  | some value =>
      rfl
  | none =>
      cases fallback : (scene.store.hash hash).defaultProc with
      | none => rfl
      | some callable => exact callable.call_scene invoke [.hash hash, key] scene

/-- A change of a frozen hash is refused and touches nothing. -/
theorem checkUnfrozen_bind
    {Result : Type}
    (hash : HashRef)
    (next : Unit → Raising World Label Result)
    (scene : Scene World Label) :
    (hash.checkUnfrozen >>= next) scene =
      if (scene.store.hash hash).frozen then (.stopped (.frozen "Hash"), scene)
      else next () scene := by
  cases frozen : (scene.store.hash hash).frozen <;>
    simp [checkUnfrozen, Act.bind_apply, frozen]

theorem insert_apply
    (hash : HashRef)
    (key value : Value)
    (scene : Scene World Label) :
    hash.insert key value scene =
      if (scene.store.hash hash).frozen then (.stopped (.frozen "Hash"), scene)
      else (.returned (), hash.update (fun state => state.insert key value) scene) := by
  rw [insert, checkUnfrozen_bind]
  rfl

theorem setDefault_apply
    (hash : HashRef)
    (value : Value)
    (scene : Scene World Label) :
    hash.setDefault value scene =
      if (scene.store.hash hash).frozen then (.stopped (.frozen "Hash"), scene)
      else (.returned value, hash.update
        (fun state => state.withDefault value) scene) := by
  rw [setDefault, checkUnfrozen_bind]
  rfl

/-- What the assignment of a default callable does with its converted argument. -/
def storeDefaultProc (hash : HashRef) (argument : Value) :
    Option Proc → Raising World Label Value
  | none =>
      Act.stop (.typeError
        ("wrong default_proc type " ++ argument.className ++ " (expected Proc)"))
  | some callable =>
      if computes callable then do
        Act.change (hash.update fun state => state.withDefaultProc callable)
        pure argument
      else
        Act.stop (.typeError
          ("default_proc takes two arguments (2 for " ++
            toString callable.arity.signed.toInt ++ ")"))

/--
The assignment of a default callable looks at the hash, and
then converts and stores.
-/
theorem setDefaultProc_apply
    (invoke : Invoke World Label)
    (hash : HashRef)
    (argument : Value)
    (scene : Scene World Label) :
    hash.setDefaultProc invoke argument scene =
      if (scene.store.hash hash).frozen then (.stopped (.frozen "Hash"), scene)
      else if argument.isNil then
        (.returned .nil, hash.update HashState.withoutDefaultProc scene)
      else (argument.toProc? invoke >>= hash.storeDefaultProc argument) scene := by
  rw [setDefaultProc, checkUnfrozen_bind]
  split
  · rfl
  · split
    · rfl
    · congr 2

end HashRef

namespace Operation

variable {World Label : Type}

theorem storeDefaultProc_finishes
    (hash : HashRef)
    (argument : Value)
    (converted : Option Proc)
    (scene : Scene World Label) :
    (Operation.setDefaultProc hash argument).Finishes scene
      (hash.storeDefaultProc argument converted scene).2 := by
  cases converted with
  | none => exact .unchanged
  | some callable =>
      simp only [HashRef.storeDefaultProc]
      split
      · next computes => exact .one (.setDefaultProc computes)
      · exact .unchanged

/--
An operation ends in a scene that its own changes lead to from the
one its callee leaves.
-/
theorem perform_finishes
    (invoke : Invoke World Label)
    (operation : Operation Label)
    (scene : Scene World Label) :
    operation.Finishes (operation.handed invoke scene)
      (operation.perform invoke scene).2 := by
  cases operation with
  | newText text => exact .one .newText
  | newGroup record => exact .one .newGroup
  | newHash fallback => exact .one .newHash
  | newProc flavour arity behaviour => exact .one .newProc
  | newObject className methods => exact .one .newObject
  | newStub name => exact .one .newStub
  | get hash key =>
      rw [← hash.get_scene invoke key scene]
      exact .unchanged
  | insert hash key value =>
      refine .bind ?_ fun _ _ => .unchanged
      rw [HashRef.insert_apply]
      split
      · exact .unchanged
      · next unfrozen => exact .one (.insert (Bool.eq_false_iff.mpr unfrozen))
  | setDefault hash value =>
      rw [perform, HashRef.setDefault_apply]
      split
      · exact .unchanged
      · next unfrozen => exact .one (.setDefault (Bool.eq_false_iff.mpr unfrozen))
  | setDefaultProc hash argument =>
      rw [perform, HashRef.setDefaultProc_apply]
      cases frozen : (scene.store.hash hash).frozen with
      | true =>
          simp only [handed, callee?, frozen, ↓reduceIte]
          exact .unchanged
      | false =>
          simp only [handed, callee?, frozen, Bool.false_eq_true, ↓reduceIte]
          split
          · next isNil =>
              cases argument with
              | nil => exact .one (.dropDefaultProc frozen)
              | _ => simp [Value.isNil] at isNil
          · exact
              (argument.toProc?_finishes invoke _ scene).bind
                fun converted reached =>
                storeDefaultProc_finishes hash argument converted reached
  | freeze hash => exact .one .freeze
  | call callable arguments =>
      have called := callable.call_scene invoke arguments scene
      simp only [perform, called]
      exact .unchanged
  | send receiver method arguments =>
      exact receiver.send_finishes invoke _ method arguments scene
  | toProc value =>
      apply (value.toProc?_finishes invoke _ scene).bind
      intro converted reached
      cases converted <;> exact .unchanged
  | toInteger value =>
      exact (value.toInteger_finishes invoke _ scene).bind fun _ _ => .unchanged
  | shouldReceive stub method => exact .one .shouldReceive
  | andReturn stub method value => exact .one .andReturn
  | exactly stub method count => exact .one .exactly

end Operation

end Conformance
