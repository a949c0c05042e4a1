import Conformance.Proofs.Program.Keeping
import Conformance.Proofs.Stub.History

namespace Conformance

/-!
# Stubs along a course

A stub is called by the operations that declare on it, by messages, and by the
conversions that it is asked for when it responds to them.  In every course a stub
keeps an account of these calls, and of nothing else, from the moment on in which it
is made: whoever else runs in between, and through whatever value it is called.
-/

/-- The call of a stub that asking a value for a conversion comes to. -/
def Value.asked?
    {Label : Type}
    (method : String)
    (store : Store Label) :
    Value → Option (Nat × StubCall)
  | .object (.stub id) =>
      if (store.stubs id).respondsTo method then some (id, .send method) else none
  | _ => none

/-- The stub that an operation calls, and the call. -/
def Operation.stubCall?
    {Label : Type}
    (store : Store Label) :
    Operation Label → Option (Nat × StubCall)
  | .shouldReceive stub method => some (stub, .shouldReceive method)
  | .andReturn stub method value => some (stub, .andReturn method value)
  | .exactly stub method count => some (stub, .exactly method count)
  | .send (.stub stub) method _ => some (stub, .send method)
  | .toProc value => value.asked? "to_proc" store
  | .toInteger value => value.asked? "to_int" store
  | .setDefaultProc hash argument =>
      if (store.hash hash).frozen then none else argument.asked? "to_proc" store
  | _ => none

/-- The call, if it is one of the given stub. -/
def StubCall.on? (id : Nat) (given : Option (Nat × StubCall)) : Option StubCall :=
  given.bind fun called => if called.1 = id then some called.2 else none

/-- What a call that may be one of the given stub makes of it. -/
def StubState.hear
    (id : Nat)
    (given : Option (Nat × StubCall))
    (stub : StubState) :
    StubState :=
  (StubCall.on? id given).toList.foldl take stub

/-- The call of a stub that a moment ends, if it ends one. -/
def Moment.stubCall?
    {World Label : Type}
    (id : Nat) :
    Moment World Label → Option StubCall
  | .ended _ operation start _ _ => StubCall.on? id (operation.stubCall? start.store)
  | _ => none

/-- The calls of a stub along moments, in order. -/
def stubLog
    {World Label : Type}
    (id : Nat)
    (moments : List (Moment World Label)) :
    List StubCall :=
  moments.filterMap (Moment.stubCall? id)

/-- A stub with a name is made in a moment. -/
inductive Moment.Bears
    {World Label : Type}
    (id : Nat)
    (name : String) :
    Moment World Label → Prop where
  | made
      {nesting : Nat}
      {before after : Scene World Label} :
      Bears id name (.ended nesting (.newStub name) before
        (.returned (.object (.stub id))) after)
  | asked
      {before after : Scene World Label} :
      Bears id name (.askedStub name before (.ok (.object (.stub id))) after)

/--
From the moment on that a stub is made it accounts for its
calls, and answers by them.
-/
structure StubAccountsForCalls
    {World Label : Type}
    (start : Scene World Label)
    (moments : List (Moment World Label))
    (id : Nat)
    (name : String) : Prop where
  accounts : ∀ {earlier birth since},
    earlier ++ birth :: since <+: moments →
    birth.Bears id name →
    StubState.Accounts name (stubLog id since)
      ((Moment.sceneAfter start (earlier ++ birth :: since)).store.stubs id)
  answered : ∀ {earlier birth since nesting method arguments before ending after},
    (earlier ++ birth :: since) ++
        [.ended nesting (.send (.stub id) method arguments) before ending after] <+:
      moments →
    birth.Bears id name →
    .shouldReceive method ∈ stubLog id since →
    ending = .returned (declarationOf (stubLog id since) method).returns ∧
      StubState.Counted method
        ((Moment.sceneAfter start (earlier ++ birth :: since)).store.stubs id)
        (after.store.stubs id)
  refused : ∀ {earlier birth since nesting method arguments before ending after},
    (earlier ++ birth :: since) ++
        [.ended nesting (.send (.stub id) method arguments) before ending after] <+:
      moments →
    birth.Bears id name →
    .shouldReceive method ∉ stubLog id since →
    ending = .stopped (.noMethod method ("#<MockObject:" ++ name ++ ">")) ∧
      after = before ∧
      after.store = (Moment.sceneAfter start (earlier ++ birth :: since)).store

namespace StubState

@[simp] theorem hear_none (id : Nat) (stub : StubState) : stub.hear id none = stub :=
  rfl

@[simp] theorem hear_same (id : Nat) (call : StubCall) (stub : StubState) :
    stub.hear id (some (id, call)) = stub.take call := by
  simp [hear, StubCall.on?]

@[simp] theorem hear_other
    {id other : Nat}
    (different : other ≠ id)
    (call : StubCall)
    (stub : StubState) :
    stub.hear id (some (other, call)) = stub := by
  simp [hear, StubCall.on?, different]

end StubState

namespace Store

variable {Label : Type}

/--
Putting back what a call makes of a stub changes the stub that
was called, and no other.
-/
theorem stubs_putStub_take
    (store : Store Label)
    (stub : Nat)
    (call : StubCall)
    (id : Nat) :
    (store.putStub stub ((store.stubs stub).take call)).stubs id =
      (store.stubs id).hear id (some (stub, call)) := by
  by_cases same : stub = id
  · subst same
    simp [putStub]
  · simp [putStub, same, Ne.symm same]

end Store

/-- What goes on from an action without touching stubs leaves them as the action does. -/
theorem Act.stubs_bind
    {World Label Result Next : Type}
    {action : Raising World Label Result}
    {next : Result → Raising World Label Next}
    {scene : Scene World Label}
    (idle : ∀ result reached, (next result reached).2.store.stubs = reached.store.stubs) :
    ((action >>= next) scene).2.store.stubs = (action scene).2.store.stubs := by
  rw [bind_apply]
  rcases action scene with ⟨ending, reached⟩
  cases ending with
  | returned result => exact idle result reached
  | _ => rfl

/-- A message leaves a stub as the body that it runs does, or as the call that it is. -/
theorem ObjectRef.send_stubs
    {World Label : Type}
    (invoke : Invoke World Label)
    (receiver : ObjectRef)
    (method : String)
    (arguments : List Value)
    (scene : Scene World Label)
    (id : Nat) :
    (receiver.send invoke method arguments scene).2.store.stubs id =
      ((scene.afterCall invoke
          (receiver.callee? method arguments scene.store)).store.stubs id).hear id
        ((Operation.send receiver method arguments).stubCall? scene.store) := by
  cases receiver with
  | host other className =>
      cases found :
          (scene.store.methods other).find? fun entry => entry.1 == method with
      | none => simp [send, callee?, found, Scene.afterCall, Operation.stubCall?]
      | some entry =>
          simp [send, callee?, found, Scene.afterCall, Operation.stubCall?]
  | stub stub =>
      have taken := scene.store.stubs_putStub_take stub (.send method) id
      simp only [callee?, Scene.afterCall, Operation.stubCall?]
      cases received : (scene.store.stubs stub).receive? method with
      | none =>
          simp only [StubState.take, received] at taken
          simp only [send, received, ← taken]
          by_cases same : id = stub
          · subst same
            simp [Store.putStub]
          · simp [Store.putStub, same]
      | some answered =>
          simp only [StubState.take, received] at taken
          simp only [send, received]
          exact taken

namespace Value

variable {World Label : Type}

/-- Asking an object for a conversion is no more to a stub than the message that it is. -/
theorem ask_stubs
    {Result : Type}
    {accept : Value → Raising World Label Result}
    {otherwise : Raising World Label Result}
    (invoke : Invoke World Label)
    (method : String)
    (reference : ObjectRef)
    (scene : Scene World Label)
    (id : Nat)
    (acceptIdle : ∀ answer reached,
      (accept answer reached).2.store.stubs = reached.store.stubs)
    (otherwiseIdle : (otherwise scene).2 = scene) :
    ((if scene.store.respondsTo method reference then
          reference.send invoke method [] >>= accept
        else otherwise) scene).2.store.stubs id =
      ((scene.afterCall invoke
          ((Value.object reference).converter? method
            scene.store)).store.stubs id).hear id
        ((Value.object reference).asked? method scene.store) := by
  cases responds : scene.store.respondsTo method reference with
  | true =>
      have sent := reference.send_stubs invoke method [] scene id
      simp only [↓reduceIte, Act.stubs_bind acceptIdle, sent]
      cases reference with
      | host => rfl
      | stub stub =>
          have declared : (scene.store.stubs stub).respondsTo method = true :=
            responds
          simp only [asked?, declared]
          rfl
  | false =>
      rw [converter?_of_not_respondsTo responds]
      simp only [Bool.false_eq_true, ↓reduceIte, otherwiseIdle, Scene.afterCall]
      cases reference with
      | host => rfl
      | stub stub =>
          have undeclared : (scene.store.stubs stub).respondsTo method = false :=
            responds
          simp only [asked?, undeclared]
          rfl

theorem toProc?_stubs
    (invoke : Invoke World Label)
    (value : Value)
    (scene : Scene World Label)
    (id : Nat) :
    (value.toProc? invoke scene).2.store.stubs id =
      ((scene.afterCall invoke (value.converter? "to_proc" scene.store)).store.stubs id).hear
        id (value.asked? "to_proc" scene.store) := by
  cases value with
  | object reference =>
      apply ask_stubs
      · intro answer reached
        cases answer <;> rfl
      · rfl
  | _ => rfl

theorem toInteger_stubs
    (invoke : Invoke World Label)
    (value : Value)
    (scene : Scene World Label)
    (id : Nat) :
    (value.toInteger invoke scene).2.store.stubs id =
      ((scene.afterCall invoke (value.converter? "to_int" scene.store)).store.stubs id).hear
        id (value.asked? "to_int" scene.store) := by
  cases value with
  | object reference =>
      apply ask_stubs
      · intro answer reached
        cases answer <;> rfl
      · rfl
  | _ => rfl

end Value

/--
An operation leaves a stub as the body that it runs does, or as the call that it is.
-/
theorem Operation.perform_stubs
    {World Label : Type}
    (invoke : Invoke World Label)
    (operation : Operation Label)
    (scene : Scene World Label)
    {id : Nat}
    (made : id < (operation.handed invoke scene).store.next) :
    (operation.perform invoke scene).2.store.stubs id =
      ((operation.handed invoke scene).store.stubs id).hear id
        (operation.stubCall? scene.store) := by
  cases operation with
  | newText | newGroup | newHash | newProc | newObject | freeze => rfl
  | newStub => exact Table.put_other _ _ (Nat.ne_of_lt made)
  | get hash key =>
      rw [perform, hash.get_scene]
      rfl
  | insert hash key value =>
      rw [perform, Act.stubs_bind fun _ _ => rfl, HashRef.insert_apply]
      split <;> rfl
  | setDefault hash value =>
      rw [perform, HashRef.setDefault_apply]
      split <;> rfl
  | setDefaultProc hash argument =>
      rw [perform, HashRef.setDefaultProc_apply]
      cases frozen : (scene.store.hash hash).frozen with
      | true =>
          simp only [handed, callee?, stubCall?, frozen, ↓reduceIte]
          rfl
      | false =>
          -- the conversion comes first, and storing its answer touches no stub
          simp only [handed, callee?, stubCall?, frozen,
            Bool.false_eq_true, ↓reduceIte]
          split
          · next isNil =>
              cases argument with
              | nil => rfl
              | _ => simp [Value.isNil] at isNil
          · have storing (converted : Option Proc) (reached : Scene World Label) :
                (hash.storeDefaultProc argument converted reached).2.store.stubs =
                  reached.store.stubs := by
              cases converted with
              | none => rfl
              | some callable =>
                  simp only [HashRef.storeDefaultProc]
                  split <;> rfl
            rw [Act.stubs_bind storing]
            exact argument.toProc?_stubs invoke scene id
  | call callable arguments =>
      rw [perform, callable.call_scene]
      rfl
  | send receiver method arguments =>
      exact receiver.send_stubs invoke method arguments scene id
  | toProc value =>
      rw [perform, Act.stubs_bind fun converted _ => by cases converted <;> rfl]
      exact value.toProc?_stubs invoke scene id
  | toInteger value =>
      rw [perform, Act.stubs_bind fun _ _ => rfl]
      exact value.toInteger_stubs invoke scene id
  | shouldReceive stub method =>
      exact scene.store.stubs_putStub_take stub (.shouldReceive method) id
  | andReturn stub method value =>
      exact scene.store.stubs_putStub_take stub (.andReturn method value) id
  | exactly stub method count =>
      exact scene.store.stubs_putStub_take stub (.exactly method count) id

namespace Moment.Follows

variable {World Label : Type} {program : Program World Label}
variable {scene : Scene World Label} {moment : Moment World Label} {id : Nat}

/-- A step is to a stub that is there what the call is that its moment ends. -/
theorem stub_eq
    (follows : moment.Follows program Scene.SameObjects scene)
    (made : id < scene.store.next) :
    moment.scene.store.stubs id =
      (moment.stubCall? id).toList.foldl StubState.take (scene.store.stubs id) := by
  cases follows with
  | passed rests => exact congrArg (fun store : Store Label => store.stubs id) rests
  | began rests => exact congrArg (fun store : Store Label => store.stubs id) rests
  | @askedStub name before reached answer rests asked =>
      rw [← rests] at made ⊢
      rcases Scene.makeStub_cases asked with ⟨rfl, rfl⟩ | ⟨rfl, rfl⟩
      · rfl
      · exact Table.put_other _ _ (Nat.ne_of_lt made)
  | @ended depth operation start reached ending rests performed =>
      rw [← rests] at made ⊢
      have performs := operation.perform_stubs (program.invoke depth) start made
      rw [performed] at performs
      exact performs

/-- In the moment in which a stub is made nothing is declared on it. -/
theorem stub_of_bears
    {name : String}
    (follows : moment.Follows program Scene.SameObjects scene)
    (bears : moment.Bears id name) :
    id < moment.scene.store.next ∧ moment.scene.store.stubs id = .new name := by
  cases bears with
  | made =>
      cases follows with
      | ended rests performed =>
          cases performed
          exact ⟨Nat.lt_succ_self _, Table.put_same _ _ _⟩
  | @asked before after =>
      cases follows with
      | askedStub rests asked =>
          rcases Scene.makeStub_cases asked with ⟨refused, -⟩ | ⟨isMade, rfl⟩
          · cases refused
          · cases isMade
            exact ⟨Nat.lt_succ_self _, Table.put_same _ _ _⟩

/-- A message that a stub is sent is answered by the stub as it is before. -/
theorem send_stub
    {nesting : Nat}
    {method : String}
    {arguments : List Value}
    {before after : Scene World Label}
    {ending : Ending Raised Value}
    (follows :
      (Moment.ended nesting (.send (.stub id) method arguments) before ending after).Follows
        program Scene.SameObjects scene) :
    before.store = scene.store ∧
      match (scene.store.stubs id).receive? method with
      | some (answer, counted) =>
          ending = .returned answer ∧ after.store.stubs id = counted
      | none =>
          ending = .stopped (.noMethod method (scene.store.stubs id).inspect) ∧
            after = before := by
  cases follows with
  | ended rests performed =>
      have sameStore : before.store = scene.store := rests
      refine ⟨sameStore, ?_⟩
      simp only [Operation.perform, ObjectRef.send, sameStore] at performed
      cases received : (scene.store.stubs id).receive? method with
      | none =>
          simp only [received] at performed
          cases performed
          exact ⟨rfl, rfl⟩
      | some answered =>
          simp only [received] at performed
          cases performed
          exact ⟨rfl, Table.put_same _ _ _⟩

end Moment.Follows

/--
After the moment in which a stub is made it keeps the account
of the calls since then.
-/
theorem Trail.stub_eq_account
    {World Label : Type}
    {program : Program World Label}
    {start finish : Scene World Label}
    {moments earlier since : List (Moment World Label)}
    {birth : Moment World Label}
    {id : Nat}
    {name : String}
    (trail : Trail program Scene.SameObjects start moments finish)
    (points : earlier ++ birth :: since <+: moments)
    (bears : birth.Bears id name) :
    (Moment.sceneAfter start (earlier ++ birth :: since)).store.stubs id =
      .account name (stubLog id since) := by
  rw [List.append_cons] at points
  have born :=
    trail.follows_of_prefix .refl ((List.prefix_append _ since).trans points)
  obtain ⟨made, isNew⟩ := born.stub_of_bears bears
  have later := trail.stretch .refl points
  simp only [Moment.sceneAfter_append, Moment.sceneAfter_cons,
    Moment.sceneAfter_nil] at later ⊢
  have replayed :=
    later.replays (fun store => store.stubs id)
      (Moment.stubCall? id) StubState.take made
      fun moment _ scene follows stillMade => follows.stub_eq stillMade
  rw [replayed, isNew]
  exact StubState.foldl_take name (stubLog id since)

/--
In every course every stub accounts for its calls from the
moment on that it is made.
-/
theorem Program.stubAccountsForCalls
    {World Label : Type}
    (program : Program World Label)
    (depth : Nat)
    (tasks : List (Task World Label))
    (context : Context)
    (world : World)
    (id : Nat)
    (name : String) :
    StubAccountsForCalls (.fresh context world)
      (program.course depth tasks (.fresh context world)) id name := by
  obtain ⟨finish, trail⟩ := program.course_trail depth tasks (.fresh context world)
  exact {
    accounts := by
      intro earlier birth since points bears
      rw [trail.stub_eq_account points bears]
      exact StubState.accounts_account name (stubLog id since)
    answered := by
      intro earlier birth since nesting method arguments before ending after
        point bears declared
      have account :=
        trail.stub_eq_account ((List.prefix_append _ _).trans point) bears
      obtain ⟨-, sent⟩ := (trail.follows_of_prefix .refl point).send_stub
      rw [account, StubState.receive?_account, if_pos declared] at sent
      obtain ⟨answers, counts⟩ := sent
      rw [account, counts]
      exact ⟨answers, StubState.counted_account name declared⟩
    refused := by
      intro earlier birth since nesting method arguments before ending after
        point bears undeclared
      have account :=
        trail.stub_eq_account ((List.prefix_append _ _).trans point) bears
      obtain ⟨sameStore, sent⟩ := (trail.follows_of_prefix .refl point).send_stub
      rw [account, StubState.receive?_account, if_neg undeclared] at sent
      obtain ⟨stops, rfl⟩ := sent
      exact ⟨stops, rfl, sameStore⟩ }

end Conformance
