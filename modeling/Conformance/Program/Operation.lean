import Conformance.Program.HashAccess

namespace Conformance

/-!
# Operations

These are the steps by which a program can change the objects: making them,
working on hashes, calling, converting, and declaring on stubs.  Nothing else
that a program does changes an object.
-/

/-- One step of a program on the objects. -/
inductive Operation (Label : Type) where
  | newText (text : String)
  | newGroup (record : GroupRecord)
  | newHash (fallback : Fallback)
  | newProc (flavour : Flavour) (arity : Arity) (behaviour : Behaviour Label)
  | newObject (className : String) (methods : List (String × Label))
  | newStub (name : String)
  | get (hash : HashRef) (key : Value)
  | insert (hash : HashRef) (key value : Value)
  | setDefault (hash : HashRef) (value : Value)
  | setDefaultProc (hash : HashRef) (argument : Value)
  | freeze (hash : HashRef)
  | call (callable : Proc) (arguments : List Value)
  | send (receiver : ObjectRef) (method : String) (arguments : List Value)
  | toProc (value : Value)
  | toInteger (value : Value)
  | shouldReceive (stub : Nat) (method : String)
  | andReturn (stub : Nat) (method : String) (value : Value)
  | exactly (stub : Nat) (method : String) (count : Nat)

namespace Operation

variable {World Label : Type}

/-- Changes the declarations of a stub. -/
def declare
    (stub : Nat)
    (change : StubState → StubState) :
    Raising World Label Value := do
  Act.change fun scene =>
    scene.withStore (scene.store.putStub stub (change (scene.store.stubs stub)))
  pure .nil

/-- What a step does to a scene. -/
def perform (invoke : Invoke World Label) :
    Operation Label → Raising World Label Value
  | .newText text => Act.produce (Scene.make fun store => store.newText text)
  | .newGroup record => Act.produce (Scene.make fun store => store.newGroup record)
  | .newHash fallback => Act.produce (Scene.make fun store => store.newHash fallback)
  | .newProc flavour arity behaviour =>
      Act.produce (Scene.make fun store => store.newProc flavour arity behaviour)
  | .newObject className methods =>
      Act.produce (Scene.make fun store => store.newObject className methods)
  | .newStub name => Act.produce (Scene.make fun store => store.newStub name)
  | .get hash key => hash.get invoke key
  | .insert hash key value => do
      hash.insert key value
      pure .nil
  | .setDefault hash value => hash.setDefault value
  | .setDefaultProc hash argument => hash.setDefaultProc invoke argument
  | .freeze hash => hash.freeze
  | .call callable arguments => callable.call invoke arguments
  | .send receiver method arguments => receiver.send invoke method arguments
  | .toProc value => do
      match ← value.toProc? invoke with
      | some callable => pure (.proc callable)
      | none => pure .nil
  | .toInteger value => do
      let number ← value.toInteger invoke
      pure (.integer number)
  | .shouldReceive stub method =>
      declare stub fun state => state.shouldReceive method
  | .andReturn stub method value =>
      declare stub fun state => state.andReturn method value
  | .exactly stub method count =>
      declare stub fun state => state.exactly method count

end Operation

end Conformance
