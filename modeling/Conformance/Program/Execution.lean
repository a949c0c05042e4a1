import Conformance.Program.Code

namespace Conformance

/-!
# Running code

Code runs by recursion on its tree.  A call leaves the tree and runs the body
that its label stands for, so calls are counted: a call nested deeper than the
given depth overflows.
-/

/-- What the labels of a program stand for. -/
structure Program (World Label : Type) where
  body : Label → List Value → Code World Label Raised Value

namespace Scene

variable {World Label : Type}

/-- Sets a variable of the context. -/
def assign
    (scene : Scene World Label)
    (name : String)
    (value : Value) :
    Scene World Label :=
  { scene with context := scene.context.assign name value }

/--
Makes a stub and records it in the context.  The hooks of a group may not: their
context outlives the scenarios that would have to meet the stub.
-/
def makeStub
    (scene : Scene World Label)
    (name : String) :
    Except Misuse Value × Scene World Label :=
  if scene.context.groupLevel then (.error (.groupStub name), scene)
  else
    let (value, store) := scene.store.newStub name
    (.ok value,
      { scene with
        store := store
        context := scene.context.addStub scene.store.next })

end Scene

namespace Code

variable {World Label Error Result : Type}

/-- Runs code, with the bodies it calls run as given. -/
def execute
    (invoke : Invoke World Label) :
    Code World Label Error Result → Act (Scene World Label) Error Result
  | .done (.ok result), scene => (.returned result, scene)
  | .done (.error error), scene => (.stopped error, scene)
  | .panic payload, scene => (.panicked payload, scene)
  | .overflow, scene => (.overflowed, scene)
  | .look next, scene => (next scene).execute invoke scene
  | .write world next, scene => next.execute invoke { scene with world := world }
  | .assign name value next, scene => next.execute invoke (scene.assign name value)
  | .makeStub name next, scene =>
      let (answer, reached) := scene.makeStub name
      (next answer).execute invoke reached
  | .operate operation next, scene =>
      match operation.perform invoke scene with
      | (.returned value, reached) => (next (.ok value)).execute invoke reached
      | (.stopped error, reached) => (next (.error error)).execute invoke reached
      | (.panicked payload, reached) => (.panicked payload, reached)
      | (.overflowed, reached) => (.overflowed, reached)

end Code

namespace Program

variable {World Label Error Result : Type}

/-- Runs the body with a label; calls may be nested so deep below it. -/
def invoke (program : Program World Label) : Nat → Invoke World Label
  | 0 => fun _ _ scene => (.overflowed, scene)
  | depth + 1 => fun label arguments =>
      (program.body label arguments).execute (program.invoke depth)

/-- Runs code of a program; calls may be nested so deep below it. -/
def run
    (program : Program World Label)
    (depth : Nat)
    (code : Code World Label Error Result) :
    Act (Scene World Label) Error Result :=
  code.execute (program.invoke depth)

end Program

end Conformance
