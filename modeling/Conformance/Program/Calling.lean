import Conformance.Program.Scene

namespace Conformance

/-!
# Calls and messages

A plain callable makes the arguments fit: missing ones are `nil` and superfluous
ones are dropped.  A lambda refuses a number of arguments that does not fit.
-/

namespace Proc

/--
The arguments that the body of a callable gets, or the refusal of a lambda.  That
memory could not hold so many arguments as an arity asks for is left out.
-/
def receive
    (callable : Proc)
    (arguments : List Value) :
    Except Raised (List Value) :=
  match callable.flavour with
  | .lambda =>
      if callable.arity.accepts arguments.length then .ok arguments
      else
        .error (.argumentError
          (Message.wrongNumberOfArguments arguments.length callable.arity.expected))
  | .plain =>
      let required := callable.arity.required
      if arguments.length == required ||
          decide (required < arguments.length) && callable.arity.takesMore then
        .ok arguments
      else
        let kept := arguments.take required
        .ok (kept ++ List.replicate (required - kept.length) .nil)

variable {World Label : Type}

/-- Calls a callable: its body runs once on the arguments it receives. -/
def call
    (invoke : Invoke World Label)
    (callable : Proc)
    (arguments : List Value) :
    Raising World Label Value :=
  match callable.receive arguments with
  | .error refusal => .stop refusal
  | .ok received => fun scene =>
      match scene.store.behaviours callable.id with
      | .constant value => (.returned value, scene)
      | .body label => invoke label received scene

end Proc

namespace ObjectRef

variable {World Label : Type}

/--
Sends a message to an object.  A host object runs the method's body; a stub
counts the call and answers what was declared.
-/
def send
    (invoke : Invoke World Label)
    (receiver : ObjectRef)
    (method : String)
    (arguments : List Value) :
    Raising World Label Value :=
  fun scene =>
    match receiver with
    | .host id className =>
        match (scene.store.methods id).find? fun entry => entry.1 == method with
        | some (_, label) => invoke label arguments scene
        | none => (.stopped (.noMethod method className), scene)
    | .stub id =>
        match (scene.store.stubs id).receive? method with
        | some (answer, counted) =>
            (.returned answer, scene.withStore (scene.store.putStub id counted))
        | none => (.stopped (.noMethod method (scene.store.stubs id).inspect), scene)

end ObjectRef

end Conformance
