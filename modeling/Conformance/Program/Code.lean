import Conformance.Program.Operation

namespace Conformance

/-!
# Code

Hooks, scenario bodies, and the bodies of callables and methods are code: a tree
of looks at the scene, changes of the program's own world, writes to the context,
and operations, that goes on with what each of them gives.  Code touches objects
only through the operations, and the context only by setting variables and
making stubs.

Some things that hooks could do besides are left out: putting a whole context in
the place of the one they are given, catching a panic of their own, and running
code when a value or the payload of a panic is dropped.
-/

/--
Code of a program with a world of its own, whose bodies are known by labels.  It
comes to a result or stops with an error: hooks with a fault, and the bodies of
callables, which can only raise, with a raised error.
-/
inductive Code (World Label Error Result : Type) where
  | done (ending : Except Error Result)
  | panic (payload : Payload)
  | overflow
  | look (next : Scene World Label → Code World Label Error Result)
  | write (world : World) (next : Code World Label Error Result)
  | assign (name : String) (value : Value) (next : Code World Label Error Result)
  | makeStub (name : String) (next : Except Misuse Value →
    Code World Label Error Result)
  | operate
      (operation : Operation Label)
      (next : Except Raised Value → Code World Label Error Result)

namespace Code

variable {World Label Error Other Result Next : Type}

/-- Goes on with the result of code; an error ends the whole. -/
def andThen
    (next : Result → Code World Label Error Next) :
    Code World Label Error Result → Code World Label Error Next
  | .done (.ok result) => next result
  | .done (.error error) => .done (.error error)
  | .panic payload => .panic payload
  | .overflow => .overflow
  | .look continuation => .look fun scene => (continuation scene).andThen next
  | .write world continuation => .write world (continuation.andThen next)
  | .assign name value continuation => .assign name value (continuation.andThen next)
  | .makeStub name continuation =>
      .makeStub name fun answer => (continuation answer).andThen next
  | .operate operation continuation =>
      .operate operation fun answer => (continuation answer).andThen next

instance : Monad (Code World Label Error) where
  pure result := .done (.ok result)
  bind code next := code.andThen next

/-- Stops with an error. -/
def stop (error : Error) : Code World Label Error Result :=
  .done (.error error)

/-- Stops with a raised error. -/
def raise [OfRaised Error] (error : Raised) : Code World Label Error Result :=
  .stop (OfRaised.ofRaised error)

/-- Runs code and rewords the error that it stops with. -/
def mapError
    (reword : Error → Other) :
    Code World Label Error Result → Code World Label Other Result
  | .done ending => .done (ending.mapError reword)
  | .panic payload => .panic payload
  | .overflow => .overflow
  | .look continuation => .look fun scene => (continuation scene).mapError reword
  | .write world continuation => .write world (continuation.mapError reword)
  | .assign name value continuation =>
      .assign name value (continuation.mapError reword)
  | .makeStub name continuation =>
      .makeStub name fun answer => (continuation answer).mapError reword
  | .operate operation continuation =>
      .operate operation fun answer => (continuation answer).mapError reword

/-- Runs code and gives its error as a result instead of stopping. -/
def attempt :
    Code World Label Error Result → Code World Label Other (Except Error Result)
  | .done ending => .done (.ok ending)
  | .panic payload => .panic payload
  | .overflow => .overflow
  | .look continuation => .look fun scene => (continuation scene).attempt
  | .write world continuation => .write world continuation.attempt
  | .assign name value continuation => .assign name value continuation.attempt
  | .makeStub name continuation =>
      .makeStub name fun answer => (continuation answer).attempt
  | .operate operation continuation =>
      .operate operation fun answer => (continuation answer).attempt

/-- The scene as it is now. -/
def scene : Code World Label Error (Scene World Label) :=
  .look fun scene => .done (.ok scene)

/-- Changes the program's own world. -/
def changeWorld (change : World → World) : Code World Label Error Unit :=
  .look fun scene => .write (change scene.world) (.done (.ok ()))

/-- Performs an operation and gives its answer; an error that it raises stops the code. -/
def perform
    [OfRaised Error]
    (operation : Operation Label) :
    Code World Label Error Value :=
  .operate operation fun answer => .done (answer.mapError OfRaised.ofRaised)

/-- The text of a value in messages; a value without one exhausts the call stack. -/
def inspect (value : Value) : Code World Label Error String :=
  .look fun scene =>
    match scene.store.inspect? value with
    | some text => .done (.ok text)
    | none => .overflow

/-- The text of a value for people; a value without one exhausts the call stack. -/
def display (value : Value) : Code World Label Error String :=
  .look fun scene =>
    match scene.store.display? value with
    | some text => .done (.ok text)
    | none => .overflow

/-- Sets a variable of the context. -/
def setVariable (name : String) (value : Value) : Code World Label Error Unit :=
  .assign name value (.done (.ok ()))

/-- Reads a variable of the context; one that no hook has set is a misuse. -/
def readVariable (name : String) : Code World Label Fault Value :=
  .look fun scene =>
    match scene.context.bindings name with
    | some value => .done (.ok value)
    | none => .stop (.misuse (.unsetVariable name))

/-- Makes a stub that must be met when the running body ends. -/
def contextStub (name : String) : Code World Label Fault Value :=
  .makeStub name fun answer => .done (answer.mapError Fault.misuse)

end Code

end Conformance
