import Conformance.Object.Value
import Conformance.Outcome.Fault

namespace Conformance

/-!
# Stubs

A stub stands in for an object.  It answers only the methods that were declared
on it, counts every call, and can tell which declaration was not met.
-/

/-- How often a declared method must be called. -/
inductive ExpectedCalls where
  | atLeastOnce
  | exactly (count : Nat)
  deriving Repr, DecidableEq

namespace ExpectedCalls

/-- Whether a number of calls is as expected. -/
def satisfiedBy : ExpectedCalls → Nat → Bool
  | .atLeastOnce, calls => decide (1 ≤ calls)
  | .exactly count, calls => calls == count

/-- How messages name the expectation. -/
def text : ExpectedCalls → String
  | .atLeastOnce => "at least once"
  | .exactly count =>
      if count = 1 then "exactly once" else "exactly " ++ toString count ++ " times"

end ExpectedCalls

/-- A method that must be called, what it answers, and how often it was called. -/
structure Declaration where
  method : String
  returns : Value
  expected : ExpectedCalls
  calls : Nat
  deriving Repr, DecidableEq

/-- Everything about a stub that can change, and its name. -/
structure StubState where
  name : String
  declarations : List Declaration
  deriving Repr, DecidableEq

namespace StubState

/-- A stub on which nothing is declared. -/
def new (name : String) : StubState :=
  ⟨name, []⟩

/-- The declaration of a method. -/
def find? (stub : StubState) (method : String) : Option Declaration :=
  stub.declarations.find? fun declaration => declaration.method == method

/-- Whether a method is declared. -/
def respondsTo (stub : StubState) (method : String) : Bool :=
  stub.declarations.any fun declaration => declaration.method == method

/--
Declares that a method must be called.  It answers `nil` and must be called at
least once until refined; an earlier declaration of it is forgotten.
-/
def shouldReceive (stub : StubState) (method : String) : StubState :=
  { stub with
    declarations :=
      (stub.declarations.filter fun declaration => !(declaration.method == method)) ++
        [⟨method, .nil, .atLeastOnce, 0⟩] }

/-- Changes the first declaration of a method, if it is declared at all. -/
def refine (method : String) (change : Declaration → Declaration) :
    List Declaration → List Declaration
  | [] => []
  | declaration :: rest =>
      if declaration.method == method then change declaration :: rest
      else declaration :: refine method change rest

/-- Sets what a declared method answers. -/
def andReturn (stub : StubState) (method : String) (value : Value) : StubState :=
  { stub with
    declarations :=
      refine method (fun declaration => { declaration with returns := value })
        stub.declarations }

/-- Sets how often a declared method must be called. -/
def exactly (stub : StubState) (method : String) (count : Nat) : StubState :=
  { stub with
    declarations :=
      refine method (fun declaration => { declaration with expected := .exactly count })
        stub.declarations }

/-- Answers a call of a declared method and counts it. -/
def receive? (stub : StubState) (method : String) : Option (Value × StubState) :=
  (stub.find? method).map fun declaration =>
    (declaration.returns,
      { stub with
        declarations :=
          refine method (fun declaration =>
            { declaration with calls := declaration.calls + 1 })
            stub.declarations })

/-- How often a method was called since it was last declared. -/
def callCount (stub : StubState) (method : String) : Nat :=
  match stub.find? method with
  | some declaration => declaration.calls
  | none => 0

/-- How messages name the stub as a receiver. -/
def inspect (stub : StubState) : String :=
  "#<MockObject:" ++ stub.name ++ ">"

/-- The first declaration, in order, that was not met. -/
def firstUnmet? (stub : StubState) : Option UnmetCall :=
  (stub.declarations.find? fun declaration =>
    !declaration.expected.satisfiedBy declaration.calls).map fun declaration =>
      ⟨stub.name, declaration.method, declaration.expected.text, declaration.calls⟩

end StubState

end Conformance
