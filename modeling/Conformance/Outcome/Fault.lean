import Conformance.Raised

namespace Conformance

/-!
# Faults

A fault ends the hook, scenario or program body that runs into it.  It tells
apart an expectation that did not hold, a stub that was not called as declared,
a misuse of the harness, and an error that nobody expected.
-/

/-- Ways in which a scenario misuses the harness. -/
inductive Misuse where
  | blockGiven (matcher : String)
  | valueGiven (matcher : String)
  | negatedBlock (matcher : String)
  | unsetVariable (name : String)
  | groupStub (name : String)
  | invalidTransition (source target : String)
  deriving Repr, DecidableEq

namespace Misuse

/-- What went wrong, for the author of the scenario. -/
def text : Misuse → String
  | .blockGiven matcher =>
      "`" ++ matcher ++ "` checks a value, but the expectation wraps a block"
  | .valueGiven matcher =>
      "`" ++ matcher ++ "` runs a block, but the expectation wraps a value"
  | .negatedBlock matcher =>
      "`not()` cannot be combined with `" ++ matcher ++ "`"
  | .unsetVariable name =>
      "variable `" ++ name ++ "` was read before any hook set it"
  | .groupStub name =>
      "stub `" ++ name ++ "` was created in a before_all hook"
  | .invalidTransition source target =>
      "scenario state cannot move from " ++ source ++ " to " ++ target

/-- The code under which tools refer to the misuse. -/
def code : Misuse → String
  | .blockGiven _ => "specrun::usage::block_given"
  | .valueGiven _ => "specrun::usage::value_given"
  | .negatedBlock _ => "specrun::usage::negated_block"
  | .unsetVariable _ => "specrun::usage::unset_variable"
  | .groupStub _ => "specrun::usage::group_stub"
  | .invalidTransition _ _ => "specrun::usage::invalid_transition"

/-- Advice on what to write instead, where there is any. -/
def help : Misuse → Option String
  | .blockGiven _ => some "use `expect(value)` for value matchers"
  | .valueGiven _ => some "wrap the action in `expect_block(|| ...)`"
  | .negatedBlock _ => some "use `not_to_raise` instead"
  | .unsetVariable _ => none
  | .groupStub _ =>
      some "create stubs in the scenario body or a per-scenario setup hook"
  | .invalidTransition _ _ => none

end Misuse

/-- A method of a stub that was not called as often as declared. -/
structure UnmetCall where
  stub : String
  method : String
  expected : String
  actual : Nat
  deriving Repr, DecidableEq

namespace UnmetCall

/-- The declaration and what happened instead, in one sentence. -/
def text (unmet : UnmetCall) : String :=
  "Mock '" ++ unmet.stub ++ "' expected to receive '" ++ unmet.method ++ "' " ++
    unmet.expected ++ ", but received it " ++ toString unmet.actual ++ " time(s)"

end UnmetCall

/-- What ends a hook or a body before its end. -/
inductive Fault where
  | assertion (message : String)
  | unmet (call : UnmetCall)
  | misuse (kind : Misuse)
  | raised (error : Raised)
  deriving Repr, DecidableEq

namespace Fault

/-- The fault as one text. -/
def text : Fault → String
  | .assertion message => message
  | .unmet call => call.text
  | .misuse kind => kind.text
  | .raised error => "unexpected " ++ error.text

end Fault

/-- Errors that code may stop with, where the raised ones are among them. -/
class OfRaised (Error : Type) where
  ofRaised : Raised → Error

/-- Bodies of callables and blocks can only raise. -/
instance : OfRaised Raised where
  ofRaised error := error

/-- Hooks and the bodies of scenarios raise among other faults. -/
instance : OfRaised Fault where
  ofRaised := .raised

end Conformance
