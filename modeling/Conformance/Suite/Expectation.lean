import Conformance.Program.Code

namespace Conformance

/-!
# Expectations

An expectation wraps a value or a block, and a matcher decides whether it holds.
Value matchers can be turned around; the matchers for blocks cannot, and a
matcher on the wrong kind of subject is a misuse of the harness.
-/

/-- What an expectation is about. -/
inductive Subject (World Label : Type) where
  | value (actual : Value)
  | block (action : Code World Label Raised Value)

/-- A check that is waiting for its matcher. -/
structure Expectation (World Label : Type) where
  subject : Subject World Label
  negated : Bool

/-- A condition on a value. -/
inductive ValueMatcher where
  | toEq (expected : Value)
  | toEqual (expected : Value)
  | toBeNil
  | toBeTrue
  | toBeFalse
  | toBeKindOf (tag : String)
  deriving Repr, DecidableEq

/-- A condition on what a block raises. -/
inductive RaiseMatcher where
  | toRaise
  | notToRaise
  deriving Repr, DecidableEq

namespace ValueMatcher

variable {World Label : Type}

/-- The name of a matcher in messages. -/
def name : ValueMatcher → String
  | .toEq _ => "to_eq"
  | .toEqual _ => "to_equal"
  | .toBeNil => "to_be_nil"
  | .toBeTrue => "to_be_true"
  | .toBeFalse => "to_be_false"
  | .toBeKindOf _ => "to_be_kind_of"

/-- Whether a value meets the condition. -/
def holds : ValueMatcher → Value → Bool
  | .toEq expected, actual => actual.equal expected
  | .toEqual expected, actual => actual.same expected
  | .toBeNil, actual => actual.isNil
  | .toBeTrue, actual => decide (actual = .bool true)
  | .toBeFalse, actual => decide (actual = .bool false)
  | .toBeKindOf tag, actual => actual.isKindOf tag

/-- What to say of a value that should meet the condition and does not. -/
def complaint (actual : Value) : ValueMatcher → Code World Label Fault String
  | .toEq expected => do
      let actualText ← Code.inspect actual
      let expectedText ← Code.inspect expected
      pure ("Expected " ++ actualText ++ "\n to == " ++ expectedText)
  | .toEqual expected => do
      let actualText ← Code.inspect actual
      let expectedText ← Code.inspect expected
      pure ("Expected " ++ actualText ++ "\n to be identical to " ++ expectedText)
  | .toBeNil => do
      let actualText ← Code.inspect actual
      pure ("Expected " ++ actualText ++ " to be nil")
  | .toBeTrue => do
      let actualText ← Code.inspect actual
      pure ("Expected " ++ actualText ++ " to be true")
  | .toBeFalse => do
      let actualText ← Code.inspect actual
      pure ("Expected " ++ actualText ++ " to be false")
  | .toBeKindOf tag => do
      let actualText ← Code.inspect actual
      pure ("Expected " ++ actualText ++ " (" ++ actual.className ++
        ") to be kind of " ++ tag)

/-- What to say of a value that should not meet the condition and does. -/
def negatedComplaint (actual : Value) : ValueMatcher → Code World Label Fault String
  | .toEq expected => do
      let actualText ← Code.inspect actual
      let expectedText ← Code.inspect expected
      pure ("Expected " ++ actualText ++ "\n not to == " ++ expectedText)
  | .toEqual expected => do
      let actualText ← Code.inspect actual
      let expectedText ← Code.inspect expected
      pure ("Expected " ++ actualText ++ "\n not to be identical to " ++ expectedText)
  | .toBeNil => pure "Expected a value other than nil"
  | .toBeTrue => pure "Expected a value other than true"
  | .toBeFalse => pure "Expected a value other than false"
  | .toBeKindOf tag => do
      let actualText ← Code.inspect actual
      pure ("Expected " ++ actualText ++ " (" ++ actual.className ++
        ") not to be kind of " ++ tag)

end ValueMatcher

namespace RaiseMatcher

/-- The name of a matcher in messages. -/
def name : RaiseMatcher → String
  | .toRaise => "to_raise"
  | .notToRaise => "not_to_raise"

end RaiseMatcher

namespace Expectation

variable {World Label : Type}

/-- An expectation about a value. -/
def ofValue (actual : Value) : Expectation World Label :=
  ⟨.value actual, false⟩

/-- An expectation about a block, which runs when a matcher asks for it. -/
def ofBlock (action : Code World Label Raised Value) : Expectation World Label :=
  ⟨.block action, false⟩

/-- Turns the expectation around. -/
def not (expectation : Expectation World Label) : Expectation World Label :=
  { expectation with negated := !expectation.negated }

/-- Turns the expectation around a number of times. -/
def notTimes : Nat → Expectation World Label → Expectation World Label
  | 0, expectation => expectation
  | count + 1, expectation => notTimes count expectation.not

/-- Applies a value matcher. -/
def check
    (expectation : Expectation World Label)
    (matcher : ValueMatcher) :
    Code World Label Fault Unit :=
  match expectation.subject with
  | .block _ => Code.stop (.misuse (.blockGiven matcher.name))
  | .value actual =>
      match matcher.holds actual, expectation.negated with
      | true, false => pure ()
      | false, true => pure ()
      | false, false => do
          let message ← matcher.complaint actual
          Code.stop (.assertion message)
      | true, true => do
          let message ← matcher.negatedComplaint actual
          Code.stop (.assertion message)

/-- Judges what a block came to: a value, or an error that it raised. -/
def judge
    (kind : ErrorKind) :
    RaiseMatcher → Except Raised Value → Code World Label Fault Unit
  | .toRaise, .error error =>
      if error.isA kind then pure ()
      else Code.stop (.assertion ("Expected " ++ kind.name ++ "\nbut got " ++ error.text))
  | .toRaise, .ok value => do
      let valueText ← Code.inspect value
      Code.stop (.assertion ("Expected " ++ kind.name ++
        " but no exception was raised (" ++ valueText ++ " was returned)"))
  | .notToRaise, .ok _ => pure ()
  | .notToRaise, .error error =>
      if error.isA kind then
        Code.stop (.assertion ("Expected to not get " ++ kind.name ++
          "\nbut got " ++ error.text))
      else Code.raise error

/-- Applies a raise matcher: the block runs once, unless the matcher is misused. -/
def checkRaise
    (expectation : Expectation World Label)
    (matcher : RaiseMatcher)
    (kind : ErrorKind) :
    Code World Label Fault Unit :=
  if expectation.negated then Code.stop (.misuse (.negatedBlock matcher.name))
  else
    match expectation.subject with
    | .value _ => Code.stop (.misuse (.valueGiven matcher.name))
    | .block action => do
        let ending ← action.attempt
        judge kind matcher ending

end Expectation

end Conformance
