import Conformance.Program.GroupLookup
import Conformance.Program.Making
import Conformance.Script.Expr
import Conformance.Suite.Scenario

namespace Conformance.Script

/-!
# What expressions mean

An expression means code.  Bodies stand for themselves: the label of a callable
or a method is its body, which is evaluated anew at each call.
-/

/-- What scripts share: variables, stubs under names, and a trace. -/
structure World where
  bindings : String → Option Value
  stubs : String → Option Nat
  trace : List String

namespace World

/-- Nothing set, nothing made, nothing traced. -/
def empty : World :=
  ⟨fun _ => none, fun _ => none, []⟩

/-- Sets a variable. -/
def assign (world : World) (name : String) (value : Value) : World :=
  { world with
    bindings :=
      fun other => if other = name then some value else world.bindings other }

/-- Remembers a stub under a name. -/
def addStub (world : World) (key : String) (id : Nat) : World :=
  { world with stubs := fun other => if other = key then some id else world.stubs other }

/-- Adds an entry to the trace. -/
def addTrace (world : World) (entry : String) : World :=
  { world with trace := world.trace ++ [entry] }

end World

/-- What an expression of scripts means: code with a result. -/
abbrev Meaning (Result : Type) : Type :=
  Code World Expr Fault Result

/-- The databases of scripts. -/
abbrev Database : Type :=
  GroupDatabase World Expr

/--
What is around a script: the database of the system, and the error that stands for
a fault of an expression in the body of a callable or a block, which can only raise.
-/
structure Surroundings where
  database : Database
  raisedFor : Fault → Raised

/-- Reads a variable; one that was never set is `nil`. -/
def readVariable (name : String) : Meaning Value := do
  let scene ← Code.scene
  pure ((scene.world.bindings name).getD .nil)

/-- The state of a stub. -/
def stubState (id : Nat) : Meaning StubState := do
  let scene ← Code.scene
  pure (scene.store.stubs id)

/-- Stops because a value does not answer what was asked of it. -/
def missing {Result : Type} (operator : String) (value : Value) : Meaning Result :=
  Code.raise (.noMethod operator value.className)

/-- The hash that a value is. -/
def needHash (operator : String) : Value → Meaning HashRef
  | .hash reference => pure reference
  | value => missing operator value

/-- The callable that a value is. -/
def needProc (operator : String) : Value → Meaning Proc
  | .proc callable => pure callable
  | value => missing operator value

/-- The object that a value is. -/
def needObject (operator : String) : Value → Meaning ObjectRef
  | .object reference => pure reference
  | value => missing operator value

/-- The integer that a value is. -/
def needInteger (operator : String) : Value → Meaning Int64
  | .integer number => pure number
  | value => missing operator value

/-- The stub that a name was given to. -/
def findStub (key : String) : Meaning Nat := do
  let scene ← Code.scene
  match scene.world.stubs key with
  | some id => pure id
  | none => Code.raise (.runtimeError ("no stub `" ++ key ++ "`"))

/-- Remembers the stub that a value is. -/
def rememberStub (key : String) (value : Value) : Meaning Unit :=
  match value with
  | .object (.stub id) => Code.changeWorld fun world => world.addStub key id
  | _ => pure ()

/-- A callable or `nil`. -/
def procOrNil : Option Proc → Value
  | some callable => .proc callable
  | none => .nil

namespace Unary

/-- What an operator makes of a value. -/
def apply (value : Value) : Unary → Meaning Value
  | .className => Code.newText value.className
  | .isKindOf tag => pure (.bool (value.isKindOf tag))
  | .truthy => pure (.bool value.truthy)
  | .isNil => pure (.bool value.isNil)
  | .inspect => do Code.newText (← Code.inspect value)
  | .display => do Code.newText (← Code.display value)
  | .asInteger =>
      match value with
      | .integer _ => pure value
      | _ => pure .nil
  | .asText =>
      match value with
      | .text reference => Code.newText reference.text
      | _ => pure .nil
  | .asProc =>
      match value with
      | .proc _ => pure value
      | _ => pure .nil
  | .asHash =>
      match value with
      | .hash _ => pure value
      | _ => pure .nil
  | .asGroup =>
      match value with
      | .group reference => Code.perform (.newGroup reference.record)
      | _ => pure .nil
  | .arity => do
      let callable ← needProc "arity" value
      pure (.integer callable.arity.signed)
  | .flavour => do
      let callable ← needProc "proc_kind" value
      Code.newText (match callable.flavour with
        | .plain => "proc"
        | .lambda => "lambda")
  | .returning => Code.perform (.newProc .plain (.exactly 0) (.constant value))
  | .hashWithDefault => Code.perform (.newHash (.fixed value))
  | .hashWithProc => do
      let callable ← needProc "hash_proc" value
      Code.perform (.newHash (.computed callable))
  | .default => do
      let state ← Code.hashState (← needHash "default" value)
      pure state.default
  | .defaultProc => do
      let state ← Code.hashState (← needHash "default_proc" value)
      pure (procOrNil state.defaultProc)
  | .freeze => do
      let hash ← needHash "freeze" value
      Code.perform (.freeze hash)
  | .isFrozen => do
      let state ← Code.hashState (← needHash "frozen" value)
      pure (.bool state.frozen)
  | .size => do
      let state ← Code.hashState (← needHash "len" value)
      pure (.integer (Int64.ofNat state.size))
  | .isEmpty => do
      let state ← Code.hashState (← needHash "empty" value)
      pure (.bool (state.size == 0))
  | .respondsTo method => do
      let receiver ← needObject "respond_to" value
      let scene ← Code.scene
      pure (.bool (scene.store.respondsTo method receiver))
  | .toProc => Code.perform (.toProc value)
  | .toInteger => Code.perform (.toInteger value)

end Unary

namespace Binary

/-- What an operator makes of two values. -/
def apply (left right : Value) : Binary → Meaning Value
  | .add => do
      let first ← needInteger "add" left
      let second ← needInteger "add" right
      pure (.integer (first + second))
  | .less => do
      let first ← needInteger "lt" left
      let second ← needInteger "lt" right
      pure (.bool (decide (first < second)))
  | .equal => pure (.bool (left.equal right))
  | .same => pure (.bool (left.same right))
  | .get => do
      let hash ← needHash "get" left
      Code.perform (.get hash right)
  | .setDefault => do
      let hash ← needHash "set_default" left
      Code.perform (.setDefault hash right)
  | .setDefaultProc => do
      let hash ← needHash "set_default_proc" left
      Code.perform (.setDefaultProc hash right)
  | .contains => do
      let state ← Code.hashState (← needHash "has" left)
      pure (.bool (state.contains right))

end Binary

namespace GroupSource

/-- The database that a source stands for. -/
def database (system : Database) : GroupSource → Database
  | .unsupported => .unsupported
  | .system => system
  | .records known currentGid => .ofRecords known currentGid
  | .systemFailure errno => .failing (fun gid => .system gid errno) (some 7)
  | .bufferFailure limit => .failing (fun gid => .bufferLimit gid limit) (some 7)

end GroupSource

/-- Declares that a method of a stub must be called, and so often if that is given. -/
def declareMethod
    (key method : String)
    (answer : Option Value)
    (count : Option Nat) :
    Meaning Value := do
  let stub ← findStub key
  let _ ← Code.perform (.shouldReceive stub method)
  match answer with
  | some value =>
      let _ ← Code.perform (.andReturn stub method value)
  | none => pure ()
  match count with
  | some times =>
      let _ ← Code.perform (.exactly stub method times)
  | none => pure ()
  pure .nil

namespace Comparison

/-- The value matcher that a comparison with a value stands for. -/
def matcher (operand : Value) : Comparison → ValueMatcher
  | .equality => .toEq operand
  | .identity => .toEqual operand

end Comparison

namespace Matcher

/-- Applies a matcher to an expectation. -/
def apply (expectation : Expectation World Expr) : Matcher → Meaning Unit
  | .beNil => expectation.check .toBeNil
  | .beTrue => expectation.check .toBeTrue
  | .beFalse => expectation.check .toBeFalse
  | .beKindOf tag => expectation.check (.toBeKindOf tag)
  | .raises matcher kind => expectation.checkRaise matcher kind

end Matcher

/--
Begins an expectation: a value is evaluated at once, a block when
a matcher asks for it.
-/
def subjectOf
    (raisedFor : Fault → Raised)
    (subject : Meaning Value) :
    Form → Meaning (Expectation World Expr)
  | .value => do
      let actual ← subject
      pure (.ofValue actual)
  | .block => pure (.ofBlock (subject.mapError raisedFor))

namespace Expr

mutual

/-- The code that an expression means in a body that received the given arguments. -/
def meaning (around : Surroundings) (received : List Value) : Expr → Meaning Value
  | .nil => pure .nil
  | .bool flag => pure (.bool flag)
  | .integer number => pure (.integer number)
  | .text content => Code.newText content
  | .symbol name => pure (.symbol name)
  | .variable name => readVariable name
  | .assign name value => do
      let result ← value.meaning around received
      Code.changeWorld fun world => world.assign name result
      pure result
  | .argument index => pure (received.getD index .nil)
  | .argumentCount => pure (.integer (Int64.ofNat received.length))
  | .sequence steps => do
      let results ← meanings around received steps
      pure (results.getLastD .nil)
  | .choose condition positive negative => do
      let result ← condition.meaning around received
      if result.truthy then positive.meaning around received
      else negative.meaning around received
  | .trace entry => do
      Code.changeWorld fun world => world.addTrace entry
      pure .nil
  | .raise error => Code.raise error
  | .fail message => Code.stop (.assertion message)
  | .panic payload => .panic payload
  | .unary operator operand => do
      let value ← operand.meaning around received
      operator.apply value
  | .binary operator left right => do
      let first ← left.meaning around received
      let second ← right.meaning around received
      operator.apply first second
  | .hash => Code.perform (.newHash .nothing)
  | .insert table key value => do
      let target ← table.meaning around received
      let index ← key.meaning around received
      let entry ← value.meaning around received
      let reference ← needHash "insert" target
      Code.perform (.insert reference index entry)
  | .callable flavour arity body =>
      Code.perform (.newProc flavour arity (.body body))
  | .call called arguments => do
      let target ← called.meaning around received
      let given ← meanings around received arguments
      let reference ← needProc "call" target
      Code.perform (.call reference given)
  | .object className methods => Code.perform (.newObject className methods)
  | .send receiver method arguments => do
      let target ← receiver.meaning around received
      let given ← meanings around received arguments
      let reference ← needObject method target
      Code.perform (.send reference method given)
  | .group record => Code.perform (.newGroup record)
  | .currentGroup source =>
      ((source.database around.database).getgrgid none).mapError .raised
  | .lookupGroup source gid => do
      let requested ← gid.meaning around received
      ((source.database around.database).getgrgid (some requested)).mapError .raised
  | .stub key name => do
      let made ← Code.perform (.newStub name)
      rememberStub key made
      pure made
  | .contextStub key name => do
      let made ← Code.contextStub name
      rememberStub key made
      pure made
  | .declare key method count => declareMethod key method none count
  | .declareReturning key method answer count => do
      let value ← answer.meaning around received
      declareMethod key method (some value) count
  | .stubValue key => do
      let stub ← findStub key
      pure (.object (.stub stub))
  | .stubName key => do
      let state ← stubState (← findStub key)
      Code.newText state.name
  | .callCount key method => do
      let state ← stubState (← findStub key)
      pure (.integer (Int64.ofNat (state.callCount method)))
  | .verify key => do
      let state ← stubState (← findStub key)
      match state.firstUnmet? with
      | some unmet => Code.stop (.unmet unmet)
      | none => pure .nil
  | .contextAssign name value => do
      let result ← value.meaning around received
      Code.setVariable name result
      pure .nil
  | .contextRead name => Code.readVariable name
  | .contextPlatform => do
      let platform ← Code.platform
      Code.newText platform.id
  | .compare form subject negations comparison operand => do
      let expectation ← subjectOf around.raisedFor
        (subject.meaning around received) form
      let expected ← operand.meaning around received
      (expectation.notTimes negations).check (comparison.matcher expected)
      pure .nil
  | .expect form subject negations matcher => do
      let expectation ← subjectOf around.raisedFor
        (subject.meaning around received) form
      matcher.apply (expectation.notTimes negations)
      pure .nil

/-- The code of expressions one after the other, with all their values. -/
def meanings
    (around : Surroundings)
    (received : List Value) :
    List Expr → Meaning (List Value)
  | [] => pure []
  | first :: rest => do
      let value ← first.meaning around received
      let values ← meanings around received rest
      pure (value :: values)

end

/-- A hook: expressions one after the other up to the first fault. -/
def hook (around : Surroundings) (steps : List Expr) : Meaning Unit := do
  let _ ← meanings around [] steps
  pure ()

end Expr

/-- The program in which every body stands for itself. -/
def program (around : Surroundings) : Program World Expr where
  body :=
    fun body received => (body.meaning around received).mapError around.raisedFor

end Conformance.Script
