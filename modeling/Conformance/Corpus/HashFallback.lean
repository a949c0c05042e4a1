import Conformance.Corpus.Host

namespace Conformance.Corpus

/-!
# Checks of hash fallbacks

A hash made with a callable gives that callable back; assigning another one
replaces it, converts what is no callable, and refuses lambdas that cannot take
the hash and the key.
-/

/-- A hash whose absent keys are all `"Paris"`. -/
def parisHash : Check HashRef := do
  let block ← Code.newProc .plain (.exactly 1) (.body .paris)
  Code.newHash (.computed block)

section

variable {Error : Type} [OfRaised Error]

/-- A hash that answers `nil` for absent keys. -/
def plainHash : Step Error HashRef :=
  Code.newHash .nothing

/-- A hash that may not be changed. -/
def frozenHash : Step Error HashRef := do
  let hash ← plainHash
  let frozen ← Code.perform (.freeze hash)
  Code.hashOf frozen

/-- Assigns the callable to fall back to. -/
def assignDefaultProc (hash : HashRef) (argument : Value) : Step Error Value :=
  Code.perform (.setDefaultProc hash argument)

end

/-- The callable a hash falls back to, as a value. -/
def defaultProcValue (hash : HashRef) : Check Value := do
  let state ← Code.hashState hash
  match state.defaultProc with
  | some callable => pure (.proc callable)
  | none => pure .nil

/-- The callable a hash falls back to, which must be there. -/
def defaultProcOf (hash : HashRef) : Check Proc := do
  let state ← Code.hashState hash
  match state.defaultProc with
  | some callable => pure callable
  | none => Code.stop (.assertion "Expected a default proc, got nil")

/-- A callable that answers a text. -/
def returningText (text : String) : Check Proc := do
  let answer ← Code.newText text
  Code.returning answer

/-- A lambda of so many parameters that answers `nil`. -/
def lambdaOf (parameters : Nat) : Check Proc :=
  Code.newProc .lambda (.exactly parameters) (.constant .nil)

/-- The callable of a hash is the one that the hash was made with. -/
def callsBlock : Check Unit := do
  let callable ← defaultProcOf (← parisHash)
  let answer ← Code.perform (.call callable [.integer 1])
  expectText answer "Paris"

/-- A hash gives the very reference that it was made with. -/
def givesSameBlock : Check Unit := do
  let block ← Code.newProc .plain (.exactly 1) (.body .paris)
  let hash ← Code.newHash (.computed block)
  expect (← defaultProcValue hash) (.toEqual (.proc block))

/-- A hash that was made without a callable has none. -/
def givesNoBlock : Check Unit := do
  expect (← defaultProcValue (← plainHash)) .toBeNil

/-- Checks of reading the callable to fall back to. -/
def defaultProcGroup : Group Unit Routine where
  name := "Hash#default_proc"
  guard := none
  beforeAll := []
  scenarios :=
    [scenario "returns the block passed to Hash.new" callsBlock,
      scenario "returns the same proc object that was passed to Hash.new" givesSameBlock,
      scenario "returns nil if no block was passed to proc" givesNoBlock]

/-- An assigned callable takes the place of the first one. -/
def replacesBlock : Check Unit := do
  let hash ← parisHash
  let _ ← assignDefaultProc hash (.proc (← returningText "Montreal"))
  let callable ← defaultProcOf hash
  let answer ← Code.perform (.call callable [.integer 1])
  expectText answer "Montreal"

/-- An object is asked for the callable, and is itself the answer. -/
def convertsArgument : Check Unit := do
  let hash ← parisHash
  let object ← Code.contextStub "to_proc"
  let stub ← Code.stubOf object
  let _ ← Code.perform (.shouldReceive stub "to_proc")
  let answer ← returningText "Montreal"
  let _ ← Code.perform (.andReturn stub "to_proc" (.proc answer))
  expect (← assignDefaultProc hash object) (.toEqual object)
  let city ← Code.perform (.get hash (.symbol "cool_city"))
  expectText city "Montreal"

/-- An assigned callable takes the place of a fixed value. -/
def overridesDefault : Check Unit := do
  let hash ← Code.newHash (.fixed (.integer 42))
  let _ ← assignDefaultProc hash (.proc (← Code.returning (.integer 6)))
  let state ← Code.hashState hash
  expect state.default .toBeNil
  let callable ← defaultProcOf hash
  let answer ← Code.perform (.call callable [])
  expect answer (.toEq (.integer 6))

/-- What does not convert to a callable is refused. -/
def refusesInteger : Check Unit := do
  let hash ← plainHash
  expectRaise (assignDefaultProc hash (.integer 42)) .typeError

/-- An assignment answers its argument. -/
def answersCallable : Check Unit := do
  let callable ← Code.returning .nil
  expect (← assignDefaultProc (← plainHash) (.proc callable))
    (.toEqual (.proc callable))

/-- Assigning `nil` drops the callable. -/
def clearsWithNil : Check Unit := do
  let hash ← parisHash
  let _ ← assignDefaultProc hash .nil
  expect (← defaultProcValue hash) .toBeNil
  let city ← Code.perform (.get hash (.symbol "city"))
  expect city .toBeNil

/-- Assigning `nil` answers `nil`. -/
def answersNil : Check Unit := do
  expect (← assignDefaultProc (← plainHash) .nil) .toBeNil

/-- A lambda of two parameters is taken. -/
def takesLambdaOfTwo : Check Unit := do
  let hash ← plainHash
  let two ← lambdaOf 2
  (Expectation.ofBlock (assignDefaultProc hash (.proc two))).checkRaise
    .notToRaise .typeError

/-- Lambdas of one parameter and of three are refused. -/
def refusesOtherLambdas : Check Unit := do
  let hash ← plainHash
  let one ← lambdaOf 1
  expectRaise (assignDefaultProc hash (.proc one)) .typeError
  let three ← lambdaOf 3
  expectRaise (assignDefaultProc hash (.proc three)) .typeError

/-- A frozen hash takes neither a callable nor `nil`. -/
def refusesWhenFrozen : Check Unit := do
  let block ← Code.returning .nil
  expectRaise (do assignDefaultProc (← frozenHash) (.proc block)) .runtimeError
  expectRaise (do assignDefaultProc (← frozenHash) .nil) .runtimeError

/-- Checks of assigning the callable to fall back to. -/
def defaultProcAssignGroup : Group Unit Routine where
  name := "Hash#default_proc="
  guard := none
  beforeAll := []
  scenarios :=
    [scenario "replaces the block passed to Hash.new" replacesBlock,
      scenario "uses :to_proc on its argument" convertsArgument,
      scenario "overrides the static default" overridesDefault,
      scenario "raises an error if passed stuff not convertible to procs" refusesInteger,
      scenario "returns the passed Proc" answersCallable,
      scenario "clears the default proc if passed nil" clearsWithNil,
      scenario "returns nil if passed nil" answersNil,
      scenario "accepts a lambda with an arity of 2" takesLambdaOfTwo,
      scenario "raises a TypeError if passed a lambda with an arity other than 2"
        refusesOtherLambdas,
      scenario "raises a RuntimeError if self is frozen" refusesWhenFrozen]

end Conformance.Corpus
