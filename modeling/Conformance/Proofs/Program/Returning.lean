import Conformance.Program.GroupLookup
import Conformance.Program.Making
import Conformance.Suite.Expectation
import Conformance.Program.Execution

namespace Conformance

/-!
# Code that returns

To show that a piece of code does its work it is enough to go through its steps:
code that goes on from another piece returns if the first one returns, and if from
what this leaves the rest does.  There is one rule for each kind of step.
-/

namespace Code

variable {World Label Error Other Result Next : Type}

/--
Code returns when run from a scene, and with what it returns it
leaves what is wanted.
-/
def Returns
    (invoke : Invoke World Label)
    (code : Code World Label Error Result)
    (scene : Scene World Label)
    (wanted : Result → Scene World Label → Prop) : Prop :=
  ∃ result after, code.execute invoke scene = (.returned result, after) ∧
    wanted result after

/-- Code raises an error of a kind when run from a scene, and leaves what is wanted. -/
def Raises
    (invoke : Invoke World Label)
    (code : Code World Label Raised Result)
    (scene : Scene World Label)
    (kind : ErrorKind)
    (wanted : Scene World Label → Prop) : Prop :=
  ∃ error after,
    code.execute invoke scene = (.stopped error, after) ∧
      error.isA kind = true ∧ wanted after

variable {invoke : Invoke World Label} {scene : Scene World Label}

/-- Code that goes on from another piece runs after it. -/
theorem execute_bind
    (code : Code World Label Error Result)
    (next : Result → Code World Label Error Next)
    (scene : Scene World Label) :
    (code >>= next).execute invoke scene =
      (code.execute invoke >>= fun result => (next result).execute invoke) scene := by
  change (code.andThen next).execute invoke scene = _
  rw [Act.bind_apply]
  induction code generalizing scene with
  | done ending => cases ending <;> rfl
  | panic payload => rfl
  | overflow => rfl
  | look continuation inductionHypothesis => exact inductionHypothesis scene scene
  | write world continuation inductionHypothesis => exact inductionHypothesis _
  | assign name value continuation inductionHypothesis => exact inductionHypothesis _
  | makeStub name continuation inductionHypothesis => exact inductionHypothesis _ _
  | operate operation continuation inductionHypothesis =>
      simp only [andThen, execute]
      rcases operation.perform invoke scene with ⟨ending, reached⟩
      cases ending with
      | returned value => exact inductionHypothesis _ reached
      | stopped error => exact inductionHypothesis _ reached
      | panicked payload => rfl
      | overflowed => rfl

/-- Code whose error is reworded runs as it does otherwise. -/
theorem execute_mapError
    (reword : Error → Other)
    (code : Code World Label Error Result)
    (scene : Scene World Label) :
    (code.mapError reword).execute invoke scene =
      ((code.execute invoke scene).1.mapError reword, (code.execute invoke scene).2) := by
  induction code generalizing scene with
  | done ending => cases ending <;> rfl
  | panic payload => rfl
  | overflow => rfl
  | look continuation inductionHypothesis => exact inductionHypothesis scene scene
  | write world continuation inductionHypothesis => exact inductionHypothesis _
  | assign name value continuation inductionHypothesis => exact inductionHypothesis _
  | makeStub name continuation inductionHypothesis => exact inductionHypothesis _ _
  | operate operation continuation inductionHypothesis =>
      simp only [mapError, execute]
      rcases operation.perform invoke scene with ⟨ending, reached⟩
      cases ending with
      | returned value => exact inductionHypothesis _ reached
      | stopped error => exact inductionHypothesis _ reached
      | panicked payload => rfl
      | overflowed => rfl

/-- An attempt gives the error of a piece of code as its result. -/
theorem execute_attempt
    (code : Code World Label Error Result)
    (scene : Scene World Label) :
    (code.attempt : Code World Label Other (Except Error Result)).execute invoke scene =
      match code.execute invoke scene with
      | (.returned result, reached) => (.returned (.ok result), reached)
      | (.stopped error, reached) => (.returned (.error error), reached)
      | (.panicked payload, reached) => (.panicked payload, reached)
      | (.overflowed, reached) => (.overflowed, reached) := by
  induction code generalizing scene with
  | done ending => cases ending <;> rfl
  | panic payload => rfl
  | overflow => rfl
  | look continuation inductionHypothesis => exact inductionHypothesis scene scene
  | write world continuation inductionHypothesis => exact inductionHypothesis _
  | assign name value continuation inductionHypothesis => exact inductionHypothesis _
  | makeStub name continuation inductionHypothesis => exact inductionHypothesis _ _
  | operate operation continuation inductionHypothesis =>
      simp only [attempt, execute]
      rcases operation.perform invoke scene with ⟨ending, reached⟩
      cases ending with
      | returned value => exact inductionHypothesis _ reached
      | stopped error => exact inductionHypothesis _ reached
      | panicked payload => rfl
      | overflowed => rfl

variable {code : Code World Label Error Result}
variable {next : Result → Code World Label Error Next}
variable {wanted : Result → Scene World Label → Prop}

theorem Returns.mono
    {stronger : Result → Scene World Label → Prop}
    (returns : code.Returns invoke scene stronger)
    (weaker : ∀ result after, stronger result after → wanted result after) :
    code.Returns invoke scene wanted := by
  obtain ⟨result, after, executed, holds⟩ := returns
  exact ⟨result, after, executed, weaker result after holds⟩

/-- Code that goes on returns if it does from what the first piece leaves. -/
theorem Returns.bind
    {final : Next → Scene World Label → Prop}
    (first :
      code.Returns invoke scene fun result reached =>
        (next result).Returns invoke reached final) :
    (code >>= next).Returns invoke scene final := by
  obtain ⟨result, reached, executed, answer, after, goesOn, holds⟩ := first
  refine ⟨answer, after, ?_, holds⟩
  rw [execute_bind, Act.bind_of_returned executed, goesOn]

/-- Code whose error is reworded returns as it does otherwise. -/
theorem Returns.mapError
    {reword : Error → Other}
    (returns : code.Returns invoke scene wanted) :
    (code.mapError reword).Returns invoke scene wanted := by
  obtain ⟨result, after, executed, holds⟩ := returns
  exact ⟨result, after, by rw [execute_mapError, executed]; rfl, holds⟩

section

variable {code : Code World Label Raised Result}
variable {next : Result → Code World Label Raised Next}

/-- Code that goes on raises if it does from what the first piece leaves. -/
theorem Raises.after
    {kind : ErrorKind}
    {final : Scene World Label → Prop}
    (first :
      code.Returns invoke scene fun result reached =>
        (next result).Raises invoke reached kind final) :
    (code >>= next).Raises invoke scene kind final := by
  obtain ⟨result, reached, executed, error, after, goesOn, isOfKind, holds⟩ := first
  refine ⟨error, after, ?_, isOfKind, holds⟩
  rw [execute_bind, Act.bind_of_returned executed, goesOn]

theorem Raises.bind
    {kind : ErrorKind}
    {final : Scene World Label → Prop}
    (first : code.Raises invoke scene kind final) :
    (code >>= next).Raises invoke scene kind final := by
  obtain ⟨error, after, executed, isOfKind, holds⟩ := first
  refine ⟨error, after, ?_, isOfKind, holds⟩
  rw [execute_bind, Act.bind_of_stopped executed]

/-- Code raises the same where it stands among code that can only raise. -/
theorem Raises.mapError
    {kind : ErrorKind}
    {final : Scene World Label → Prop}
    (raises : code.Raises invoke scene kind final) :
    (code.mapError OfRaised.ofRaised).Raises invoke scene kind final := by
  obtain ⟨error, after, executed, isOfKind, holds⟩ := raises
  exact ⟨error, after, by rw [execute_mapError, executed]; rfl, isOfKind, holds⟩

end

theorem returns_pure
    {result : Result}
    (holds : wanted result scene) :
    (pure result : Code World Label Error Result).Returns invoke scene wanted :=
  ⟨result, scene, rfl, holds⟩

/-- An operation returns from code as it does by itself. -/
theorem returns_perform
    [OfRaised Error]
    {operation : Operation Label}
    {value : Value}
    {after : Scene World Label}
    {wanted : Value → Scene World Label → Prop}
    (performed : operation.perform invoke scene = (.returned value, after))
    (holds : wanted value after) :
    (Code.perform operation : Code World Label Error Value).Returns
      invoke scene wanted := by
  refine ⟨value, after, ?_, holds⟩
  simp only [Code.perform, execute, performed]
  rfl

/-- An operation that stops raises its error from code. -/
theorem raises_perform
    {operation : Operation Label}
    {error : Raised}
    {kind : ErrorKind}
    {after : Scene World Label}
    {wanted : Scene World Label → Prop}
    (performed : operation.perform invoke scene = (.stopped error, after))
    (isOfKind : error.isA kind = true)
    (holds : wanted after) :
    (Code.perform operation).Raises invoke scene kind wanted := by
  refine ⟨error, after, ?_, isOfKind, holds⟩
  simp only [Code.perform, execute, performed]
  rfl

theorem raises_raise
    {error : Raised}
    {kind : ErrorKind}
    {wanted : Scene World Label → Prop}
    (isOfKind : error.isA kind = true)
    (holds : wanted scene) :
    (Code.raise error : Code World Label Raised Result).Raises invoke scene kind wanted :=
  ⟨error, scene, rfl, isOfKind, holds⟩

theorem returns_hashState
    {hash : HashRef}
    {wanted : HashState → Scene World Label → Prop}
    (holds : wanted (scene.store.hash hash) scene) :
    (Code.hashState hash : Code World Label Error HashState).Returns
      invoke scene wanted :=
  ⟨_, scene, rfl, holds⟩

theorem returns_platform
    {wanted : Platform → Scene World Label → Prop}
    (holds : wanted scene.context.platform scene) :
    (Code.platform : Code World Label Error Platform).Returns invoke scene wanted :=
  ⟨_, scene, rfl, holds⟩

theorem returns_setVariable
    {name : String}
    {value : Value}
    {wanted : Unit → Scene World Label → Prop}
    (holds : wanted () (scene.assign name value)) :
    (Code.setVariable name value : Code World Label Error Unit).Returns
      invoke scene wanted :=
  ⟨(), _, rfl, holds⟩

theorem returns_readVariable
    {name : String}
    {value : Value}
    {wanted : Value → Scene World Label → Prop}
    (bound : scene.context.bindings name = some value)
    (holds : wanted value scene) :
    (Code.readVariable name).Returns invoke scene wanted := by
  refine ⟨value, scene, ?_, holds⟩
  simp only [readVariable, execute, bound]

/-- A new text has its text, and nothing else is new. -/
theorem returns_newText
    [OfRaised Error]
    {text : String}
    {wanted : Value → Scene World Label → Prop}
    (holds :
      wanted (.text ⟨scene.store.next, text⟩) (scene.withStore scene.store.advance)) :
    (Code.newText text : Code World Label Error Value).Returns invoke scene wanted :=
  returns_perform rfl holds

/-- A new hash has the state that comes with what it falls back to. -/
theorem returns_newHash [OfRaised Error] (fallback : Fallback) :
    (Code.newHash fallback : Code World Label Error HashRef).Returns invoke
      scene fun hash after =>
      after.context = scene.context ∧
        after.store.behaviours = scene.store.behaviours ∧
        after.store.hash hash = .new fallback :=
  ⟨_, _, rfl, rfl, rfl, Store.hash_putHash_same _ _ _⟩

theorem returns_newProc
    [OfRaised Error]
    {flavour : Flavour}
    {arity : Arity}
    {behaviour : Behaviour Label}
    {wanted : Proc → Scene World Label → Prop}
    (holds :
      wanted ⟨scene.store.next, flavour, arity⟩
        (scene.withStore (scene.store.newProc flavour arity behaviour).2)) :
    (Code.newProc flavour arity behaviour : Code World Label Error Proc).Returns
      invoke scene wanted :=
  ⟨_, _, rfl, holds⟩

/-- Outside the hooks of a group a stub can be made. -/
theorem returns_contextStub
    {name : String}
    {wanted : Value → Scene World Label → Prop}
    (ofScenario : scene.context.groupLevel = false)
    (holds :
      wanted (.object (.stub scene.store.next))
        { scene with
          store := (scene.store.newStub name).2
          context := scene.context.addStub scene.store.next }) :
    (Code.contextStub name).Returns invoke scene wanted := by
  refine ⟨_, _, ?_, holds⟩
  simp only [contextStub, execute, Scene.makeStub, ofScenario,
    Bool.false_eq_true, ↓reduceIte]
  rfl

end Code

namespace Expectation

variable {World Label : Type} {invoke : Invoke World Label}
variable {scene : Scene World Label}
variable {wanted : Unit → Scene World Label → Prop}

/-- An expectation of a value that meets the matcher changes nothing. -/
theorem returns_check
    {actual : Value}
    {matcher : ValueMatcher}
    (meets : matcher.holds actual = true)
    (holds : wanted () scene) :
    ((Expectation.ofValue actual).check matcher : Code World Label Fault Unit).Returns
      invoke scene wanted := by
  refine ⟨(), scene, ?_, holds⟩
  simp only [check, ofValue, meets]
  rfl

/-- A block that raises an error of a kind is expected to. -/
theorem returns_checkRaise
    {block : Code World Label Raised Value}
    {kind : ErrorKind}
    (raises : block.Raises invoke scene kind (wanted ())) :
    ((Expectation.ofBlock block).checkRaise .toRaise kind).Returns
      invoke scene wanted := by
  obtain ⟨error, after, executed, isOfKind, holds⟩ := raises
  refine Code.Returns.bind
    ⟨_, _, by rw [Code.execute_attempt, executed], (), after, ?_, holds⟩
  simp only [judge, isOfKind, ↓reduceIte]
  rfl

/-- A block that returns is not expected to raise. -/
theorem returns_checkRaise_notToRaise
    {block : Code World Label Raised Value}
    {kind : ErrorKind}
    (returns : block.Returns invoke scene fun _ => wanted ()) :
    ((Expectation.ofBlock block).checkRaise .notToRaise kind).Returns
      invoke scene wanted := by
  obtain ⟨value, after, executed, holds⟩ := returns
  exact Code.Returns.bind
    ⟨_, _, by rw [Code.execute_attempt, executed], Code.returns_pure holds⟩

end Expectation

end Conformance
