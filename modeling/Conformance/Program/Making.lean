import Conformance.Program.Code

namespace Conformance

/-!
# Making objects

Code that makes an object often goes on to work on it, so each kind of object
has a step that gives the reference and not only the value.
-/

namespace Code

variable {World Label Error : Type}

section

variable [OfRaised Error]

/-- A new text. -/
def newText (text : String) : Code World Label Error Value :=
  Code.perform (.newText text)

/-- The hash that a value is. -/
def hashOf : Value → Code World Label Error HashRef
  | .hash reference => pure reference
  | other => Code.raise (.noImplicitConversion other.className "Hash")

/-- The identity of the stub that a value is. -/
def stubOf : Value → Code World Label Error Nat
  | .object (.stub id) => pure id
  | other => Code.raise (.noImplicitConversion other.className "MockObject")

/-- The callable that a value is. -/
def procOf : Value → Code World Label Error Proc
  | .proc callable => pure callable
  | other => Code.raise (.noImplicitConversion other.className "Proc")

/-- A new hash. -/
def newHash (fallback : Fallback) : Code World Label Error HashRef := do
  let made ← Code.perform (.newHash fallback)
  hashOf made

/-- A new callable. -/
def newProc
    (flavour : Flavour)
    (arity : Arity)
    (behaviour : Behaviour Label) :
    Code World Label Error Proc := do
  let made ← Code.perform (.newProc flavour arity behaviour)
  procOf made

/-- A new callable without parameters that answers one and the same value. -/
def returning (value : Value) : Code World Label Error Proc :=
  newProc .plain (.exactly 0) (.constant value)

end

/-- The state of a hash. -/
def hashState (hash : HashRef) : Code World Label Error HashState := do
  let scene ← Code.scene
  pure (scene.store.hash hash)

/-- The platform of the run. -/
def platform : Code World Label Error Platform := do
  let scene ← Code.scene
  pure scene.context.platform

end Code

end Conformance
