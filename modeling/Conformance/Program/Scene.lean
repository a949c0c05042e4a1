import Conformance.Object.Store
import Conformance.Program.Ending
import Conformance.Suite.Context

namespace Conformance

/-!
# Scenes

A scene is everything that a running program can see and change: the objects,
the context of the hook that is running, and a world of the program's own.
-/

/-- The objects, the context and the program's own state. -/
structure Scene (World Label : Type) where
  store : Store Label
  context : Context
  world : World

/-- An action of the object system, which can stop with a raised error. -/
abbrev Raising (World Label Result : Type) : Type :=
  Act (Scene World Label) Raised Result

/-- How the body with a label runs on a list of arguments. -/
abbrev Invoke (World Label : Type) : Type :=
  Label → List Value → Raising World Label Value

namespace Scene

variable {World Label : Type}

/-- A scene in which nothing has been made. -/
def new (platform : Platform) (world : World) : Scene World Label :=
  ⟨.empty, .new platform, world⟩

/-- Changes the objects and keeps the rest. -/
def withStore
    (scene : Scene World Label)
    (store : Store Label) :
    Scene World Label :=
  { scene with store := store }

/-- Makes an object. -/
def make
    (build : Store Label → Value × Store Label)
    (scene : Scene World Label) :
    Value × Scene World Label :=
  let (value, store) := build scene.store
  (value, scene.withStore store)

end Scene

end Conformance
