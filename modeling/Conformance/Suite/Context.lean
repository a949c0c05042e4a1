import Conformance.Object.Value
import Conformance.Platform

namespace Conformance

/-!
# Contexts

Hooks and scenario bodies work on a context: the platform of the run, variables
that earlier hooks have set, and the stubs that must be met when the body ends.
A scenario starts on a fork of its group's context, so what it writes is never
seen by the next one.
-/

/-- What hooks and bodies read and write. -/
structure Context where
  platform : Platform
  bindings : String → Option Value
  stubs : List Nat
  groupLevel : Bool

namespace Context

/-- A context without variables and stubs. -/
def new (platform : Platform) : Context :=
  ⟨platform, fun _ => none, [], false⟩

/-- The context in which the hooks of a group run. -/
def forGroup (platform : Platform) : Context :=
  { new platform with groupLevel := true }

/-- The context in which one scenario of a group starts. -/
def fork (context : Context) : Context :=
  { context with stubs := [], groupLevel := false }

/-- Sets a variable. -/
def assign (context : Context) (name : String) (value : Value) : Context :=
  { context with
    bindings :=
      fun other => if other = name then some value else context.bindings other }

/-- Records a stub as one that must be met when the body ends. -/
def addStub (context : Context) (id : Nat) : Context :=
  { context with stubs := context.stubs ++ [id] }

/-- A variable just set is read back. -/
@[simp] theorem bindings_assign_same
    (context : Context)
    (name : String)
    (value : Value) :
    (context.assign name value).bindings name = some value := by
  simp [assign]

/-- Setting a variable leaves the others as they were. -/
@[simp] theorem bindings_assign_other
    (context : Context)
    {name other : String}
    (value : Value)
    (different : other ≠ name) :
    (context.assign name value).bindings other = context.bindings other := by
  simp [assign, different]

end Context

end Conformance
