import Conformance.Program.Calling

namespace Conformance

/-!
# Implicit conversions

Where a callable or an integer is needed, an object that is neither may offer
one: it is asked once, without arguments, if it responds to the conversion.
-/

namespace Value

variable {World Label : Type}

/-- The complaint about a conversion that gave a value of another class. -/
def badConversion
    (source : Value)
    (target method : String)
    (answer : Value) :
    Raised :=
  .typeError ("can't convert " ++ source.className ++ " to " ++ target ++ " (" ++
    source.className ++ "#" ++ method ++ " gives " ++ answer.className ++ ")")

/-- The callable that a value is or converts to; none if it takes no part in that. -/
def toProc?
    (invoke : Invoke World Label)
    (value : Value) :
    Raising World Label (Option Proc) :=
  match value with
  | .proc callable => pure (some callable)
  | .object reference => do
      let scene ← Act.current
      if scene.store.respondsTo "to_proc" reference then
        match ← reference.send invoke "to_proc" [] with
        | .proc callable => pure (some callable)
        | answer => Act.stop (value.badConversion "Proc" "to_proc" answer)
      else pure none
  | _ => pure none

/-- The integer that a value is or converts to. -/
def toInteger
    (invoke : Invoke World Label)
    (value : Value) :
    Raising World Label Int64 :=
  match value with
  | .integer number => pure number
  | .nil => Act.stop (.typeError "no implicit conversion from nil to integer")
  | .object reference => do
      let scene ← Act.current
      if scene.store.respondsTo "to_int" reference then
        match ← reference.send invoke "to_int" [] with
        | .integer number => pure number
        | answer => Act.stop (value.badConversion "Integer" "to_int" answer)
      else Act.stop (.noImplicitConversion value.className "Integer")
  | _ => Act.stop (.noImplicitConversion value.className "Integer")

end Value

end Conformance
