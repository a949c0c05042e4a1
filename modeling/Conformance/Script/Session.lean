import Conformance.Script.Meaning

namespace Conformance.Script

/-!
# Sessions

A session evaluates expressions one after the other in one scene.  A fault ends
only the expression that ran into it.
-/

/-- How deep calls in scripts may be nested. -/
def callDepth : Nat :=
  10000

/-- The machine that scripts run on. -/
def machine (around : Surroundings) : Machine World Expr :=
  ⟨program around, callDepth⟩

/-- The scene in which a session begins. -/
def opening (platform : Platform) : Scene World Expr :=
  ⟨.empty, .new platform, .empty⟩

/-- How every expression ends, and the scene that it leaves. -/
def evaluate
    (around : Surroundings) :
    List Expr → Scene World Expr → List (Ending Fault Value × Scene World Expr)
  | [], _ => []
  | step :: rest, scene =>
      let (ending, reached) := (machine around).run (step.meaning around []) scene
      (ending, reached) :: evaluate around rest reached

/-- The scene that a session leaves. -/
def final
    (opened : Scene World Expr)
    (steps : List (Ending Fault Value × Scene World Expr)) :
    Scene World Expr :=
  match steps.getLast? with
  | some (_, reached) => reached
  | none => opened

end Conformance.Script
