import Conformance.Platform

namespace Conformance

/-!
# Platform guards

A guard lets a group of scenarios run only on some platforms.
-/

/-- A condition on the platform. -/
inductive Guard where
  | onlyOn (name : String)
  | exceptOn (name : String)
  deriving Repr, DecidableEq

namespace Guard

/-- Whether a guard lets its group run on a platform. -/
def allows : Guard → Platform → Bool
  | .onlyOn name, platform => platform.satisfies name
  | .exceptOn name, platform => !platform.satisfies name

/-- The guard as listings show it. -/
def text : Guard → String
  | .onlyOn name => "platform_is " ++ name
  | .exceptOn name => "platform_is_not " ++ name

/-- Why the scenarios under a guard were skipped on a platform. -/
def skipReason (guard : Guard) (platform : Platform) : String :=
  guard.text ++ " (running on " ++ platform.id ++ ")"

end Guard

end Conformance
