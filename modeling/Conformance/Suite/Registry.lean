import Conformance.Suite.Scenario

namespace Conformance

/-!
# Registries

A registry keeps groups in the order in which they are to run.  A filter selects
the scenarios whose description holds a text.
-/

/-- The groups of a run, in order. -/
structure Registry (World Label : Type) where
  groups : List (Group World Label)

namespace Registry

variable {World Label : Type}

/-- A registry without groups. -/
def empty : Registry World Label :=
  ⟨[]⟩

/-- Adds a group at the end. -/
def registerGroup
    (registry : Registry World Label)
    (group : Group World Label) :
    Registry World Label :=
  ⟨registry.groups ++ [group]⟩

/-- Adds scenarios at the end, as a group without guard and hooks. -/
def register
    (registry : Registry World Label)
    (name : String)
    (scenarios : List (Scenario World Label)) :
    Registry World Label :=
  registry.registerGroup ⟨name, none, [], scenarios⟩

/-- The number of scenarios in all groups. -/
def size (registry : Registry World Label) : Nat :=
  (registry.groups.flatMap fun group => group.scenarios).length

/-- Whether there is no scenario at all. -/
def isEmpty (registry : Registry World Label) : Bool :=
  registry.size == 0

end Registry

/-- How a scenario is named in lists and reports. -/
def describe (group scenario : String) : String :=
  group ++ " " ++ scenario

/-- What narrows or shortens a run. -/
structure RunOptions where
  filter : Option String
  stopOnFail : Bool
  deriving Repr, DecidableEq

namespace RunOptions

/-- Whether a scenario is to be run. -/
def selects (options : RunOptions) (group scenario : String) : Bool :=
  match options.filter with
  | none => true
  | some text => Text.occursIn text (describe group scenario)

variable {World Label : Type}

/-- The selected scenarios of a group, each with its place in the group. -/
def selected
    (options : RunOptions)
    (group : Group World Label) :
    List (Nat × Scenario World Label) :=
  (group.scenarios.zipIdx.map fun (scenario, place) => (place, scenario)).filter
    fun (_, scenario) => options.selects group.name scenario.name

end RunOptions

end Conformance
