import Conformance.Suite.Registry

namespace Conformance

/-!
# Listings

A listing names every scenario that is not filtered out on a line of its own,
with the guard of its group.
-/

namespace Registry

variable {World Label : Type}

/-- One line of a listing. -/
def listingLine (guard : Option Guard) (description : String) : String :=
  match guard with
  | some guard => description ++ " [" ++ guard.text ++ "]\n"
  | none => description ++ "\n"

/-- The line of a scenario, unless its description lacks the text that is asked for. -/
def listScenario?
    (filter : Option String)
    (group : Group World Label)
    (scenario : Scenario World Label) :
    Option String :=
  let description := describe group.name scenario.name
  if filter.any fun text => !Text.occursIn text description then none
  else some (listingLine group.guard description)

/-- The lines of a group, in the order of its scenarios. -/
def listGroup (filter : Option String) (group : Group World Label) : List String :=
  group.scenarios.filterMap (listScenario? filter group)

/-- The scenarios that a filter leaves, one on each line. -/
def listing (registry : Registry World Label) (filter : Option String) : String :=
  String.join (registry.groups.flatMap (listGroup filter))

end Registry

end Conformance
