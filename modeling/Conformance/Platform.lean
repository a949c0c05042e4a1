import Conformance.Text.Occurs

namespace Conformance

/-!
# Platforms

A platform is known by its identifier, such as `x86_64-linux`, and has every
nonempty name that stands somewhere in the identifier.
-/

/-- The platform a run takes place on. -/
structure Platform where
  id : String
  deriving Repr, DecidableEq

namespace Platform

/-- The operating system families that are told apart, in the order of preference. -/
def families : List String :=
  ["windows", "linux", "darwin", "freebsd", "openbsd", "netbsd"]

/-- Whether a nonempty name stands in the platform's identifier. -/
def satisfies (platform : Platform) (name : String) : Bool :=
  !name.isEmpty && Text.occursIn name platform.id

/-- Whether the platform does not go by a name. -/
def lacks (platform : Platform) (name : String) : Bool :=
  !platform.satisfies name

/-- Whether the platform belongs to the Windows family. -/
def isWindows (platform : Platform) : Bool :=
  platform.satisfies "windows"

/-- The first family that the platform belongs to. -/
def family? (platform : Platform) : Option String :=
  families.find? platform.satisfies

/-- A platform goes by the nonempty texts in its identifier. -/
theorem satisfies_iff
    {platform : Platform}
    {name : String} :
    platform.satisfies name = true ↔
      name ≠ "" ∧ ∃ before after, platform.id = before ++ name ++ after := by
  rw [satisfies, Bool.and_eq_true, Text.occursIn_iff_append, Bool.not_eq_true',
    Bool.eq_false_iff, ne_eq, String.isEmpty_iff]

end Platform

end Conformance
