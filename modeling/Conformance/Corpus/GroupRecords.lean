import Conformance.Corpus.Host

namespace Conformance.Corpus

/-!
# Checks of group lookup

A platform without a group database answers `nil`; elsewhere the current group
is found by its number and by default, and what is no number of a group raises.
-/

/-- Looks a group up in the database of the platform. -/
def lookUp
    {Error : Type} [OfRaised Error]
    (host : Host)
    (argument : Option Value) :
    Step Error Value := do
  let platform ← Code.platform
  ((host.databaseFor platform).getgrgid argument).mapError OfRaised.ofRaised

/-- Asks the host for the number and the name of the current group. -/
def captureCurrentGroup (host : Host) : Check Unit := do
  let gid ← answered host.printedGid
  Code.setVariable "gid" (.integer gid)
  let text ← answered (host.printed "-gn")
  let name ← Code.newText text
  Code.setVariable "name" name

/-- Expects a value to be the record of the current group. -/
def expectCurrentGroup : Value → Check Unit
  | .group reference => do
      let gid ← Code.readVariable "gid"
      expect (.integer (Int64.ofNat reference.record.gid.toNat)) (.toEq gid)
      let name ← Code.newText reference.record.name
      let expected ← Code.readVariable "name"
      expect name (.toEq expected)
  | other => do
      let text ← Code.inspect other
      Code.stop (.assertion ("Expected a group record, got " ++ text))

/-- Looks up the current group by the number that the host gave. -/
def lookUpCurrent (host : Host) : Check Value := do
  let gid ← Code.readVariable "gid"
  lookUp host (some gid)

/-- Without a database the answer is `nil`, whatever is asked. -/
def answersNilAlways (host : Host) : Check Unit := do
  expect (← lookUp host (some (.integer 1))) .toBeNil
  expect (← lookUp host (some .nil)) .toBeNil
  let text ← Code.newText "nil"
  expect (← lookUp host (some text)) .toBeNil

/-- Checks for platforms without a group database. -/
def windowsGroup (host : Host) : Group Unit Routine where
  name := "Etc.getgrgid"
  guard := some (.onlyOn "windows")
  beforeAll := []
  scenarios := [scenario "returns nil" (answersNilAlways host)]

/-- The current group is found, as a record of its class. -/
def givesRecord (host : Host) : Check Unit := do
  let record ← lookUpCurrent host
  expect (.bool (record.isKindOf "Etc::Group")) .toBeTrue
  expectCurrentGroup record

/-- The current group is found, as something of a kind. -/
def givesKind (host : Host) (tag : String) : Check Unit := do
  let record ← lookUpCurrent host
  expect record (.toBeKindOf tag)
  expectCurrentGroup record

/-- The current group is found when none is asked for. -/
def defaultsToCurrent (host : Host) : Check Unit := do
  let record ← lookUp host none
  expectCurrentGroup record

/-- A number that no group has is refused. -/
def refusesMissing (host : Host) : Check Unit :=
  expectRaise (lookUp host (some (.integer 9876))) .argumentError

/-- What is no number is refused. -/
def refusesOthers (host : Host) : Check Unit := do
  let text ← Code.newText "foo"
  expectRaise (lookUp host (some text)) .typeError
  expectRaise (lookUp host (some .nil)) .typeError

/-- Checks for all other platforms. -/
def otherGroup (host : Host) : Group Unit Routine where
  name := "Etc.getgrgid"
  guard := some (.exceptOn "windows")
  beforeAll := [captureCurrentGroup host]
  scenarios :=
    [scenario "returns a Etc::Group struct instance for the given user"
      (givesRecord host),
      scenario "returns the Etc::Group for a given gid if it exists"
        (givesKind host "Etc::Group"),
      scenario "uses Process.gid as the default value for the argument"
        (defaultsToCurrent host),
      scenario "returns the Group for a given gid if it exists"
        (givesKind host "Struct::Group"),
      scenario "raises if the group does not exist" (refusesMissing host),
      scenario "raises a TypeError if not passed an Integer" (refusesOthers host)]

end Conformance.Corpus
