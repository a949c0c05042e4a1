import Conformance.Program.Code

namespace Conformance

/-!
# Group lookup

A group is looked up by its number in a database that the host provides, holds
in memory, or lacks.  A host without a database answers `nil` whatever is asked.
-/

/-- Why a database could not answer. -/
inductive GroupFailure where
  | system (gid : UInt32) (errno : Int)
  | bufferLimit (gid : UInt32) (limit : Nat)
  deriving Repr, DecidableEq

namespace GroupFailure

/-- The failure as a message. -/
def text : GroupFailure → String
  | .system gid errno =>
      "getgrgid_r(" ++ toString gid.toNat ++ ") failed with errno " ++ toString errno
  | .bufferLimit gid limit =>
      "group record for gid " ++ toString gid.toNat ++ " does not fit in " ++
        toString limit ++ " bytes"

end GroupFailure

/-- What a database says about a group number. -/
abbrev GroupAnswer : Type :=
  Except GroupFailure (Option GroupRecord)

/-- A source of group records. -/
structure GroupDatabase (World Label : Type) where
  supported : Bool
  currentGid : Option UInt32
  lookup : UInt32 → Code World Label Raised GroupAnswer

namespace GroupDatabase

variable {World Label : Type}

/-- The database of a platform that has none. -/
def unsupported : GroupDatabase World Label where
  supported := false
  currentGid := none
  lookup := fun _ => pure (.ok none)

/-- A database in memory; of records with one number the first counts. -/
def ofRecords
    (records : List GroupRecord)
    (currentGid : Option UInt32) :
    GroupDatabase World Label where
  supported := true
  currentGid := currentGid
  lookup := fun gid => pure (.ok (records.find? fun record => record.gid == gid))

/-- A database in which every lookup fails. -/
def failing
    (failure : UInt32 → GroupFailure)
    (currentGid : Option UInt32) :
    GroupDatabase World Label where
  supported := true
  currentGid := currentGid
  lookup := fun gid => pure (.error (failure gid))

end GroupDatabase

/-- The group number that an integer stands for, if it is in range. -/
def gidOfInteger? (number : Int64) : Option UInt32 :=
  if 0 ≤ number.toInt ∧ number.toInt < UInt32.size then
    some (UInt32.ofNat number.toInt.toNat)
  else none

/-- The error that no group has a number. -/
def missingGroup (number : Int) : Raised :=
  .argumentError ("can't find group for " ++ toString number)

namespace Code

variable {World Label : Type}

/-- The integer that a value is or converts to. -/
def toInteger (value : Value) : Code World Label Raised Int64 := do
  match ← Code.perform (.toInteger value) with
  | .integer number => pure number
  | other => Code.raise (.noImplicitConversion other.className "Integer")

end Code

namespace GroupDatabase

variable {World Label : Type}

/-- The number to look up: the one asked for, or the current group's if none is. -/
def requestedGid
    (database : GroupDatabase World Label) :
    Option Value → Code World Label Raised UInt32
  | none =>
      match database.currentGid with
      | some gid => pure gid
      | none => Code.raise (.runtimeError "current process has no group id")
  | some argument => do
      let number ← Code.toInteger argument
      match gidOfInteger? number with
      | some gid => pure gid
      | none => Code.raise (missingGroup number.toInt)

/-- What the program gets for an answer of the database. -/
def present (gid : UInt32) : GroupAnswer → Code World Label Raised Value
  | .ok (some record) => Code.perform (.newGroup record)
  | .ok none => Code.raise (missingGroup gid.toNat)
  | .error failure => Code.raise (.runtimeError failure.text)

/-- Looks a group up by the given number, or the current group if none is given. -/
def getgrgid
    (database : GroupDatabase World Label)
    (argument : Option Value) :
    Code World Label Raised Value :=
  if database.supported then do
    let gid ← database.requestedGid argument
    let answer ← database.lookup gid
    present gid answer
  else pure .nil

end GroupDatabase

end Conformance
