import Conformance.Corpus.Host

namespace Conformance.Corpus

/-!
# What files tell of the host

The host keeps its groups in a file with one record on each line, its fields
between colons, and tells the numbers of the current process in another one.
-/

/-- A decimal number of thirty-two bits. -/
def gidOfText? (text : String) : Option UInt32 :=
  match text.toNat? with
  | some number => if number < UInt32.size then some (UInt32.ofNat number) else none
  | none => none

/-- The names between commas; the empty text holds none. -/
def membersOfText (text : String) : List String :=
  if text.isEmpty then [] else text.splitOn ","

/-- The record on a line, if the line is well formed. -/
def recordOfLine? (line : String) : Option GroupRecord :=
  match line.splitOn ":" with
  | [name, password, number, members] =>
      (gidOfText? number).map fun gid => ⟨name, password, gid, membersOfText members⟩
  | _ => none

/-- The records in a file. -/
def recordsOfText (text : String) : List GroupRecord :=
  (text.splitOn "\n").filterMap recordOfLine?

/--
The group numbers of a process: the real one, and the effective
one that it acts under.
-/
structure ProcessGids where
  real : UInt32
  effective : UInt32
  deriving Repr, DecidableEq

/-- The group numbers on the line that begins with `Gid:`, the real one first. -/
def gidsOfStatus? (text : String) : Option ProcessGids :=
  ((text.splitOn "\n").map fun line => line.splitOn "\t").findSome? fun fields =>
    match fields with
    | "Gid:" :: real :: effective :: _ =>
        match gidOfText? real, gidOfText? effective with
        | some realGid, some effectiveGid => some ⟨realGid, effectiveGid⟩
        | _, _ => none
    | _ => none

/-- What `id` answers a flag on a host with these records. -/
def idAnswer
    (records : List GroupRecord)
    (effective : Option UInt32)
    (flag : String) :
    Except String CommandOutput :=
  match effective with
  | none => .error "the status of the process tells no group"
  | some gid =>
      let number := toString gid.toNat
      if flag = "-g" then .ok ⟨true, number ++ "\n", ""⟩
      else
        match records.find? fun record => record.gid == gid with
        | some record => .ok ⟨true, record.name ++ "\n", ""⟩
        | none =>
            .ok ⟨false, number ++ "\n",
              "id: cannot find name for group ID " ++ number ++ "\n"⟩

/-- The host that a group file and a status file tell of. -/
def Host.ofFiles (groups status : String) : Host :=
  let records := recordsOfText groups
  let gids := gidsOfStatus? status
  { database := .ofRecords records (gids.map ProcessGids.real)
    id := idAnswer records (gids.map ProcessGids.effective) }

end Conformance.Corpus
