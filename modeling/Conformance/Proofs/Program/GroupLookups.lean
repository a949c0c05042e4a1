import Conformance.Proofs.Program.Integers
import Conformance.Proofs.Program.Returning

namespace Conformance

/-!
# Looking groups up

A lookup comes to one question to the database: for the current group if there is no
argument, and otherwise for the group whose number is the integer that the argument
gives.  Where there is no such number the database is not asked, and where there is no
database the argument is not asked either.  A database in memory answers the first
record with the number, and an integer that is no number of a record names no group.
-/

namespace GroupDatabase

variable {World Label : Type}

/-- The number that a database is asked for, with the scene that is reached by then. -/
inductive AsksFor
    (database : GroupDatabase World Label)
    (invoke : Invoke World Label)
    (before : Scene World Label) :
    Option Value → UInt32 → Scene World Label → Prop where
  | current
      {gid : UInt32}
      (isCurrent : database.currentGid = some gid) :
      AsksFor database invoke before none gid before
  | given
      {argument : Value}
      {number : Int64}
      {gid : UInt32}
      {reached : Scene World Label}
      (gives : argument.GivesInteger invoke before number reached)
      (isNumber : (gid.toNat : Int) = number.toInt) :
      AsksFor database invoke before (some argument) gid reached

/--
What comes of a lookup in any database, with any argument or none: what is asked of
the argument and of the database, and which result or error it ends with.
-/
structure LookupSettled
    (program : Program World Label)
    (depth : Nat)
    (database : GroupDatabase World Label)
    (argument : Option Value)
    (before : Scene World Label) : Prop where
  unsupported :
    database.supported = false →
    program.run depth (database.getgrgid argument) before =
      (.returned .nil, before) ∧
      program.moments depth (database.getgrgid argument) before = [.passed before]
  omitted : ∀ {gid},
    database.supported = true →
    database.currentGid = some gid →
    program.run depth (database.getgrgid none) before =
      program.run depth
        (database.getgrgid (some (.integer (Int64.ofNat gid.toNat)))) before
  noCurrent :
    database.supported = true →
    database.currentGid = none →
    program.run depth (database.getgrgid none) before =
        (.stopped (.runtimeError "current process has no group id"), before) ∧
      program.moments depth (database.getgrgid none) before = [.passed before]
  asksOnce : ∀ {gid reached},
    database.supported = true →
    database.AsksFor (program.invoke depth) before argument gid reached →
    program.run depth (database.getgrgid argument) before =
      program.run depth (database.lookup gid >>= present gid) reached
  counted : ∀ count : World → Nat,
    (∀ gid scene,
      count (program.run depth (database.lookup gid) scene).2.world =
        count scene.world + 1) →
    (∀ value,
      argument = some value →
      count (value.toInteger (program.invoke depth) before).2.world =
        count before.world) →
    ∃ lookups,
      lookups ≤ 1 ∧
        count (program.run depth (database.getgrgid argument) before).2.world =
          count before.world + lookups ∧
        (lookups = 1 ↔
          database.supported = true ∧
            ∃ gid reached,
              database.AsksFor (program.invoke depth) before argument gid reached)
  found : ∀ {gid reached record looked},
    database.supported = true →
    database.AsksFor (program.invoke depth) before argument gid reached →
    program.run depth (database.lookup gid) reached =
      (.returned (.ok (some record)), looked) →
    program.run depth (database.getgrgid argument) before =
      (.returned (.group ⟨looked.store.next, record⟩),
        looked.withStore looked.store.advance)
  missing : ∀ {gid reached looked},
    database.supported = true →
    database.AsksFor (program.invoke depth) before argument gid reached →
    program.run depth (database.lookup gid) reached =
      (.returned (.ok none), looked) →
    program.run depth (database.getgrgid argument) before =
      (.stopped (.argumentError ("can't find group for " ++ toString gid.toNat)), looked)
  failed : ∀ {gid reached failure looked},
    database.supported = true →
    database.AsksFor (program.invoke depth) before argument gid reached →
    program.run depth (database.lookup gid) reached =
      (.returned (.error failure), looked) →
    program.run depth (database.getgrgid argument) before =
      (.stopped (.runtimeError failure.text), looked)
  outOfRange : ∀ {value number reached},
    database.supported = true →
    argument = some value →
    value.GivesInteger (program.invoke depth) before number reached →
    (number.toInt < 0 ∨ 4294967296 ≤ number.toInt) →
    program.run depth (database.getgrgid argument) before =
      (.stopped (.argumentError ("can't find group for " ++ toString number.toInt)), reached)
  refused : ∀ {value error reached},
    database.supported = true →
    argument = some value →
    value.RefusesInteger (program.invoke depth) before error reached →
    program.run depth (database.getgrgid argument) before = (.stopped error, reached)

/-- What comes of looking a given argument up in a database that is a list of records. -/
structure RecordsSettled
    (program : Program World Label)
    (depth : Nat)
    (records : List GroupRecord)
    (currentGid : Option UInt32)
    (argument : Value)
    (before : Scene World Label) : Prop where
  answers_iff : ∀ {number reached},
    argument.GivesInteger (program.invoke depth) before number reached →
    ((∃ answer after,
        program.run depth ((ofRecords records currentGid).getgrgid
          (some argument)) before =
          (.returned answer, after)) ↔
      ∃ record ∈ records, (record.gid.toNat : Int) = number.toInt)
  first : ∀ {number reached front record back},
    argument.GivesInteger (program.invoke depth) before number reached →
    records = front ++ record :: back →
    (record.gid.toNat : Int) = number.toInt →
    (∀ earlier ∈ front, (earlier.gid.toNat : Int) ≠ number.toInt) →
    program.run depth ((ofRecords records currentGid).getgrgid (some argument)) before =
      (.returned (.group ⟨reached.store.next, record⟩),
        reached.withStore reached.store.advance)
  missing : ∀ {number reached},
    argument.GivesInteger (program.invoke depth) before number reached →
    (∀ record ∈ records, (record.gid.toNat : Int) ≠ number.toInt) →
    program.run depth ((ofRecords records currentGid).getgrgid (some argument)) before =
      (.stopped (.argumentError ("can't find group for " ++ toString number.toInt)), reached)
  inRange : ∀ {number reached answer after},
    argument.GivesInteger (program.invoke depth) before number reached →
    program.run depth ((ofRecords records currentGid).getgrgid (some argument)) before =
      (.returned answer, after) →
    0 ≤ number.toInt ∧ number.toInt < 4294967296
  ownNumber : ∀ {number reached reference after},
    argument.GivesInteger (program.invoke depth) before number reached →
    program.run depth ((ofRecords records currentGid).getgrgid (some argument)) before =
      (.returned (.group reference), after) →
    (reference.record.gid.toNat : Int) = number.toInt
  apart : ∀ {number reached} {other : Int64},
    argument.GivesInteger (program.invoke depth) before number reached →
    other.toInt = number.toInt + 4294967296 →
    ¬ ((∃ answer after,
          program.run depth ((ofRecords records currentGid).getgrgid
            (some argument)) before =
            (.returned answer, after)) ∧
        ∃ answer after,
          program.run depth
              ((ofRecords records currentGid).getgrgid (some (.integer other))) before =
            (.returned answer, after))
  sendsOnce : ∀ {reference},
    argument.IntegerSource before.store reference →
    ∃ ending reached later,
      program.moments depth
        ((ofRecords records currentGid).getgrgid (some argument)) before =
          .began (.toInteger argument) before ::
            ((Operation.send reference "to_int" []).moments
              (program.within depth) before ++
              .ended depth (.toInteger argument) before ending reached :: later) ∧
        ∀ operation scene, .began operation scene ∈ later →
          ∃ record, operation = .newGroup record
  unasked :
    (∀ number, argument ≠ .integer number) →
    (∀ reference, ¬ argument.IntegerSource before.store reference) →
    ∃ message,
      program.run depth ((ofRecords records currentGid).getgrgid (some argument)) before =
        (.stopped (.typeError message), before)
  misanswered : ∀ {reference answer reached},
    argument.IntegerSource before.store reference →
    reference.send (program.invoke depth) "to_int" [] before =
      (.returned answer, reached) →
    (∀ number, answer ≠ .integer number) →
    ∃ message,
      program.run depth ((ofRecords records currentGid).getgrgid (some argument)) before =
        (.stopped (.typeError message), reached)
  raised : ∀ {reference error reached},
    argument.IntegerSource before.store reference →
    reference.send (program.invoke depth) "to_int" [] before =
      (.stopped error, reached) →
    program.run depth ((ofRecords records currentGid).getgrgid (some argument)) before =
      (.stopped error, reached)

end GroupDatabase

/-- An integer stands for the group number that is the same number. -/
theorem gidOfInteger?_eq_some_iff {number : Int64} {gid : UInt32} :
    gidOfInteger? number = some gid ↔ (gid.toNat : Int) = number.toInt := by
  have small : gid.toNat < 4294967296 := gid.toNat_lt
  unfold gidOfInteger?
  split
  · next inRange =>
      obtain ⟨notNegative, below⟩ := inRange
      have bound : number.toInt.toNat < 4294967296 := by
        have : number.toInt < 4294967296 := below
        omega
      rw [Option.some.injEq, ← UInt32.toNat_inj, UInt32.toNat_ofNat_of_lt' bound]
      omega
  · next outOfRange =>
      constructor
      · intro isSome
        cases isSome
      · intro same
        have below : number.toInt < 4294967296 := by omega
        exact absurd ⟨by omega, below⟩ outOfRange

theorem gidOfInteger?_eq_none_iff {number : Int64} :
    gidOfInteger? number = none ↔ number.toInt < 0 ∨ 4294967296 ≤ number.toInt := by
  have size : (UInt32.size : Int) = 4294967296 := rfl
  unfold gidOfInteger?
  split
  · simp only [reduceCtorEq, false_iff]
    omega
  · simp only [true_iff]
    omega

/-- A group number is the number that it stands for as an integer. -/
theorem gidOfInteger?_ofNat (gid : UInt32) :
    gidOfInteger? (Int64.ofNat gid.toNat) = some gid := by
  have small : gid.toNat < 4294967296 := gid.toNat_lt
  have same : (Int64.ofNat gid.toNat).toInt = gid.toNat :=
    Int64.toInt_ofNat_of_lt (by omega)
  exact gidOfInteger?_eq_some_iff.mpr same.symm

namespace GroupDatabase

variable {World Label : Type} {program : Program World Label} {depth : Nat}
variable {database : GroupDatabase World Label} {before : Scene World Label}

/-- Looks a group up by an integer; one that stands for no group number names no group. -/
def lookUpInteger (database : GroupDatabase World Label) (number : Int64) :
    Code World Label Raised Value :=
  match gidOfInteger? number with
  | some gid => database.lookup gid >>= present gid
  | none => Code.raise (missingGroup number.toInt)

/-- What a lookup goes on with when its argument was asked for an integer. -/
def afterAsking (database : GroupDatabase World Label) :
    Except Raised Value → Code World Label Raised Value
  | .ok (.integer number) => database.lookUpInteger number
  | .ok other => Code.raise (.noImplicitConversion other.className "Integer")
  | .error error => Code.raise error

/--
A lookup with an argument asks the argument for an integer and
looks the group up by it.
-/
theorem getgrgid_some
    (supported : database.supported = true)
    (argument : Value) :
    database.getgrgid (some argument) =
      .operate (.toInteger argument) database.afterAsking := by
  simp only [getgrgid, supported, ↓reduceIte, requestedGid]
  change Code.operate _ _ = _
  congr 1
  funext answer
  cases answer with
  | error error => rfl
  | ok value =>
      cases value with
      | integer number =>
          simp only [afterAsking, lookUpInteger]
          change
            Code.andThen _
              (match gidOfInteger? number with
                | some gid => pure gid
                | none => Code.raise (missingGroup number.toInt)) = _
          cases gidOfInteger? number <;> rfl
      | _ => rfl

/-- A lookup without an argument is for the current group. -/
theorem getgrgid_none
    {gid : UInt32}
    (supported : database.supported = true)
    (current : database.currentGid = some gid) :
    database.getgrgid none = database.lookup gid >>= present gid := by
  simp only [getgrgid, supported, requestedGid, current, ↓reduceIte]
  rfl

theorem getgrgid_none_of_noCurrent
    (supported : database.supported = true)
    (noCurrent : database.currentGid = none) :
    database.getgrgid none =
      Code.raise (.runtimeError "current process has no group id") := by
  simp only [getgrgid, supported, requestedGid, noCurrent, ↓reduceIte]
  rfl

theorem getgrgid_of_unsupported
    (unsupported : database.supported = false)
    (argument : Option Value) :
    database.getgrgid argument = pure .nil := by
  simp only [getgrgid, unsupported, Bool.false_eq_true, ↓reduceIte]

section Given

variable {argument : Value} {reached : Scene World Label}

/--
An argument that gives an integer is looked up by it, from what
its conversion leaves.
-/
theorem run_of_gives
    {number : Int64}
    (supported : database.supported = true)
    (gives : argument.GivesInteger (program.invoke depth) before number reached) :
    program.run depth (database.getgrgid (some argument)) before =
      program.run depth (database.lookUpInteger number) reached := by
  have converted := Value.givesInteger_iff.mp gives
  simp only [getgrgid_some supported, Program.run, Code.execute, Operation.perform,
    Act.bind_of_returned converted]
  rfl

theorem run_of_refuses
    {error : Raised}
    (supported : database.supported = true)
    (refuses : argument.RefusesInteger (program.invoke depth) before error reached) :
    program.run depth (database.getgrgid (some argument)) before =
      (.stopped error, reached) := by
  have converted := Value.refusesInteger_iff.mp refuses
  simp only [getgrgid_some supported, Program.run, Code.execute, Operation.perform,
    Act.bind_of_stopped converted]
  rfl

/-- Unless an argument gives an integer, a lookup leaves what its conversion leaves. -/
theorem run_of_gives_nothing
    (supported : database.supported = true)
    (givesNone : ∀ number reached,
      ¬ argument.GivesInteger (program.invoke depth) before number reached) :
    (program.run depth (database.getgrgid (some argument)) before).2 =
      (argument.toInteger (program.invoke depth) before).2 := by
  rcases converted :
      argument.toInteger (program.invoke depth) before with ⟨ending, reached⟩
  simp only [getgrgid_some supported, Program.run, Code.execute, Operation.perform,
    Act.bind_apply, converted]
  cases ending with
  | returned number =>
      exact absurd (Value.givesInteger_iff.mpr converted) (givesNone _ _)
  | _ => rfl

end Given

theorem lookUpInteger_of_inRange
    {number : Int64}
    {gid : UInt32}
    (isNumber : (gid.toNat : Int) = number.toInt) :
    database.lookUpInteger number = database.lookup gid >>= present gid := by
  simp only [lookUpInteger, gidOfInteger?_eq_some_iff.mpr isNumber]

theorem lookUpInteger_of_outOfRange
    {number : Int64}
    (outOfRange : number.toInt < 0 ∨ 4294967296 ≤ number.toInt) :
    database.lookUpInteger number = Code.raise (missingGroup number.toInt) := by
  simp only [lookUpInteger, gidOfInteger?_eq_none_iff.mpr outOfRange]

/--
Once it is known for which number, a lookup asks the database for
it and shows the answer.
-/
theorem AsksFor.run_eq
    {argument : Option Value}
    {gid : UInt32}
    {reached : Scene World Label}
    (supported : database.supported = true)
    (asks : database.AsksFor (program.invoke depth) before argument gid reached) :
    program.run depth (database.getgrgid argument) before =
      program.run depth (database.lookup gid >>= present gid) reached := by
  cases asks with
  | current isCurrent => rw [getgrgid_none supported isCurrent]
  | given gives isNumber =>
      rw [run_of_gives supported gives, lookUpInteger_of_inRange isNumber]

/-- An answer of the database is shown from the scene that the database leaves. -/
theorem AsksFor.run_of_answer
    {argument : Option Value}
    {gid : UInt32}
    {answer : GroupAnswer}
    {reached looked : Scene World Label}
    (supported : database.supported = true)
    (asks : database.AsksFor (program.invoke depth) before argument gid reached)
    (answered : program.run depth (database.lookup gid) reached =
      (.returned answer, looked)) :
    program.run depth (database.getgrgid argument) before =
      program.run depth (present gid answer) looked := by
  rw [asks.run_eq supported]
  exact (Code.execute_bind _ _ _).trans (Act.bind_of_returned answered)

theorem world_present
    (gid : UInt32)
    (answer : GroupAnswer)
    (scene : Scene World Label) :
    (program.run depth (present gid answer) scene).2.world = scene.world := by
  rcases answer with failure | found
  · rfl
  · cases found <;> rfl

/-- What a lookup makes of the world is what asking the database once makes of it. -/
theorem AsksFor.world_eq
    {argument : Option Value}
    {gid : UInt32}
    {reached : Scene World Label}
    (supported : database.supported = true)
    (asks : database.AsksFor (program.invoke depth) before argument gid reached) :
    (program.run depth (database.getgrgid argument) before).2.world =
      (program.run depth (database.lookup gid) reached).2.world := by
  rw [asks.run_eq supported]
  simp only [Program.run, Code.execute_bind, Act.bind_apply]
  rcases (database.lookup gid).execute (program.invoke depth) reached with
    ⟨ending, looked⟩
  cases ending with
  | returned answer => exact world_present gid answer looked
  | _ => rfl

/--
A lookup that does not ask the database leaves the world as asking
the argument leaves it.
-/
theorem world_of_asks_nothing
    {argument : Option Value}
    (asksNone : ¬ (database.supported = true ∧
      ∃ gid reached, database.AsksFor
        (program.invoke depth) before argument gid reached)) :
    (program.run depth (database.getgrgid argument) before).2.world = before.world ∨
      ∃ value,
        argument = some value ∧
          (program.run depth (database.getgrgid argument) before).2.world =
            (value.toInteger (program.invoke depth) before).2.world := by
  cases supported : database.supported with
  | false =>
      rw [getgrgid_of_unsupported supported]
      exact .inl rfl
  | true =>
      have noNumber (gid : UInt32) (reached : Scene World Label) :
          ¬ database.AsksFor (program.invoke depth) before argument gid reached :=
        fun asks => asksNone ⟨supported, gid, reached, asks⟩
      cases argument with
      | none =>
          cases current : database.currentGid with
          | none =>
              rw [getgrgid_none_of_noCurrent supported current]
              exact .inl rfl
          | some gid => exact absurd (.current current) (noNumber gid before)
      | some value =>
          refine .inr ⟨value, rfl, ?_⟩
          by_cases gives : ∃ number reached,
              value.GivesInteger (program.invoke depth) before number reached
          · obtain ⟨number, reached, gives⟩ := gives
            have outOfRange : number.toInt < 0 ∨ 4294967296 ≤ number.toInt := by
              rw [← gidOfInteger?_eq_none_iff, Option.eq_none_iff_forall_ne_some]
              intro gid isNumber
              exact noNumber gid reached
                (.given gives (gidOfInteger?_eq_some_iff.mp isNumber))
            rw [run_of_gives supported gives, lookUpInteger_of_outOfRange outOfRange,
              Value.givesInteger_iff.mp gives]
            rfl
          · simp only [not_exists] at gives
            rw [run_of_gives_nothing supported gives]

/-- The database and the argument settle what every lookup asks, answers and raises. -/
theorem getgrgid_settled
    (program : Program World Label)
    (depth : Nat)
    (database : GroupDatabase World Label)
    (argument : Option Value)
    (before : Scene World Label) :
    LookupSettled program depth database argument before where
  unsupported unsupported := by
    rw [getgrgid_of_unsupported unsupported]
    exact ⟨rfl, rfl⟩
  omitted {gid} supported current := by
    have isNumber := gidOfInteger?_eq_some_iff.mp (gidOfInteger?_ofNat gid)
    rw [getgrgid_none supported current, run_of_gives supported (.itself _),
      lookUpInteger_of_inRange isNumber]
  noCurrent supported noCurrent := by
    rw [getgrgid_none_of_noCurrent supported noCurrent]
    exact ⟨rfl, rfl⟩
  asksOnce supported asks := asks.run_eq supported
  counted count notes asideOf := by
    by_cases asked : database.supported = true ∧
        ∃ gid reached, database.AsksFor (program.invoke depth) before argument gid reached
    · obtain ⟨supported, gid, reached, asks⟩ := asked
      refine ⟨1, Nat.le_refl 1, ?_,
        fun _ => ⟨supported, gid, reached, asks⟩, fun _ => rfl⟩
      have sameCount : count reached.world = count before.world := by
        cases asks with
        | current => rfl
        | given gives =>
            have aside := asideOf _ rfl
            rw [Value.givesInteger_iff.mp gives] at aside
            exact aside
      rw [asks.world_eq supported, notes, sameCount]
    · refine ⟨0, Nat.zero_le 1, ?_, nofun, fun asks => absurd asks asked⟩
      rcases world_of_asks_nothing asked with unchanged | ⟨value, given, asAsked⟩
      · rw [unchanged, Nat.add_zero]
      · rw [asAsked, asideOf value given, Nat.add_zero]
  found supported asks answered := asks.run_of_answer supported answered
  missing supported asks answered := asks.run_of_answer supported answered
  failed supported asks answered := asks.run_of_answer supported answered
  outOfRange supported given gives outOfRange := by
    rw [given, run_of_gives supported gives, lookUpInteger_of_outOfRange outOfRange]
    rfl
  refused supported given refuses := by
    rw [given]
    exact run_of_refuses supported refuses

section Records

variable {records : List GroupRecord} {currentGid : Option UInt32} {argument : Value}
variable {number : Int64} {reached : Scene World Label}

/-- The first record whose group number is an integer. -/
def recordOf? (records : List GroupRecord) (number : Int64) : Option GroupRecord :=
  records.find? fun record => decide ((record.gid.toNat : Int) = number.toInt)

theorem recordOf?_of_inRange
    {gid : UInt32}
    (isNumber : (gid.toNat : Int) = number.toInt) :
    (records.find? fun record => record.gid == gid) = recordOf? records number := by
  have sameTest (record : GroupRecord) :
      (record.gid == gid) = decide ((record.gid.toNat : Int) = number.toInt) := by
    rw [Bool.eq_iff_iff, beq_iff_eq, decide_eq_true_eq,
      ← isNumber, ← UInt32.toNat_inj]
    omega
  simp only [recordOf?, sameTest]

theorem recordOf?_of_outOfRange
    (outOfRange : number.toInt < 0 ∨ 4294967296 ≤ number.toInt) :
    recordOf? records number = none := by
  rw [recordOf?, List.find?_eq_none]
  intro record _
  have small : record.gid.toNat < 4294967296 := record.gid.toNat_lt
  rw [decide_eq_true_eq]
  omega

/--
The first record with the number is answered as it is; without
one the number is named.
-/
theorem run_ofRecords
    (gives : argument.GivesInteger (program.invoke depth) before number reached) :
    program.run depth ((ofRecords records currentGid).getgrgid (some argument)) before =
      match recordOf? records number with
      | some record =>
          (.returned (.group ⟨reached.store.next, record⟩),
            reached.withStore reached.store.advance)
      | none => (.stopped (missingGroup number.toInt), reached) := by
  rw [run_of_gives rfl gives]
  cases inRange : gidOfInteger? number with
  | none =>
      have outOfRange := gidOfInteger?_eq_none_iff.mp inRange
      rw [lookUpInteger_of_outOfRange outOfRange, recordOf?_of_outOfRange outOfRange]
      rfl
  | some gid =>
      have isNumber := gidOfInteger?_eq_some_iff.mp inRange
      rw [lookUpInteger_of_inRange isNumber,
        ← recordOf?_of_inRange isNumber, ← isNumber]
      change
        program.run depth (present gid
          (.ok (records.find? fun record => record.gid == gid)))
          reached = _
      cases records.find? fun record => record.gid == gid <;> rfl

theorem recordOf?_eq_some_iff {record : GroupRecord} :
    recordOf? records number = some record ↔
      (record.gid.toNat : Int) = number.toInt ∧
        ∃ front back,
          records = front ++ record :: back ∧
            ∀ earlier ∈ front, (earlier.gid.toNat : Int) ≠ number.toInt := by
  simp [recordOf?, List.find?_eq_some_iff_append]

theorem recordOf?_eq_none_iff :
    recordOf? records number = none ↔
      ∀ record ∈ records, (record.gid.toNat : Int) ≠ number.toInt := by
  simp [recordOf?]

/-- A lookup in a list of records answers exactly if there is a record with the number. -/
theorem answers_ofRecords_iff
    (gives : argument.GivesInteger (program.invoke depth) before number reached) :
    (∃ answer after,
        program.run depth ((ofRecords records currentGid).getgrgid
          (some argument)) before =
          (.returned answer, after)) ↔
      ∃ record, recordOf? records number = some record := by
  rw [run_ofRecords gives]
  cases recordOf? records number with
  | none => simp
  | some record => simp

/-- Only numbers that a record can have are ever answered. -/
theorem inRange_of_answered
    {answer : Value}
    {after : Scene World Label}
    (gives : argument.GivesInteger (program.invoke depth) before number reached)
    (answered :
      program.run depth ((ofRecords records currentGid).getgrgid (some argument)) before =
        (.returned answer, after)) :
    0 ≤ number.toInt ∧ number.toInt < 4294967296 := by
  obtain ⟨record, isFirst⟩ := (answers_ofRecords_iff gives).mp ⟨_, _, answered⟩
  have small : record.gid.toNat < 4294967296 := record.gid.toNat_lt
  have isNumber := (recordOf?_eq_some_iff.mp isFirst).1
  omega

/-- After asking its argument, a lookup in a list of records at most makes a record. -/
theorem began_of_mem_moments_afterAsking
    {answer : Except Raised Value}
    {operation : Operation Label}
    {scene : Scene World Label}
    (member :
      .began operation scene ∈
        ((ofRecords records currentGid).afterAsking answer).moments depth
          (program.invoke depth) (program.within depth) reached) :
    ∃ record, operation = .newGroup record := by
  have notStop {error : Raised}
      (inStop :
        .began operation scene ∈
          (Code.stop error : Code World Label Raised Value).moments depth
            (program.invoke depth)
            (program.within depth) reached) : False := by
    simp [Code.stop, Code.moments] at inStop
  rcases answer with error | value
  · exact (notStop member).elim
  cases value with
  | integer number =>
      cases inRange : gidOfInteger? number with
      | none =>
          simp only [afterAsking, lookUpInteger, inRange] at member
          exact (notStop member).elim
      | some gid =>
          simp only [afterAsking, lookUpInteger, inRange] at member
          change
            .began operation scene ∈
              (present gid (.ok (records.find? fun record => record.gid == gid))).moments
                depth (program.invoke depth) (program.within depth) reached at member
          cases found : records.find? fun record => record.gid == gid with
          | none =>
              rw [found] at member
              exact (notStop member).elim
          | some record =>
              rw [found] at member
              rcases List.mem_cons.mp member with isMaking | later
              · cases isMaking
                exact ⟨record, rfl⟩
              · simp [Operation.moments, Operation.callee?, Code.moments] at later
  | _ => exact (notStop member).elim

/-- The records and the argument settle what every lookup in memory answers and raises. -/
theorem ofRecords_settled
    (program : Program World Label)
    (depth : Nat)
    (records : List GroupRecord)
    (currentGid : Option UInt32)
    (argument : Value)
    (before : Scene World Label) :
    RecordsSettled program depth records currentGid argument before where
  answers_iff gives := by
    rw [answers_ofRecords_iff gives, ← Option.isSome_iff_exists,
      recordOf?, List.find?_isSome]
    simp only [decide_eq_true_eq]
  first gives shape isNumber others := by
    have isFirst := recordOf?_eq_some_iff.mpr ⟨isNumber, _, _, shape, others⟩
    rw [run_ofRecords gives, isFirst]
  missing gives noRecord := by
    rw [run_ofRecords gives, recordOf?_eq_none_iff.mpr noRecord]
    rfl
  inRange gives answered := inRange_of_answered gives answered
  ownNumber gives answered := by
    obtain ⟨record, isFirst⟩ := (answers_ofRecords_iff gives).mp ⟨_, _, answered⟩
    rw [run_ofRecords gives, isFirst] at answered
    cases answered
    exact (recordOf?_eq_some_iff.mp isFirst).1
  apart gives beyond := by
    intro answered
    obtain ⟨⟨_, _, answered⟩, _, _, otherAnswered⟩ := answered
    have inRange := inRange_of_answered gives answered
    have otherInRange := inRange_of_answered (.itself _) otherAnswered
    omega
  sendsOnce source := by
    rcases performed :
      (Operation.toInteger argument).perform (program.invoke depth) before with
        ⟨ending, reached⟩
    have shape :
        program.moments depth
          ((ofRecords records currentGid).getgrgid (some argument)) before =
          _ :=
      congrArg (fun code => program.moments depth code before)
        (getgrgid_some rfl argument)
    simp only [Program.moments, Code.moments, performed, source.moments_eq] at shape
    refine ⟨ending, reached, _, shape, ?_⟩
    intro operation scene member
    cases ending with
    | returned value => exact began_of_mem_moments_afterAsking member
    | stopped error => exact began_of_mem_moments_afterAsking member
    | panicked payload => cases member
    | overflowed => cases member
  unasked noInteger noSource := by
    by_cases isNil : argument = .nil
    · subst isNil
      exact ⟨_, run_of_refuses rfl .nil⟩
    · exact ⟨_, run_of_refuses rfl (.inconvertible isNil noInteger noSource)⟩
  misanswered source sent noInteger :=
    ⟨_, run_of_refuses rfl (.misanswered source sent noInteger)⟩
  raised source sent := run_of_refuses rfl (.raised source sent)

end Records

end GroupDatabase

end Conformance
