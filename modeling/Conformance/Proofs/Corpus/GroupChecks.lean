import Conformance.Proofs.Corpus.HashChecks
import Conformance.Proofs.Program.GroupLookups
import Conformance.Proofs.Text.Reading

namespace Conformance.Corpus

/-!
# The checks of group lookup

On platforms that count as Windows nothing is looked up.  On all others the checks
compare the database with what the host reports of its own process, so they hold on
a host whose reports and database agree.
-/

/-- The command `id` succeeds on a flag, and prints a text between white space. -/
def Host.Prints (host : Host) (flag text : String) : Prop :=
  ∃ output,
    host.id flag = .ok output ∧ output.success = true ∧
      Text.stripped output.standardOutput = text

/--
A host prints of its own process the number and the name of a group that its
database knows by this number, and its database knows no group 9876.
-/
structure Host.Agrees
    (host : Host)
    (gid : UInt32)
    (record : GroupRecord) :
    Prop where
  supported : host.database.supported = true
  current : host.database.currentGid = some gid
  found : ∀ invoke scene,
    (host.database.lookup gid).execute invoke scene =
      (.returned (.ok (some record)), scene)
  missing : ∀ invoke scene,
    (host.database.lookup 9876).execute invoke scene = (.returned (.ok none), scene)
  recordGid : record.gid = gid
  gidPrinted : host.Prints "-g" (toString gid.toNat)
  namePrinted : host.Prints "-gn" record.name

/-- What the hook of the group leaves for its checks on a platform with a database. -/
structure Captured
    (context : Context)
    (gid : UInt32)
    (record : GroupRecord) :
    Prop where
  elsewhere : context.platform.isWindows = false
  gid : context.bindings "gid" = some (.integer (Int64.ofNat gid.toNat))
  name : ∃ id, context.bindings "name" = some (.text ⟨id, record.name⟩)

/-- An argument that asks for the current group: by its number, or by asking for none. -/
inductive AsksCurrent (gid : UInt32) : Option Value → Prop where
  | byNumber : AsksCurrent gid (some (.integer (Int64.ofNat gid.toNat)))
  | byDefault : AsksCurrent gid none

variable {Error : Type} {host : Host} {gid : UInt32} {record : GroupRecord}
variable {context : Context}
variable {scene : Scene Unit Routine} {wanted : Value → Scene Unit Routine → Prop}

theorem returns_toInteger
    {number : Int64}
    {wanted : Int64 → Scene Unit Routine → Prop}
    (holds : wanted number scene) :
    (Code.toInteger (.integer number)).Returns invoke scene wanted :=
  .bind (Code.returns_perform rfl (Code.returns_pure holds))

theorem returns_requestedGid
    {argument : Option Value}
    {wanted : UInt32 → Scene Unit Routine → Prop}
    (agrees : host.Agrees gid record)
    (asks : AsksCurrent gid argument)
    (holds : wanted gid scene) :
    (host.database.requestedGid argument).Returns invoke scene wanted := by
  cases asks with
  | byNumber =>
      refine .bind (returns_toInteger ?_)
      rw [gidOfInteger?_ofNat]
      exact Code.returns_pure holds
  | byDefault =>
      rw [GroupDatabase.requestedGid, agrees.current]
      exact Code.returns_pure holds

/-- Where there is a database, a lookup goes to the host's. -/
theorem databaseFor_elsewhere
    {platform : Platform}
    (elsewhere : platform.isWindows = false) :
    host.databaseFor platform = host.database := by
  rw [Host.databaseFor, elsewhere]
  rfl

theorem databaseFor_windows
    {platform : Platform}
    (windows : platform.isWindows = true) :
    host.databaseFor platform = .unsupported := by
  rw [Host.databaseFor, windows]
  rfl

/-- Without a database every lookup answers `nil`. -/
theorem returns_lookUp_windows
    [OfRaised Error]
    {argument : Option Value}
    (windows : scene.context.platform.isWindows = true)
    (holds : wanted .nil scene) :
    (lookUp host argument : Step Error Value).Returns invoke scene wanted := by
  refine .bind (Code.returns_platform ?_)
  rw [databaseFor_windows windows]
  exact .mapError (Code.returns_pure holds)

/-- The current group is found under its number, and when none is asked for. -/
theorem returns_lookUp
    [OfRaised Error]
    {argument : Option Value}
    (agrees : host.Agrees gid record)
    (elsewhere : scene.context.platform.isWindows = false)
    (asks : AsksCurrent gid argument)
    (holds :
      wanted (.group ⟨scene.store.next, record⟩)
        (scene.withStore scene.store.advance)) :
    (lookUp host argument : Step Error Value).Returns invoke scene wanted := by
  refine .bind (Code.returns_platform (.mapError ?_))
  rw [databaseFor_elsewhere elsewhere, GroupDatabase.getgrgid,
    if_pos agrees.supported]
  refine .bind (returns_requestedGid agrees asks ?_)
  exact .bind ⟨_, scene, agrees.found invoke scene, Code.returns_perform rfl holds⟩

/--
A lookup whose argument is no number of a group raises, before
the database is asked.
-/
theorem raises_lookUp_of_toInteger
    {argument : Value}
    {error : Raised}
    {kind : ErrorKind}
    {wanted : Scene Unit Routine → Prop}
    (agrees : host.Agrees gid record)
    (elsewhere : scene.context.platform.isWindows = false)
    (refuses : argument.toInteger invoke scene = (.stopped error, scene))
    (isOfKind : error.isA kind = true)
    (holds : wanted scene) :
    (lookUp host (some argument)).Raises invoke scene kind wanted := by
  refine .after (Code.returns_platform (.mapError ?_))
  rw [databaseFor_elsewhere elsewhere, GroupDatabase.getgrgid,
    if_pos agrees.supported]
  exact .bind (.bind
    (.bind (Code.raises_perform (Act.bind_of_stopped refuses) isOfKind holds)))

theorem raises_lookUp_missing
    {wanted : Scene Unit Routine → Prop}
    (agrees : host.Agrees gid record)
    (elsewhere : scene.context.platform.isWindows = false)
    (holds : wanted scene) :
    (lookUp host (some (.integer 9876))).Raises invoke scene .argumentError wanted := by
  refine .after (Code.returns_platform (.mapError ?_))
  rw [databaseFor_elsewhere elsewhere, GroupDatabase.getgrgid,
    if_pos agrees.supported]
  refine .after (.bind (returns_toInteger (Code.returns_pure ?_)))
  refine .after ⟨_, scene, agrees.missing invoke scene, ?_⟩
  exact Code.raises_raise (ErrorKind.isA_self _) holds

/-- The record of the current group has the number and the name that were captured. -/
theorem returns_expectCurrentGroup
    {id : Nat}
    {wanted : Unit → Scene Unit Routine → Prop}
    (agrees : host.Agrees gid record)
    (captured : Captured scene.context gid record)
    (holds : wanted () (scene.withStore scene.store.advance)) :
    (expectCurrentGroup (.group ⟨id, record⟩)).Returns invoke scene wanted := by
  obtain ⟨nameId, name⟩ := captured.name
  refine .bind (Code.returns_readVariable captured.gid ?_)
  refine .bind (Expectation.returns_check ?sameGid ?_)
  case sameGid =>
    simp [ValueMatcher.holds, Value.equal, Value.same, agrees.recordGid]
  refine .bind (Code.returns_newText (.bind (Code.returns_readVariable name ?_)))
  exact Expectation.returns_check (by simp [ValueMatcher.holds, Value.equal]) holds

theorem Host.printed_of_prints
    {flag text : String}
    (prints : host.Prints flag text) :
    host.printed flag = .ok text := by
  obtain ⟨output, answer, success, isText⟩ := prints
  simp only [printed, answer, success, ↓reduceIte, isText]

/-- A number of a group that is printed is read back. -/
theorem Host.printedGid_of_prints (prints : host.Prints "-g" (toString gid.toNat)) :
    host.printedGid = .ok (Int64.ofNat gid.toNat) := by
  have inRange : (gid.toNat : Int) ≤ Int64.maxValue.toInt := by
    have bound := gid.toNat_lt
    have largest : Int64.maxValue.toInt = 9223372036854775807 := rfl
    omega
  rw [printedGid, printed_of_prints prints]
  change (Text.readInteger (toString gid.toNat)).mapError _ = _
  rw [Text.readInteger_toString inRange]
  rfl

/-- The hook captures the number and the name that the host prints. -/
theorem returns_captureCurrentGroup
    (agrees : host.Agrees gid record)
    (elsewhere : scene.context.platform.isWindows = false) :
    (captureCurrentGroup host).Returns invoke scene fun _ after =>
      Captured after.context gid record := by
  rw [captureCurrentGroup, Host.printedGid_of_prints agrees.gidPrinted,
    Host.printed_of_prints agrees.namePrinted]
  refine .bind (Code.returns_pure (.bind (Code.returns_setVariable ?_)))
  refine .bind (Code.returns_pure (.bind (Code.returns_newText ?_)))
  refine Code.returns_setVariable ⟨elsewhere, ?_, _, Context.bindings_assign_same _ _ _⟩
  exact (Context.bindings_assign_other _ _ (by decide)).trans
    (Context.bindings_assign_same _ _ _)

theorem returns_lookUpCurrent
    (agrees : host.Agrees gid record)
    (captured : Captured scene.context gid record)
    (holds :
      wanted (.group ⟨scene.store.next, record⟩)
        (scene.withStore scene.store.advance)) :
    (lookUpCurrent host).Returns invoke scene wanted := by
  refine .bind (Code.returns_readVariable captured.gid ?_)
  exact returns_lookUp agrees captured.elsewhere .byNumber holds

/-- A scenario starts with what the hook of its group has captured. -/
theorem Captured.of_forked
    (captured : Captured context gid record)
    (forked : scene.context = context.fork) :
    Captured scene.context gid record := by
  rw [forked]
  exact ⟨captured.elsewhere, captured.gid, captured.name⟩

section Checks

theorem answersNilAlways_holds
    (host : Host)
    (windows : context.platform.isWindows = true) :
    HoldsIn context (answersNilAlways host) := by
  intro scene forked
  have onWindows : scene.context.platform.isWindows = true := by
    rw [forked]
    exact windows
  refine .bind (returns_lookUp_windows onWindows ?_)
  refine .bind (Expectation.returns_check rfl ?_)
  refine .bind (returns_lookUp_windows onWindows ?_)
  refine .bind (Expectation.returns_check rfl (.bind (Code.returns_newText ?_)))
  refine .bind (returns_lookUp_windows onWindows ?_)
  exact Expectation.returns_check rfl (met_of_context_eq forked rfl)

variable (agrees : host.Agrees gid record) (captured : Captured context gid record)

include agrees captured

theorem givesRecord_holds : HoldsIn context (givesRecord host) := by
  intro scene forked
  have ready := captured.of_forked forked
  refine .bind (returns_lookUpCurrent agrees ready ?_)
  refine .bind (Expectation.returns_check rfl ?_)
  exact returns_expectCurrentGroup agrees ready (met_of_context_eq forked rfl)

theorem givesKind_holds
    {tag : String}
    (isKind : tag = "Etc::Group" ∨ tag = "Struct::Group") :
    HoldsIn context (givesKind host tag) := by
  intro scene forked
  have ready := captured.of_forked forked
  refine .bind (returns_lookUpCurrent agrees ready ?_)
  refine .bind (Expectation.returns_check ?_ ?_)
  · rcases isKind with rfl | rfl <;> rfl
  · exact returns_expectCurrentGroup agrees ready (met_of_context_eq forked rfl)

theorem defaultsToCurrent_holds : HoldsIn context (defaultsToCurrent host) := by
  intro scene forked
  have ready := captured.of_forked forked
  refine .bind (returns_lookUp agrees ready.elsewhere .byDefault ?_)
  exact returns_expectCurrentGroup agrees ready (met_of_context_eq forked rfl)

theorem refusesMissing_holds : HoldsIn context (refusesMissing host) := by
  intro scene forked
  have ready := captured.of_forked forked
  refine Expectation.returns_checkRaise (raises_lookUp_missing agrees ready.elsewhere ?_)
  exact met_of_context_eq forked rfl

theorem refusesOthers_holds : HoldsIn context (refusesOthers host) := by
  intro scene forked
  have ready := captured.of_forked forked
  refine .bind (Code.returns_newText (.bind (Expectation.returns_checkRaise ?_)))
  refine raises_lookUp_of_toInteger agrees ready.elsewhere rfl
    (ErrorKind.isA_self _) ?_
  refine Expectation.returns_checkRaise ?_
  refine raises_lookUp_of_toInteger agrees ready.elsewhere rfl
    (ErrorKind.isA_self _) ?_
  exact met_of_context_eq forked rfl

end Checks

theorem windowsGroup_sound
    {platform : Platform}
    (host : Host)
    (windows : platform.isWindows = true) :
    (windowsGroup host).Sound machine platform where
  hooksReturn _ _ := rfl
  scenariosPass place scene := by
    simp only [windowsGroup, List.forall_mem_cons]
    exact ⟨passes_of_holdsIn (answersNilAlways_holds host windows) _, nofun⟩

/-- The only hook of the group returns, and leaves what was captured. -/
theorem otherGroup_hookRun
    {platform : Platform}
    (agrees : host.Agrees gid record)
    (elsewhere : platform.isWindows = false)
    (place : Nat)
    (scene : Scene Unit Routine) :
    ∃ after,
      (otherGroup host).hookRun machine platform place scene =
          (⟨.returned (), [.groupHook place 0]⟩, after) ∧
        Captured after.context gid record := by
  obtain ⟨_, after, executed, captured⟩ :
      (captureCurrentGroup host).Returns invoke (scene.enter (.forGroup platform))
        fun _ after => Captured after.context gid record :=
    returns_captureCurrentGroup agrees elsewhere
  have ran :
      machine.run (captureCurrentGroup host) (scene.enter (.forGroup platform)) =
        (.returned (), after) :=
    executed
  refine ⟨after, ?_, captured⟩
  simp [Group.hookRun, Group.steps, otherGroup, Machine.runHooks, ran]

theorem otherGroup_sound
    {platform : Platform}
    (agrees : host.Agrees gid record)
    (elsewhere : platform.isWindows = false) :
    (otherGroup host).Sound machine platform where
  hooksReturn place scene := by
    obtain ⟨after, ran, -⟩ := otherGroup_hookRun agrees elsewhere place scene
    rw [ran]
    rfl
  scenariosPass place scene := by
    obtain ⟨after, ran, captured⟩ := otherGroup_hookRun agrees elsewhere place scene
    rw [ran]
    simp only [otherGroup, List.forall_mem_cons]
    exact
      ⟨passes_of_holdsIn (givesRecord_holds agrees captured) _,
        passes_of_holdsIn (givesKind_holds agrees captured (.inl rfl)) _,
        passes_of_holdsIn (defaultsToCurrent_holds agrees captured) _,
        passes_of_holdsIn (givesKind_holds agrees captured (.inr rfl)) _,
        passes_of_holdsIn (refusesMissing_holds agrees captured) _,
        passes_of_holdsIn (refusesOthers_holds agrees captured) _, nofun⟩

end Conformance.Corpus
