import Conformance.Proofs.Program.Likeness
import Conformance.Proofs.Program.Returning
import Conformance.Proofs.Suite.Activities

namespace Conformance

/-!
# Scenarios apart

A hook is local if it does alike in alike scenes, so that it tells nothing but
the platform, the variables and its own stubs apart.  Where the hooks of a group
and those of one of its scenarios are local, the scenario is reported as in a run
of its own: neither the filter nor other scenarios and groups make a difference.
-/

/--
A hook ends alike in alike scenes, and leaves alike scenes when it returns.  The
hooks of a group run at group level.
-/
def Hook.Local
    {World Label : Type}
    (machine : Machine World Label)
    (likeness : Likeness Label)
    (groupLevel : Bool)
    (hook : Hook World Label) : Prop :=
  ∀ left right : Scene World Label,
    left.context.groupLevel = groupLevel →
    left.Alike likeness right →
    (machine.run hook left).1 = (machine.run hook right).1 ∧
      ((machine.run hook left).1 = .returned () →
        (machine.run hook left).2.Alike likeness (machine.run hook right).2)

/-- Hooks that run one after another, as one hook. -/
def Hook.inTurn {World Label : Type} : List (Hook World Label) → Hook World Label
  | [] => .done (.ok ())
  | hook :: rest => hook.andThen fun _ => inTurn rest

/--
The hooks of a turn's group, as one, and those of its scenario with the body are
local.  What one of them leaves to a later one, as a variable that it sets anew or
a cell of the program's own, is between the two.
-/
structure Turn.Local
    {World Label : Type}
    (machine : Machine World Label)
    (likeness : Likeness Label)
    (turn : Turn World Label) : Prop where
  beforeAll : Hook.Local machine likeness true (.inTurn turn.group.beforeAll)
  scenario :
    Hook.Local machine likeness false
      (.inTurn (turn.scenario.setup ++ [turn.scenario.body]))

/-- The group of a turn with the one scenario. -/
def Turn.aloneGroup
    {World Label : Type}
    (turn : Turn World Label) :
    Group World Label :=
  { turn.group with scenarios := [turn.scenario] }

/-- The registry that holds the group of a turn only, with the one scenario. -/
def Turn.alone
    {World Label : Type}
    (turn : Turn World Label) :
    Registry World Label :=
  ⟨[turn.aloneGroup]⟩

/-- A hook and then another one run as the one and then the other. -/
theorem Machine.run_andThen
    {World Label : Type}
    (machine : Machine World Label)
    (hook rest : Hook World Label)
    (scene : Scene World Label) :
    machine.run (hook.andThen fun _ => rest) scene =
      (machine.run hook >>= fun _ => machine.run rest) scene :=
  Code.execute_bind hook (fun _ => rest) scene

namespace Hook

variable {World Label : Type} {machine : Machine World Label}
variable {likeness : Likeness Label}
variable {groupLevel : Bool}

theorem local_inTurn_nil : Hook.Local machine likeness groupLevel (.inTurn []) :=
  fun _ _ _ alike => ⟨rfl, fun _ => alike⟩

/-- A local hook and then what is local are local as one. -/
theorem Local.andThen
    {hook rest : Hook World Label}
    (first : Hook.Local machine likeness groupLevel hook)
    (later : Hook.Local machine likeness groupLevel rest) :
    Hook.Local machine likeness groupLevel (hook.andThen fun _ => rest) := by
  intro left right level alike
  obtain ⟨sameEnding, alikeAfter⟩ := first left right level alike
  have levelAfter := (machine.run_grows hook left).groupLevel
  rw [machine.run_andThen, machine.run_andThen, Act.bind_apply, Act.bind_apply]
  rcases leftRan : machine.run hook left with ⟨ending, leftReached⟩
  rcases rightRan : machine.run hook right with ⟨otherEnding, rightReached⟩
  rw [leftRan] at sameEnding alikeAfter levelAfter
  rw [rightRan] at sameEnding alikeAfter
  obtain rfl : ending = otherEnding := sameEnding
  cases ending with
  | returned result =>
      exact later leftReached rightReached (levelAfter.trans level) (alikeAfter rfl)
  | stopped error => exact ⟨rfl, nofun⟩
  | panicked payload => exact ⟨rfl, nofun⟩
  | overflowed => exact ⟨rfl, nofun⟩

/-- Hooks that are local one by one are local as one. -/
theorem local_inTurn
    {hooks : List (Hook World Label)}
    (eachLocal : ∀ hook ∈ hooks, Hook.Local machine likeness groupLevel hook) :
    Hook.Local machine likeness groupLevel (.inTurn hooks) := by
  induction hooks with
  | nil => exact local_inTurn_nil
  | cons hook rest inductionHypothesis =>
      obtain ⟨first, others⟩ := List.forall_mem_cons.mp eachLocal
      exact first.andThen (inductionHypothesis others)

end Hook

namespace Machine

variable {World Label : Type}

/-- Running hooks in order comes to the same as running them as one. -/
theorem run_inTurn
    (machine : Machine World Label)
    (steps : List (Activity × Hook World Label))
    (scene : Scene World Label) :
    machine.run (Hook.inTurn (steps.map Prod.snd)) scene =
      ((machine.runHooks steps scene).1.ending, (machine.runHooks steps scene).2) := by
  induction steps generalizing scene with
  | nil => rfl
  | cons step rest inductionHypothesis =>
      obtain ⟨activity, hook⟩ := step
      rw [List.map_cons, Hook.inTurn, machine.run_andThen, Act.bind_apply]
      rcases ran : machine.run hook scene with ⟨ending, reached⟩
      cases ending with
      | returned result =>
          rw [runHooks_of_returned ran]
          exact inductionHypothesis reached
      | stopped error => rw [runHooks_of_failed ran nofun]
      | panicked payload => rw [runHooks_of_failed ran nofun]
      | overflowed => rw [runHooks_of_failed ran nofun]

/--
Hooks that are local as one end alike in alike scenes,
whatever places they stand at.
-/
theorem runHooks_alike
    {machine : Machine World Label}
    {likeness : Likeness Label}
    {groupLevel : Bool}
    {steps others : List (Activity × Hook World Label)}
    {left right : Scene World Label}
    (sameHooks : steps.map Prod.snd = others.map Prod.snd)
    (isLocal : Hook.Local machine likeness groupLevel (.inTurn (steps.map Prod.snd)))
    (level : left.context.groupLevel = groupLevel)
    (alike : left.Alike likeness right) :
    (machine.runHooks steps left).1.ending =
      (machine.runHooks others right).1.ending ∧
      ((machine.runHooks steps left).1.ending = .returned () →
        (machine.runHooks steps left).2.Alike likeness
          (machine.runHooks others right).2) := by
  have runs := isLocal left right level alike
  rw [run_inTurn, sameHooks, run_inTurn] at runs
  exact runs

end Machine

namespace Group

variable {World Label : Type} {machine : Machine World Label}
variable {likeness : Likeness Label}

theorem map_snd_steps (group : Group World Label) (place : Nat) :
    (group.steps place).map Prod.snd = group.beforeAll := by
  rw [steps, List.map_map]
  exact List.zipIdx_map_fst 0 group.beforeAll

/--
Local hooks of a group end alike in every run, and leave alike
scenes when all return.
-/
theorem hookRun_alike
    {group other : Group World Label}
    {left right : Scene World Label}
    (sameHooks : group.beforeAll = other.beforeAll)
    (isLocal : Hook.Local machine likeness true (.inTurn group.beforeAll))
    (known : left.store.Corresponds likeness likeness.known right.store)
    (platform : Platform)
    (place otherPlace : Nat) :
    (group.hookRun machine platform place left).1.ending =
        (other.hookRun machine platform otherPlace right).1.ending ∧
      ((group.hookRun machine platform place left).1.ending = .returned () →
        (group.hookRun machine platform place left).2.Alike likeness
          (other.hookRun machine platform otherPlace right).2) := by
  refine Machine.runHooks_alike ?_ ?_ rfl ⟨_, _, Scene.Matches.forGroup known platform⟩
  · rw [map_snd_steps, map_snd_steps, sameHooks]
  · rw [map_snd_steps]
    exact isLocal

end Group

namespace Scenario

variable {World Label : Type} {machine : Machine World Label}
variable {likeness : Likeness Label}

theorem map_snd_steps (scenario : Scenario World Label) (group place : Nat) :
    (scenario.steps group place).map Prod.snd =
      scenario.setup ++ [scenario.body] := by
  rw [steps, List.map_append, List.map_map]
  congr 1
  exact List.zipIdx_map_fst 0 scenario.setup

/-- The outcome of an ending depends on the scene only for stubs, if all returned. -/
theorem outcomeOf_congr
    {left right : Scene World Label}
    (ending : Ending Fault Unit)
    (unmet : ending = .returned () → left.firstUnmet? = right.firstUnmet?) :
    outcomeOf left ending = outcomeOf right ending := by
  cases ending with
  | returned result => simp only [outcomeOf, unmet rfl]
  | _ => rfl

theorem execute_alike
    {scenario : Scenario World Label}
    (isLocal :
      Hook.Local machine likeness false (.inTurn (scenario.setup ++ [scenario.body])))
    {group otherGroup place otherPlace : Nat}
    {context otherContext : Context}
    {left right : Scene World Label}
    (alike : (left.enter context.fork).Alike likeness (right.enter otherContext.fork)) :
    (scenario.execute machine group place context left).1.1 =
      (scenario.execute machine otherGroup otherPlace otherContext right).1.1 := by
  have sameHooks :
      (scenario.steps group place).map Prod.snd =
        (scenario.steps otherGroup otherPlace).map Prod.snd := by
    rw [map_snd_steps, map_snd_steps]
  rw [← map_snd_steps scenario group place] at isLocal
  obtain ⟨sameEnding, alikeAfter⟩ :=
    Machine.runHooks_alike sameHooks isLocal rfl alike
  simp only [execute]
  rw [← sameEnding]
  apply outcomeOf_congr
  intro returned
  obtain ⟨shared, own, matched⟩ := alikeAfter returned
  exact matched.firstUnmet?_eq

end Scenario

namespace Call

variable {World Label : Type} {machine : Machine World Label}
variable {likeness : Likeness Label}

/--
Calls of one scenario with local hooks report the same, in whatever places and
scenes, if nothing that the group made has been taken away since it was opened.
-/
theorem report_eq_of_local
    {platform : Platform}
    {left right : Call World Label}
    (sameScenario : left.turn.scenario = right.turn.scenario)
    (sameName : left.turn.group.name = right.turn.group.name)
    (sameGuard : left.turn.group.guard = right.turn.group.guard)
    (sameHooks : left.turn.group.beforeAll = right.turn.group.beforeAll)
    (isLocal : left.turn.Local machine likeness)
    (known : left.opened.store.Corresponds likeness likeness.known right.opened.store)
    (leftGrows :
      (left.activation machine platform).2.store.Grows
        (left.ready machine platform).store)
    (rightGrows :
      (right.activation machine platform).2.store.Grows
        (right.ready machine platform).store) :
    left.report machine platform = right.report machine platform := by
  have sameOutcome :
      (left.settled machine platform).1.1 =
        (right.settled machine platform).1.1 := by
    unfold settled activation at *
    by_cases refused : left.turn.group.Refused platform
    · obtain ⟨guard, guarded, refuses⟩ := refused
      rw [Group.activate_of_refused guarded refuses,
        Group.activate_of_refused (sameGuard ▸ guarded) refuses]
      rfl
    · have otherAdmitted : ¬ right.turn.group.Refused platform := by
        unfold Group.Refused at refused ⊢
        rw [← sameGuard]
        exact refused
      obtain ⟨sameEnding, alike⟩ :=
        Group.hookRun_alike sameHooks isLocal.beforeAll known platform left.turn.place
          right.turn.place
      rw [Group.activate_of_not_refused refused] at leftGrows ⊢
      rw [Group.activate_of_not_refused otherAdmitted] at rightGrows ⊢
      cases failure :
          (left.turn.group.hookRun machine platform left.turn.place
            left.opened).1.ending.hookFailure? with
      | some message =>
          rw [Group.prepare_of_failed failure,
            Group.prepare_of_failed (sameEnding ▸ failure)]
          rfl
      | none =>
          rw [Group.prepare_of_returned failure] at leftGrows ⊢
          rw [Group.prepare_of_returned (sameEnding ▸ failure)] at rightGrows ⊢
          obtain ⟨shared, own, matched⟩ :=
            alike (Ending.returned_of_hookFailure?_none failure)
          have ofGroup :=
            (machine.runHooks_grows (left.turn.group.steps left.turn.place)
              (left.opened.enter (.forGroup platform))).groupLevel
          have forked := matched.fork ofGroup leftGrows rightGrows
          simp only [Mode.settle, ← sameScenario]
          exact Scenario.execute_alike isLocal.scenario ⟨_, _, forked⟩
  rw [report, report, sameName, sameScenario, sameOutcome]

end Call

namespace Run

variable {World Label : Type} {machine : Machine World Label}
variable {registry : Registry World Label} {options : RunOptions}
variable {run : Run World Label} {count : Nat} {turn : Turn World Label}

/-- What a group made when it was opened is still there when a turn of it starts. -/
theorem activation_grows
    (obeyed : ∀ count, run.Obeys machine (registry.turns options) count)
    (running : ∀ count, (run.after machine count).halted = false)
    (isDue : (registry.turns options)[count]? = some turn) :
    ((run.call machine (registry.turns options) count turn).activation machine
        run.platform).2.store.Grows
      ((run.call machine (registry.turns options) count turn).ready machine
        run.platform).store := by
  cases opens : (run.call machine (registry.turns options) count turn).opens with
  | true =>
      rw [Call.ready_of_opens opens]
      exact .refl _
  | false =>
      rw [Call.ready_of_not_opens opens]
      obtain ⟨opener, openerDue, samePlace⟩ := Turn.opening_spec isDue
      have later : Turn.opening (registry.turns options) turn.place ≠ count := by
        simpa [call] using opens
      have before := Turn.opening_le isDue
      have sameGroup : opener.group = turn.group :=
        Registry.group_eq_of_place_eq (List.mem_of_getElem? openerDue)
          (List.mem_of_getElem? isDue) samePlace
      have answers := (obeyed _).answers opener (running _) openerDue
      have openerOpens :
          (run.call machine (registry.turns options)
            (Turn.opening (registry.turns options) turn.place) opener).opens = true := by
        simp [call, samePlace]
      -- the group was opened in the call of its opener, and calls only add to the objects
      have settled :=
        (run.call machine (registry.turns options)
          (Turn.opening (registry.turns options) turn.place) opener).settled_grows machine
            run.platform
      rw [Call.ready_of_opens openerOpens, ← answers.scene,
        activation_eq _ count samePlace sameGroup] at settled
      exact settled.trans (store_grows obeyed (by omega))

theorem turns_alone (turn : Turn World Label) :
    turn.alone.turns ⟨none, false⟩ = [⟨0, turn.aloneGroup, 0, turn.scenario⟩] := by
  simp [Turn.alone, Turn.aloneGroup, Registry.turns, RunOptions.turns,
    RunOptions.selected, RunOptions.selects]

/--
A scenario whose hooks and body are local, as are the hooks of its group, is
reported as in a run of its group with this scenario only: the filter, its
position, and what other groups and scenarios do make no difference.  The two runs
may start in different scenes, if what the hooks know from before is alike there.
-/
theorem report_eq_alone
    (machine : Machine World Label)
    (registry : Registry World Label)
    (platform : Platform)
    (filter : Option String)
    (scene otherScene : Scene World Label)
    (likeness : Likeness Label)
    (known : scene.store.Corresponds likeness likeness.known otherScene.store)
    (count : Nat)
    (turn : Turn World Label)
    (isDue : (registry.turns ⟨filter, false⟩)[count]? = some turn)
    (isLocal : turn.Local machine likeness) :
    ∃ report,
      (Run.start registry platform ⟨filter, false⟩ scene).answer machine count =
        some report ∧
        (Run.start turn.alone platform ⟨none, false⟩ otherScene).answer machine 0 =
          some report := by
  have obeyed := obeys machine registry platform ⟨filter, false⟩ scene
  have running := running_of_not_stopOnFail obeyed rfl rfl
  have aloneObeyed := obeys machine turn.alone platform ⟨none, false⟩ otherScene
  have aloneRunning := running_of_not_stopOnFail aloneObeyed rfl rfl
  have aloneDue :
      (turn.alone.turns ⟨none, false⟩)[0]? =
        some ⟨0, turn.aloneGroup, 0, turn.scenario⟩ := by
    rw [turns_alone]
    rfl
  have answers := (obeyed count).answers turn (running count) isDue
  have aloneAnswers := (aloneObeyed 0).answers _ (aloneRunning 0) aloneDue
  have sameReport :
      ((Run.start registry platform ⟨filter, false⟩ scene).call machine
          (registry.turns ⟨filter, false⟩) count turn).report machine platform =
        ((Run.start turn.alone platform ⟨none, false⟩ otherScene).call machine
          (turn.alone.turns ⟨none, false⟩) 0
          ⟨0, turn.aloneGroup, 0, turn.scenario⟩).report machine platform :=
    Call.report_eq_of_local rfl rfl rfl rfl isLocal
      (known.later (store_grows obeyed (Nat.zero_le _))
        (store_grows aloneObeyed (Nat.zero_le _)))
      (activation_grows obeyed running isDue)
      (activation_grows aloneObeyed aloneRunning aloneDue)
  refine ⟨_, answers.answer, ?_⟩
  rw [aloneAnswers.answer]
  exact congrArg some sameReport.symm

end Run

namespace Hook

variable {World Label : Type} (machine : Machine World Label)
variable (likeness : Likeness Label)

theorem local_setVariable
    {value : Value}
    (plain : ∀ pairing, value.Matches pairing value)
    (groupLevel : Bool)
    (name : String) :
    Hook.Local machine likeness groupLevel (Code.setVariable name value) := by
  intro left right _ alike
  obtain ⟨shared, own, matched⟩ := alike
  exact ⟨rfl, fun _ => ⟨shared, own, matched.assign name (plain _)⟩⟩

/-- A hook that asks for a stub, and has it recorded in its context. -/
def askStub (name : String) : Hook World Label :=
  .makeStub name fun answer => .done ((answer.mapError Fault.misuse).map fun _ => ())

theorem local_askStub (name : String) :
    Hook.Local machine likeness false (askStub name) := by
  intro left right notOfGroup alike
  obtain ⟨shared, own, matched⟩ := alike
  obtain ⟨leftMade, rightMade, matchedAfter⟩ := matched.makeStub notOfGroup name
  have asked {scene : Scene World Label} {stub : Value}
      (made : (scene.makeStub name).1 = .ok stub) :
      machine.run (askStub name) scene =
        (.returned (), (scene.makeStub name).2) := by
    rcases answered : scene.makeStub name with ⟨answer, reached⟩
    rw [answered] at made
    obtain rfl : answer = .ok stub := made
    simp only [askStub, Machine.run, Program.run, Code.execute, answered]
    rfl
  rw [asked leftMade, asked rightMade]
  exact ⟨rfl, fun _ => ⟨shared, _, matchedAfter⟩⟩

/-- A hook that fails unless a variable has a number as its value. -/
def expectNumber (name : String) (number : Int64) : Hook World Label :=
  .look fun scene =>
    if scene.context.bindings name = some (.integer number) then .done (.ok ())
    else .done (.error (.assertion ("expected " ++ toString number.toInt)))

theorem local_expectNumber (groupLevel : Bool) (name : String) (number : Int64) :
    Hook.Local machine likeness groupLevel (expectNumber name number) := by
  intro left right _ alike
  have unchanged (scene : Scene World Label) :
      (machine.run (expectNumber name number) scene).2 = scene := by
    simp only [expectNumber, Machine.run, Program.run, Code.execute]
    split <;> rfl
  have sameTest :
      left.context.bindings name = some (.integer number) ↔
        right.context.bindings name = some (.integer number) := by
    obtain ⟨shared, own, matched⟩ := alike
    have bound := matched.bindings name
    generalize left.context.bindings name = first at bound
    generalize right.context.bindings name = second at bound
    cases bound with
    | none => exact Iff.rfl
    | some values => cases values <;> simp
  refine ⟨?_, fun _ => ?_⟩
  · simp only [expectNumber, Machine.run, Program.run, Code.execute, sameTest]
    split <;> rfl
  · rw [unchanged, unchanged]
    exact alike

end Hook

/-! ### Hooks that leave closures over what they made -/

/-- A machine whose bodies count the entries of the hash that they were made over. -/
def countingMachine : Machine Unit HashRef where
  program := {
    body := fun hash _ => do
      let state ← Code.hashState hash
      pure (.integer (Int64.ofNat state.size)) }
  depth := 1

/-- Bodies stand for one another if the hashes do that they were made over. -/
def Likeness.overHashes : Likeness HashRef where
  grouped _ := true
  known := .none
  labels pairing left right := pairing .hash left.id right.id
  labels_mono paired included := included _ _ _ paired

/-- A hook that leaves a callable and an object that count a hash of its own. -/
def Hook.keepCounters : Code Unit HashRef Fault Unit := do
  let hash ← Code.newHash .nothing
  let counter ← Code.newProc .lambda (.exactly 0) (.body hash)
  let ledger ← Code.perform (.newObject "Ledger" [("size", hash)])
  Code.setVariable "ledger" ledger
  Code.setVariable "count" (.proc counter)

/-- A body that expects its counter to count nothing. -/
def Hook.expectNothing : Code Unit HashRef Fault Unit := do
  let value ← Code.readVariable "count"
  let counter ← Code.procOf value
  let size ← Code.perform (.call counter [])
  (Expectation.ofValue size).check (.toEq (.integer 0))

/-- What a scene is after the counters have been left. -/
def Scene.withCounters (scene : Scene Unit HashRef) : Scene Unit HashRef :=
  let hash : HashRef := ⟨scene.store.next⟩
  let hashed := scene.withStore (scene.store.newHash .nothing).2
  let called :=
    hashed.withStore (hashed.store.newProc .lambda (.exactly 0) (.body hash)).2
  let listed := called.withStore (called.store.newObject "Ledger" [("size", hash)]).2
  (listed.assign "ledger" (.object (.host called.store.next "Ledger"))).assign "count"
    (.proc ⟨hashed.store.next, .lambda, .exactly 0⟩)

theorem Hook.run_keepCounters (scene : Scene Unit HashRef) :
    countingMachine.run keepCounters scene = (.returned (), scene.withCounters) :=
  rfl

theorem Scene.Alike.withCounters
    {left right : Scene Unit HashRef}
    (alike : left.Alike .overHashes right) :
    left.withCounters.Alike .overHashes right.withCounters := by
  obtain ⟨shared, own, matched⟩ := alike
  have hashed :=
    matched.newHash (⟨.nil, .nil, .none, rfl⟩ : (HashState.new .nothing).Matches _ _)
  have overHashes :
      Likeness.overHashes.labels
        (shared.union (own.add .hash left.store.next right.store.next))
        ⟨left.store.next⟩ ⟨right.store.next⟩ :=
    .inr (.inr ⟨rfl, rfl, rfl⟩)
  have called := hashed.newProc .lambda (.exactly 0) (.body overHashes)
  have listed :=
    called.newObject "Ledger"
      (.cons (a := ("size", ⟨left.store.next⟩)) (b := ("size", ⟨right.store.next⟩))
        ⟨rfl, .inr (.inl (.inr ⟨rfl, rfl, rfl⟩))⟩ .nil)
  have ledgerSet :=
    listed.assign "ledger" (.host "Ledger" (.inr (.inr ⟨rfl, rfl, rfl⟩)))
  exact
    ⟨shared, _,
      ledgerSet.assign "count" (.proc .lambda _ (.inr (.inl (.inr ⟨rfl, rfl, rfl⟩))))⟩

theorem Hook.local_keepCounters (groupLevel : Bool) :
    Hook.Local countingMachine .overHashes groupLevel keepCounters := by
  intro left right _ alike
  rw [run_keepCounters, run_keepCounters]
  exact ⟨rfl, fun _ => alike.withCounters⟩

/-- A counter that has just been left counts nothing. -/
theorem Hook.run_expectNothing (scene : Scene Unit HashRef) :
    countingMachine.run expectNothing scene.withCounters =
      (.returned (), scene.withCounters) := by
  have bound :
      scene.withCounters.context.bindings "count" =
        some (.proc ⟨scene.store.next + 1, .lambda, .exactly 0⟩) :=
    Context.bindings_assign_same _ _ _
  have behaves :
      scene.withCounters.store.behaviours (scene.store.next + 1) =
        .body ⟨scene.store.next⟩ :=
    Table.put_same _ _ _
  have empty : scene.withCounters.store.hash ⟨scene.store.next⟩ = .empty :=
    Table.put_same _ _ _
  have counts (hash : HashRef) (reached : Scene Unit HashRef) :
      countingMachine.program.invoke 1 hash [] reached =
        (.returned (.integer (Int64.ofNat (reached.store.hash hash).size)), reached) :=
    rfl
  have counted :
      Operation.perform (countingMachine.program.invoke 1)
          (.call ⟨scene.store.next + 1, .lambda, .exactly 0⟩ []) scene.withCounters =
        (.returned (.integer 0), scene.withCounters) := by
    simp only [Operation.perform, Proc.call, Proc.receive, Arity.accepts,
      List.length_nil, beq_self_eq_true, ↓reduceIte, behaves, counts, empty]
    rfl
  obtain ⟨_, after, executed, rfl⟩ :
      expectNothing.Returns (countingMachine.program.invoke 1) scene.withCounters
        fun _ after => after = scene.withCounters := by
    refine .bind (Code.returns_readVariable bound (.bind (Code.returns_pure ?_)))
    exact .bind (Code.returns_perform counted (Expectation.returns_check rfl rfl))
  exact executed

/--
A body that counts with what a hook has left just before it
tells nothing else apart.
-/
theorem Hook.local_expectNothing :
    Hook.Local countingMachine .overHashes false
      (.inTurn [keepCounters, expectNothing]) := by
  intro left right _ alike
  have runs (scene : Scene Unit HashRef) :
      countingMachine.run (inTurn [keepCounters, expectNothing]) scene =
        (.returned (), scene.withCounters) := by
    rw [inTurn, Machine.run_andThen, Act.bind_of_returned (run_keepCounters scene),
      inTurn, Machine.run_andThen, Act.bind_of_returned (run_expectNothing scene)]
    rfl
  rw [runs, runs]
  exact ⟨rfl, fun _ => alike.withCounters⟩

/-- A scenario that asks for a stub, needs a variable as the group left it, and counts. -/
def countingScenario : Scenario Unit HashRef :=
  ⟨"counts", [Hook.askStub "till", Hook.expectNumber "limit" 3, Hook.keepCounters],
    Hook.expectNothing⟩

/-- Its group, in which another scenario overwrites the variable and panics before it. -/
def countingGroup : Group Unit HashRef where
  name := "counters"
  guard := none
  beforeAll := [Code.setVariable "limit" (.integer 3), Hook.keepCounters]
  scenarios :=
    [⟨"overwrites", [Code.setVariable "limit" (.integer 9)],
      .panic (.literal "over the limit")⟩,
      countingScenario]

/-- The scenario that runs second is reported as if it were alone. -/
theorem report_eq_alone_counts :
    (Scene.new ⟨"x86_64-linux"⟩ ()).store.Corresponds Likeness.overHashes
      Likeness.overHashes.known
        (Scene.new ⟨"x86_64-linux"⟩ ()).store ∧
      (Registry.turns ⟨[countingGroup]⟩ ⟨none, false⟩)[1]? =
        some ⟨0, countingGroup, 1, countingScenario⟩ ∧
      Turn.Local countingMachine .overHashes ⟨0, countingGroup, 1, countingScenario⟩ ∧
      ∃ report,
        (Run.start ⟨[countingGroup]⟩ ⟨"x86_64-linux"⟩ ⟨none, false⟩
            (.new ⟨"x86_64-linux"⟩ ())).answer countingMachine 1 = some report ∧
          (Run.start (Turn.alone ⟨0, countingGroup, 1, countingScenario⟩) ⟨"x86_64-linux"⟩
            ⟨none, false⟩ (.new ⟨"x86_64-linux"⟩ ())).answer countingMachine 0 =
              some report := by
  have known :
      (Scene.new ⟨"x86_64-linux"⟩ ()).store.Corresponds Likeness.overHashes
        Likeness.overHashes.known (Scene.new ⟨"x86_64-linux"⟩ ()).store := {
    oneToOne := ⟨False.elim, False.elim⟩
    made := False.elim
    natures := False.elim }
  have isDue :
      (Registry.turns ⟨[countingGroup]⟩ ⟨none, false⟩)[1]? =
        some ⟨0, countingGroup, 1, countingScenario⟩ := rfl
  have isLocal :
      Turn.Local countingMachine .overHashes ⟨0, countingGroup, 1, countingScenario⟩ := {
    beforeAll :=
      Hook.local_inTurn (List.forall_mem_cons.mpr
        ⟨Hook.local_setVariable _ _ (fun _ => .integer 3) true "limit",
          List.forall_mem_singleton.mpr (Hook.local_keepCounters true)⟩)
    scenario :=
      (Hook.local_askStub _ _ "till").andThen
        ((Hook.local_expectNumber _ _ false "limit" 3).andThen Hook.local_expectNothing) }
  exact
    ⟨known, isDue, isLocal,
      Run.report_eq_alone countingMachine ⟨[countingGroup]⟩ ⟨"x86_64-linux"⟩ none _ _
        .overHashes known 1 _ isDue isLocal⟩

end Conformance
