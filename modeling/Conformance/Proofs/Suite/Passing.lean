import Conformance.Proofs.Suite.Activities
import Conformance.Proofs.Suite.Tallies

namespace Conformance

/-!
# Runs in which nothing fails

A group is sound on a platform when its hooks return and each of its scenarios then
passes, whatever the scenes they start from.  If every group that is not refused is
sound, then nothing ever stops a run: it reports every selected scenario, passed or
skipped as its group is admitted or refused, and runs nothing of a refused group.
-/

/-- A scenario passes in a context, from every scene. -/
def Scenario.Passes
    {World Label : Type}
    (machine : Machine World Label)
    (context : Context)
    (scenario : Scenario World Label) : Prop :=
  ∀ group place scene,
    (scenario.execute machine group place context scene).1.1 = .passed

/--
The hooks of a group return from every scene, and its scenarios
pass in what they leave.
-/
structure Group.Sound
    {World Label : Type}
    (machine : Machine World Label)
    (platform : Platform)
    (group : Group World Label) : Prop where
  hooksReturn : ∀ place scene,
    (group.hookRun machine platform place scene).1.ending.hookFailure? = none
  scenariosPass : ∀ place scene,
    ∀ scenario ∈ group.scenarios,
      scenario.Passes machine (group.hookRun machine platform place scene).2.context

/-- The outcome of every scenario of a group that is sound where it is admitted. -/
def Group.verdict
    {World Label : Type}
    (group : Group World Label)
    (platform : Platform) : Outcome :=
  match group.guard with
  | some guard =>
      if guard.allows platform then .passed else .skipped (guard.skipReason platform)
  | none => .passed

/-- The reports of the selected scenarios of a group, all of them with one outcome. -/
def RunOptions.reports
    {World Label : Type}
    (options : RunOptions)
    (group : Group World Label)
    (outcome : Outcome) : List Report :=
  (options.selectedNames group).map fun (group, scenario) =>
    ⟨group, scenario, outcome⟩

/-- The report of a turn whose group is sound where it is admitted. -/
def Turn.expected
    {World Label : Type}
    (platform : Platform)
    (turn : Turn World Label) : Report :=
  ⟨turn.group.name, turn.scenario.name, turn.group.verdict platform⟩

/-- The place of the group that a hook or body belongs to. -/
def Activity.place : Activity → Nat
  | .groupHook group _ => group
  | .setup group _ _ => group
  | .body group _ => group

namespace Group

variable {World Label : Type} {group : Group World Label} {platform : Platform}

theorem verdict_of_refused
    {guard : Guard}
    (guarded : group.guard = some guard)
    (refuses : guard.allows platform = false) :
    group.verdict platform = .skipped (guard.skipReason platform) := by
  simp [verdict, guarded, refuses]

theorem verdict_of_admitted (admitted : ¬ group.Refused platform) :
    group.verdict platform = .passed := by
  unfold verdict
  cases guarded : group.guard with
  | none => rfl
  | some guard =>
      cases allowed : guard.allows platform with
      | true => simp [allowed]
      | false => exact absurd ⟨guard, guarded, allowed⟩ admitted

theorem verdict_not_fails : ¬ (group.verdict platform).Fails := by
  by_cases refused : group.Refused platform
  · obtain ⟨guard, guarded, refuses⟩ := refused
    rw [verdict_of_refused guarded refuses]
    nofun
  · rw [verdict_of_admitted refused]
    nofun

end Group

namespace Call

variable {World Label : Type} {machine : Machine World Label} {platform : Platform}
variable {call : Call World Label}

/-- A call comes to the verdict of its group, if this is sound where it is admitted. -/
theorem ComesTo.eq_verdict
    {outcome : Outcome}
    (comesTo : call.ComesTo machine platform outcome)
    (sound :
      ¬ call.turn.group.Refused platform → call.turn.group.Sound machine platform)
    (belongs : call.turn.scenario ∈ call.turn.group.scenarios) :
    outcome = call.turn.group.verdict platform := by
  cases comesTo with
  | skipped guarded refuses => exact (Group.verdict_of_refused guarded refuses).symm
  | broken admitted failed =>
      rw [(sound admitted).hooksReturn] at failed
      cases failed
  | executed admitted returned =>
      rw [Group.verdict_of_admitted admitted]
      exact (sound admitted).scenariosPass _ _ _ belongs _ _ _

theorem report_of_sound
    (sound :
      ¬ call.turn.group.Refused platform → call.turn.group.Sound machine platform)
    (belongs : call.turn.scenario ∈ call.turn.group.scenarios) :
    call.report machine platform = call.turn.expected platform := by
  have verdict := (call.comesTo machine platform).eq_verdict sound belongs
  rw [Turn.expected, ← verdict]
  rfl

/--
A call runs nothing but hooks and bodies of its group, and those only
if its guard admits it.
-/
theorem of_mem_ran
    {activity : Activity}
    (member : activity ∈ call.ran machine platform) :
    activity.place = call.turn.place ∧ ¬ call.turn.group.Refused platform := by
  refine ⟨?_, ?_⟩
  · cases activity with
    | groupHook group hook =>
        exact (of_groupHook_mem_ran machine platform call member).2.1.symm
    | setup group scenario hook =>
        exact (congrArg Prod.fst
          (of_scenario?_of_mem_ran machine platform call member rfl)).symm
    | body group scenario =>
        exact (congrArg Prod.fst
          (of_scenario?_of_mem_ran machine platform call member rfl)).symm
  · rintro ⟨guard, guarded, refuses⟩
    simp [ran, hooks, settled, activation, Group.activate_of_refused guarded refuses,
      Mode.settle] at member

end Call

namespace Registry

variable {World Label : Type}

theorem expected_turns_of_group
    (options : RunOptions)
    (platform : Platform)
    (entry : Nat × Group World Label) :
    (options.turns entry).map (Turn.expected platform) =
      options.reports entry.2 (entry.2.verdict platform) := by
  rw [RunOptions.reports, ← names_turns_of_group, List.map_map]
  apply List.map_congr_left
  intro turn member
  obtain ⟨_, _, rfl⟩ := List.mem_map.mp member
  rfl

/-- The reports that are expected of a registry, group by group. -/
theorem expected_turns
    (registry : Registry World Label)
    (options : RunOptions)
    (platform : Platform) :
    (registry.turns options).map (Turn.expected platform) =
      registry.groups.flatMap fun group =>
        options.reports group (group.verdict platform) := by
  have groups := map_snd_places registry.groups
  rw [← groups, List.flatMap_map, turns, List.map_flatMap]
  simp only [expected_turns_of_group]

end Registry

namespace Run

variable {World Label : Type} {machine : Machine World Label} {run : Run World Label}
variable {registry : Registry World Label} {options : RunOptions}
variable {platform : Platform}

/--
One call of a run whose groups are sound does not halt it, and
answers as its turn is to.
-/
theorem step_of_sound
    (obeyed : ∀ count, run.Obeys machine (registry.turns options) count)
    (sound : ∀ group ∈ registry.groups,
      ¬ group.Refused run.platform → group.Sound machine run.platform)
    {count : Nat}
    (running : (run.after machine count).halted = false) :
    (run.after machine (count + 1)).halted = false ∧
      run.answer machine count =
        ((registry.turns options)[count]?).map (Turn.expected run.platform) := by
  cases isDue : (registry.turns options)[count]? with
  | none =>
      have silent := (obeyed count).exhausted running isDue
      exact ⟨silent.halted.trans running, silent.answer⟩
  | some turn =>
      have answers := (obeyed count).answers turn running isDue
      obtain ⟨group, scenario, -⟩ :=
        Registry.of_mem_turns (List.mem_of_getElem? isDue)
      have reported :
          (run.call machine (registry.turns options) count turn).report
            machine run.platform =
            turn.expected run.platform :=
        Call.report_of_sound (sound turn.group (List.mem_of_getElem? group))
          (List.mem_of_getElem? scenario)
      have noFailure : (turn.expected run.platform).outcome.isFailure = false :=
        Bool.eq_false_iff.mpr (mt Outcome.isFailure_iff.mp Group.verdict_not_fails)
      refine ⟨?_, ?_⟩
      · rw [answers.halted, reported, noFailure, Bool.and_false]
      · rw [answers.answer, reported, Option.map_some]

/--
A run whose groups are sound is never halted, and reports its
turns one after another.
-/
theorem pull_of_sound
    (obeyed : ∀ count, run.Obeys machine (registry.turns options) count)
    (sound : ∀ group ∈ registry.groups,
      ¬ group.Refused run.platform → group.Sound machine run.platform)
    (running : run.halted = false)
    (count : Nat) :
    (run.after machine count).halted = false ∧
      (run.pull machine count).1 =
        ((registry.turns options).take count).map (Turn.expected run.platform) := by
  induction count with
  | zero => exact ⟨running, rfl⟩
  | succ count inductionHypothesis =>
      obtain ⟨stillRunning, pulled⟩ := inductionHypothesis
      obtain ⟨runsOn, answered⟩ := step_of_sound obeyed sound stillRunning
      refine ⟨runsOn, ?_⟩
      rw [pull_reports_succ, pulled, answered, List.take_add_one, List.map_append]
      cases (registry.turns options)[count]? <;> rfl

/--
A run of sound groups reports the verdicts of its groups on every selected scenario.
-/
theorem complete_of_sound
    (sound : ∀ group ∈ registry.groups,
      ¬ group.Refused platform → group.Sound machine platform)
    (scene : Scene World Label) :
    ((Run.start registry platform options scene).complete machine).1 =
      registry.groups.flatMap fun group =>
        options.reports group (group.verdict platform) := by
  have obeyed := obeys machine registry platform options scene
  have pulled := (pull_of_sound obeyed sound rfl (registry.turns options).length).2
  rw [List.take_length, Registry.expected_turns] at pulled
  rw [complete, owed_start]
  exact pulled

/-- Whatever a run has run belongs to a group that its guard admits. -/
theorem admitted_of_mem_journal
    (scene : Scene World Label)
    {count : Nat}
    {activity : Activity}
    (member :
      activity ∈
        ((Run.start registry platform options scene).after machine count).journal) :
    ∃ group, registry.groups[activity.place]? = some group ∧
      ¬ group.Refused platform := by
  have obeyed := obeys machine registry platform options scene
  obtain ⟨earlier, -, ran⟩ := exists_of_mem_journal obeyed rfl member
  obtain ⟨turn, isDue, answers⟩ := answers_of_mem_ran obeyed ran
  rw [answers.ran] at ran
  obtain ⟨place, admitted⟩ := Call.of_mem_ran ran
  obtain ⟨group, -⟩ := Registry.of_mem_turns (List.mem_of_getElem? isDue)
  exact ⟨turn.group, place ▸ group, admitted⟩

end Run

end Conformance
