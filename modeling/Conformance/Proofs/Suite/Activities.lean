import Conformance.Proofs.Suite.Reports

namespace Conformance

/-!
# What a run runs, and when

A call runs the hooks of a group only if it is the first to answer a turn of that
group, and then the hooks and the body of its own scenario; nothing runs twice.
The stubs that a scenario records are its own: the hooks of a group get none, and
those of other scenarios are made in other calls.
-/

namespace Activity

/-- The places of the group and of the scenario that a setup hook or body belongs to. -/
def scenario? : Activity → Option (Nat × Nat)
  | .groupHook _ _ => none
  | .setup group scenario _ => some (group, scenario)
  | .body group scenario => some (group, scenario)

end Activity

namespace Group

variable {World Label : Type} {machine : Machine World Label} {platform : Platform}
variable {group : Group World Label} {place : Nat}

theorem steps_nodup (group : Group World Label) (place : Nat) :
    ((group.steps place).map Prod.fst).Nodup := by
  have places : (group.beforeAll.zipIdx.map Prod.snd).Nodup := by
    rw [List.zipIdx_map_snd]
    exact List.nodup_range'
  rw [steps, List.map_map, List.nodup_iff_pairwise_ne, List.pairwise_map]
  refine (List.pairwise_map.mp places).imp ?_
  intro first second different same
  exact different (Activity.groupHook.inj same).2

theorem eq_groupHook_of_mem_steps
    {activity : Activity}
    (member : activity ∈ (group.steps place).map Prod.fst) :
    ∃ hook, activity = .groupHook place hook := by
  obtain ⟨step, stepMember, rfl⟩ := List.mem_map.mp member
  obtain ⟨⟨hook, index⟩, -, rfl⟩ := List.mem_map.mp stepMember
  exact ⟨index, rfl⟩

/-- What runs when a group is opened are hooks of the group, from the first one on. -/
theorem activate_prefix
    (machine : Machine World Label)
    (platform : Platform)
    (group : Group World Label)
    (place : Nat)
    (scene : Scene World Label) :
    (group.activate machine platform place scene).1.2 <+:
      (group.steps place).map Prod.fst := by
  have hooks :=
    machine.runHooks_upToFailure (group.steps place)
      (scene.enter (.forGroup platform))
  rw [activate]
  split
  · split
    · exact hooks.journal
    · exact List.nil_prefix
  · exact hooks.journal

theorem mode_of_withheld
    {scene : Scene World Label}
    (withheld :
      group.Refused platform ∨
        (group.hookRun machine platform place scene).1.ending.hookFailure? ≠ none) :
    (∃ reason, (group.activate machine platform place scene).1.1 = .skip reason) ∨
      ∃ message,
        (group.activate machine platform place scene).1.1 =
          .broken (.hook message) := by
  by_cases refused : group.Refused platform
  · obtain ⟨guard, guarded, refuses⟩ := refused
    rw [activate_of_refused guarded refuses]
    exact .inl ⟨_, rfl⟩
  · rw [activate_of_not_refused refused]
    cases failure :
        (group.hookRun machine platform place scene).1.ending.hookFailure? with
    | none => exact absurd failure (withheld.resolve_left refused)
    | some message =>
        rw [prepare_of_failed failure]
        exact .inr ⟨message, rfl⟩

theorem activate_grows
    (machine : Machine World Label)
    (platform : Platform)
    (group : Group World Label)
    (place : Nat)
    (scene : Scene World Label) :
    scene.store.Grows (group.activate machine platform place scene).2.store := by
  have hooks :=
    machine.runHooks_grows (group.steps place) (scene.enter (.forGroup platform))
  rw [activate]
  split
  · split
    · exact hooks.store
    · exact .refl scene.store
  · exact hooks.store

end Group

namespace Scenario

variable {World Label : Type} {scenario : Scenario World Label} {group place : Nat}

theorem steps_nodup (scenario : Scenario World Label) (group place : Nat) :
    ((scenario.steps group place).map Prod.fst).Nodup := by
  have places : (scenario.setup.zipIdx.map Prod.snd).Nodup := by
    rw [List.zipIdx_map_snd]
    exact List.nodup_range'
  rw [steps, List.map_append, List.map_map, List.nodup_append]
  refine ⟨?_, by simp, ?_⟩
  · rw [List.nodup_iff_pairwise_ne, List.pairwise_map]
    refine (List.pairwise_map.mp places).imp ?_
    intro first second different same
    exact different (Activity.setup.inj same).2.2
  · intro first firstMember second secondMember same
    obtain ⟨⟨hook, index⟩, -, rfl⟩ := List.mem_map.mp firstMember
    obtain rfl := List.mem_singleton.mp secondMember
    cases same

theorem scenario?_of_mem_steps
    {activity : Activity}
    (member : activity ∈ (scenario.steps group place).map Prod.fst) :
    activity.scenario? = some (group, place) := by
  obtain ⟨step, stepMember, rfl⟩ := List.mem_map.mp member
  rcases List.mem_append.mp stepMember with setup | body
  · obtain ⟨⟨hook, index⟩, -, rfl⟩ := List.mem_map.mp setup
    rfl
  · obtain rfl := List.mem_singleton.mp body
    rfl

end Scenario

namespace Call

variable {World Label : Type}
variable (machine : Machine World Label) (platform : Platform)
variable (call : Call World Label)

theorem hooks_prefix :
    call.hooks machine platform <+:
      (call.turn.group.steps call.turn.place).map Prod.fst := by
  cases opens : call.opens with
  | true =>
      rw [hooks_of_opens opens]
      exact Group.activate_prefix ..
  | false =>
      rw [hooks_of_not_opens opens]
      exact List.nil_prefix

/-- What else a call runs is its scenario, from the first setup hook on. -/
theorem settled_prefix :
    (call.settled machine platform).1.2 <+:
      (call.turn.scenario.steps call.turn.place call.turn.index).map Prod.fst := by
  rw [settled]
  cases (call.activation machine platform).1.1 with
  | run context =>
      exact (machine.runHooks_upToFailure
        (call.turn.scenario.steps call.turn.place call.turn.index) _).journal
  | skip reason => exact List.nil_prefix
  | broken cause => exact List.nil_prefix

theorem settled_grows :
    (call.ready machine platform).store.Grows
      (call.settled machine platform).2.store := by
  rw [settled]
  cases (call.activation machine platform).1.1 with
  | run context =>
      exact (machine.runHooks_grows
        (call.turn.scenario.steps call.turn.place call.turn.index)
        ((call.ready machine platform).enter context.fork)).store
  | skip reason => exact .refl _
  | broken cause => exact .refl _

/--
A call that opens its group in the scene it starts from takes no
object away before its turn.
-/
theorem ready_grows (fromStart : call.opens = true → call.opened = call.start) :
    call.start.store.Grows (call.ready machine platform).store := by
  cases opens : call.opens with
  | true =>
      rw [ready_of_opens opens, ← fromStart opens]
      exact Group.activate_grows ..
  | false =>
      rw [ready_of_not_opens opens]
      exact .refl _

/-- A call runs hooks of a group only when it opens it and its guard admits it. -/
theorem of_groupHook_mem_ran
    {place hook : Nat}
    (member : .groupHook place hook ∈ call.ran machine platform) :
    call.opens = true ∧ call.turn.place = place ∧
      ¬ call.turn.group.Refused platform := by
  rcases List.mem_append.mp member with amongHooks | amongOwn
  · obtain ⟨_, same⟩ :=
      Group.eq_groupHook_of_mem_steps
        ((call.hooks_prefix machine platform).subset amongHooks)
    cases opens : call.opens with
    | false =>
        rw [hooks_of_not_opens opens] at amongHooks
        cases amongHooks
    | true =>
        refine ⟨rfl, (Activity.groupHook.inj same).1.symm, ?_⟩
        rintro ⟨guard, guarded, refuses⟩
        rw [hooks_of_opens opens, activation,
          Group.activate_of_refused guarded refuses] at amongHooks
        cases amongHooks
  · cases Scenario.scenario?_of_mem_steps
      ((call.settled_prefix machine platform).subset amongOwn)

/-- A call runs setup hooks and a body of its own scenario only. -/
theorem of_scenario?_of_mem_ran
    {activity : Activity}
    {places : Nat × Nat}
    (member : activity ∈ call.ran machine platform)
    (ofScenario : activity.scenario? = some places) :
    (call.turn.place, call.turn.index) = places := by
  rcases List.mem_append.mp member with amongHooks | amongOwn
  · obtain ⟨_, rfl⟩ :=
      Group.eq_groupHook_of_mem_steps
        ((call.hooks_prefix machine platform).subset amongHooks)
    cases ofScenario
  · rw [Scenario.scenario?_of_mem_steps
      ((call.settled_prefix machine platform).subset amongOwn)] at ofScenario
    exact Option.some.inj ofScenario

theorem filter_ran :
    (call.ran machine platform).filter (fun activity => activity.scenario?.isNone) =
      call.hooks machine platform := by
  have hooksKept :
      (call.hooks machine platform).filter (fun activity => activity.scenario?.isNone) =
        call.hooks machine platform := by
    refine List.filter_eq_self.mpr fun activity member => ?_
    obtain ⟨_, rfl⟩ :=
      Group.eq_groupHook_of_mem_steps ((call.hooks_prefix machine platform).subset member)
    rfl
  have ownDropped :
      (call.settled machine platform).1.2.filter
        (fun activity => activity.scenario?.isNone) =
        [] := by
    refine List.filter_eq_nil_iff.mpr fun activity member => ?_
    rw [Scenario.scenario?_of_mem_steps
      ((call.settled_prefix machine platform).subset member)]
    simp
  rw [ran, List.filter_append, hooksKept, ownDropped, List.append_nil]

theorem ran_nodup : (call.ran machine platform).Nodup := by
  have hooks := call.hooks_prefix machine platform
  have settled := call.settled_prefix machine platform
  rw [ran, List.nodup_append]
  refine ⟨hooks.sublist.nodup (Group.steps_nodup _ _),
    settled.sublist.nodup (Scenario.steps_nodup _ _ _), ?_⟩
  rintro first firstMember second secondMember rfl
  obtain ⟨hook, rfl⟩ := Group.eq_groupHook_of_mem_steps (hooks.subset firstMember)
  cases Scenario.scenario?_of_mem_steps (settled.subset secondMember)

end Call

namespace Run

variable {World Label : Type}

/-- What the call after so many others ran. -/
def ran
    (machine : Machine World Label)
    (run : Run World Label)
    (count : Nat) :
    List Activity :=
  (run.after machine (count + 1)).journal.drop
    (run.after machine count).journal.length

/-- The group of a turn is refused, or its hooks did not all return when it was opened. -/
def Withholds
    (machine : Machine World Label)
    (platform : Platform)
    (due : List (Turn World Label))
    (run : Run World Label)
    (turn : Turn World Label) : Prop :=
  turn.group.Refused platform ∨
    (turn.group.hookRun machine platform turn.place
      (run.after machine (Turn.opening due turn.place)).scene).1.ending.hookFailure? ≠ none

end Run

/-- The moments of the scenario of a call, if it runs. -/
def Call.moments
    {World Label : Type}
    (machine : Machine World Label)
    (platform : Platform)
    (call : Call World Label) :
    List (Moment World Label) :=
  match (call.activation machine platform).1.1 with
  | .run context =>
      call.turn.scenario.moments machine call.turn.place call.turn.index context
        (call.ready machine platform)
  | _ => []

/--
A run runs hooks and bodies only in the calls whose turn it is, each at most
once, and keeps the stubs of different scenarios apart.
-/
structure Run.RunsInTurn
    {World Label : Type}
    (machine : Machine World Label)
    (registry : Registry World Label)
    (platform : Platform)
    (options : RunOptions)
    (run : Run World Label) : Prop where
  places : ∀ turn ∈ registry.turns options,
    registry.groups[turn.place]? = some turn.group ∧
      turn.group.scenarios[turn.index]? = some turn.scenario ∧
      options.selects turn.group.name turn.scenario.name = true
  reported : ∀ count report,
    run.answer machine count = some report →
    ∃ turn,
      (registry.turns options)[count]? = some turn ∧
        (report.group, report.scenario) = turn.names
  recorded : ∀ count,
    (run.after machine (count + 1)).journal =
      (run.after machine count).journal ++ run.ran machine count
  once : ∀ count, (run.after machine count).journal.Nodup
  groupHooks : ∀ count place hook,
    .groupHook place hook ∈ run.ran machine count →
    ∃ turn report,
      (registry.turns options)[count]? = some turn ∧
        run.answer machine count = some report ∧
        turn.place = place ∧ ¬ turn.group.Refused platform ∧
        ∀ earlier other,
          (registry.turns options)[earlier]? = some other →
            other.place = place → count ≤ earlier
  groupHooksInOrder : ∀ count turn report,
    (registry.turns options)[count]? = some turn →
    run.answer machine count = some report →
    (∀ earlier other,
      (registry.turns options)[earlier]? = some other →
      other.place = turn.place →
      count ≤ earlier) →
    ¬ turn.group.Refused platform →
    ∃ account finish,
      machine.UpToFailure (turn.group.steps turn.place)
        ((run.after machine count).scene.enter (.forGroup platform)) account finish ∧
      (run.ran machine count).filter (fun activity => activity.scenario?.isNone) =
        account.journal
  withheld : ∀ first second turn other report otherReport,
    (registry.turns options)[first]? = some turn →
    (registry.turns options)[second]? = some other →
    turn.place = other.place →
    run.answer machine first = some report →
    run.answer machine second = some otherReport →
    run.Withholds machine platform (registry.turns options) turn →
    report.outcome = otherReport.outcome ∧
      ((∃ reason, report.outcome = .skipped reason) ∨
        ∃ message, report.outcome = .errored (.hook message)) ∧
      ∀ activity ∈ run.ran machine first, activity.scenario? = none
  own : ∀ count place index activity,
    activity ∈ run.ran machine count →
    activity.scenario? = some (place, index) →
    ∃ turn report,
      (registry.turns options)[count]? = some turn ∧
        run.answer machine count = some report ∧
        turn.place = place ∧ turn.index = index
  ended : ∀ count later,
    (run.after machine count).halted = true ∨
      (registry.turns options).length ≤ count →
    count ≤ later →
    run.answer machine later = none ∧ run.ran machine later = []
  groupStubs : ∀ count (turn : Turn World Label),
    (registry.turns options)[count]? = some turn →
    ∀ moment ∈ turn.group.moments machine platform turn.place (run.after machine count).scene,
      moment.scene.context.stubs = [] ∧
        ∀ name before answer after,
          moment = .askedStub name before answer after →
          answer = .error (.groupStub name) ∧ after = before
  scenarioStubs : ∀ first second turn other report otherReport moment otherMoment stub,
    (registry.turns options)[first]? = some turn →
    (registry.turns options)[second]? = some other →
    run.answer machine first = some report →
    run.answer machine second = some otherReport →
    moment ∈ (run.call machine (registry.turns options) first turn).moments
      machine platform →
    otherMoment ∈ (run.call machine (registry.turns options) second other).moments
      machine platform →
    stub ∈ moment.scene.context.stubs →
    stub ∈ otherMoment.scene.context.stubs →
    first = second

namespace Run

variable {World Label : Type}
variable {machine : Machine World Label}
variable {run : Run World Label} {due : List (Turn World Label)}
variable {count : Nat} {turn : Turn World Label}

/-- A call that opens a group starts in the scene that the group is opened on. -/
theorem opened_of_opens
    (opens : (run.call machine due count turn).opens = true) :
    (run.call machine due count turn).opened =
      (run.call machine due count turn).start := by
  have first : Turn.opening due turn.place = count := by simpa [call] using opens
  simp only [call, first]

theorem Answers.ran
    {call : Call World Label}
    (answers : run.Answers machine count call) :
    run.ran machine count = call.ran machine run.platform := by
  rw [Run.ran, answers.journal, List.drop_left]

theorem Silent.ran (silent : run.Silent machine count) :
    run.ran machine count = [] := by
  rw [Run.ran, silent.journal, List.drop_length]

theorem journal_succ
    (obeyed : ∀ count, run.Obeys machine due count)
    (count : Nat) :
    (run.after machine (count + 1)).journal =
      (run.after machine count).journal ++ run.ran machine count := by
  rcases answers_or_silent obeyed count with ⟨turn, -, answers⟩ | ⟨-, silent⟩
  · rw [answers.ran, answers.journal]
  · rw [silent.ran, silent.journal, List.append_nil]

theorem exists_of_mem_journal
    (obeyed : ∀ count, run.Obeys machine due count)
    (fresh : run.journal = [])
    {activity : Activity}
    (member : activity ∈ (run.after machine count).journal) :
    ∃ earlier < count, activity ∈ run.ran machine earlier := by
  induction count with
  | zero =>
      rw [after_zero, fresh] at member
      cases member
  | succ count inductionHypothesis =>
      rw [journal_succ obeyed] at member
      rcases List.mem_append.mp member with before | now
      · obtain ⟨earlier, bound, ran⟩ := inductionHypothesis before
        exact ⟨earlier, Nat.lt_succ_of_lt bound, ran⟩
      · exact ⟨count, Nat.lt_succ_self count, now⟩

theorem answers_of_mem_ran
    (obeyed : ∀ count, run.Obeys machine due count)
    {activity : Activity}
    (member : activity ∈ run.ran machine count) :
    ∃ turn,
      due[count]? = some turn ∧
        run.Answers machine count (run.call machine due count turn) := by
  rcases answers_or_silent obeyed count with found | ⟨-, silent⟩
  · exact found
  · rw [silent.ran] at member
    cases member

theorem answers_of_answer
    (obeyed : ∀ count, run.Obeys machine due count)
    {report : Report}
    (isDue : due[count]? = some turn)
    (answered : run.answer machine count = some report) :
    run.Answers machine count (run.call machine due count turn) ∧
      (run.call machine due count turn).report machine run.platform = report := by
  rcases answers_or_silent obeyed count with ⟨other, isOther, answers⟩ | ⟨-, silent⟩
  · rw [isDue] at isOther
    cases isOther
    refine ⟨answers, ?_⟩
    rw [answers.answer] at answered
    exact Option.some.inj answered
  · rw [silent.answer] at answered
    cases answered

theorem store_grows_succ
    (obeyed : ∀ count, run.Obeys machine due count)
    (count : Nat) :
    (run.after machine count).scene.store.Grows
      (run.after machine (count + 1)).scene.store := by
  rcases answers_or_silent obeyed count with ⟨turn, -, answers⟩ | ⟨-, silent⟩
  · rw [answers.scene]
    exact ((run.call machine due count turn).ready_grows machine run.platform
      opened_of_opens).trans
        ((run.call machine due count turn).settled_grows machine run.platform)
  · rw [silent.scene]
    exact .refl _

theorem store_grows
    (obeyed : ∀ count, run.Obeys machine due count)
    {later : Nat}
    (notBefore : count ≤ later) :
    (run.after machine count).scene.store.Grows
      (run.after machine later).scene.store := by
  induction notBefore with
  | refl => exact .refl _
  | step _ inductionHypothesis =>
      exact inductionHypothesis.trans (store_grows_succ obeyed _)

end Run

namespace Run

variable {World Label : Type}
variable {machine : Machine World Label} {registry : Registry World Label}
variable {options : RunOptions} {run : Run World Label} {count : Nat}

/-- Nothing runs twice in a run. -/
theorem journal_nodup
    (obeyed : ∀ count, run.Obeys machine (registry.turns options) count)
    (fresh : run.journal = [])
    (count : Nat) :
    (run.after machine count).journal.Nodup := by
  induction count with
  | zero =>
      rw [after_zero, fresh]
      exact .nil
  | succ count inductionHypothesis =>
      have nodupRan : (run.ran machine count).Nodup := by
        rcases answers_or_silent obeyed count with ⟨turn, -, answers⟩ | ⟨-, silent⟩
        · rw [answers.ran]
          exact Call.ran_nodup ..
        · rw [silent.ran]
          exact .nil
      rw [journal_succ obeyed, List.nodup_append]
      refine ⟨inductionHypothesis, nodupRan, ?_⟩
      rintro activity before _ now rfl
      -- an activity names the call that runs it: the opening of its group,
      -- or its scenario's turn
      obtain ⟨earlier, bound, ranBefore⟩ := exists_of_mem_journal obeyed fresh before
      obtain ⟨earlierTurn, earlierDue, earlierAnswers⟩ :=
        answers_of_mem_ran obeyed ranBefore
      obtain ⟨turn, isDue, answers⟩ := answers_of_mem_ran obeyed now
      rw [earlierAnswers.ran] at ranBefore
      rw [answers.ran] at now
      have sameCall : earlier = count := by
        cases ofScenario : activity.scenario? with
        | none =>
            cases activity with
            | groupHook place hook =>
                obtain ⟨earlierOpens, earlierPlace, -⟩ :=
                  Call.of_groupHook_mem_ran _ _ _ ranBefore
                obtain ⟨opens, samePlace, -⟩ := Call.of_groupHook_mem_ran _ _ _ now
                simp only [call, beq_iff_eq] at earlierOpens opens earlierPlace samePlace
                rw [← earlierOpens, ← opens, earlierPlace, samePlace]
            | setup group scenario hook => cases ofScenario
            | body group scenario => cases ofScenario
        | some places =>
            have earlierPlaces :=
              Call.of_scenario?_of_mem_ran _ _ _ ranBefore ofScenario
            have nowPlaces := Call.of_scenario?_of_mem_ran _ _ _ now ofScenario
            obtain ⟨samePlace, sameIndex⟩ :=
              Prod.mk.inj (earlierPlaces.trans nowPlaces.symm)
            exact Registry.turns_unique earlierDue isDue samePlace sameIndex
      omega

theorem activation_eq
    (first second : Nat)
    {due : List (Turn World Label)}
    {turn other : Turn World Label}
    (samePlace : turn.place = other.place)
    (sameGroup : turn.group = other.group)
    (platform : Platform) :
    (run.call machine due first turn).activation machine platform =
      (run.call machine due second other).activation machine platform := by
  simp only [Call.activation, call, samePlace, sameGroup]

/--
A turn of a group that is not run is answered as the group is
treated, and runs nothing.
-/
theorem settled_of_withheld
    (count : Nat)
    {due : List (Turn World Label)}
    {turn : Turn World Label}
    (withheld : run.Withholds machine run.platform due turn) :
    ∃ outcome,
      ((run.call machine due count turn).settled machine run.platform).1 =
        (outcome, []) ∧
        ((∃ reason,
            ((run.call machine due count turn).activation machine run.platform).1.1 =
                .skip reason ∧
              outcome = .skipped reason) ∨
          ∃ message,
            ((run.call machine due count turn).activation machine run.platform).1.1 =
                .broken (.hook message) ∧
              outcome = .errored (.hook message)) := by
  rcases Group.mode_of_withheld withheld with ⟨reason, mode⟩ | ⟨message, mode⟩
  · have treated :
        ((run.call machine due count turn).activation machine run.platform).1.1 =
          .skip reason := mode
    refine ⟨.skipped reason, ?_, .inl ⟨reason, treated, rfl⟩⟩
    rw [Call.settled, treated]
    rfl
  · have treated :
        ((run.call machine due count turn).activation machine run.platform).1.1 =
          .broken (.hook message) := mode
    refine ⟨.errored (.hook message), ?_, .inr ⟨message, treated, rfl⟩⟩
    rw [Call.settled, treated]
    rfl

/--
In a group that is not run all turns are answered alike, and none
of its scenarios runs.
-/
theorem withheld_alike
    (obeyed : ∀ count, run.Obeys machine (registry.turns options) count)
    {first second : Nat}
    {turn other : Turn World Label}
    {report otherReport : Report}
    (isDue : (registry.turns options)[first]? = some turn)
    (otherDue : (registry.turns options)[second]? = some other)
    (samePlace : turn.place = other.place)
    (answered : run.answer machine first = some report)
    (otherAnswered : run.answer machine second = some otherReport)
    (withheld : run.Withholds machine run.platform (registry.turns options) turn) :
    report.outcome = otherReport.outcome ∧
      ((∃ reason, report.outcome = .skipped reason) ∨
        ∃ message, report.outcome = .errored (.hook message)) ∧
      ∀ activity ∈ run.ran machine first, activity.scenario? = none := by
  obtain ⟨answers, rfl⟩ := answers_of_answer obeyed isDue answered
  obtain ⟨-, rfl⟩ := answers_of_answer obeyed otherDue otherAnswered
  have sameGroup : turn.group = other.group :=
    Registry.group_eq_of_place_eq (List.mem_of_getElem? isDue)
      (List.mem_of_getElem? otherDue) samePlace
  have otherWithheld :
      run.Withholds machine run.platform (registry.turns options) other := by
    rw [Withholds, ← samePlace, ← sameGroup]
    exact withheld
  obtain ⟨outcome, settled, treated⟩ := settled_of_withheld first withheld
  obtain ⟨otherOutcome, otherSettled, otherTreated⟩ :=
    settled_of_withheld second otherWithheld
  rw [← activation_eq first second samePlace sameGroup] at otherTreated
  have sameOutcome : outcome = otherOutcome := by
    rcases treated with ⟨reason, mode, rfl⟩ | ⟨message, mode, rfl⟩
    · rw [mode] at otherTreated
      rcases otherTreated with ⟨_, same, rfl⟩ | ⟨_, same, -⟩
      · rw [Mode.skip.inj same]
      · cases same
    · rw [mode] at otherTreated
      rcases otherTreated with ⟨_, same, -⟩ | ⟨_, same, rfl⟩
      · cases same
      · exact congrArg Outcome.errored (Mode.broken.inj same)
  refine ⟨?_, ?_, ?_⟩
  · rw [Call.report, settled, Call.report, otherSettled]
    exact sameOutcome
  · rw [Call.report, settled]
    rcases treated with ⟨reason, -, isSkipped⟩ | ⟨message, -, isBroken⟩
    · exact .inl ⟨reason, isSkipped⟩
    · exact .inr ⟨message, isBroken⟩
  · intro activity member
    rw [answers.ran, Call.ran, settled, List.append_nil] at member
    obtain ⟨hook, rfl⟩ :=
      Group.eq_groupHook_of_mem_steps ((Call.hooks_prefix _ _ _).subset member)
    rfl

/-- A stub that is recorded while the scenario of a call runs was made in that call. -/
theorem made_of_mem_moments
    {due : List (Turn World Label)}
    {turn : Turn World Label}
    (answers : run.Answers machine count (run.call machine due count turn))
    {moment : Moment World Label}
    (member : moment ∈ (run.call machine due count turn).moments machine run.platform)
    {stub : Nat}
    (recorded : stub ∈ moment.scene.context.stubs) :
    (run.after machine count).scene.store.next ≤ stub ∧
      stub < (run.after machine (count + 1)).scene.store.next := by
  have ready :=
    ((run.call machine due count turn).ready_grows machine run.platform opened_of_opens).next_le
  rw [answers.scene]
  rw [Call.settled]
  unfold Call.moments at member
  cases mode :
      ((run.call machine due count turn).activation machine run.platform).1.1 with
  | run context =>
      rw [mode] at member
      obtain ⟨fresh, made⟩ := Scenario.made_of_mem_moments member recorded
      exact ⟨Nat.le_trans ready fresh, made⟩
  | skip reason =>
      rw [mode] at member
      cases member
  | broken cause =>
      rw [mode] at member
      cases member

variable (machine registry options)

/-- Every run of a registry runs hooks and bodies in their turns only. -/
theorem runsInTurn (platform : Platform) (scene : Scene World Label) :
    (Run.start registry platform options scene).RunsInTurn machine registry
      platform options := by
  have obeyed := obeys machine registry platform options scene
  exact {
    places := fun turn member => Registry.of_mem_turns member
    reported := by
      intro count report answered
      rcases answers_or_silent obeyed count with ⟨turn, isDue, answers⟩ | ⟨-, silent⟩
      · rw [answers.answer] at answered
        cases answered
        exact ⟨turn, isDue, rfl⟩
      · rw [silent.answer] at answered
        cases answered
    recorded := journal_succ obeyed
    once := journal_nodup obeyed rfl
    groupHooks := by
      intro count place hook member
      obtain ⟨turn, isDue, answers⟩ := answers_of_mem_ran obeyed member
      rw [answers.ran] at member
      obtain ⟨opens, samePlace, admitted⟩ := Call.of_groupHook_mem_ran _ _ _ member
      refine ⟨turn, _, isDue, answers.answer, samePlace, admitted, ?_⟩
      intro earlier other isOther ofGroup
      have first : Turn.opening (registry.turns options) place = count := by
        simpa [call, ← samePlace] using opens
      rw [← first, ← ofGroup]
      exact Turn.opening_le isOther
    groupHooksInOrder := by
      intro count turn report isDue answered isFirst admitted
      obtain ⟨answers, -⟩ := answers_of_answer obeyed isDue answered
      have first : Turn.opening (registry.turns options) turn.place = count := by
        obtain ⟨opener, openerDue, samePlace⟩ := Turn.opening_spec isDue
        exact Nat.le_antisymm (Turn.opening_le isDue)
          (isFirst _ opener openerDue samePlace)
      have opens :
          ((Run.start registry platform options scene).call machine
            (registry.turns options) count turn).opens = true := by
        simpa [call] using first
      refine ⟨_, _, machine.runHooks_upToFailure _ _, ?_⟩
      rw [answers.ran, Call.filter_ran, Call.hooks_of_opens opens, Call.activation,
        opened_of_opens opens, Group.activate_of_not_refused (by exact admitted)]
      rfl
    withheld := by
      intro first second turn other report otherReport isDue otherDue samePlace answered
        otherAnswered withheld
      exact withheld_alike obeyed isDue otherDue samePlace answered otherAnswered withheld
    own := by
      intro count place index activity member ofScenario
      obtain ⟨turn, isDue, answers⟩ := answers_of_mem_ran obeyed member
      rw [answers.ran] at member
      obtain ⟨samePlace, sameIndex⟩ :=
        Prod.mk.inj (Call.of_scenario?_of_mem_ran _ _ _ member ofScenario)
      exact ⟨turn, _, isDue, answers.answer, samePlace, sameIndex⟩
    ended := by
      intro count later ended notBefore
      obtain ⟨silent, -⟩ := silent_of_ended obeyed ended notBefore
      exact ⟨silent.answer, silent.ran⟩
    groupStubs := by
      intro count turn isDue moment member
      refine ⟨Group.stubs_of_mem_moments member, ?_⟩
      rintro name before answer after rfl
      exact Group.refused_of_mem_moments member
    scenarioStubs := by
      intro first second turn other report otherReport moment otherMoment stub
        isDue otherDue answered otherAnswered member otherMember recorded otherRecorded
      obtain ⟨answers, -⟩ := answers_of_answer obeyed isDue answered
      obtain ⟨otherAnswers, -⟩ := answers_of_answer obeyed otherDue otherAnswered
      obtain ⟨notBefore, below⟩ := made_of_mem_moments answers member recorded
      obtain ⟨otherNotBefore, otherBelow⟩ :=
        made_of_mem_moments otherAnswers otherMember otherRecorded
      rcases Nat.lt_trichotomy first second with before | same | before
      · have := (store_grows obeyed (by omega : first + 1 ≤ second)).next_le
        omega
      · exact same
      · have := (store_grows obeyed (by omega : second + 1 ≤ first)).next_le
        omega }

end Run

end Conformance
