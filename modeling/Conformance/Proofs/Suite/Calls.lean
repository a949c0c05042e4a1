import Conformance.Proofs.Suite.Turns
import Conformance.Suite.Run

namespace Conformance

/-!
# Calls

A run that is not halted has its next turns before it: those left in the active
group, and then those of the groups that wait.  So the call in which a turn is
answered is known, and with it everything that the call runs.
-/

namespace Run

variable {World Label : Type}

/-- The run after so many calls. -/
def after
    (machine : Machine World Label)
    (run : Run World Label)
    (count : Nat) :
    Run World Label :=
  (run.pull machine count).2

/-- What the next call after so many answers. -/
def answer
    (machine : Machine World Label)
    (run : Run World Label)
    (count : Nat) :
    Option Report :=
  ((run.after machine count).next machine).1

end Run

/-- A call that answers a turn: what it starts from, and what its group was opened on. -/
structure Call (World Label : Type) where
  turn : Turn World Label
  opens : Bool
  opened : Scene World Label
  start : Scene World Label

namespace Call

variable {World Label : Type}
variable (machine : Machine World Label) (platform : Platform)
variable (call : Call World Label)

/-- How the group of the turn was opened. -/
def activation : (Mode × List Activity) × Scene World Label :=
  call.turn.group.activate machine platform call.turn.place call.opened

/-- The hooks of the group that the call runs: only a call that opens the group does. -/
def hooks : List Activity :=
  if call.opens then (call.activation machine platform).1.2 else []

/-- The scene in which the scenario has its turn. -/
def ready : Scene World Label :=
  if call.opens then (call.activation machine platform).2 else call.start

/-- What the scenario comes to, what runs for it, and the scene it leaves. -/
def settled : (Outcome × List Activity) × Scene World Label :=
  (call.activation machine platform).1.1.settle machine call.turn.place call.turn.index
    call.turn.scenario (call.ready machine platform)

/-- The report of the call. -/
def report : Report :=
  ⟨call.turn.group.name, call.turn.scenario.name,
    (call.settled machine platform).1.1⟩

/-- Everything that the call runs. -/
def ran : List Activity :=
  call.hooks machine platform ++ (call.settled machine platform).1.2

variable {machine platform call}

theorem hooks_of_opens (opens : call.opens = true) :
    call.hooks machine platform = (call.activation machine platform).1.2 := by
  rw [hooks, if_pos opens]

theorem ready_of_opens (opens : call.opens = true) :
    call.ready machine platform = (call.activation machine platform).2 := by
  rw [ready, if_pos opens]

theorem hooks_of_not_opens (notOpens : call.opens = false) :
    call.hooks machine platform = [] := by
  rw [hooks, notOpens]
  rfl

theorem ready_of_not_opens (notOpens : call.opens = false) :
    call.ready machine platform = call.start := by
  rw [ready, notOpens]
  rfl

end Call

namespace Run

variable {World Label : Type}

/-- The call of a turn that is due after so many others. -/
def call
    (machine : Machine World Label)
    (run : Run World Label)
    (due : List (Turn World Label))
    (count : Nat)
    (turn : Turn World Label) :
    Call World Label where
  turn := turn
  opens := Turn.opening due turn.place == count
  opened := (run.after machine (Turn.opening due turn.place)).scene
  start := (run.after machine count).scene

/-- The call after so many others answers as a call of its turn does. -/
structure Answers
    (machine : Machine World Label)
    (run : Run World Label)
    (count : Nat)
    (call : Call World Label) : Prop where
  answer : run.answer machine count = some (call.report machine run.platform)
  journal :
    (run.after machine (count + 1)).journal =
      (run.after machine count).journal ++ call.ran machine run.platform
  scene : (run.after machine (count + 1)).scene =
    (call.settled machine run.platform).2
  tally :
    (run.after machine (count + 1)).tally =
      (run.after machine count).tally.record (call.report machine run.platform).outcome
  halted :
    (run.after machine (count + 1)).halted =
      (run.options.stopOnFail && (call.report machine run.platform).outcome.isFailure)

/-- The call after so many others answers nothing and changes nothing that can be seen. -/
structure Silent
    (machine : Machine World Label)
    (run : Run World Label)
    (count : Nat) : Prop where
  answer : run.answer machine count = none
  journal : (run.after machine (count + 1)).journal =
    (run.after machine count).journal
  scene : (run.after machine (count + 1)).scene = (run.after machine count).scene
  tally : (run.after machine (count + 1)).tally = (run.after machine count).tally
  halted : (run.after machine (count + 1)).halted = (run.after machine count).halted

end Run

namespace Run

variable {World Label : Type}
variable {machine : Machine World Label}

@[simp] theorem after_zero (run : Run World Label) : run.after machine 0 = run :=
  rfl

theorem after_succ_first
    (machine : Machine World Label)
    (run : Run World Label)
    (count : Nat) :
    run.after machine (count + 1) = (run.next machine).2.after machine count := by
  unfold after
  rw [pull]
  rcases run.next machine with ⟨_ | report, reached⟩ <;> rfl

theorem after_succ
    (machine : Machine World Label)
    (run : Run World Label)
    (count : Nat) :
    run.after machine (count + 1) = ((run.after machine count).next machine).2 := by
  induction count generalizing run with
  | zero =>
      rw [after_succ_first]
      rfl
  | succ count inductionHypothesis =>
      rw [after_succ_first, inductionHypothesis, ← after_succ_first]

/-- Pulling collects the answers in order. -/
theorem pull_reports (run : Run World Label) (count : Nat) :
    (run.pull machine count).1 =
      (List.range count).filterMap (run.answer machine) := by
  induction count generalizing run with
  | zero => rfl
  | succ count inductionHypothesis =>
      have later :
          (List.range count).filterMap ((run.next machine).2.answer machine) =
            (List.range count).filterMap (run.answer machine ∘ Nat.succ) := by
        congr 1
        funext index
        simp only [answer, Function.comp_apply, after_succ_first,
          Nat.succ_eq_add_one]
      have first : run.answer machine 0 = (run.next machine).1 := rfl
      rw [List.range_succ_eq_map, List.filterMap_cons, List.filterMap_map, ← later,
        ← inductionHypothesis, first, pull]
      rcases run.next machine with ⟨_ | report, reached⟩ <;> rfl

/-- One more call adds what it answers to what was pulled before. -/
theorem pull_reports_succ
    (machine : Machine World Label)
    (run : Run World Label)
    (count : Nat) :
    (run.pull machine (count + 1)).1 =
      (run.pull machine count).1 ++ (run.answer machine count).toList := by
  rw [pull_reports, pull_reports, List.range_succ, List.filterMap_append]
  cases answered : run.answer machine count <;> simp [answered]

theorem report_eq
    (run : Run World Label)
    (active : ActiveGroup World Label)
    (index : Nat)
    (scenario : Scenario World Label)
    {outcome : Outcome}
    {activities : List Activity}
    {reached : Scene World Label}
    (settled :
      active.mode.settle machine active.place index scenario run.scene =
        ((outcome, activities), reached)) :
    run.report machine active index scenario =
      (⟨active.name, scenario.name, outcome⟩,
        { run with
          active := some active
          tally := run.tally.record outcome
          halted := run.options.stopOnFail && outcome.isFailure
          journal := run.journal ++ activities
          scene := reached }) := by
  rw [report, settled]
  rfl

theorem next_of_halted
    (machine : Machine World Label)
    {run : Run World Label}
    (halted : run.halted = true) :
    run.next machine = (none, run) := by
  rw [next, if_pos halted]

/-- A halted run stays as it is, however often it is called. -/
theorem after_of_halted
    {run : Run World Label}
    {count later : Nat}
    (halted : (run.after machine count).halted = true)
    (notBefore : count ≤ later) :
    run.after machine later = run.after machine count := by
  induction notBefore with
  | refl => rfl
  | @step later _ inductionHypothesis =>
      rw [after_succ, inductionHypothesis, next_of_halted machine halted]

/-- A run goes on with its active group while that has scenarios left. -/
theorem next_of_remaining
    (machine : Machine World Label)
    {run : Run World Label}
    {place index : Nat}
    {name : String}
    {mode : Mode}
    {scenario : Scenario World Label}
    {others : List (Nat × Scenario World Label)}
    (running : run.halted = false)
    (active : run.active = some ⟨place, name, mode, (index, scenario) :: others⟩) :
    run.next machine =
      (some (run.report machine ⟨place, name, mode, others⟩ index scenario).1,
        (run.report machine ⟨place, name, mode, others⟩ index scenario).2) := by
  rw [next, running, active]
  rfl

/--
With no scenario left in the active group, a run looks for the
next group that has one.
-/
theorem next_of_nothing_remaining
    (machine : Machine World Label)
    {run : Run World Label}
    (running : run.halted = false)
    (nothing : ∀ group, run.active = some group → group.remaining = []) :
    run.next machine = { run with active := none }.next machine := by
  rw [next, next, running]
  cases active : run.active with
  | none => rfl
  | some group =>
      obtain ⟨place, name, mode, remaining⟩ := group
      obtain rfl : remaining = [] := nothing _ active
      rfl

theorem next_of_exhausted
    (machine : Machine World Label)
    {run : Run World Label}
    (running : run.halted = false)
    (nothing : ∀ group, run.active = some group → group.remaining = [])
    (noGroup : nextGroup? run.options run.waiting = none) :
    run.next machine = (none, { run with active := none, waiting := [] }) := by
  rw [next_of_nothing_remaining machine running nothing, next]
  simp only [running, noGroup, Bool.false_eq_true, ↓reduceIte]

/-- A run that answers nothing answers nothing again, and stays as it is. -/
theorem next_of_next_none
    {run reached : Run World Label}
    (nothing : run.next machine = (none, reached)) :
    reached.next machine = (none, reached) := by
  cases halted : run.halted with
  | true =>
      rw [next_of_halted machine halted] at nothing
      cases nothing
      exact next_of_halted machine halted
  | false =>
      rw [next, halted] at nothing
      split at nothing
      · contradiction
      · split at nothing
        · cases nothing
        · split at nothing
          · cases nothing
            exact next_of_exhausted machine rfl nofun rfl
          · cases nothing

theorem pull_of_next_none
    {run reached : Run World Label}
    (nothing : run.next machine = (none, reached))
    (count : Nat) :
    reached.pull machine count = ([], reached) := by
  induction count with
  | zero => rfl
  | succ count inductionHypothesis =>
      rw [pull, next_of_next_none nothing]
      exact inductionHypothesis

/-- A run opens the next group and reports its first scenario. -/
theorem next_of_opening
    (machine : Machine World Label)
    {run : Run World Label}
    {place index : Nat}
    {group : Group World Label}
    {mode : Mode}
    {activities : List Activity}
    {scenario : Scenario World Label}
    {others : List (Nat × Scenario World Label)}
    {rest : List (Nat × Group World Label)}
    {scene : Scene World Label}
    (running : run.halted = false)
    (nothing : ∀ group, run.active = some group → group.remaining = [])
    (next :
      nextGroup? run.options run.waiting =
        some ((place, group), (index, scenario), others, rest))
    (activated :
      group.activate machine run.platform place run.scene =
        ((mode, activities), scene)) :
    ∃ entered : Run World Label,
      entered =
          { run with
            active := none
            waiting := rest
            journal := run.journal ++ activities
            scene := scene } ∧
        run.next machine =
          (some (entered.report machine ⟨place, group.name, mode, others⟩ index scenario).1,
            (entered.report machine ⟨place, group.name, mode, others⟩ index scenario).2) := by
  refine ⟨_, rfl, ?_⟩
  rw [next_of_nothing_remaining machine running nothing, Run.next]
  simp only [running, next, activated, Bool.false_eq_true, ↓reduceIte]

theorem turns_of_nextGroup?_none
    {options : RunOptions}
    {waiting : List (Nat × Group World Label)}
    (nothing : nextGroup? options waiting = none) :
    waiting.flatMap options.turns = [] := by
  induction waiting with
  | nil => rfl
  | cons entry rest inductionHypothesis =>
      obtain ⟨place, group⟩ := entry
      rw [nextGroup?] at nothing
      cases selected : options.selected group with
      | nil =>
          rw [selected] at nothing
          rw [List.flatMap_cons, inductionHypothesis nothing,
            RunOptions.turns, selected]
          rfl
      | cons first others =>
          rw [selected] at nothing
          cases nothing

/-- The group that is next is the first of those that wait with a turn. -/
theorem turns_of_nextGroup?_some
    {options : RunOptions}
    {waiting rest : List (Nat × Group World Label)}
    {place index : Nat}
    {group : Group World Label}
    {scenario : Scenario World Label}
    {others : List (Nat × Scenario World Label)}
    (found :
      nextGroup? options waiting =
        some ((place, group), (index, scenario), others, rest)) :
    (place, group) :: rest <:+ waiting ∧
      options.selected group = (index, scenario) :: others ∧
      waiting.flatMap options.turns =
        options.turns (place, group) ++ rest.flatMap options.turns := by
  induction waiting with
  | nil => cases found
  | cons entry later inductionHypothesis =>
      obtain ⟨otherPlace, other⟩ := entry
      rw [nextGroup?] at found
      cases selected : options.selected other with
      | nil =>
          rw [selected] at found
          obtain ⟨among, selection, turns⟩ := inductionHypothesis found
          refine ⟨among.trans (List.suffix_cons _ _), selection, ?_⟩
          rw [List.flatMap_cons, turns, RunOptions.turns, selected]
          rfl
      | cons first remaining =>
          rw [selected] at found
          cases found
          exact ⟨List.suffix_rfl, selected, rfl⟩

/--
The turns that are left in the active group, which was opened in an earlier call
of its first turn and is treated as that call found.
-/
inductive Within
    (machine : Machine World Label)
    (run : Run World Label)
    (due : List (Turn World Label))
    (count : Nat) :
    Option (ActiveGroup World Label) → List (Turn World Label) → Prop where
  | outside : Within machine run due count none []
  | inside
      {place : Nat}
      {group : Group World Label}
      {mode : Mode}
      (remaining : List (Nat × Scenario World Label))
      (before : Turn.opening due place < count)
      (opened : ∃ turn ∈ due.take count, turn.place = place)
      (treated :
        (group.activate machine run.platform place
          (run.after machine (Turn.opening due place)).scene).1.1 = mode) :
      Within machine run due count (some ⟨place, group.name, mode, remaining⟩)
        (remaining.map fun (index, scenario) => ⟨place, group, index, scenario⟩)

/--
Where a run stands after so many calls: unless it is halted, the turns not yet
answered are those left in the active group and those of the waiting groups, and
no waiting group has had a turn.
-/
structure Stands
    (machine : Machine World Label)
    (run : Run World Label)
    (due : List (Turn World Label))
    (count : Nat) : Prop where
  platform : (run.after machine count).platform = run.platform
  options : (run.after machine count).options = run.options
  sorted :
    (run.after machine count).waiting.Pairwise fun earlier later =>
      earlier.1 < later.1
  owes :
    (run.after machine count).halted = false →
    ∃ within,
      Within machine run due count (run.after machine count).active within ∧
        due.drop count =
          within ++ (run.after machine count).waiting.flatMap run.options.turns ∧
        ∀ turn ∈ due.take count, ∀ entry ∈ (run.after machine count).waiting,
          turn.place < entry.1

/--
A call that reports a scenario of an active group answers as the
call of the turn does.
-/
theorem answers_of_report
    {run entered : Run World Label}
    {count : Nat}
    (due : List (Turn World Label))
    (turn : Turn World Label)
    {active : ActiveGroup World Label}
    (reports :
      (run.after machine count).next machine =
        (some (entered.report machine active turn.index turn.scenario).1,
          (entered.report machine active turn.index turn.scenario).2))
    (options : entered.options = run.options)
    (tally : entered.tally = (run.after machine count).tally)
    (journal :
      entered.journal =
        (run.after machine count).journal ++
          (run.call machine due count turn).hooks machine run.platform)
    (scene : entered.scene = (run.call machine due count turn).ready machine run.platform)
    (place : active.place = turn.place)
    (name : active.name = turn.group.name)
    (mode : active.mode =
      ((run.call machine due count turn).activation machine run.platform).1.1) :
    run.Answers machine count (run.call machine due count turn) ∧
      (run.after machine (count + 1)).active = some active ∧
      (run.after machine (count + 1)).waiting = entered.waiting ∧
      (run.after machine (count + 1)).platform = entered.platform ∧
      (run.after machine (count + 1)).options = run.options := by
  have settled :
      active.mode.settle machine active.place turn.index turn.scenario entered.scene =
        (run.call machine due count turn).settled machine run.platform := by
    rw [mode, place, scene]
    rfl
  rcases settles :
      (run.call machine due count turn).settled machine run.platform with
    ⟨⟨outcome, activities⟩, finish⟩
  rw [settles] at settled
  rw [report_eq entered active turn.index turn.scenario settled] at reports
  have reached := after_succ machine run count
  rw [reports] at reached
  have reportOfCall :
      (run.call machine due count turn).report machine run.platform =
        ⟨turn.group.name, turn.scenario.name, outcome⟩ := by
    rw [Call.report, settles]
    rfl
  refine ⟨?_, ?_, ?_, ?_, ?_⟩
  · exact {
      answer := by
        rw [answer, reports, reportOfCall, name]
      journal := by
        rw [reached, Call.ran, settles, ← List.append_assoc, ← journal]
      scene := by
        rw [reached, settles]
      tally := by
        rw [reached, reportOfCall, ← tally]
      halted := by
        rw [reached, reportOfCall, ← options] }
  · rw [reached]
  · rw [reached]
  · rw [reached]
  · rw [reached, ← options]

/--
The call after so many others does what is due: it answers the next
turn, or it is silent.
-/
structure Obeys
    (machine : Machine World Label)
    (run : Run World Label)
    (due : List (Turn World Label))
    (count : Nat) : Prop where
  halted : (run.after machine count).halted = true → run.Silent machine count
  answers : ∀ turn,
    (run.after machine count).halted = false →
    due[count]? = some turn →
    run.Answers machine count (run.call machine due count turn)
  exhausted :
    (run.after machine count).halted = false → due[count]? = none →
      run.Silent machine count

namespace Stands

variable {run : Run World Label} {due : List (Turn World Label)} {count : Nat}

theorem step_halted
    (stands : run.Stands machine due count)
    (halted : (run.after machine count).halted = true) :
    run.Obeys machine due count ∧ run.Stands machine due (count + 1) := by
  have nothing := next_of_halted machine halted
  have reached := after_succ machine run count
  rw [nothing] at reached
  refine ⟨⟨fun _ => ⟨?_, ?_, ?_, ?_, ?_⟩, ?_, ?_⟩, ?_⟩
  · rw [answer, nothing]
  · rw [reached]
  · rw [reached]
  · rw [reached]
  · rw [reached]
  · intro turn running
    rw [halted] at running
    contradiction
  · intro running
    rw [halted] at running
    contradiction
  · refine ⟨?_, ?_, ?_, ?_⟩
    · rw [reached]
      exact stands.platform
    · rw [reached]
      exact stands.options
    · rw [reached]
      exact stands.sorted
    · intro running
      rw [reached, halted] at running
      contradiction

/-- A run with no turn left is silent, and stands with no turn left. -/
theorem step_exhausted
    (stands : run.Stands machine due count)
    (running : (run.after machine count).halted = false)
    (nothing : ∀ group, (run.after machine count).active = some group →
      group.remaining = [])
    (noGroup : nextGroup? run.options (run.after machine count).waiting = none)
    (done : due.drop count = []) :
    run.Obeys machine due count ∧ run.Stands machine due (count + 1) := by
  have exhausted :=
    next_of_exhausted machine running nothing (by rw [stands.options, noGroup])
  have reached := after_succ machine run count
  rw [exhausted] at reached
  have short : due.length ≤ count := List.drop_eq_nil_iff.mp done
  refine ⟨⟨?_, ?_, ?_⟩, ?_⟩
  · intro halted
    rw [running] at halted
    contradiction
  · intro turn _ isDue
    obtain ⟨bound, -⟩ := List.getElem?_eq_some_iff.mp isDue
    omega
  · intro _ _
    refine ⟨?_, ?_, ?_, ?_, ?_⟩
    · rw [answer, exhausted]
    · rw [reached]
    · rw [reached]
    · rw [reached]
    · rw [reached]
  · refine ⟨?_, ?_, ?_, ?_⟩
    · rw [reached]
      exact stands.platform
    · rw [reached]
      exact stands.options
    · rw [reached]
      exact .nil
    · intro _
      rw [reached]
      refine ⟨[], .outside, ?_, by simp⟩
      exact List.drop_eq_nil_of_le (Nat.le_succ_of_le short)

theorem step_remaining
    (stands : run.Stands machine due count)
    (running : (run.after machine count).halted = false)
    (turn : Turn World Label)
    {mode : Mode}
    {others : List (Nat × Scenario World Label)}
    (active :
      (run.after machine count).active =
        some ⟨turn.place, turn.group.name, mode, (turn.index, turn.scenario) :: others⟩)
    (before : Turn.opening due turn.place < count)
    (opened : ∃ earlier ∈ due.take count, earlier.place = turn.place)
    (treated :
      (turn.group.activate machine run.platform turn.place
        (run.after machine (Turn.opening due turn.place)).scene).1.1 = mode)
    (shape :
      due.drop count =
        turn :: (others.map fun (index, scenario) =>
          ⟨turn.place, turn.group, index, scenario⟩) ++
          (run.after machine count).waiting.flatMap run.options.turns)
    (passed : ∀ earlier ∈ due.take count, ∀ entry ∈ (run.after machine count).waiting,
      earlier.place < entry.1) :
    run.Obeys machine due count ∧ run.Stands machine due (count + 1) := by
  obtain ⟨isDue, dropped, taken⟩ := Turn.of_drop_eq_cons shape
  have goesOn := next_of_remaining machine running active
  have notFirst : (run.call machine due count turn).opens = false := by
    simpa [call] using Nat.ne_of_lt before
  obtain ⟨answers, activeAfter, waitingAfter, platformAfter, optionsAfter⟩ :=
    answers_of_report due turn goesOn stands.options rfl
      (by rw [Call.hooks_of_not_opens notFirst, List.append_nil])
      (by rw [Call.ready_of_not_opens notFirst]; rfl)
      rfl rfl treated.symm
  refine ⟨⟨?_, ?_, ?_⟩, ?_⟩
  · intro halted
    rw [running] at halted
    contradiction
  · intro other _ isOther
    rw [isDue] at isOther
    cases isOther
    exact answers
  · intro _ nothing
    rw [isDue] at nothing
    cases nothing
  · refine ⟨?_, optionsAfter, ?_, ?_⟩
    · rw [platformAfter]
      exact stands.platform
    · rw [waitingAfter]
      exact stands.sorted
    · intro _
      rw [activeAfter, waitingAfter]
      obtain ⟨earlier, earlierMember, samePlace⟩ := opened
      refine ⟨_, .inside others (Nat.lt_succ_of_lt before)
        ⟨earlier, ?_, samePlace⟩ treated, dropped, ?_⟩
      · rw [taken]
        exact List.mem_append_left _ earlierMember
      · intro other member entry waits
        rw [taken] at member
        rcases List.mem_append.mp member with old | new
        · exact passed other old entry waits
        · obtain rfl := List.mem_singleton.mp new
          have placeBelow := passed earlier earlierMember entry waits
          rwa [samePlace] at placeBelow

/--
A run with no turn left in an active group opens the next group and
answers its first turn.
-/
theorem step_opening
    (stands : run.Stands machine due count)
    (running : (run.after machine count).halted = false)
    (nothing : ∀ group, (run.after machine count).active = some group →
      group.remaining = [])
    (turn : Turn World Label)
    {others : List (Nat × Scenario World Label)}
    {rest : List (Nat × Group World Label)}
    (next :
      nextGroup? run.options (run.after machine count).waiting =
        some ((turn.place, turn.group), (turn.index, turn.scenario), others, rest))
    (shape : due.drop count = (run.after machine count).waiting.flatMap run.options.turns)
    (passed : ∀ earlier ∈ due.take count, ∀ entry ∈ (run.after machine count).waiting,
      earlier.place < entry.1) :
    run.Obeys machine due count ∧ run.Stands machine due (count + 1) := by
  obtain ⟨among, selected, turns⟩ := turns_of_nextGroup?_some next
  have entryWaits : (turn.place, turn.group) ∈ (run.after machine count).waiting :=
    among.subset List.mem_cons_self
  have sortedTail : ∀ entry ∈ rest, turn.place < entry.1 :=
    (List.pairwise_cons.mp (stands.sorted.sublist among.sublist)).1
  rw [turns, RunOptions.turns, selected, List.map_cons, List.cons_append] at shape
  obtain ⟨isDue, dropped, taken⟩ := Turn.of_drop_eq_cons shape
  have first : Turn.opening due turn.place = count :=
    Turn.opening_eq isDue fun earlier member =>
      Nat.ne_of_lt (passed earlier member _ entryWaits)
  have isFirst : (run.call machine due count turn).opens = true := by
    simpa [call] using first
  rcases activated :
      turn.group.activate machine run.platform turn.place
        (run.after machine count).scene with
    ⟨⟨mode, activities⟩, scene⟩
  obtain ⟨entered, rfl, opens⟩ :=
    next_of_opening machine running nothing (by rw [stands.options, next])
      (by rw [stands.platform, activated])
  have activation :
      (run.call machine due count turn).activation machine run.platform =
        ((mode, activities), scene) := by
    rw [← activated, ← first]
    rfl
  obtain ⟨answers, activeAfter, waitingAfter, platformAfter, optionsAfter⟩ :=
    answers_of_report due turn opens stands.options rfl
      (by rw [Call.hooks_of_opens isFirst, activation])
      (by rw [Call.ready_of_opens isFirst, activation])
      rfl rfl (by rw [activation])
  refine ⟨⟨?_, ?_, ?_⟩, ?_⟩
  · intro halted
    rw [running] at halted
    contradiction
  · intro other _ isOther
    rw [isDue] at isOther
    cases isOther
    exact answers
  · intro _ exhausted
    rw [isDue] at exhausted
    cases exhausted
  · refine ⟨?_, optionsAfter, ?_, ?_⟩
    · rw [platformAfter]
      exact stands.platform
    · rw [waitingAfter]
      exact (stands.sorted.sublist among.sublist).tail
    · intro _
      rw [activeAfter, waitingAfter]
      have treated :
          (turn.group.activate machine run.platform turn.place
            (run.after machine (Turn.opening due turn.place)).scene).1.1 = mode := by
        rw [first, activated]
      refine ⟨_, .inside others (by omega) ⟨turn, ?_, rfl⟩ treated, dropped, ?_⟩
      · rw [taken]
        exact List.mem_append_right _ (List.mem_singleton_self turn)
      · intro other member entry waits
        rw [taken] at member
        rcases List.mem_append.mp member with old | new
        · exact passed other old entry (among.subset (List.mem_cons_of_mem _ waits))
        · obtain rfl := List.mem_singleton.mp new
          exact sortedTail entry waits

/-- A run with no turn left in an active group goes on with the groups that wait. -/
theorem step_waiting
    (stands : run.Stands machine due count)
    (running : (run.after machine count).halted = false)
    (nothing : ∀ group, (run.after machine count).active = some group →
      group.remaining = [])
    (shape : due.drop count = (run.after machine count).waiting.flatMap run.options.turns)
    (passed : ∀ earlier ∈ due.take count, ∀ entry ∈ (run.after machine count).waiting,
      earlier.place < entry.1) :
    run.Obeys machine due count ∧ run.Stands machine due (count + 1) := by
  cases next : nextGroup? run.options (run.after machine count).waiting with
  | none =>
      exact stands.step_exhausted running nothing next
        (shape.trans (turns_of_nextGroup?_none next))
  | some found =>
      obtain ⟨⟨place, group⟩, ⟨index, scenario⟩, others, rest⟩ := found
      exact stands.step_opening running nothing
        ⟨place, group, index, scenario⟩ next shape passed

/-- From where a run stands, the next call does what is due, and the run stands again. -/
theorem step (stands : run.Stands machine due count) :
    run.Obeys machine due count ∧ run.Stands machine due (count + 1) := by
  cases halted : (run.after machine count).halted with
  | true => exact stands.step_halted halted
  | false =>
      obtain ⟨within, active, shape, passed⟩ := stands.owes halted
      generalize isActive : (run.after machine count).active = group at active
      cases active with
      | outside =>
          exact stands.step_waiting halted (by simp [isActive]) shape passed
      | @inside place group mode remaining before opened treated =>
          cases remaining with
          | nil =>
              exact stands.step_waiting halted (by simp [isActive]) shape passed
          | cons first others =>
              obtain ⟨index, scenario⟩ := first
              exact stands.step_remaining halted ⟨place, group, index, scenario⟩
                isActive before opened treated shape passed

end Stands

theorem stands_start
    (machine : Machine World Label)
    (registry : Registry World Label)
    (platform : Platform)
    (options : RunOptions)
    (scene : Scene World Label) :
    (Run.start registry platform options scene).Stands machine
      (registry.turns options) 0 where
  platform := rfl
  options := rfl
  sorted := Registry.places_sorted registry.groups
  owes _ := ⟨[], .outside, rfl, by simp⟩

variable (machine : Machine World Label) (registry : Registry World Label)
variable (platform : Platform) (options : RunOptions) (scene : Scene World Label)

/-- Every run of a registry stands before its next turn after any number of calls. -/
theorem stands_after (count : Nat) :
    (Run.start registry platform options scene).Stands machine
      (registry.turns options) count := by
  induction count with
  | zero => exact stands_start machine registry platform options scene
  | succ count inductionHypothesis => exact inductionHypothesis.step.2

/-- Every call of every run does what is due. -/
theorem obeys (count : Nat) :
    (Run.start registry platform options scene).Obeys machine
      (registry.turns options) count :=
  (stands_after machine registry platform options scene count).step.1

end Run

namespace Run

variable {World Label : Type} {machine : Machine World Label}
variable {run : Run World Label} {due : List (Turn World Label)}

/-- A call either answers its turn, or has none or is halted and is silent. -/
theorem answers_or_silent
    (obeyed : ∀ count, run.Obeys machine due count)
    (count : Nat) :
    (∃ turn,
      due[count]? = some turn ∧
        run.Answers machine count (run.call machine due count turn)) ∨
      ((run.after machine count).halted = true ∨ due.length ≤ count) ∧
        run.Silent machine count := by
  cases halted : (run.after machine count).halted with
  | true => exact .inr ⟨.inl rfl, (obeyed count).halted halted⟩
  | false =>
      cases isDue : due[count]? with
      | none =>
          exact
            .inr ⟨.inr (List.getElem?_eq_none_iff.mp isDue),
              (obeyed count).exhausted halted isDue⟩
      | some turn => exact .inl ⟨turn, rfl, (obeyed count).answers turn halted isDue⟩

/-- A run with no turn left, or halted, is silent ever after and stays as it is. -/
theorem silent_of_ended
    (obeyed : ∀ count, run.Obeys machine due count)
    {count later : Nat}
    (ended : (run.after machine count).halted = true ∨ due.length ≤ count)
    (notBefore : count ≤ later) :
    run.Silent machine later ∧
      (run.after machine later).journal = (run.after machine count).journal ∧
      (run.after machine later).scene = (run.after machine count).scene ∧
      ((run.after machine later).halted = true ∨ due.length ≤ later) := by
  have silent
      {call : Nat}
      (reason : (run.after machine call).halted = true ∨ due.length ≤ call) :
      run.Silent machine call := by
    cases halted : (run.after machine call).halted with
    | true => exact (obeyed call).halted halted
    | false =>
        rcases reason with isHalted | exhausted
        · rw [halted] at isHalted
          contradiction
        · exact (obeyed call).exhausted halted (List.getElem?_eq_none exhausted)
  induction notBefore with
  | refl => exact ⟨silent ended, rfl, rfl, ended⟩
  | @step later _ inductionHypothesis =>
      obtain ⟨silentBefore, journal, scene, reason⟩ := inductionHypothesis
      have stillEnded :
          (run.after machine (later + 1)).halted = true ∨
            due.length ≤ later + 1 := by
        rcases reason with halted | exhausted
        · exact .inl (silentBefore.halted.trans halted)
        · exact .inr (Nat.le_succ_of_le exhausted)
      exact
        ⟨silent stillEnded, silentBefore.journal.trans journal,
          silentBefore.scene.trans scene, stillEnded⟩

theorem running_of_not_stopOnFail
    (obeyed : ∀ count, run.Obeys machine due count)
    (running : run.halted = false)
    (goesOn : run.options.stopOnFail = false)
    (count : Nat) :
    (run.after machine count).halted = false := by
  induction count with
  | zero => exact running
  | succ count inductionHypothesis =>
      rcases answers_or_silent obeyed count with ⟨turn, -, answers⟩ | ⟨-, silent⟩
      · rw [answers.halted, goesOn]
        rfl
      · rw [silent.halted]
        exact inductionHypothesis

theorem owed_start
    (registry : Registry World Label)
    (platform : Platform)
    (options : RunOptions)
    (scene : Scene World Label) :
    (Run.start registry platform options scene).owed =
      (registry.turns options).length := by
  simp only [owed, start, Registry.turns, List.length_flatMap, RunOptions.turns,
    List.length_map, Nat.zero_add]

/-- A run answers nothing once it has been called as often as it owes reports. -/
theorem answer_of_owed_le
    {machine : Machine World Label}
    {registry : Registry World Label}
    {platform : Platform}
    {options : RunOptions}
    {scene : Scene World Label}
    {count : Nat}
    (notBefore : (Run.start registry platform options scene).owed ≤ count) :
    (Run.start registry platform options scene).answer machine count = none := by
  rw [owed_start] at notBefore
  have obeyed := obeys machine registry platform options scene
  obtain ⟨silent, -⟩ := silent_of_ended obeyed (.inr notBefore) (Nat.le_refl count)
  exact silent.answer

end Run

end Conformance
