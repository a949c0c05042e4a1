import Mathlib.Data.List.Forall2
import Conformance.CommandLine.Listing
import Conformance.Proofs.Report.Deliveries

namespace Conformance

/-!
# A listing shows what a run reports

A listing prints the scenarios of a registry in a loop of its own, without a run.
It has one entry for each report of a complete run with the same filter, in the
same order, whatever hooks and bodies do and whatever the guards say.
-/

/--
The entry of a report in a listing: its description, the guard of its
group, and a line feed.
-/
def Report.entry (report : Report) (guard : Option Guard) : String :=
  report.description ++
    (match guard with
      | some guard => " [" ++ guard.text ++ "]"
      | none => "") ++
    "\n"

/-- A report carries the names of the group and of the scenario of a turn. -/
def Report.Names
    {World Label : Type}
    (report : Report)
    (turn : Turn World Label) :
    Prop :=
  report.group = turn.group.name ∧ report.scenario = turn.scenario.name

namespace Registry

variable {World Label : Type}

/-- The line of a turn in a listing. -/
def turnLine (turn : Turn World Label) : String :=
  listingLine turn.group.guard (describe turn.group.name turn.scenario.name)

/--
A listing leaves a scenario out exactly when a run with the same
filter does not select it.
-/
theorem listScenario?_eq
    (options : RunOptions)
    (group : Group World Label)
    (scenario : Scenario World Label) :
    listScenario? options.filter group scenario =
      if options.selects group.name scenario.name then
        some (listingLine group.guard (describe group.name scenario.name))
      else none := by
  unfold listScenario? RunOptions.selects
  cases options.filter with
  | none => rfl
  | some text =>
      cases occurs :
          Text.occursIn text (describe group.name scenario.name) <;> simp [occurs]

theorem listGroup_eq (options : RunOptions) (entry : Nat × Group World Label) :
    listGroup options.filter entry.2 = (options.turns entry).map turnLine := by
  have lines :
      listGroup options.filter entry.2 =
        (entry.2.scenarios.filter fun scenario =>
          options.selects entry.2.name scenario.name).map fun scenario =>
            listingLine entry.2.guard (describe entry.2.name scenario.name) := by
    simp only [listGroup, listScenario?_eq]
    rw [← List.filterMap_eq_map, List.filterMap_filter]
    rfl
  rw [lines, ← map_snd_selected, RunOptions.turns, List.map_map, List.map_map]
  rfl

/-- The lines of a listing are those of the turns that a run with the same filter owes. -/
theorem listing_eq_turns (registry : Registry World Label) (options : RunOptions) :
    registry.listing options.filter =
      String.join ((registry.turns options).map turnLine) := by
  have groups := map_snd_places registry.groups
  rw [listing, ← groups, List.flatMap_map, turns, List.map_flatMap]
  simp only [listGroup_eq]

/-- The entry of a report that answers a turn is the line of the turn. -/
theorem turnLine_eq_entry
    {report : Report}
    {turn : Turn World Label}
    (names : report.Names turn) :
    report.entry turn.group.guard = turnLine turn := by
  unfold turnLine listingLine Report.entry Report.description
  rw [names.1, names.2]
  cases turn.group.guard with
  | none => simp
  | some guard => simp [String.append_assoc]

/-- The entries of reports that answer turns are the lines of the turns. -/
theorem entries_eq_lines
    {reports : List Report}
    {due : List (Turn World Label)}
    (answered : List.Forall₂ Report.Names reports due) :
    List.zipWith (fun report turn => report.entry turn.group.guard) reports due =
      due.map turnLine := by
  induction answered with
  | nil => rfl
  | cons names _ inductionHypothesis =>
      rw [List.zipWith_cons_cons, List.map_cons, turnLine_eq_entry names,
        inductionHypothesis]

end Registry

namespace Run

variable {World Label : Type} {machine : Machine World Label}
variable {run : Run World Label} {due : List (Turn World Label)}

/-- A run that is never halted answers its turns one after another. -/
theorem pull_answers
    (obeyed : ∀ count, run.Obeys machine due count)
    (running : ∀ count, (run.after machine count).halted = false)
    (count : Nat) :
    List.Forall₂ Report.Names (run.pull machine count).1 (due.take count) := by
  induction count with
  | zero => exact .nil
  | succ count inductionHypothesis =>
      rw [pull_reports_succ, List.take_add_one]
      refine List.rel_append inductionHypothesis ?_
      cases isDue : due[count]? with
      | none =>
          rw [((obeyed count).exhausted (running count) isDue).answer]
          exact .nil
      | some turn =>
          rw [((obeyed count).answers turn (running count) isDue).answer]
          exact .cons ⟨rfl, rfl⟩ .nil

/--
A listing has one entry for each report of a complete run, in the same order: the
description of the report, with the guard of the group whose turn it answers.
-/
structure Listed
    (machine : Machine World Label)
    (registry : Registry World Label)
    (filter : Option String)
    (run : Run World Label) : Prop where
  places : ∀ turn ∈ registry.turns ⟨filter, false⟩,
    registry.groups[turn.place]? = some turn.group ∧
      turn.group.scenarios[turn.index]? = some turn.scenario
  answered :
    List.Forall₂ Report.Names (run.complete machine).1
      (registry.turns ⟨filter, false⟩)
  ended : ∀ count, run.owed ≤ count → run.answer machine count = none
  listing :
    registry.listing filter =
      String.join
        (List.zipWith (fun report turn => report.entry turn.group.guard)
          (run.complete machine).1 (registry.turns ⟨filter, false⟩))

/-- A listing shows exactly what a complete run with the same filter reports. -/
theorem listed
    (machine : Machine World Label)
    (registry : Registry World Label)
    (platform : Platform)
    (filter : Option String)
    (scene : Scene World Label) :
    (Run.start registry platform ⟨filter, false⟩ scene).Listed machine
      registry filter := by
  have obeyed := obeys machine registry platform ⟨filter, false⟩ scene
  have running := running_of_not_stopOnFail obeyed rfl rfl
  have answered :
      List.Forall₂ Report.Names
        ((Run.start registry platform ⟨filter, false⟩ scene).complete machine).1
        (registry.turns ⟨filter, false⟩) := by
    have pulled :=
      pull_answers obeyed running (registry.turns ⟨filter, false⟩).length
    rwa [List.take_length, ← owed_start registry platform _ scene] at pulled
  exact {
    places := by
      intro turn member
      obtain ⟨group, scenario, -⟩ := Registry.of_mem_turns member
      exact ⟨group, scenario⟩
    answered := answered
    ended := fun _ notBefore => answer_of_owed_le notBefore
    listing := by
      rw [Registry.entries_eq_lines answered]
      exact registry.listing_eq_turns ⟨filter, false⟩ }

end Run

end Conformance
