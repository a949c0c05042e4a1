import Conformance.Outcome.Lifecycle
import Conformance.Outcome.Tally
import Conformance.Suite.Registry

namespace Conformance

/-!
# Runs

A run yields one report whenever it is pulled, in the order of the registry.  A
group is looked at when its first selected scenario is due: only then is its
guard asked and do its hooks run.  Groups without a selected scenario are passed
over.  A run that stops on failure yields nothing after the first failure.
-/

/-- What is known of a scenario that has ended. -/
structure Report where
  group : String
  scenario : String
  outcome : Outcome
  deriving Repr, DecidableEq

namespace Report

/-- How the scenario is named. -/
def description (report : Report) : String :=
  describe report.group report.scenario

end Report

/-- A group whose scenarios are being reported. -/
structure ActiveGroup (World Label : Type) where
  place : Nat
  name : String
  mode : Mode
  remaining : List (Nat × Scenario World Label)

/-- A run that may still have reports to yield. -/
structure Run (World Label : Type) where
  waiting : List (Nat × Group World Label)
  active : Option (ActiveGroup World Label)
  platform : Platform
  options : RunOptions
  tally : Tally
  halted : Bool
  journal : List Activity
  scene : Scene World Label

namespace Mode

variable {World Label : Type}

/-- What a scenario of a group treated so comes to, and what ran for it. -/
def settle
    (machine : Machine World Label)
    (group place : Nat)
    (scenario : Scenario World Label)
    (scene : Scene World Label) :
    Mode → (Outcome × List Activity) × Scene World Label
  | .skip reason => ((.skipped reason, []), scene)
  | .broken cause => ((.errored cause, []), scene)
  | .run context => scenario.execute machine group place context scene

end Mode

/-- Takes a scenario through its life to the outcome it comes to. -/
def lived (outcome : Outcome) : Except Misuse Outcome := do
  let started ← Lifecycle.pending.start
  let finished ← started.finish outcome
  match finished.outcome? with
  | some reached => pure reached
  | none => .error (.invalidTransition "Running" "Finished")

namespace Run

variable {World Label : Type}

/--
A run of a registry from which nothing has been pulled; it finds
the objects of a scene.
-/
def start
    (registry : Registry World Label)
    (platform : Platform)
    (options : RunOptions)
    (scene : Scene World Label) :
    Run World Label where
  waiting := registry.groups.zipIdx.map fun (group, place) => (place, group)
  active := none
  platform := platform
  options := options
  tally := .empty
  halted := false
  journal := []
  scene := scene

/-- How many reports the run would still yield if nothing stopped it. -/
def owed (run : Run World Label) : Nat :=
  (match run.active with
    | some group => group.remaining.length
    | none => 0) +
    (run.waiting.flatMap fun (_, group) => run.options.selected group).length

/-- The first waiting group with a selected scenario, and the groups after it. -/
def nextGroup?
    (options : RunOptions) :
    List (Nat × Group World Label) →
      Option ((Nat × Group World Label) × (Nat × Scenario World Label) ×
        List (Nat × Scenario World Label) × List (Nat × Group World Label))
  | [] => none
  | (place, group) :: rest =>
      match options.selected group with
      | [] => nextGroup? options rest
      | first :: others => some ((place, group), first, others, rest)

/-- Reports one scenario of the active group. -/
def report
    (machine : Machine World Label)
    (run : Run World Label)
    (active : ActiveGroup World Label)
    (place : Nat)
    (scenario : Scenario World Label) :
    Report × Run World Label :=
  let ((settled, activities), scene) :=
    active.mode.settle machine active.place place scenario run.scene
  let outcome := match lived settled with
    | .ok outcome => outcome
    | .error misuse => .errored (.misuse misuse.text)
  (⟨active.name, scenario.name, outcome⟩,
    { run with
      active := some active
      tally := run.tally.record outcome
      halted := run.options.stopOnFail && outcome.isFailure
      journal := run.journal ++ activities
      scene := scene })

/-- Pulls the next report; a run that has none left stays as it is. -/
def next
    (machine : Machine World Label)
    (run : Run World Label) :
    Option Report × Run World Label :=
  if run.halted then (none, run)
  else
    match run.active with
    | some ⟨place, name, mode, (index, scenario) :: rest⟩ =>
        let (report, after) :=
          run.report machine ⟨place, name, mode, rest⟩ index scenario
        (some report, after)
    | _ =>
        match nextGroup? run.options run.waiting with
        | none => (none, { run with active := none, waiting := [] })
        | some ((place, group), (index, scenario), others, rest) =>
            let ((mode, activities), scene) :=
              group.activate machine run.platform place run.scene
            let entered :=
              { run with
                waiting := rest
                journal := run.journal ++ activities
                scene := scene }
            let (report, after) :=
              entered.report machine ⟨place, group.name, mode, others⟩ index scenario
            (some report, after)

/-- Pulls a number of times and collects what was yielded. -/
def pull
    (machine : Machine World Label) :
    Nat → Run World Label → List Report × Run World Label
  | 0, run => ([], run)
  | count + 1, run =>
      match run.next machine with
      | (none, after) => pull machine count after
      | (some report, after) =>
          let (reports, final) := pull machine count after
          (report :: reports, final)

/-- Pulls until nothing is left. -/
def complete
    (machine : Machine World Label)
    (run : Run World Label) :
    List Report × Run World Label :=
  run.pull machine run.owed

end Run

end Conformance
