import Conformance.Outcome
import Conformance.Platform.Guard
import Conformance.Program.Execution

namespace Conformance

/-!
# Scenarios and groups

A scenario is a named body with setup hooks.  A group has a name of its own,
hooks that run once before its first scenario, and perhaps a guard.  What runs is
kept in a journal, which names hooks and bodies by their place.
-/

/-- A hook, or the body of a scenario. -/
abbrev Hook (World Label : Type) : Type :=
  Code World Label Fault Unit

/-- One named check. -/
structure Scenario (World Label : Type) where
  name : String
  setup : List (Hook World Label)
  body : Hook World Label

/-- Scenarios under one name, with what they share. -/
structure Group (World Label : Type) where
  name : String
  guard : Option Guard
  beforeAll : List (Hook World Label)
  scenarios : List (Scenario World Label)

/-- A hook or body that ran, named by its place in the registry. -/
inductive Activity where
  | groupHook (group hook : Nat)
  | setup (group scenario hook : Nat)
  | body (group scenario : Nat)
  deriving Repr, DecidableEq

/-- A program together with the depth to which its calls may be nested. -/
structure Machine (World Label : Type) where
  program : Program World Label
  depth : Nat

namespace Machine

variable {World Label Error Result : Type}

/-- Runs code on the machine. -/
def run
    (machine : Machine World Label)
    (code : Code World Label Error Result) :
    Act (Scene World Label) Error Result :=
  machine.program.run machine.depth code

/-- What went on while hooks ran: how they ended, and which of them ran. -/
structure Account where
  ending : Ending Fault Unit
  journal : List Activity
  deriving Repr, DecidableEq

/-- Runs hooks in order up to the first one that does not return. -/
def runHooks
    (machine : Machine World Label) :
    List (Activity × Hook World Label) → Scene World Label →
      Account × Scene World Label
  | [], scene => (⟨.returned (), []⟩, scene)
  | (activity, hook) :: rest, scene =>
      match machine.run hook scene with
      | (.returned _, reached) =>
          let (account, final) := machine.runHooks rest reached
          (⟨account.ending, activity :: account.journal⟩, final)
      | (ending, reached) => (⟨ending, [activity]⟩, reached)

end Machine

/--
What is told of code whose calls were nested too deep.  It only makes reports
total: a process that has exhausted its call stack is aborted, so it neither
reports the scenario nor goes on to another one.
-/
def overflowText : String :=
  "stack level too deep"

namespace Scene

variable {World Label : Type}

/-- The first declaration that was not met, over the stubs of the context in order. -/
def firstUnmet? (scene : Scene World Label) : Option UnmetCall :=
  scene.context.stubs.findSome? fun id => (scene.store.stubs id).firstUnmet?

/-- Goes on in another context. -/
def enter (scene : Scene World Label) (context : Context) : Scene World Label :=
  { scene with context := context }

end Scene

namespace Scenario

variable {World Label : Type}

/-- The setup hooks and then the body, each under its place. -/
def steps
    (scenario : Scenario World Label)
    (group place : Nat) :
    List (Activity × Hook World Label) :=
  (scenario.setup.zipIdx.map fun (hook, index) => (.setup group place index, hook)) ++
    [(.body group place, scenario.body)]

/--
The outcome that the ending of hooks and body leads to; stubs count only if all
returned.  That of an overflow is there for totality only, as `overflowText` says.
-/
def outcomeOf
    (scene : Scene World Label) :
    Ending Fault Unit → Outcome
  | .returned _ =>
      match scene.firstUnmet? with
      | none => .passed
      | some call => (Fault.unmet call).outcome
  | .stopped fault => fault.outcome
  | .panicked payload => .errored (.panic payload.text)
  | .overflowed => .errored (.panic overflowText)

/-- Runs a scenario on a fork of its group's context. -/
def execute
    (machine : Machine World Label)
    (scenario : Scenario World Label)
    (group place : Nat)
    (context : Context)
    (scene : Scene World Label) :
    (Outcome × List Activity) × Scene World Label :=
  let (account, reached) :=
    machine.runHooks (scenario.steps group place) (scene.enter context.fork)
  ((outcomeOf reached account.ending, account.journal), reached)

end Scenario

/-- How the scenarios of a group are to be treated. -/
inductive Mode where
  | run (context : Context)
  | skip (reason : String)
  | broken (cause : Cause)

namespace Group

variable {World Label : Type}

/-- The hooks of a group, each under its place. -/
def steps
    (group : Group World Label)
    (place : Nat) :
    List (Activity × Hook World Label) :=
  group.beforeAll.zipIdx.map fun (hook, index) => (.groupHook place index, hook)

/--
Runs the hooks of a group and gives the context they leave, or why they failed.
What an overflow gives is there for totality only, as `overflowText` says.
-/
def prepare
    (machine : Machine World Label)
    (platform : Platform)
    (group : Group World Label)
    (place : Nat)
    (scene : Scene World Label) :
    (Mode × List Activity) × Scene World Label :=
  let (account, reached) :=
    machine.runHooks (group.steps place) (scene.enter (.forGroup platform))
  let mode := match account.ending with
    | .returned _ => .run reached.context
    | .stopped fault => .broken (.hook fault.text)
    | .panicked payload => .broken (.hook ("panicked: " ++ payload.text))
    | .overflowed => .broken (.hook ("panicked: " ++ overflowText))
  ((mode, account.journal), reached)

/--
Decides how to treat a group: its guard comes first, and a
skipped group runs no hooks.
-/
def activate
    (machine : Machine World Label)
    (platform : Platform)
    (group : Group World Label)
    (place : Nat)
    (scene : Scene World Label) :
    (Mode × List Activity) × Scene World Label :=
  match group.guard with
  | some guard =>
      if guard.allows platform then group.prepare machine platform place scene
      else ((.skip (guard.skipReason platform), []), scene)
  | none => group.prepare machine platform place scene

end Group

end Conformance
