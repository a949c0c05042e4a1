import Conformance.CommandLine.Arguments
import Conformance.CommandLine.Listing

namespace Conformance.CommandLine

/-!
# Execution

A command writes to the two streams and ends with an exit code: zero if nothing
failed, one if something did, and two if the command could not start.  How some of
the texts look is left to libraries outside, so it is a parameter.
-/

/-- What a finished command leaves: its exit code and what it wrote. -/
structure Completion where
  exitCode : UInt8
  standardOutput : String
  standardError : String
  deriving Repr, DecidableEq

/--
How libraries outside write what they are given: why a run
cannot start, and doubles.
-/
structure Rendering where
  diagnostic : SettingsError → String
  number : Float → String

/-- The formats that the libraries are assumed to have. -/
def Rendering.assumed : Rendering :=
  ⟨SettingsError.diagnostic, doubleText⟩

/-- The exit code of a run with a tally. -/
def exitCodeOf (tally : Tally) : UInt8 :=
  if tally.isSuccess then 0 else 1

variable {World Label : Type}

/--
Runs a registry as the settings ask, and tells of the run as it goes.  Settings that
cannot be followed start no run, so there is nothing to tell.
-/
def conduct
    {Effect : Type → Type} [Monad Effect]
    (machine : Machine World Label)
    (stopwatch : Stopwatch Effect)
    (tell : Event → Effect Unit)
    (detected : Platform)
    (registry : Registry World Label)
    (scene : Scene World Label)
    (settings : Settings) :
    Effect (Except SettingsError (Run World Label)) :=
  match settings.prepare detected registry scene with
  | .error error => pure (.error error)
  | .ok run => do
      let final ← run.deliver machine stopwatch tell
      pure (.ok final)

/-- Delivers a run in the format that the settings ask for. -/
def report
    (rendering : Rendering)
    (machine : Machine World Label)
    (duration : Duration)
    (settings : Settings)
    (run : Run World Label) :
    Completion :=
  match settings.format with
  | .console =>
      let (text, final) :=
        (Console.reporter ⟨settings.verbose, true⟩).follow machine duration run
      ⟨exitCodeOf final.tally, "", text⟩
  | .json =>
      let (text, final) :=
        (JsonLines.reporter rendering.number).follow machine duration run
      ⟨exitCodeOf final.tally, text, ""⟩

/-- Runs a registry as the settings ask. -/
def runRegistry
    (rendering : Rendering)
    (machine : Machine World Label)
    (duration : Duration)
    (detected : Platform)
    (registry : Registry World Label)
    (scene : Scene World Label)
    (settings : Settings) :
    Completion :=
  match settings.prepare detected registry scene with
  | .ok run => report rendering machine duration settings run
  | .error error => ⟨2, "", rendering.diagnostic error⟩

/-- Executes a command on a registry. -/
def Command.execute
    (rendering : Rendering)
    (machine : Machine World Label)
    (duration : Duration)
    (detected : Platform)
    (registry : Registry World Label)
    (scene : Scene World Label) :
    Command → Completion
  | .run settings =>
      runRegistry rendering machine duration detected registry scene settings
  | .list filter => ⟨0, registry.listing filter, ""⟩

end Conformance.CommandLine
