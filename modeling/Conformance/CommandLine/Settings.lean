import Conformance.Report.Console
import Conformance.Report.Delivery
import Conformance.Report.JsonLines
import Conformance.Text.Lines

namespace Conformance

/-!
# Run settings

The settings of a run are what a user asks for.  They are checked before
anything runs: a platform must name an architecture and a system, and a filter
must not be empty.
-/

/-- How reports are written. -/
inductive OutputFormat where
  | console
  | json
  deriving Repr, DecidableEq

/-- What a user asks of a run. -/
structure Settings where
  platform : Option String
  filter : Option String
  verbose : Bool
  stopOnFail : Bool
  format : OutputFormat
  deriving Repr, DecidableEq

/-- Why a run cannot start. -/
inductive SettingsError where
  | malformedPlatform (id : String)
  | emptyFilter
  deriving Repr, DecidableEq

namespace SettingsError

/-- What is wrong. -/
def text : SettingsError → String
  | .malformedPlatform id =>
      "platform identifier `" ++ id ++ "` is not of the form <arch>-<os>"
  | .emptyFilter => "filter must not be empty"

/-- The code under which tools refer to the error. -/
def code : SettingsError → String
  | .malformedPlatform _ => "specrun::config::platform"
  | .emptyFilter => "specrun::config::filter"

/-- Advice on what to write instead. -/
def help : SettingsError → String
  | .malformedPlatform _ =>
      "use an identifier like `x86_64-linux` or `aarch64-darwin`"
  | .emptyFilter => "omit -k to run every scenario"

/--
What is wrong, in lines that a bar joins to the first and
without spaces at their ends.
-/
def barredText (error : SettingsError) : String :=
  String.ofList (Text.stacked "  │ ".toList
    ((Text.lines error.text.toList).map Text.trimmed))

/--
The error as the command line shows it, in the format that the library for
diagnostics is assumed to have where it may not use colours.
-/
def diagnostic (error : SettingsError) : String :=
  error.code ++ "\n\n  × " ++ error.barredText ++ "\n  help: " ++
    error.help ++ "\n\n"

end SettingsError

namespace Settings

/-- The settings of a user who asks for nothing. -/
def initial : Settings where
  platform := none
  filter := none
  verbose := false
  stopOnFail := false
  format := .console

/-- Whether something stands on both sides of an identifier's first dash. -/
def wellFormed (id : String) : Bool :=
  match id.toList.span fun character => character != '-' with
  | (architecture, _ :: system) => !architecture.isEmpty && !system.isEmpty
  | (_, []) => false

/-- The platform to run on; without one in the settings it is the detected one. -/
def resolvePlatform
    (settings : Settings)
    (detected : Platform) :
    Except SettingsError Platform :=
  match settings.platform with
  | none => .ok detected
  | some id => if wellFormed id then .ok ⟨id⟩ else .error (.malformedPlatform id)

/-- The options of the run. -/
def runOptions (settings : Settings) : Except SettingsError RunOptions :=
  if settings.filter = some "" then .error .emptyFilter
  else .ok ⟨settings.filter, settings.stopOnFail⟩

variable {World Label : Type}

/-- The run that the settings ask for; of two errors the platform's is told. -/
def prepare
    (settings : Settings)
    (detected : Platform)
    (registry : Registry World Label)
    (scene : Scene World Label) :
    Except SettingsError (Run World Label) := do
  let platform ← settings.resolvePlatform detected
  let options ← settings.runOptions
  pure (.start registry platform options scene)

end Settings

end Conformance
