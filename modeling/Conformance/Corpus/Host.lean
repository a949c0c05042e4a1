import Conformance.Program.GroupLookup
import Conformance.Program.Making
import Conformance.Suite.Registry
import Conformance.Suite.Expectation
import Conformance.Text.Reading

namespace Conformance.Corpus

/-!
# The host of the corpus

The corpus checks group lookup against what the host itself says of the current
process: the command `id` prints the number and the name of its group, and is run
once each for a whole group of scenarios.
-/

/-- The bodies that callables of the corpus run. -/
inductive Routine where
  | paris
  deriving Repr, DecidableEq

/-- The code of the corpus, which has no world of its own. -/
abbrev Step (Error Result : Type) : Type :=
  Code Unit Routine Error Result

/-- The code of hooks and of the bodies of scenarios. -/
abbrev Check (Result : Type) : Type :=
  Step Fault Result

/-- The program of the corpus. -/
def program : Program Unit Routine where
  body := fun routine _ =>
    match routine with
    | .paris => Code.newText "Paris"

/--
What a command that ran to its end leaves: whether it
succeeded, and its two outputs.
-/
structure CommandOutput where
  success : Bool
  standardOutput : String
  standardError : String
  deriving Repr, DecidableEq

/--
The host that the corpus runs on: its group database, and how its command `id`
answers a flag.  A command that does not start answers why.
-/
structure Host where
  database : GroupDatabase Unit Routine
  id : String → Except String CommandOutput

namespace Host

/-- Runs `id` with a flag and gives what it prints. -/
def printed (host : Host) (flag : String) : Except Raised String :=
  match host.id flag with
  | .error cause =>
      .error (.runtimeError ("failed to run `id " ++ flag ++ "`: " ++ cause))
  | .ok output =>
      if output.success then .ok (Text.stripped output.standardOutput)
      else
        .error (.runtimeError
          ("`id " ++ flag ++ "` failed: " ++ Text.stripped output.standardError))

/-- The number of the current group, as `id` prints it. -/
def printedGid (host : Host) : Except Raised Int64 := do
  let text ← host.printed "-g"
  (Text.readInteger text).mapError fun error =>
    .runtimeError ("`id -g` printed a non-integer: " ++ error.text)

/-- The host's own database, but for platforms that have none. -/
def databaseFor (host : Host) (platform : Platform) : GroupDatabase Unit Routine :=
  if platform.isWindows then .unsupported else host.database

end Host

/-- What an answer of the host is, or the error that it is. -/
def answered {Result : Type} : Except Raised Result → Check Result
  | .ok result => pure result
  | .error error => Code.raise error

/-- Expects a value to meet a matcher. -/
def expect (actual : Value) (matcher : ValueMatcher) : Check Unit :=
  (Expectation.ofValue actual).check matcher

/-- Expects a value to equal a text. -/
def expectText (actual : Value) (text : String) : Check Unit := do
  let expected ← Code.newText text
  expect actual (.toEq expected)

/-- Expects a block to raise an error of a kind. -/
def expectRaise (block : Step Raised Value) (kind : ErrorKind) : Check Unit :=
  (Expectation.ofBlock block).checkRaise .toRaise kind

/-- A scenario without setup hooks. -/
def scenario (name : String) (body : Check Unit) : Scenario Unit Routine :=
  ⟨name, [], body⟩

end Conformance.Corpus
