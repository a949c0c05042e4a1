import Conformance.CommandLine.Execution
import Conformance.Corpus
import Conformance.Corpus.HostFiles

/-!
# The program

The program reads what it needs of the host, lets the library decide, and passes
texts on to the two streams as they come.
-/

namespace Conformance.CommandLine

/-- The platform that the program is made for. -/
def nativePlatform : Platform :=
  ⟨"x86_64-linux"⟩

/-- A stopwatch that asks the clock of the host. -/
def clockStopwatch : Stopwatch IO where
  time := fun action => do
    let began ← IO.monoNanosNow
    let result ← action ()
    let ended ← IO.monoNanosNow
    pure (result, ⟨ended - began⟩)

/-- Passes what a reporter writes on to a stream. -/
def tellStream
    {State : Type}
    (reporter : Reporter State)
    (memory : IO.Ref State)
    (stream : IO.FS.Stream)
    (event : Event) :
    IO Unit := do
  let (text, reached) := reporter.write event (← memory.get)
  memory.set reached
  stream.putStr text

/-- Runs the corpus for a reporter on a stream, and gives the exit code. -/
def runCorpus
    {State : Type}
    (host : Corpus.Host)
    (reporter : Reporter State)
    (stream : IO.FS.Stream)
    (settings : Settings) :
    IO UInt32 := do
  let memory ← IO.mkRef reporter.initial
  let conducted ←
    conduct Corpus.machine clockStopwatch
      (tellStream reporter memory stream) nativePlatform
      (Corpus.registry host) (.new nativePlatform ()) settings
  match conducted with
  | .error error => do
      (← IO.getStderr).putStr (Rendering.assumed.diagnostic error)
      pure 2
  | .ok final => pure (exitCodeOf final.tally).toUInt32

/-- Executes a command on the corpus, and gives the exit code. -/
def perform (host : Corpus.Host) : Command → IO UInt32
  | .list filter => do
      (← IO.getStdout).putStr ((Corpus.registry host).listing filter)
      pure 0
  | .run settings => do
      match settings.format with
      | .console =>
          runCorpus host (Console.reporter ⟨settings.verbose, true⟩)
            (← IO.getStderr) settings
      | .json =>
          runCorpus host (JsonLines.reporter Rendering.assumed.number)
            (← IO.getStdout) settings

end Conformance.CommandLine

open Conformance in
/-- The command line. -/
def main (arguments : List String) : IO UInt32 := do
  let environment ← IO.getEnv "SPECRUN_PLATFORM"
  match CommandLine.Request.ofArguments environment arguments with
  | .refused refusal =>
      (← IO.getStderr).putStrLn ("error: " ++ refusal.text)
      pure 2
  | .help topic =>
      (← IO.getStdout).putStr (topic.text environment)
      pure 0
  | .version =>
      (← IO.getStdout).putStr CommandLine.versionText
      pure 0
  | .command command =>
      let groups ← IO.FS.readFile "/etc/group"
      let status ← IO.FS.readFile "/proc/self/status"
      CommandLine.perform (Corpus.Host.ofFiles groups status) command
