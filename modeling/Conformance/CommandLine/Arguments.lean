import Conformance.CommandLine.Help
import Conformance.CommandLine.Settings

namespace Conformance.CommandLine

/-!
# Arguments

The first argument names a command, the others are its options.  An option has a
short form of one character, a long form, or both; short forms may stand
together behind one dash.  A value stands behind its option in the same argument
or is the next argument, unless that one is an option itself.  An option whose
value is still to come is settled when the next option is read.
-/

/-- Options of the commands. -/
inductive Choice where
  | verbose
  | exitFirst
  | filter
  | platform
  | format
  | help
  | version
  deriving Repr, DecidableEq

namespace Choice

/-- Whether an option needs a value. -/
def takesValue : Choice → Bool
  | .filter => true
  | .platform => true
  | .format => true
  | _ => false

/-- The short form, if there is one. -/
def short? : Choice → Option Char
  | .verbose => some 'v'
  | .exitFirst => some 'x'
  | .filter => some 'k'
  | .platform => none
  | .format => none
  | .help => some 'h'
  | .version => some 'V'

/-- The long form, if there is one. -/
def long? : Choice → Option String
  | .verbose => some "verbose"
  | .exitFirst => some "exitfirst"
  | .filter => none
  | .platform => some "platform"
  | .format => some "format"
  | .help => some "help"
  | .version => some "version"

end Choice

/-- Why arguments are refused. -/
inductive Refusal where
  | missingCommand
  | unknownCommand
  | unknownArgument
  | badValue
  | repeatedOption
  | superfluousValue
  deriving Repr, DecidableEq

namespace Refusal

/-- What the user is told. -/
def text : Refusal → String
  | .missingCommand => "a command is required: run, list or help"
  | .unknownCommand => "there is no such command"
  | .unknownArgument => "unexpected argument"
  | .badValue => "an option lacks its value or has one that is not allowed"
  | .repeatedOption => "an option is given twice"
  | .superfluousValue => "an option is given a value that it does not take"

end Refusal

/-- What ends the reading of arguments early. -/
inductive Interruption where
  | refused (refusal : Refusal)
  | help (long : Bool)
  | version
  deriving Repr, DecidableEq

/-- The format with a given name. -/
def formatOfName? : String → Option OutputFormat
  | "console" => some .console
  | "json" => some .json
  | _ => none

/-- What has been read of a command's options. -/
structure Reading where
  settings : Settings
  seen : List Choice
  pending : Option (Choice × Option String)
  deriving Repr, DecidableEq

namespace Reading

/-- Nothing read. -/
def start : Reading :=
  ⟨.initial, [], none⟩

/-- Marks an option as seen; none may stand twice. -/
def mark (reading : Reading) (choice : Choice) : Except Interruption Reading :=
  if choice ∈ reading.seen then .error (.refused .repeatedOption)
  else .ok { reading with seen := choice :: reading.seen }

/-- Accepts an option with its value. -/
def accept
    (reading : Reading)
    (choice : Choice)
    (value : String) :
    Except Interruption Reading := do
  let marked ← reading.mark choice
  let settings := marked.settings
  match choice with
  | .filter =>
      pure { marked with settings := { settings with filter := some value } }
  | .platform =>
      pure { marked with settings := { settings with platform := some value } }
  | .format =>
      match formatOfName? value with
      | some format =>
          pure { marked with settings := { settings with format := format } }
      | none => throw (.refused .badValue)
  | _ => throw (.refused .superfluousValue)

/-- Settles the option whose value was still to come. -/
def settle (reading : Reading) : Except Interruption Reading :=
  match reading.pending with
  | none => .ok reading
  | some (_, none) => .error (.refused .badValue)
  | some (choice, some value) => accept { reading with pending := none } choice value

/-- Accepts an option that needs no value. -/
def switch
    (reading : Reading)
    (long : Bool)
    (choice : Choice) :
    Except Interruption Reading := do
  let settled ← reading.settle
  let settings := settled.settings
  match choice with
  | .help => throw (.help long)
  | .version => throw .version
  | .verbose =>
      mark { settled with settings := { settings with verbose := true } } choice
  | .exitFirst =>
      mark { settled with settings := { settings with stopOnFail := true } } choice
  | _ => throw (.refused .badValue)

/-- Accepts an option with the value behind it, or waits for the next argument. -/
def begin
    (reading : Reading)
    (choice : Choice) :
    Option String → Except Interruption Reading
  | some value => do (← reading.settle).accept choice value
  | none => do
      let settled ← reading.settle
      pure { settled with pending := some (choice, none) }

/-- Reads short options that stand together. -/
def readShort
    (allowed : List Choice)
    (reading : Reading) :
    List Char → Except Interruption Reading
  | [] => .ok reading
  | character :: rest =>
      match allowed.find? fun choice => choice.short? == some character with
      | none => .error (.refused .unknownArgument)
      | some choice =>
          if choice.takesValue then
            match rest with
            | [] => reading.begin choice none
            | '=' :: value => reading.begin choice (some (String.ofList value))
            | value => reading.begin choice (some (String.ofList value))
          else do
            let switched ← reading.switch false choice
            switched.readShort allowed rest

/-- Reads a long option, which may carry a value behind an equals sign. -/
def readLong
    (allowed : List Choice)
    (reading : Reading)
    (written : List Char) :
    Except Interruption Reading :=
  let (name, rest) := written.span fun character => character != '='
  match allowed.find? fun choice => choice.long? == some (String.ofList name) with
  | none => .error (.refused .unknownArgument)
  | some choice =>
      match choice.takesValue, rest with
      | true, _ :: value => reading.begin choice (some (String.ofList value))
      | true, [] => reading.begin choice none
      | false, _ :: _ => .error (.refused .superfluousValue)
      | false, [] => reading.switch true choice

/-- Reads what is no option: the value that is waited for, or nothing that is known. -/
def readPlain
    (reading : Reading)
    (argument : String) :
    Except Interruption Reading :=
  match reading.pending with
  | some (choice, none) =>
      .ok { reading with pending := some (choice, some argument) }
  | _ => .error (.refused .unknownArgument)

/-- Reads the options of a command to the end; two dashes alone must stand last. -/
def readAll (allowed : List Choice) :
    List String → Reading → Except Interruption Reading
  | [], reading => reading.settle
  | argument :: rest, reading =>
      match argument.toList with
      | ['-', '-'] =>
          if rest.isEmpty then reading.settle else .error (.refused .unknownArgument)
      | '-' :: '-' :: long =>
          do readAll allowed rest (← reading.readLong allowed long)
      | '-' :: first :: others => do
          readAll allowed rest (← reading.readShort allowed (first :: others))
      | _ => do readAll allowed rest (← reading.readPlain argument)

end Reading

/-- What the program is asked to do. -/
inductive Command where
  | run (settings : Settings)
  | list (filter : Option String)
  deriving Repr, DecidableEq

/-- What the arguments come to. -/
inductive Request where
  | command (command : Command)
  | help (topic : Topic)
  | version
  | refused (refusal : Refusal)
  deriving Repr, DecidableEq

namespace Request

/-- The options before any command. -/
def programChoices : List Choice :=
  [.help, .version]

/-- The options of running. -/
def runChoices : List Choice :=
  [.verbose, .exitFirst, .filter, .platform, .format, .help]

/-- The options of listing. -/
def listChoices : List Choice :=
  [.filter, .help]

/-- What an interruption comes to, given the topic of long and of short help. -/
def ofInterruption (topic : Bool → Topic) : Interruption → Request
  | .refused refusal => .refused refusal
  | .help long => .help (topic long)
  | .version => .version

/-- What the options of a command come to. -/
def ofReading
    (topic : Bool → Topic)
    (command : Settings → Command) :
    Except Interruption Reading → Request
  | .ok reading => .command (command reading.settings)
  | .error interruption => ofInterruption topic interruption

/-- The topic that a command's name stands for. -/
def topicOfName? : String → Option Topic
  | "run" => some (.run true)
  | "list" => some .list
  | "help" => some .help
  | _ => none

/--
Help on what is named: the program, or one command, for
commands have none below them.
-/
def ofHelpArguments : List String → Request
  | [] => .help .program
  | name :: rest =>
      match topicOfName? name, rest with
      | some topic, [] => .help topic
      | _, _ => .refused .unknownCommand

/-- What options before any command come to: each of them is answered at once. -/
def ofProgramOption : Except Interruption Reading → Request
  | .ok _ => .refused .missingCommand
  | .error interruption => ofInterruption (fun _ => .program) interruption

/-- What arguments come to, given the platform that the environment asks for. -/
def ofArguments (environment : Option String) : List String → Request
  | [] => .refused .missingCommand
  | first :: rest =>
      match first.toList with
      | ['-', '-'] =>
          match rest with
          | [] => .refused .missingCommand
          | name :: _ =>
              if (topicOfName? name).isSome then .refused .unknownArgument
              else .refused .unknownCommand
      | '-' :: '-' :: long =>
          ofProgramOption (Reading.start.readLong programChoices long)
      | '-' :: short :: others =>
          ofProgramOption (Reading.start.readShort programChoices (short :: others))
      | _ =>
          match topicOfName? first with
          | some (.run _) =>
              ofReading .run
                (fun settings =>
                  .run { settings with platform := settings.platform.or environment })
                (Reading.start.readAll runChoices rest)
          | some .list =>
              ofReading (fun _ => .list) (fun settings => .list settings.filter)
                (Reading.start.readAll listChoices rest)
          | some .help => ofHelpArguments rest
          | _ => .refused .unknownCommand

end Request

end Conformance.CommandLine
