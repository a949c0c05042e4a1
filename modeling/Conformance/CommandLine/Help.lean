import Conformance.Text.ControlSequence
import Conformance.Text.Lines

namespace Conformance.CommandLine

/-!
# Help texts

What the command line says of itself, in short and at length.  Headings are
underlined and the words to be typed are bold.  The texts are told as plain text:
these styles go again, and with them all controls and control sequences in
the value that the environment gives.
-/

/-- The name and the version. -/
def versionText : String :=
  "specrun 0.1.0-alpha.1\n"

/-- A heading, bold and underlined. -/
def heading (words : String) : String :=
  "\x1b[1m\x1b[4m" ++ words ++ "\x1b[0m"

/-- Words to be typed, in bold. -/
def typed (words : String) : String :=
  "\x1b[1m" ++ words ++ "\x1b[0m"

/-- Something to be told about. -/
inductive Topic where
  | program
  | run (long : Bool)
  | list
  | help
  deriving Repr, DecidableEq

namespace Topic

/-- Help on the program. -/
def programText : String :=
  "Run the runtime conformance corpus\n\n" ++
    heading "Usage:" ++ " " ++ typed "specrun" ++ " <COMMAND>\n\n" ++
    heading "Commands:" ++ "\n" ++
    "  " ++ typed "run" ++ "   Run scenarios (pytest-style)\n" ++
    "  " ++ typed "list" ++ "  List scenario descriptions\n" ++
    "  " ++ typed "help" ++
      "  Print this message or the help of the given subcommand(s)\n\n" ++
    heading "Options:" ++ "\n" ++
    "  " ++ typed "-h" ++ ", " ++ typed "--help" ++ "     Print help\n" ++
    "  " ++ typed "-V" ++ ", " ++ typed "--version" ++ "  Print version\n"

/-- The platform that the environment asks for, as help shows it. -/
def environmentText (environment : String) : String :=
  "[env: SPECRUN_PLATFORM=" ++ environment ++ "]"

/-- Short help on running, given the platform that the environment asks for. -/
def shortRunText (environment : String) : String :=
  "Run scenarios (pytest-style)\n\n" ++
    heading "Usage:" ++ " " ++ typed "specrun run" ++ " [OPTIONS]\n\n" ++
    heading "Options:" ++ "\n" ++
    "  " ++ typed "-v" ++ ", " ++ typed "--verbose" ++
      "          Verbose output\n" ++
    "  " ++ typed "-x" ++ ", " ++ typed "--exitfirst" ++
      "        Stop on first failure\n" ++
    "  " ++ typed "-k" ++ " <EXPR>              " ++
    "Filter scenarios by a substring of \"<group> <scenario>\"\n" ++
    "      " ++ typed "--platform" ++ " <ID>    " ++
    Text.setIn 25
      ("Platform identifier to evaluate guards against (e.g. x86_64-windows) " ++
        environmentText environment) ++ "\n" ++
    "      " ++ typed "--format" ++ " <FORMAT>  " ++
    "Report format [default: console] [possible values: console, json]\n" ++
    "  " ++ typed "-h" ++ ", " ++ typed "--help" ++
    "             Print help (see more with '--help')\n"

/-- Long help on running, given the platform that the environment asks for. -/
def longRunText (environment : String) : String :=
  "Run scenarios (pytest-style)\n\n" ++
    heading "Usage:" ++ " " ++ typed "specrun run" ++ " [OPTIONS]\n\n" ++
    heading "Options:" ++ "\n" ++
    "  " ++ typed "-v" ++ ", " ++ typed "--verbose" ++ "\n" ++
    "          Verbose output\n\n" ++
    "  " ++ typed "-x" ++ ", " ++ typed "--exitfirst" ++ "\n" ++
    "          Stop on first failure\n\n" ++
    "  " ++ typed "-k" ++ " <EXPR>\n" ++
    "          Filter scenarios by a substring of \"<group> <scenario>\"\n\n" ++
    "      " ++ typed "--platform" ++ " <ID>\n" ++
    "          " ++
    Text.setIn 10
      ("Platform identifier to evaluate guards against (e.g. x86_64-windows)\n\n" ++
        environmentText environment) ++ "\n\n" ++
    "      " ++ typed "--format" ++ " <FORMAT>\n" ++
    "          Report format\n\n" ++
    "          Possible values:\n" ++
    "          - " ++ typed "console" ++
      ": pytest-style progress and summary on stderr\n" ++
    "          - " ++ typed "json" ++ ":    One JSON object per line on stdout\n" ++
    "          \n" ++
    "          [default: console]\n\n" ++
    "  " ++ typed "-h" ++ ", " ++ typed "--help" ++ "\n" ++
    "          Print help (see a summary with '-h')\n"

/-- Help on listing. -/
def listText : String :=
  "List scenario descriptions\n\n" ++
    heading "Usage:" ++ " " ++ typed "specrun list" ++ " [OPTIONS]\n\n" ++
    heading "Options:" ++ "\n" ++
    "  " ++ typed "-k" ++ " <EXPR>   " ++
    "Filter scenarios by a substring of \"<group> <scenario>\"\n" ++
    "  " ++ typed "-h" ++ ", " ++ typed "--help" ++ "  Print help\n"

/-- Help on asking for help. -/
def helpText : String :=
  "Print this message or the help of the given subcommand(s)\n\n" ++
    heading "Usage:" ++ " " ++ typed "specrun help" ++ " [COMMAND]...\n\n" ++
    heading "Arguments:" ++ "\n" ++
    "  [COMMAND]...  Print help for the subcommand(s)\n"

/--
What is said of a topic with its styles, given the platform that
the environment asks for.
-/
def styledText (environment : Option String) : Topic → String
  | .program => programText
  | .run true => longRunText (environment.getD "")
  | .run false => shortRunText (environment.getD "")
  | .list => listText
  | .help => helpText

/-- What is said of a topic, without styles. -/
def text (environment : Option String) (topic : Topic) : String :=
  Text.withoutControls (topic.styledText environment)

end Topic

end Conformance.CommandLine
