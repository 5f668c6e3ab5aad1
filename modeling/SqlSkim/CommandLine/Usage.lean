import SqlSkim.Text.Quoted

/-!
# `CommandLine.Usage` — the texts of the command line

## Contents
- `Subcommand`, `Level`: the commands, and the levels of the command line.
- `Level.usage`, `Level.help`: usage lines and help pages.
- `UsageError`: what can be wrong with the words of a command line, with its wording.
-/

namespace SqlSkim

/-- The commands. -/
inductive Subcommand where
  | inspect
  | split
  deriving DecidableEq

namespace Subcommand

/-- The name of a command. -/
def name : Subcommand → Text
  | inspect => "inspect".toList
  | split => "split".toList

/-- The command of a name. -/
def ofName? (name : Text) : Option Subcommand := [inspect, split].find? (·.name = name)

end Subcommand

/-- The words of a command line are read at two levels: by the program, and by a command. -/
inductive Level where
  | program
  | command (c : Subcommand)

namespace Level

/-- The words that call the level. -/
def path : Level → Text
  | program => "lightsql".toList
  | command c => "lightsql ".toList ++ c.name

/-- The usage line. -/
def usage (level : Level) : Text :=
  "Usage: ".toList ++ level.path ++ match level with
    | program => " [OPTIONS] COMMAND [ARGS]...".toList
    | command _ => " [OPTIONS] [SQL]".toList

/-- What a help page says under the usage line. -/
def description : Level → List String
  | program => [
    "",
    "  lightsql: shallow metadata extraction from raw SQL.",
    "",
    "Options:",
    "  --version      Show the version and exit.",
    "  -v, --verbose  Enable debug logging on stderr.",
    "  --help         Show this message and exit.",
    "",
    "Commands:",
    "  inspect  Extract shallow metadata from SQL without executing it.",
    "  split    Split SQL into normalized statements, one per line."]
  | command .inspect => [
    "",
    "  Extract shallow metadata from SQL without executing it.",
    "",
    "Options:",
    "  --from-stdin          Read SQL from stdin.",
    "  --format [json|text]  Output format.",
    "  --config FILE         Config file (default: $LIGHTSQL_CONFIG or",
    "                        ~/.lightsql/config.toml).",
    "  --help                Show this message and exit."]
  | command .split => [
    "",
    "  Split SQL into normalized statements, one per line.",
    "",
    "Options:",
    "  --from-stdin          Read SQL from stdin.",
    "  --format [json|text]  Output format.",
    "  --config FILE",
    "  --help                Show this message and exit."]

/-- The help page. -/
def help (level : Level) : Text :=
  joinWith "\n" (level.usage :: level.description.map String.toList)

/-- The line that points to the help page. -/
def hint (level : Level) : Text :=
  "Try '".toList ++ level.path ++ " --help' for help.".toList

end Level

/-- The version of the program, as it is shown. -/
def versionText : Text := "lightsql, version 0.1.0".toList

/-! ## Errors -/

/-- What can be wrong with a command line. -/
inductive UsageError where
  /-- No option has the name. Some may have one close to it. -/
  | unknownOption (name : Text) (close : List Text)
  | missingValue (option : Text)
  | unexpectedValue (option : Text)
  | missingCommand
  | unknownCommand (name : Text)
  | extraOperands (operands : List Text)
  | unknownFormat (name : Text)
  | configIsDirectory (path : Text)
  | invalidConfig (reason : Text)
  | twoSources
  | inputIsTerminal
  | missingSql

namespace UsageError

/-- What is said of the options that may have been meant. Several are listed in order. -/
def suggestion : List Text → Text
  | [] => []
  | [option] => " Did you mean ".toList ++ option ++ ['?']
  | options => " (Possible options: ".toList ++ joinWith ", " (options.mergeSort inOrder) ++ [')']

/-- The wording of an error. -/
def message : UsageError → Text
  | unknownOption name close => "No such option: ".toList ++ name ++ suggestion close
  | missingValue option => "Option ".toList ++ quoted option ++ " requires an argument.".toList
  | unexpectedValue option => "Option ".toList ++ quoted option ++ " does not take a value.".toList
  | missingCommand => "Missing command.".toList
  | unknownCommand name => "No such command ".toList ++ quoted name ++ ['.']
  | extraOperands operands =>
    "Got unexpected extra argument".toList ++ (if operands.length = 1 then [] else ['s']) ++
      " (".toList ++ joinWith " " operands ++ [')']
  | unknownFormat name =>
    "Invalid value for '--format': ".toList ++ quoted name ++
      " is not one of 'json', 'text'.".toList
  | configIsDirectory path =>
    "Invalid value for '--config': File ".toList ++ quoted path ++ " is a directory.".toList
  | invalidConfig reason => "Invalid value for '--config': ".toList ++ reason
  | twoSources => "Provide SQL as an argument or --from-stdin, not both.".toList
  | inputIsTerminal => "--from-stdin requires piped input (stdin is a terminal).".toList
  | missingSql => "Missing argument 'SQL'. Provide SQL or use --from-stdin.".toList

/-- Whether the usage line is shown with the error. Faults in the value of an option are reported
    before it is settled whose option it is. -/
def showsUsage : UsageError → Bool
  | missingValue _ | unexpectedValue _ => false
  | _ => true

end UsageError

end SqlSkim
