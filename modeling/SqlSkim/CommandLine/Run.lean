import SqlSkim.CommandLine.Words
import SqlSkim.Config.File
import SqlSkim.Query.Printer

/-!
# `CommandLine.Run` — what a command line does

A run reads files and standard input through its `Surroundings`, and everything else about it is a
function of the words and of what was read. The order of the steps decides which of several errors
is reported: the words are read, options are checked, the SQL is found, the settings are loaded, and
only then is the query scanned.

## Contents
- `Surroundings`, `Outcome`: what a run is given and what it gives back.
- `withoutEscapes`: text without terminal escape sequences.
- `resolveSql`: where the SQL comes from.
- `runCommand`, `run`: a run of a command, and of the program.
-/

namespace SqlSkim

/-! ## Surroundings and outcome -/

/-- What a run can see around it. -/
structure Surroundings (m : Type → Type) where
  /-- What a path names. -/
  file : Text → m FileState
  /-- The text on standard input. -/
  input : m Text
  inputIsTerminal : Bool
  /-- The path of the settings file that the environment names. -/
  configVariable : Option Text
  home : Text
  /-- The time, as the log shows it. -/
  stamp : Text

/-- What a run gives back: exit code, standard output and standard error, and the failure that ended
    it early if there was one. -/
structure Outcome where
  exitCode : Nat := 0
  output : Text := []
  errors : Text := []
  failure : Option LoadError := none

/-- The parameters of a terminal escape sequence. -/
def isEscapeParameter (c : Char) : Bool := c.isDigit || c = ';' || c = '?'

/-- The text without its terminal escape sequences: an escape, `[`, parameters and a letter. -/
def withoutEscapes (t : Text) : Text :=
  match t with
  | [] => []
  | '\x1b' :: '[' :: rest =>
    have := (List.dropWhile_sublist (l := rest) isEscapeParameter).length_le
    match _h : rest.dropWhile isEscapeParameter with
    | c :: after =>
      if c.isAlpha then withoutEscapes after else '\x1b' :: withoutEscapes ('[' :: rest)
    | [] => '\x1b' :: withoutEscapes ('[' :: rest)
  | c :: rest => c :: withoutEscapes rest
termination_by t.length
decreasing_by all_goals grind

/-- A text as it is printed: without escape sequences, and with a line end. -/
def printed (t : Text) : Text := withoutEscapes t ++ ['\n']

/-- The outcome of a usage error. -/
def Outcome.ofUsageError (level : Level) (e : UsageError) : Outcome where
  exitCode := 2
  errors :=
    (if e.showsUsage then level.usage ++ '\n' :: level.hint ++ "\n\n".toList else []) ++
      printed ("Error: ".toList ++ e.message)

/-- A line of the log. -/
def logLine (stamp : Text) (topic : String) (message : Text) : Text :=
  stamp ++ " DEBUG ".toList ++ topic.toList ++ ": ".toList ++ message ++ ['\n']

/-! ## Commands -/

variable {m : Type → Type} [Monad m]

/-- The SQL of a run, from exactly one source: an operand or standard input. An empty operand gives
    way to standard input. -/
def resolveSql (around : Surroundings m) (operand : Option Text) (fromInput : Bool) :
    m (Except UsageError Text) := do
  if fromInput then
    if operand.any (· ≠ []) then return .error .twoSources
    else if around.inputIsTerminal then return .error .inputIsTerminal
    else return .ok (← around.input)
  else match operand with
    | some sql => return .ok sql
    | none => return .error .missingSql

/-- The outcome of a failure that ends a run. -/
def Outcome.ofLoadError (e : LoadError) : Outcome where
  exitCode := 1
  failure := some e

/-- Checks the value of an option. A value that is not valid gives the outcome of the run. -/
def checkOption (around : Surroundings m) (level : Level) (words : Words) (option : Text) :
    m (Except Outcome Unit) := do
  match words.value? option with
  | none => return .ok ()
  | some value =>
    if option = formatOption then
      if value = "json".toList ∨ value = "text".toList then return .ok ()
      else return .error (.ofUsageError level (.unknownFormat value))
    else if option = configOption ∧ value ≠ [] then
      if value.contains '\x00' then return .error (.ofLoadError .nullInPath)
      else match ← around.file value with
        | .directory => return .error (.ofUsageError level (.configIsDirectory value))
        | _ => return .ok ()
    else return .ok ()

/-- Checks the values of several options in turn, up to the first that is not valid. -/
def checkOptions (around : Surroundings m) (level : Level) (words : Words) :
    List Text → m (Except Outcome Unit)
  | [] => return .ok ()
  | option :: more => do
    match ← checkOption around level words option with
    | .error outcome => return .error outcome
    | .ok () => checkOptions around level words more

/-- What a command prints for a query, and its exit code. -/
def Subcommand.answer (c : Subcommand) (format : Format) (config : Config) (sql : Text) :
    Outcome :=
  match c with
  | .inspect =>
    let report := Report.ofQuery config sql
    { exitCode := if report.hasErrors then 1 else 0, output := printed (report.render format) }
  | .split =>
    let found := statements (clean config.stripLineComments sql)
    match renderStatements found format with
    | [] => {}
    | text => { output := printed text }

/-- The log of a run that has loaded its settings and scanned its query. -/
def runLog (stamp : Text) (loaded : Loaded) (sql : Text) : Text :=
  let count := (statements (clean loaded.config.stripLineComments sql)).length
  logLine stamp "lightsql.config" loaded.describe ++
    logLine stamp "lightsql.parser"
      ("split query into ".toList ++ decimal count ++ " statement(s)".toList)

/-- The run of a command whose options are valid. -/
def runValid (around : Surroundings m) (verbose : Bool) (c : Subcommand) (words : Words) :
    m Outcome := do
  let level := Level.command c
  match ← resolveSql around words.operands.head? (words.has stdinOption) with
  | .error e => return .ofUsageError level e
  | .ok sql =>
    let path := configPath (words.value? configOption) around.configVariable around.home
    match loadConfig path (← around.file path) with
    | .error (.config e) => return .ofUsageError level (.invalidConfig e.message)
    | .error e => return .ofLoadError e
    | .ok loaded =>
      let format := Format.ofName ((words.value? formatOption).getD [])
      let outcome := c.answer format loaded.config sql
      return { outcome with
        errors := if verbose then runLog around.stamp loaded sql else [] }

/-- The run of a command with the given words. -/
def runCommand (around : Surroundings m) (verbose : Bool) (c : Subcommand)
    (arguments : List Text) : m Outcome := do
  let level := Level.command c
  match readWords level.grammar arguments with
  | .error e => return .ofUsageError level e
  | .ok words =>
    if words.has helpOption then return { output := printed level.help }
    else match ← checkOptions around level words words.given with
      | .error outcome => return outcome
      | .ok () =>
        if words.operands.tail = [] then runValid around verbose c words
        else return .ofUsageError level (.extraOperands words.operands.tail)

/-! ## The program -/

/-- What the options of the program ask for instead of a command. Of several, the first one given
    counts. -/
def information? (words : Words) : Option Outcome :=
  match words.given.find? fun option => option = versionOption || option = helpOption with
  | none => none
  | some option =>
    if option = versionOption then some { output := printed versionText }
    else some { output := printed Level.program.help }

/-- The outcome of a name that no command has. A name that looks like an option, as it can stand
    behind `--`, is read as one first. -/
def unknownCommand (name : Text) (arguments : List Text) : Outcome :=
  let unknown := Outcome.ofUsageError .program (.unknownCommand name)
  if name.head? = some '-' then
    match readWords Level.program.grammar (name :: arguments) with
    | .error e => .ofUsageError .program e
    | .ok words => (information? words).getD unknown
  else unknown

/-- **The run of a command line.** Line ends on standard input are read as line feeds. -/
def run (around : Surroundings m) (arguments : List Text) : m Outcome := do
  if arguments = [] then
    return { exitCode := 2, errors := printed Level.program.help }
  else match readWords Level.program.grammar arguments with
    | .error e => return .ofUsageError .program e
    | .ok words =>
      match information? words, words.operands with
      | some outcome, _ => return outcome
      | none, [] => return .ofUsageError .program .missingCommand
      | none, name :: more =>
        match Subcommand.ofName? name with
        | some c =>
          let around := { around with input := unifyLineEnds <$> around.input }
          runCommand around (words.has verboseOption) c more
        | none => return unknownCommand name more

end SqlSkim
