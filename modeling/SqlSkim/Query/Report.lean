import SqlSkim.Config.Basic
import SqlSkim.Diagnostic.Check
import SqlSkim.Statement.Column
import SqlSkim.Statement.Subquery

/-!
# `Query.Report` — everything a scan finds in a query

A query is cleaned, split into statements, and each statement is analysed on its own. What is said
of the whole query is read off the list of analysed statements.

## Contents
- `Statement`, `analyse`: the analysed statements of a query.
- `Statements.*`: the findings, each a function of that list.
- `diagnose`: the diagnostics of a query.
- `Report`, `Report.ofQuery`: all findings together.
-/

namespace SqlSkim

/-! ## Analysed statements -/

/-- A statement with its command and its tables. -/
structure Statement where
  text : Text
  command : Option Command
  tables : Tables

/-- The analysis of a statement. -/
def Statement.ofText (config : Config) (t : Text) : Statement :=
  let command := Command.ofStatement? t
  ⟨t, command, .ofStatement config.joinKeywords command t⟩

/-- The analysed statements of a cleaned query. -/
def analyse (config : Config) (cleaned : Text) : List Statement :=
  (statements cleaned).map (.ofText config)

/-! ## Findings -/

namespace Statements

/-- The texts of the statements. -/
def texts (all : List Statement) : List Text := all.map (·.text)

/-- The keyword of the first statement, empty if there is none. -/
def command (all : List Statement) : Text := Command.textOf (all.head?.bind (·.command))

/-- The columns of the first statement. -/
def columns : List Statement → List Text
  | [] => []
  | first :: _ => SqlSkim.columns first.command first.text

/-- The table that the first statement is about. -/
def table (all : List Statement) : Option Text := all.head?.bind (·.tables.target)

/-- The tables of all statements. -/
def tables (all : List Statement) : List Text := (all.flatMap (·.tables.all)).eraseDups

/-- The joined tables of all statements. -/
def joinTables (all : List Statement) : List Text := (all.flatMap (·.tables.joined)).eraseDups

/-- Whether some statement has a join. -/
def hasJoin (config : Config) (all : List Statement) : Bool :=
  all.any fun s => SqlSkim.hasJoin config.joinKeywords s.text

/-- The subqueries of all statements. -/
def subqueries (all : List Statement) : List Text :=
  (all.flatMap fun s => SqlSkim.subqueries s.text).eraseDups

end Statements

/-! ## Diagnostics -/

/-- The diagnostics of one analysed statement. -/
def Statement.diagnose (s : Statement) : List Diagnostic :=
  [checkParens s.text, checkCommand s.text s.command, checkTable s.command s.tables].filterMap id

/-- The diagnostics of a query: those of the raw query, of the cleaned query, and of each of its
    statements in turn. -/
def diagnose (query cleaned : Text) (all : List Statement) : List Diagnostic :=
  [checkComment query, checkQuotes query, checkEmptyStatements cleaned].filterMap id ++
    (all.mapIdx fun index s => s.diagnose.map (·.atStatement index)).flatten

/-! ## The report -/

/-- Everything a scan finds in a query. -/
structure Report where
  query : Text
  statements : List Text
  command : Text
  table : Option Text
  tables : List Text
  joinTables : List Text
  columns : List Text
  subqueries : List Text
  hasJoin : Bool
  hasSubquery : Bool
  diagnostics : List Diagnostic

namespace Report

/-- The report on a query whose analysis is at hand. -/
def ofAnalysis (config : Config) (query : Text) (all : List Statement)
    (diagnostics : List Diagnostic) : Report where
  query := query
  statements := Statements.texts all
  command := Statements.command all
  table := Statements.table all
  tables := Statements.tables all
  joinTables := Statements.joinTables all
  columns := Statements.columns all
  subqueries := Statements.subqueries all
  hasJoin := Statements.hasJoin config all
  hasSubquery := !(Statements.subqueries all).isEmpty
  diagnostics := diagnostics

/-- **The report on a query.** -/
def ofQuery (config : Config) (query : Text) : Report :=
  let cleaned := clean config.stripLineComments query
  let all := analyse config cleaned
  ofAnalysis config query all (diagnose query cleaned all)

/-- Whether the report holds an error. -/
def hasErrors (r : Report) : Bool := Diagnostic.maxSeverity r.diagnostics = some .error

end Report

end SqlSkim
