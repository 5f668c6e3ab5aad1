import SqlSkim.Diagnostic.Printer
import SqlSkim.Query.Report

/-!
# `Query.Printer` — reports as text and as JSON

## Contents
- `Format`: the two forms of output.
- `Report.toJson`, `Report.render`: the forms of a report.
- `renderStatements`: the forms of a list of statements.
-/

namespace SqlSkim

/-- The forms of output. -/
inductive Format where
  | text
  | json
  deriving DecidableEq

/-- The form with the given name: everything but `json` is text. -/
def Format.ofName (name : Text) : Format := if name = "json".toList then .json else .text

namespace Report

/-- The data form of a report. -/
def toJson (r : Report) : Json := .object [
  ("query", .text r.query),
  ("statements", .texts r.statements),
  ("method", .text r.command),
  ("table", .ofOption r.table),
  ("tables", .texts r.tables),
  ("join_tables", .texts r.joinTables),
  ("fields", .texts r.columns),
  ("subqueries", .texts r.subqueries),
  ("has_join", .bool r.hasJoin),
  ("has_subquery", .bool r.hasSubquery),
  ("diagnostics", .array (r.diagnostics.map (·.toJson)))]

/-- Several texts in one line; a dash for none. -/
def listing (ts : List Text) : Text := if ts.isEmpty then ['-'] else joinWith ", " ts

/-- The word for a truth value. -/
def yesNo (b : Bool) : Text := if b then "yes".toList else "no".toList

/-- The heading of a numbered list. -/
def heading (title : String) (ts : List Text) : Text :=
  title.toList ++ " (".toList ++ decimal ts.length ++ "):".toList

/-- The lines on the statements, counted from one. -/
def statementLines (ts : List Text) : List Text :=
  if ts.isEmpty then [] else
    heading "statements" ts ::
      ts.mapIdx fun index t => "  ".toList ++ decimal (index + 1 : Nat) ++ ": ".toList ++ t

/-- The lines on the subqueries. -/
def subqueryLines (ts : List Text) : List Text :=
  if ts.isEmpty then [] else heading "subqueries" ts :: ts.map ("  - ".toList ++ ·)

/-- The text of the diagnostics, set off by an empty line. -/
def diagnosticLines (r : Report) : List Text :=
  match renderDiagnostics ⟨some r.query, some r.statements⟩ r.diagnostics with
  | [] => []
  | t => [[], t]

/-- The text form of a report. -/
def renderText (r : Report) : Text :=
  joinWith "\n" <| [
    "method: ".toList ++ (if r.command = [] then ['-'] else r.command),
    "table: ".toList ++ r.table.getD ['-'],
    "tables: ".toList ++ listing r.tables,
    "join tables: ".toList ++ listing r.joinTables,
    "fields: ".toList ++ listing r.columns,
    "has join: ".toList ++ yesNo r.hasJoin,
    "has subquery: ".toList ++ yesNo r.hasSubquery] ++
    statementLines r.statements ++ subqueryLines r.subqueries ++ r.diagnosticLines

/-- A report in the given form. -/
def render (r : Report) : Format → Text
  | .json => r.toJson.render
  | .text => r.renderText

end Report

/-- Statements in the given form: one per line, or as a JSON array. -/
def renderStatements (ts : List Text) : Format → Text
  | .json => (Json.texts ts).render
  | .text => joinWith "\n" ts

end SqlSkim
