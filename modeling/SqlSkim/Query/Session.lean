import SqlSkim.Query.Report

/-!
# `Query.Session` — one query, asked about many times

A session holds one query and keeps what it has derived from it: the cleaned query, the analysed
statements and the diagnostics, each computed when it is first needed. Setting another query drops
them all.

## Contents
- `Session`, `Session.ofQuery`, `Session.setQuery`.
- `Session.cleaned`, `Session.statements`, `Session.diagnostics`: the kept values.
- `Request`, `Answer`, `Session.answer`: all that can be asked of a session.
-/

namespace SqlSkim

/-- A query with the values derived from it so far. -/
structure Session where
  config : Config
  query : Text
  cleaned? : Option Text := none
  statements? : Option (List Statement) := none
  diagnostics? : Option (List Diagnostic) := none

namespace Session

/-- The session that has derived nothing yet. -/
def ofQuery (config : Config) (query : Text) : Session := { config, query }

/-- Replaces the query and drops what was derived from the old one. -/
def setQuery (query : Text) : StateM Session Unit := modify fun s => ofQuery s.config query

/-! ## Kept values -/

/-- The cleaned query. -/
def cleaned : StateM Session Text := do
  let s ← get
  match s.cleaned? with
  | some t => return t
  | none =>
    let t := clean s.config.stripLineComments s.query
    set { s with cleaned? := some t }
    return t

/-- The analysed statements. -/
def statements : StateM Session (List Statement) := do
  match (← get).statements? with
  | some all => return all
  | none =>
    let t ← cleaned
    let s ← get
    let all := analyse s.config t
    set { s with statements? := some all }
    return all

/-- The diagnostics. -/
def diagnostics : StateM Session (List Diagnostic) := do
  match (← get).diagnostics? with
  | some ds => return ds
  | none =>
    let t ← cleaned
    let all ← statements
    let s ← get
    let ds := diagnose s.query t all
    set { s with diagnostics? := some ds }
    return ds

/-- The report, from the kept values. -/
def report : StateM Session Report := do
  let all ← statements
  let ds ← diagnostics
  let s ← get
  return .ofAnalysis s.config s.query all ds

end Session

/-! ## Requests -/

/-- What can be asked of a session. -/
inductive Request where
  | setQuery (query : Text)
  | query
  | cleaned
  | statements
  | command
  | columns
  | table
  | tables
  | joinTables
  | hasJoin
  | subqueries
  | hasSubquery
  | diagnostics
  | report
  | config

/-- What a session answers. -/
inductive Answer where
  | done
  | text (t : Text)
  | optionalText (t : Option Text)
  | texts (ts : List Text)
  | flag (b : Bool)
  | diagnostics (ds : List Diagnostic)
  | report (r : Report)
  | config (c : Config)

/-- The answer to a request, and the session after it. -/
def Session.answer : Request → StateM Session Answer
  | .setQuery query => do setQuery query; return .done
  | .query => return .text (← get).query
  | .cleaned => return .text (← cleaned)
  | .statements => return .texts (Statements.texts (← statements))
  | .command => return .text (Statements.command (← statements))
  | .columns => return .texts (Statements.columns (← statements))
  | .table => return .optionalText (Statements.table (← statements))
  | .tables => return .texts (Statements.tables (← statements))
  | .joinTables => return .texts (Statements.joinTables (← statements))
  | .hasJoin => do
    let all ← statements
    return .flag (Statements.hasJoin (← get).config all)
  | .subqueries => return .texts (Statements.subqueries (← statements))
  | .hasSubquery => return .flag !(Statements.subqueries (← statements)).isEmpty
  | .diagnostics => return .diagnostics (← diagnostics)
  | .report => return .report (← report)
  | .config => return .config (← get).config

/-- The answers to several requests in turn. -/
def Session.answers (requests : List Request) : StateM Session (List Answer) :=
  requests.mapM answer

end SqlSkim
