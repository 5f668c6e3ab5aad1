import SqlSkim.Proofs.Checked.Report
import SqlSkim.Query.Session

/-!
# `Checked.Session` — asking a session never fails

A session whose scans ask for characters and entries by their offsets can fail at any request, and a failure
would leave the answer and the kept values undone. It never does: in whatever state it is, and whatever the
query and the keywords of the settings are, it answers as the session does that takes texts apart from the
front, and keeps the same values.

## Contents
- `Checked.Agrees`: an action that never fails and does what another one does.
- `Checked.Session.cleaned`, `Checked.Session.statements`, `Checked.Session.diagnostics`,
  `Checked.Session.report`: the kept values and the report.
- `Checked.Session.answer`, `Checked.Session.answers`; `answers_return`: the main result.
-/

namespace SqlSkim

namespace Checked

/-- Actions on a session that can fail. -/
abbrev SessionM := StateT SqlSkim.Session (Except OffsetError)

/-! ## Actions that agree -/

section Agrees

variable {α β : Type}

/-- In every state of the session, `m` does not fail, and answers and leaves the session as `action`
    does. -/
def Agrees (m : SessionM α) (action : StateM SqlSkim.Session α) : Prop :=
  ∀ s, m.run s = .ok (action.run s)

namespace Agrees

theorem pure (a : α) : Agrees (Pure.pure a) (Pure.pure a) := fun _ => rfl

theorem bind {m : SessionM α} {action : StateM SqlSkim.Session α} {f : α → SessionM β}
    {g : α → StateM SqlSkim.Session β} (hm : Agrees m action) (hf : ∀ a, Agrees (f a) (g a)) :
    Agrees (m >>= f) (action >>= g) := by
  intro s
  rw [StateT.run_bind, hm s, ok_bind]
  exact hf _ _

theorem get_bind {f : SqlSkim.Session → SessionM α} {g : SqlSkim.Session → StateM SqlSkim.Session α}
    (hf : ∀ s, Agrees (f s) (g s)) : Agrees (get >>= f) (get >>= g) := fun s => hf s s

theorem set (s : SqlSkim.Session) : Agrees (MonadStateOf.set s) (MonadStateOf.set s) := fun _ => rfl

/-- A computation that gives a value can be left out. -/
theorem lift_bind {x : Except OffsetError α} {a : α} (hx : x = .ok a) {f : α → SessionM β}
    {action : StateM SqlSkim.Session β} (hf : Agrees (f a) action) :
    Agrees ((liftM x : SessionM α) >>= f) action := by
  subst hx
  exact hf

end Agrees

end Agrees

namespace Session

/-! ## Kept values -/

/-- The cleaned query. -/
def cleaned : SessionM Text := do
  let s ← get
  match s.cleaned? with
  | some t => return t
  | none =>
    let t ← liftM (clean s.config.stripLineComments s.query)
    set { s with cleaned? := some t }
    return t

theorem cleaned_agrees : Agrees cleaned SqlSkim.Session.cleaned := by
  refine .get_bind fun s => ?_
  cases hkept : s.cleaned? with
  | some t => exact .pure t
  | none => exact .lift_bind (clean_eq _ _) (.bind (.set _) fun _ => .pure _)

/-- The analysed statements. -/
def statements : SessionM (List Statement) := do
  match (← get).statements? with
  | some all => return all
  | none =>
    let t ← cleaned
    let s ← get
    let all ← liftM (analyse s.config t)
    set { s with statements? := some all }
    return all

theorem statements_agrees : Agrees statements SqlSkim.Session.statements := by
  refine .get_bind fun s => ?_
  cases hkept : s.statements? with
  | some all => exact .pure all
  | none =>
      refine .bind cleaned_agrees fun t => .get_bind fun s => ?_
      exact .lift_bind (analyse_eq _ _) (.bind (.set _) fun _ => .pure _)

/-- The diagnostics. -/
def diagnostics : SessionM (List Diagnostic) := do
  match (← get).diagnostics? with
  | some ds => return ds
  | none =>
    let t ← cleaned
    let all ← statements
    let s ← get
    let ds ← liftM (diagnose s.query t all)
    set { s with diagnostics? := some ds }
    return ds

theorem diagnostics_agrees : Agrees diagnostics SqlSkim.Session.diagnostics := by
  refine .get_bind fun s => ?_
  cases hkept : s.diagnostics? with
  | some ds => exact .pure ds
  | none =>
      refine .bind cleaned_agrees fun t => .bind statements_agrees fun all => .get_bind fun s => ?_
      exact .lift_bind (diagnose_eq _ _ _) (.bind (.set _) fun _ => .pure _)

/-! ## Findings -/

/-- The columns of the first statement. -/
def columns (all : List Statement) : Except OffsetError (List Text) := do
  match ← headAt all with
  | none => return []
  | some first => columnsOf first.command first.text

theorem columns_eq (all : List Statement) : columns all = .ok (Statements.columns all) := by
  rw [columns, headAt_eq, ok_bind]
  cases all with
  | nil => rfl
  | cons first more => exact columnsOf_eq first.command first.text

/-- The keyword of the first statement. -/
def command (all : List Statement) : Except OffsetError Text :=
  return Command.textOf ((← headAt all).bind (·.command))

theorem command_eq (all : List Statement) : command all = .ok (Statements.command all) := by
  rw [command, headAt_eq]
  rfl

/-- The table that the first statement is about. -/
def table (all : List Statement) : Except OffsetError (Option Text) :=
  return (← headAt all).bind (·.tables.target)

theorem table_eq (all : List Statement) : table all = .ok (Statements.table all) := by
  rw [table, headAt_eq]
  rfl

/-- The report, one finding after another. -/
def report : SessionM Report := do
  let all ← statements
  let diagnostics ← diagnostics
  let s ← get
  let command ← liftM (command all)
  let table ← liftM (table all)
  let columns ← liftM (columns all)
  let subqueries ← liftM (allSubqueries all)
  let hasJoin ← liftM (anyJoin s.config.joinKeywords all)
  return {
    query := s.query
    statements := Statements.texts all
    command, table
    tables := Statements.tables all
    joinTables := Statements.joinTables all
    columns, subqueries, hasJoin
    hasSubquery := !subqueries.isEmpty
    diagnostics }

theorem report_agrees : Agrees report SqlSkim.Session.report := by
  refine .bind statements_agrees fun all => .bind diagnostics_agrees fun ds => .get_bind fun s => ?_
  refine .lift_bind (command_eq all) (.lift_bind (table_eq all) (.lift_bind (columns_eq all) ?_))
  exact .lift_bind (allSubqueries_eq all) (.lift_bind (anyJoin_eq s.config all) (.pure _))

/-! ## Requests -/

/-- The answer to a request, and the session after it. -/
def answer : Request → SessionM Answer
  | .setQuery query => do
    modify fun s => SqlSkim.Session.ofQuery s.config query
    return .done
  | .query => return .text (← get).query
  | .cleaned => return .text (← cleaned)
  | .statements => return .texts (Statements.texts (← statements))
  | .command => do return .text (← liftM (command (← statements)))
  | .columns => do return .texts (← liftM (columns (← statements)))
  | .table => do return .optionalText (← liftM (table (← statements)))
  | .tables => return .texts (Statements.tables (← statements))
  | .joinTables => return .texts (Statements.joinTables (← statements))
  | .hasJoin => do
    let all ← statements
    return .flag (← liftM (anyJoin (← get).config.joinKeywords all))
  | .subqueries => do return .texts (← liftM (allSubqueries (← statements)))
  | .hasSubquery => do return .flag !(← liftM (allSubqueries (← statements))).isEmpty
  | .diagnostics => return .diagnostics (← diagnostics)
  | .report => return .report (← report)
  | .config => return .config (← get).config

/-- **One request** never fails. -/
theorem answer_agrees (r : Request) : Agrees (answer r) (SqlSkim.Session.answer r) := by
  cases r with
  | setQuery query => exact fun _ => rfl
  | query => exact .get_bind fun s => .pure _
  | config => exact .get_bind fun s => .pure _
  | cleaned => exact .bind cleaned_agrees fun t => .pure _
  | diagnostics => exact .bind diagnostics_agrees fun ds => .pure _
  | report => exact .bind report_agrees fun r => .pure _
  | statements => exact .bind statements_agrees fun all => .pure _
  | tables => exact .bind statements_agrees fun all => .pure _
  | joinTables => exact .bind statements_agrees fun all => .pure _
  | command => exact .bind statements_agrees fun all => .lift_bind (command_eq all) (.pure _)
  | columns => exact .bind statements_agrees fun all => .lift_bind (columns_eq all) (.pure _)
  | table => exact .bind statements_agrees fun all => .lift_bind (table_eq all) (.pure _)
  | subqueries => exact .bind statements_agrees fun all => .lift_bind (allSubqueries_eq all) (.pure _)
  | hasSubquery => exact .bind statements_agrees fun all => .lift_bind (allSubqueries_eq all) (.pure _)
  | hasJoin =>
      refine .bind statements_agrees fun all => .get_bind fun s => ?_
      exact .lift_bind (anyJoin_eq s.config all) (.pure _)

/-- The answers to several requests in turn. -/
def answers (requests : List Request) : SessionM (List Answer) := requests.mapM answer

/-- **A run of requests** never fails. -/
theorem answers_agrees (requests : List Request) :
    Agrees (answers requests) (SqlSkim.Session.answers requests) := by
  unfold answers SqlSkim.Session.answers
  induction requests with
  | nil => exact .pure []
  | cons r more ih =>
      rw [List.mapM_cons, List.mapM_cons]
      exact .bind (answer_agrees r) fun a => .bind ih fun more => .pure _

/-- **Accessors return.** Asking for an entry behind the end of a list, and looking for a phrase behind the
    end of a text, is an error. A session that asks by offsets meets no such error, in whatever state it is
    and whatever its settings and the requests are: it answers as the session without offsets does, and is
    left in the same state. -/
theorem accessors_return :
    (∀ (α : Type) (items : List α) (i : Nat), (∃ e, itemAt items i = .error e) ↔ items.length ≤ i) ∧
      (∀ (p : Phrase) (t : Text) (pos : Nat),
        (∃ e, matchAt p t pos = .error e) ↔ p.words ≠ [] ∧ t.length < pos) ∧
      ∀ (s : SqlSkim.Session) (requests : List Request),
        (answers requests).run s = .ok ((SqlSkim.Session.answers requests).run s) :=
  ⟨fun _ _ _ => itemAt_error_iff, fun _ _ _ => matchAt_error_iff,
    fun s requests => answers_agrees requests s⟩

end Session

end Checked

end SqlSkim
