import SqlSkim.Query.Session

/-!
# `Session.Transparency` — the kept values of a session never show

A session computes the cleaned query, the analysed statements and the diagnostics when they are first
needed, and keeps them until another query is set. Which of them it holds at some moment depends on
everything that was asked before. This module shows that no answer depends on it.

## Contents
- **The invariant.** `Faithful`: each kept value is missing, or is the one of the query at hand.
- **Actions.** `Yields`: an action answers the same in every faithful session and keeps it faithful; one
  lemma for each action that fills a kept value.
- **Requests and runs.** `answer_step` for one request, `answers_run` for any sequence of them.
- `answers_eq_fresh`: the main result, against sessions that have derived nothing yet.
-/

namespace SqlSkim

/-! ## What a query gives -/

/-- The cleaned form of a query under the settings. -/
def cleanedOf (config : Config) (query : Text) : Text := clean config.stripLineComments query

/-- The analysed statements of a query. -/
def statementsOf (config : Config) (query : Text) : List Statement :=
  analyse config (cleanedOf config query)

/-- The diagnostics of a query. -/
def diagnosticsOf (config : Config) (query : Text) : List Diagnostic :=
  diagnose query (cleanedOf config query) (statementsOf config query)

/-- The answer to a request about a query, computed without a session. -/
def Request.reply (config : Config) (query : Text) : Request → Answer
  | .setQuery _ => .done
  | .query => .text query
  | .cleaned => .text (cleanedOf config query)
  | .statements => .texts (Statements.texts (statementsOf config query))
  | .command => .text (Statements.command (statementsOf config query))
  | .columns => .texts (Statements.columns (statementsOf config query))
  | .table => .optionalText (Statements.table (statementsOf config query))
  | .tables => .texts (Statements.tables (statementsOf config query))
  | .joinTables => .texts (Statements.joinTables (statementsOf config query))
  | .hasJoin => .flag (Statements.hasJoin config (statementsOf config query))
  | .subqueries => .texts (Statements.subqueries (statementsOf config query))
  | .hasSubquery => .flag !(Statements.subqueries (statementsOf config query)).isEmpty
  | .diagnostics => .diagnostics (diagnosticsOf config query)
  | .report => .report (Report.ofQuery config query)
  | .config => .config config

/-- The query at hand after one more request. -/
def Request.queryAfter (query : Text) : Request → Text
  | .setQuery other => other
  | _ => query

/-- The query at hand after several requests: that of the latest `setQuery`, or else the first one. -/
def latestQuery (query : Text) (requests : List Request) : Text :=
  requests.foldl Request.queryAfter query

namespace Session

variable {α β : Type} {config : Config} {query : Text}

/-! ## The invariant -/

/-- **The invariant of a session.** It holds the query and the settings, and each of its three kept
    values is missing or is the one that the query gives. -/
structure Faithful (config : Config) (query : Text) (s : Session) : Prop where
  config_eq : s.config = config
  query_eq : s.query = query
  cleaned_eq : s.cleaned? = none ∨ s.cleaned? = some (cleanedOf config query)
  statements_eq : s.statements? = none ∨ s.statements? = some (statementsOf config query)
  diagnostics_eq : s.diagnostics? = none ∨ s.diagnostics? = some (diagnosticsOf config query)

/-- A session that has derived nothing is faithful. -/
theorem faithful_ofQuery (config : Config) (query : Text) :
    Faithful config query (ofQuery config query) :=
  ⟨rfl, rfl, .inl rfl, .inl rfl, .inl rfl⟩

/-! ## Actions -/

/-- In every session faithful to the query, the action answers `v` and leaves the session faithful. -/
def Yields (config : Config) (query : Text) (m : StateM Session α) (v : α) : Prop :=
  ∀ s, Faithful config query s → (m.run s).1 = v ∧ Faithful config query (m.run s).2

theorem Yields.pure (v : α) : Yields config query (Pure.pure v) v := fun _ hs => ⟨rfl, hs⟩

theorem Yields.bind {m : StateM Session α} {f : α → StateM Session β} {v : α} {w : β}
    (hm : Yields config query m v) (hf : Yields config query (f v) w) :
    Yields config query (m >>= f) w := by
  intro s hs
  obtain ⟨hv, hs'⟩ := hm s hs
  have hrun : (m >>= f).run s = (f v).run (m.run s).2 := by rw [← hv]; rfl
  rw [hrun]
  exact hf _ hs'

/-- Reading the session gives a faithful one. -/
theorem Yields.get_bind {f : Session → StateM Session α} {v : α}
    (hf : ∀ s, Faithful config query s → Yields config query (f s) v) :
    Yields config query (get >>= f) v := fun s hs => hf s hs s hs

theorem Yields.set {s : Session} (hs : Faithful config query s) :
    Yields config query (MonadStateOf.set s) PUnit.unit := fun _ _ => ⟨rfl, hs⟩

/-- The cleaned query is computed from the query at hand, or was. -/
theorem cleaned_yields : Yields config query cleaned (cleanedOf config query) := by
  refine .get_bind fun s hs => ?_
  rcases hs.cleaned_eq with h | h
  · simp only [h]
    rw [hs.config_eq, hs.query_eq]
    refine .bind (.set ?_) (.pure _)
    exact ⟨rfl, rfl, .inr rfl, hs.statements_eq, hs.diagnostics_eq⟩
  · simp only [h]
    exact .pure _

/-- The statements are those of the cleaned query, which `cleaned` gives. -/
theorem statements_yields : Yields config query statements (statementsOf config query) := by
  refine .get_bind fun s hs => ?_
  rcases hs.statements_eq with h | h
  · simp only [h]
    refine .bind cleaned_yields (.get_bind fun s' hs' => ?_)
    rw [hs'.config_eq]
    refine .bind (.set ?_) (.pure _)
    exact ⟨rfl, hs'.query_eq, hs'.cleaned_eq, .inr rfl, hs'.diagnostics_eq⟩
  · simp only [h]
    exact .pure _

/-- The diagnostics look at the raw query, the cleaned query and the statements. -/
theorem diagnostics_yields : Yields config query diagnostics (diagnosticsOf config query) := by
  refine .get_bind fun s hs => ?_
  rcases hs.diagnostics_eq with h | h
  · -- the other two values may be filled on the way; `s'` is the session after that
    simp only [h]
    refine .bind cleaned_yields (.bind statements_yields (.get_bind fun s' hs' => ?_))
    rw [hs'.query_eq]
    refine .bind (.set ?_) (.pure _)
    exact ⟨hs'.config_eq, rfl, hs'.cleaned_eq, hs'.statements_eq, .inr rfl⟩
  · simp only [h]
    exact .pure _

theorem report_yields : Yields config query report (Report.ofQuery config query) := by
  refine .bind statements_yields (.bind diagnostics_yields (.get_bind fun s hs => ?_))
  rw [hs.config_eq, hs.query_eq]
  exact .pure _

/-! ## Requests and runs -/

/-- A request that sets no query is answered from the query at hand. -/
theorem answer_yields {r : Request} (hr : ∀ other, r ≠ .setQuery other) :
    Yields config query (answer r) (r.reply config query) := by
  cases r with
  | setQuery other => exact absurd rfl (hr other)
  | query => exact .get_bind fun s hs => by rw [hs.query_eq]; exact .pure _
  | config => exact .get_bind fun s hs => by rw [hs.config_eq]; exact .pure _
  | cleaned => exact .bind cleaned_yields (.pure _)
  | hasJoin =>
      exact .bind statements_yields (.get_bind fun s hs => by rw [hs.config_eq]; exact .pure _)
  | diagnostics => exact .bind diagnostics_yields (.pure _)
  | report => exact .bind report_yields (.pure _)
  | statements => exact .bind statements_yields (.pure _)
  | command => exact .bind statements_yields (.pure _)
  | columns => exact .bind statements_yields (.pure _)
  | table => exact .bind statements_yields (.pure _)
  | tables => exact .bind statements_yields (.pure _)
  | joinTables => exact .bind statements_yields (.pure _)
  | subqueries => exact .bind statements_yields (.pure _)
  | hasSubquery => exact .bind statements_yields (.pure _)

/-- **One request.** It is answered from the query at hand, and the session after it is faithful to the
    query at hand then. -/
theorem answer_step {s : Session} (hs : Faithful config query s) (r : Request) :
    ((answer r).run s).1 = r.reply config query ∧
      Faithful config (r.queryAfter query) ((answer r).run s).2 := by
  by_cases hr : ∃ other, r = .setQuery other
  · -- setting a query starts afresh, whatever was kept
    obtain ⟨other, rfl⟩ := hr
    refine ⟨rfl, ?_⟩
    show Faithful config other (ofQuery s.config other)
    rw [hs.config_eq]
    exact faithful_ofQuery config other
  · have hne : ∀ other, r ≠ .setQuery other := fun other h => hr ⟨other, h⟩
    have hq : r.queryAfter query = query := by
      cases r with
      | setQuery other => exact absurd rfl (hne other)
      | _ => rfl
    rw [hq]
    exact answer_yields hne s hs

/-- **A run of requests.** Each answer is the reply on the query at hand at its moment, and the session
    at the end is faithful to the query at hand at the end. -/
theorem answers_run {s : Session} (hs : Faithful config query s) (requests : List Request) :
    ((answers requests).run s).1 =
        requests.mapIdx (fun i r => r.reply config (latestQuery query (requests.take i))) ∧
      Faithful config (latestQuery query requests) ((answers requests).run s).2 := by
  induction requests generalizing s query with
  | nil => exact ⟨rfl, hs⟩
  | cons r more ih =>
      obtain ⟨hr, hs'⟩ := answer_step hs r
      obtain ⟨hmore, hend⟩ := ih hs'
      have hrun : (answers (r :: more)).run s =
          (((answer r).run s).1 :: ((answers more).run ((answer r).run s).2).1,
            ((answers more).run ((answer r).run s).2).2) := by
        unfold answers
        rw [List.mapM_cons]
        rfl
      rw [hrun, List.mapIdx_cons]
      refine ⟨?_, hend⟩
      rw [hr, hmore]
      rfl

/-- The answer of a session that has derived nothing yet. -/
def freshAnswer (config : Config) (query : Text) (r : Request) : Answer :=
  ((answer r).run (ofQuery config query)).1

theorem freshAnswer_eq_reply (config : Config) (query : Text) (r : Request) :
    freshAnswer config query r = r.reply config query :=
  (answer_step (faithful_ofQuery config query) r).1

/-- **Kept values never show.** After any requests, each answer is the one that a fresh session on the
    query at hand gives to that request as its first, and each kept value is missing or is the one of the
    query at hand. -/
theorem answers_eq_fresh (config : Config) (query : Text) (requests : List Request) :
    ((answers requests).run (ofQuery config query)).1 =
        requests.mapIdx (fun i r => freshAnswer config (latestQuery query (requests.take i)) r) ∧
      Faithful config (latestQuery query requests)
        ((answers requests).run (ofQuery config query)).2 := by
  simp only [freshAnswer_eq_reply]
  exact answers_run (faithful_ofQuery config query) requests

end Session

end SqlSkim
