import SqlSkim.Proofs.Report.Compose
import SqlSkim.Proofs.Statement.Table

/-!
# `Report.Coherence` — the findings of a report fit together

Each finding of a report is gathered on its own: the table from the first statement, the lists from all of
them with repetitions taken out twice, the two flags by scans of their own. They agree all the same. What is
said of tables speaks of names that stand in the statements, and where there is no statement nothing is
found. Only diagnostics can be left then, on the query as a whole.

## Contents
- `exists_of_mem_analyse`: the analysed statements of a query.
- `Report.IsCoherent`: what the findings have to do with each other.
- `report_isCoherent`: the main result; `report_of_no_statement`: a report on no statement that is not empty.
-/

namespace SqlSkim

/-! ## Analysed statements -/

theorem exists_of_mem_analyse {config : Config} {cleaned : Text} {s : Statement}
    (h : s ∈ analyse config cleaned) :
    s.text ∈ statements cleaned ∧
      s.tables = Tables.ofStatement config.joinKeywords (Command.ofStatement? s.text) s.text := by
  obtain ⟨t, ht, rfl⟩ := List.mem_map.mp h
  exact ⟨ht, rfl⟩

variable {all : List Statement} {name : Text}

theorem mem_tables_iff : name ∈ Statements.tables all ↔ ∃ s ∈ all, name ∈ s.tables.all := by
  rw [Statements.tables, List.mem_eraseDups, List.mem_flatMap]

theorem mem_joinTables_iff : name ∈ Statements.joinTables all ↔ ∃ s ∈ all, name ∈ s.tables.joined := by
  rw [Statements.joinTables, List.mem_eraseDups, List.mem_flatMap]

/-- The table of the first statement is the first table of all. -/
theorem head?_tables {config : Config} {cleaned : Text}
    (h : Statements.table (analyse config cleaned) = some name) :
    (Statements.tables (analyse config cleaned)).head? = some name := by
  rw [Statements.tables, head?_eraseDups]
  have hmem : ∀ s ∈ analyse config cleaned, s.tables =
      Tables.ofStatement config.joinKeywords (Command.ofStatement? s.text) s.text :=
    fun s hs => (exists_of_mem_analyse hs).2
  cases hall : analyse config cleaned with
  | nil =>
      rw [hall] at h
      exact absurd h (by simp [Statements.table])
  | cons first more =>
      rw [hall] at h hmem
      have htarget : first.tables.target = some name := h
      rw [hmem first (by simp)] at htarget
      have hfirst := head?_all_of_target htarget
      rw [← hmem first (by simp)] at hfirst
      rw [List.flatMap_cons, List.head?_append, hfirst]
      rfl

/-! ## The report -/

/-- **A coherent report.** -/
structure Report.IsCoherent (r : Report) : Prop where
  tables_nodup : r.tables.Nodup
  joinTables_nodup : r.joinTables.Nodup
  subqueries_nodup : r.subqueries.Nodup
  joinTables_subset : r.joinTables ⊆ r.tables
  /-- The table of the report, if there is one, is the first of the tables. -/
  head?_tables : ∀ name, r.table = some name → r.tables.head? = some name
  /-- A table is a stretch of a statement without blanks, quotes and what ends a name. -/
  isName_of_mem_tables : ∀ name ∈ r.tables, name ≠ [] ∧
    (∀ c ∈ name, isBlank c = false ∧ isQuote c = false ∧ c ∉ ['(', ')', ',', ';']) ∧
      ∃ s ∈ r.statements, name <:+: s
  hasJoin_of_joinTables : r.joinTables ≠ [] → r.hasJoin = true
  hasSubquery_iff : r.hasSubquery = true ↔ r.subqueries ≠ []
  /-- Where there is no statement nothing is found, and no diagnostic is tied to a statement. -/
  of_no_statement : r.statements = [] →
    (r.command = [] ∧ r.table = none ∧ r.tables = [] ∧ r.joinTables = [] ∧ r.columns = [] ∧
      r.subqueries = [] ∧ r.hasJoin = false ∧ r.hasSubquery = false) ∧
      ∀ d ∈ r.diagnostics, d.statement = none

/-- Names in a clean text hold no quoting character. -/
theorem IsNameIn.char_of_isClean {lineComments : Bool} {t : Text} (h : IsNameIn t name)
    (ht : IsClean lineComments t) :
    ∀ c ∈ name, isBlank c = false ∧ isQuote c = false ∧ c ∉ ['(', ')', ',', ';'] := by
  intro c hc
  have hend := h.no_end c hc
  rw [endsIdentifier, Bool.or_eq_false_iff] at hend
  have hname := ht.of_isInfix h.isInfix
  refine ⟨hend.1, isQuote_eq_false_iff.mpr ⟨?_, ?_, ?_⟩, by simpa using hend.2⟩
  · rintro rfl
    exact hname.no_backtick hc
  · rintro rfl
    exact hname.no_single hc
  · rintro rfl
    exact hname.no_double hc

/-- **Every report is coherent.** -/
theorem report_isCoherent (config : Config) (query : Text) : (Report.ofQuery config query).IsCoherent := by
  have hclean := clean_isClean config.stripLineComments query
  have hreport : Report.ofQuery config query = Report.ofAnalysis config query
      (analyse config (clean config.stripLineComments query))
      (diagnose query (clean config.stripLineComments query)
        (analyse config (clean config.stripLineComments query))) := rfl
  generalize clean config.stripLineComments query = cleaned at hclean hreport
  have hmem : ∀ s ∈ analyse config cleaned, s.text ∈ statements cleaned ∧
      s.tables = Tables.ofStatement config.joinKeywords (Command.ofStatement? s.text) s.text :=
    fun s hs => exists_of_mem_analyse hs
  rw [hreport]
  constructor
  case tables_nodup => exact nodup_eraseDups _
  case joinTables_nodup => exact nodup_eraseDups _
  case subqueries_nodup => exact nodup_eraseDups _
  case joinTables_subset =>
    intro name h
    obtain ⟨s, hs, hname⟩ := mem_joinTables_iff.mp h
    exact mem_tables_iff.mpr ⟨s, hs, joined_subset_all s.tables hname⟩
  case head?_tables => exact fun name h => head?_tables h
  case isName_of_mem_tables =>
    intro name h
    obtain ⟨s, hs, hname⟩ := mem_tables_iff.mp h
    obtain ⟨hstatement, htables⟩ := hmem s hs
    rw [htables] at hname
    have hin := isNameIn_of_mem_all hname
    have hs' := hclean.of_isInfix (undivided_of_mem_statements hstatement).2
    exact ⟨hin.ne_nil, hin.char_of_isClean hs', s.text, List.mem_map_of_mem hs, hin.isInfix⟩
  case hasJoin_of_joinTables =>
    intro h
    obtain ⟨name, hname⟩ := List.exists_mem_of_ne_nil _ h
    obtain ⟨s, hs, hjoined⟩ := mem_joinTables_iff.mp hname
    rw [(hmem s hs).2] at hjoined
    exact List.any_eq_true.mpr ⟨s, hs, hasJoin_of_joined_ne_nil (List.ne_nil_of_mem hjoined)⟩
  case hasSubquery_iff =>
    show (!(Statements.subqueries _).isEmpty) = true ↔ _
    rw [Bool.not_eq_true', List.isEmpty_eq_false_iff]
    rfl
  case of_no_statement =>
    intro h
    have hnone : analyse config cleaned = [] := List.map_eq_nil_iff.mp h
    rw [hnone]
    refine ⟨⟨rfl, rfl, rfl, rfl, rfl, rfl, rfl, rfl⟩, fun d hd => ?_⟩
    -- only the checks of a statement tie a diagnostic to one
    have hd : d ∈ diagnose query cleaned [] := hd
    rcases mem_diagnose_iff.mp hd with hd | hd | hd
    · simpa [Diagnostic.isTied] using (source_of_mem_rawDiagnostics hd).2
    · simpa [Diagnostic.isTied] using (source_of_mem_cleanedDiagnostics hd).2
    · exact absurd hd (by simp [statementDiagnostics])

/-- A lone semicolon is no statement, and a diagnostic speaks of it. -/
theorem report_of_no_statement :
    (Report.ofQuery {} ";".toList).statements = [] ∧ (Report.ofQuery {} ";".toList).diagnostics ≠ [] := by
  have hfix : clean ({} : Config).stripLineComments ";".toList = ";".toList :=
    (clean_eq_self_iff _ _).mpr (by decide +kernel)
  rw [statements_ofQuery, diagnostics_ofQuery, hfix]
  refine ⟨by decide +kernel, fun hnone => ?_⟩
  have hempty : (diagnose ";".toList ";".toList (analyse {} ";".toList)).isEmpty = false := by
    decide +kernel
  rw [hnone] at hempty
  exact absurd hempty (by decide)

end SqlSkim
