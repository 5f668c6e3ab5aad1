import SqlSkim.Proofs.Diagnostic.Source

/-!
# `Report.Basic` — where the parts of a report come from

What a report says of the whole query is read off its analysed statements, and its diagnostics come from
three sources: the raw query, the cleaned query, and the statements. The sources can be told apart by
what a diagnostic holds. Those of the raw query have codes of their own, and those of the statements are
tied to one.

## Contents
- `statements_ofQuery`, `diagnostics_ofQuery`: the statements and the diagnostics of a report.
- `rawDiagnostics`, `cleanedDiagnostics`, `statementDiagnostics`, `diagnose_eq_append`,
  `mem_diagnose_iff`: the diagnostics by source.
- `aboutCleaned`, `isTied`: what tells the sources apart.
-/

namespace SqlSkim

/-- The statements of the report are those of the cleaned query. -/
theorem statements_ofQuery (config : Config) (query : Text) :
    (Report.ofQuery config query).statements =
      statements (clean config.stripLineComments query) := by
  simp [Report.ofQuery, Report.ofAnalysis, Statements.texts, analyse, Statement.ofText,
    Function.comp_def]

/-- The diagnostics of the report are those of the query, the cleaned query and the analysed statements. -/
theorem diagnostics_ofQuery (config : Config) (query : Text) :
    (Report.ofQuery config query).diagnostics =
      diagnose query (clean config.stripLineComments query)
        (analyse config (clean config.stripLineComments query)) := rfl

/-! ## Diagnostics by source -/

/-- What the checks of the raw query find. -/
def rawDiagnostics (query : Text) : List Diagnostic :=
  [checkComment query, checkQuotes query].filterMap id

/-- What the check of the cleaned query finds. -/
def cleanedDiagnostics (cleaned : Text) : List Diagnostic :=
  [checkEmptyStatements cleaned].filterMap id

/-- What the checks of the statements find, one statement after another. -/
def statementDiagnostics (all : List Statement) : List Diagnostic :=
  (all.mapIdx fun index s => s.diagnose.map (·.atStatement index)).flatten

theorem diagnose_eq_append (query cleaned : Text) (all : List Statement) :
    diagnose query cleaned all =
      rawDiagnostics query ++ (cleanedDiagnostics cleaned ++ statementDiagnostics all) := by
  rw [diagnose, ← List.append_assoc, rawDiagnostics, cleanedDiagnostics, ← List.filterMap_append]
  rfl

variable {query cleaned : Text} {all : List Statement} {d : Diagnostic}

/-- Every diagnostic comes from one of the three sources. -/
theorem mem_diagnose_iff : d ∈ diagnose query cleaned all ↔
    d ∈ rawDiagnostics query ∨ d ∈ cleanedDiagnostics cleaned ∨ d ∈ statementDiagnostics all := by
  rw [diagnose_eq_append, List.mem_append, List.mem_append]

theorem mem_rawDiagnostics :
    d ∈ rawDiagnostics query ↔ checkComment query = some d ∨ checkQuotes query = some d := by
  simp [rawDiagnostics, eq_comm]

theorem mem_cleanedDiagnostics :
    d ∈ cleanedDiagnostics cleaned ↔ checkEmptyStatements cleaned = some d := by
  simp [cleanedDiagnostics, eq_comm]

/-- A diagnostic of the statements is one of some statement, tied to the index of that statement. -/
theorem mem_statementDiagnostics (h : d ∈ statementDiagnostics all) :
    ∃ index, ∃ hlt : index < all.length, ∃ e ∈ (all[index]).diagnose, e.atStatement index = d := by
  obtain ⟨ds, hds, hd⟩ := List.mem_flatten.mp h
  obtain ⟨index, hlt, rfl⟩ := List.mem_mapIdx.mp hds
  obtain ⟨e, he, rfl⟩ := List.mem_map.mp hd
  exact ⟨index, hlt, e, he, rfl⟩

/-! ## Telling the sources apart -/

/-- Whether a diagnostic speaks of neither comments nor quotes. -/
def aboutCleaned (d : Diagnostic) : Bool :=
  d.code ≠ .unterminatedComment ∧ d.code ≠ .unbalancedQuote

/-- Whether a diagnostic is tied to a statement. -/
def Diagnostic.isTied (d : Diagnostic) : Bool := d.statement.isSome

theorem source_of_mem_rawDiagnostics (h : d ∈ rawDiagnostics query) :
    aboutCleaned d = false ∧ d.isTied = false := by
  rcases mem_rawDiagnostics.mp h with h | h
  · obtain ⟨hcode, hstatement⟩ := code_of_checkComment h
    simp [aboutCleaned, Diagnostic.isTied, hcode, hstatement]
  · obtain ⟨hcode, hstatement⟩ := code_of_checkQuotes h
    simp [aboutCleaned, Diagnostic.isTied, hcode, hstatement]

theorem source_of_mem_cleanedDiagnostics (h : d ∈ cleanedDiagnostics cleaned) :
    aboutCleaned d = true ∧ d.isTied = false := by
  obtain ⟨hcode, hstatement⟩ := code_of_checkEmptyStatements (mem_cleanedDiagnostics.mp h)
  rw [aboutCleaned, Diagnostic.isTied, hcode, hstatement]
  exact ⟨by decide, rfl⟩

theorem source_of_mem_statementDiagnostics (h : d ∈ statementDiagnostics all) :
    aboutCleaned d = true ∧ d.isTied = true := by
  obtain ⟨index, _, e, he, rfl⟩ := mem_statementDiagnostics h
  refine ⟨?_, rfl⟩
  have hcode : (e.atStatement index).code = e.code := rfl
  rw [aboutCleaned, hcode]
  rcases code_of_mem_diagnose he with h | h | h <;> rw [h] <;> decide

/-- What speaks of neither comments nor quotes comes from the cleaned query and its statements. -/
theorem diagnose_filter_aboutCleaned (query cleaned : Text) (all : List Statement) :
    (diagnose query cleaned all).filter aboutCleaned =
      cleanedDiagnostics cleaned ++ statementDiagnostics all := by
  have hraw : (rawDiagnostics query).filter aboutCleaned = [] :=
    List.filter_eq_nil_iff.mpr fun d hd => by simp [(source_of_mem_rawDiagnostics hd).1]
  have hcleaned : (cleanedDiagnostics cleaned).filter aboutCleaned = cleanedDiagnostics cleaned :=
    List.filter_eq_self.mpr fun d hd => (source_of_mem_cleanedDiagnostics hd).1
  have hstatements : (statementDiagnostics all).filter aboutCleaned = statementDiagnostics all :=
    List.filter_eq_self.mpr fun d hd => (source_of_mem_statementDiagnostics hd).1
  rw [diagnose_eq_append, List.filter_append, List.filter_append, hraw, hcleaned, hstatements,
    List.nil_append]

/-- What is tied to a statement comes from the statements. -/
theorem diagnose_filter_isTied (query cleaned : Text) (all : List Statement) :
    (diagnose query cleaned all).filter Diagnostic.isTied = statementDiagnostics all := by
  have hraw : (rawDiagnostics query).filter Diagnostic.isTied = [] :=
    List.filter_eq_nil_iff.mpr fun d hd => by simp [(source_of_mem_rawDiagnostics hd).2]
  have hcleaned : (cleanedDiagnostics cleaned).filter Diagnostic.isTied = [] :=
    List.filter_eq_nil_iff.mpr fun d hd => by simp [(source_of_mem_cleanedDiagnostics hd).2]
  have hstatements :
      (statementDiagnostics all).filter Diagnostic.isTied = statementDiagnostics all :=
    List.filter_eq_self.mpr fun d hd => (source_of_mem_statementDiagnostics hd).2
  rw [diagnose_eq_append, List.filter_append, List.filter_append, hraw, hcleaned, hstatements,
    List.nil_append, List.nil_append]

end SqlSkim
