import SqlSkim.Proofs.Report.Basic
import SqlSkim.Proofs.Statement.Segment

/-!
# `Report.Reread` — reading a cleaned query again

The cleaned query is what the scans work on. Given to them as a query of its own it is left as it is, so
the report on it is the old one, but for what was said of quotes and comments: those are gone. The same
holds of each statement of it, which is a stretch of a clean text between two separators.

## Contents
- `clean_of_mem_statements`: a statement of a clean query is clean.
- `diagnose_of_isClean`: the diagnostics of a clean query.
- `report_reread`: the main result.
-/

namespace SqlSkim

/-- A statement of a clean query is clean. -/
theorem clean_of_mem_statements {lineComments : Bool} {s t : Text} (ht : IsClean lineComments t)
    (hs : s ∈ statements t) : clean lineComments s = s :=
  (clean_eq_self_iff lineComments s).mpr (ht.of_isInfix (undivided_of_mem_statements hs).2)

/-- **The diagnostics of a clean query** are those of any query that it is the cleaned form of, without
    those that speak of comments and quotes. -/
theorem diagnose_of_isClean {lineComments : Bool} {cleaned : Text} (h : IsClean lineComments cleaned)
    (query : Text) (all : List Statement) :
    diagnose cleaned cleaned all = (diagnose query cleaned all).filter aboutCleaned := by
  have hraw : rawDiagnostics cleaned = [] := by
    rw [rawDiagnostics, checkComment_of_isClean h, checkQuotes_of_isClean h]
    rfl
  rw [diagnose_filter_aboutCleaned, diagnose_eq_append, hraw, List.nil_append]

/-- **Reading again what was cleaned.** The report on a cleaned query is the report on the query, but for
    the query itself and for the diagnostics of comments and quotes; and each statement of the report is,
    as a query of its own, that one statement. -/
theorem report_reread (config : Config) (query : Text) :
    Report.ofQuery config (clean config.stripLineComments query) =
        { Report.ofQuery config query with
          query := clean config.stripLineComments query
          diagnostics := (Report.ofQuery config query).diagnostics.filter fun d =>
            d.code ≠ .unterminatedComment ∧ d.code ≠ .unbalancedQuote } ∧
      ∀ s ∈ (Report.ofQuery config query).statements, (Report.ofQuery config s).statements = [s] := by
  have hclean := clean_isClean config.stripLineComments query
  constructor
  · have hfix := (clean_eq_self_iff config.stripLineComments _).mpr hclean
    have hds := diagnose_of_isClean hclean query
      (analyse config (clean config.stripLineComments query))
    simp only [Report.ofQuery, Report.ofAnalysis, hfix, hds]
    rfl
  · intro s hs
    rw [statements_ofQuery] at hs ⊢
    rw [clean_of_mem_statements hclean hs]
    exact statements_of_mem hs

end SqlSkim
