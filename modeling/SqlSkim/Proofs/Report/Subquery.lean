import SqlSkim.Proofs.Diagnostic.Paren
import SqlSkim.Proofs.Report.Reread
import SqlSkim.Proofs.Statement.Command
import SqlSkim.Proofs.Statement.Division

/-!
# `Report.Subquery` — the subqueries of a report are queries themselves

The subqueries of a report are gathered statement by statement, and still they are those of the whole
cleaned query: no group of it lies across a separator. Each of them can be given to the scans as a query of
its own. It is clean already, it is a selection, its parentheses are in balance even if those of the query
around it are not, and whatever subqueries it has are in the report on the whole.

## Contents
- `subqueries_ofQuery`: where the subqueries of a report come from.
- `subqueries_of_division`: dividing a query loses no subquery and makes none.
- `subquery_report`: the report on a subquery.
-/

namespace SqlSkim

/-! ## Statement by statement -/

/-- The subqueries of a report are those of the cleaned query, each listed once. -/
theorem subqueries_ofQuery (config : Config) (query : Text) :
    (Report.ofQuery config query).subqueries =
      (subqueries (clean config.stripLineComments query)).eraseDups := by
  have hall : ∀ cleaned, Statements.subqueries (analyse config cleaned) =
      ((statements cleaned).flatMap subqueries).eraseDups := by
    intro cleaned
    unfold Statements.subqueries analyse
    rw [List.flatMap_map]
    rfl
  have hreport : (Report.ofQuery config query).subqueries =
      Statements.subqueries (analyse config (clean config.stripLineComments query)) := rfl
  rw [hreport, hall, flatMap_subqueries_statements]

theorem mem_subqueries_ofQuery {config : Config} {query q : Text} :
    q ∈ (Report.ofQuery config query).subqueries ↔
      q ∈ subqueries (clean config.stripLineComments query) := by
  rw [subqueries_ofQuery, List.mem_eraseDups]

/-- **Dividing a query into statements** neither loses subqueries nor makes any: those of the statements,
    one after another, are those of the whole text. So the report, which gathers them by statement, lists
    the subqueries of the cleaned query in the order in which they are first met. -/
theorem subqueries_of_division :
    (∀ t, (statements t).flatMap subqueries = subqueries t) ∧
      ∀ config query, (Report.ofQuery config query).subqueries =
        (subqueries (clean config.stripLineComments query)).eraseDups :=
  ⟨flatMap_subqueries_statements, subqueries_ofQuery⟩

/-! ## Subqueries as queries -/

/-- What the parentheses of a subquery enclose is part of the text around it. -/
theorem subqueries_subset {q t : Text} (h : q ∈ subqueries t) : subqueries q ⊆ subqueries t := by
  intro inner hinner
  obtain ⟨⟨u, b, v, rfl, _, rfl⟩, _⟩ := mem_subqueries_iff.mp h
  rw [subqueries_trim, mem_subqueries_iff] at hinner
  obtain ⟨⟨u', b', v', rfl, hb', rfl⟩, hselect⟩ := hinner
  refine mem_subqueries_iff.mpr ⟨⟨u ++ '(' :: u', b', v' ++ ')' :: v, ?_, hb', rfl⟩, hselect⟩
  simp [inParens]

/-- A subquery is a stretch of the text, and balanced whatever stands around it. -/
theorem isBalanced_of_mem_subqueries {q t : Text} (h : q ∈ subqueries t) :
    IsBalanced q ∧ q <:+: t ∧ trim q = q := by
  obtain ⟨⟨u, b, v, rfl, hb, rfl⟩, _⟩ := mem_subqueries_iff.mp h
  refine ⟨hb.trim, ?_, trim_trim b⟩
  have hinside : b <:+: u ++ (inParens b ++ v) := ⟨u ++ ['('], ')' :: v, by simp [inParens]⟩
  exact (trim_isInfix b).trans hinside

/-- A balanced query has no statement with parentheses out of balance. -/
theorem code_ne_of_isBalanced {config : Config} {query cleaned : Text} (h : IsBalanced cleaned)
    {d : Diagnostic} (hd : d ∈ diagnose query cleaned (analyse config cleaned)) :
    d.code ≠ .unbalancedParentheses := by
  rcases mem_diagnose_iff.mp hd with hd | hd | hd
  · rcases mem_rawDiagnostics.mp hd with hd | hd
    · rw [(code_of_checkComment hd).1]
      decide
    · rw [(code_of_checkQuotes hd).1]
      decide
  · rw [(code_of_checkEmptyStatements (mem_cleanedDiagnostics.mp hd)).1]
    decide
  · obtain ⟨index, hlt, e, he, rfl⟩ := mem_statementDiagnostics hd
    show e.code ≠ _
    obtain ⟨s, hs, hsame⟩ := List.mem_map.mp (List.getElem_mem hlt)
    rcases Statement.mem_diagnose_iff.mp he with hparens | hcommand | htable
    · rw [← hsame, Statement.ofText,
        checkParens_eq_none_iff.mpr (isBalanced_of_mem_statements h hs)] at hparens
      exact absurd hparens (by simp)
    · rw [code_of_checkCommand hcommand]
      decide
    · rw [code_of_checkTable htable]
      decide

/-- **The report on a subquery.** Given as a query of its own with the same settings, a subquery of a report
    is left as it is by cleaning, is a selection, gives no warning of parentheses out of balance, and has no
    subquery that is not in the report as well. -/
theorem subquery_report (config : Config) {query q : Text}
    (hq : q ∈ (Report.ofQuery config query).subqueries) :
    clean config.stripLineComments q = q ∧
      (Report.ofQuery config q).command = "SELECT".toList ∧
      (∀ d ∈ (Report.ofQuery config q).diagnostics, d.code ≠ .unbalancedParentheses) ∧
      (Report.ofQuery config q).subqueries ⊆ (Report.ofQuery config query).subqueries := by
  rw [mem_subqueries_ofQuery] at hq
  obtain ⟨hbalanced, hinfix, htrim⟩ := isBalanced_of_mem_subqueries hq
  have hfix : clean config.stripLineComments q = q :=
    (clean_eq_self_iff _ _).mpr ((clean_isClean _ query).of_isInfix hinfix)
  have hselect := (mem_subqueries_iff.mp hq).2
  refine ⟨hfix, ?_, ?_, ?_⟩
  · have hfront : trimLeft q = q := by rw [← htrim, trimLeft_trim]
    obtain ⟨s, more, hstatements, hs⟩ := exists_first_selection hfront hselect
    have hcommand : (Report.ofQuery config q).command =
        Statements.command (analyse config (clean config.stripLineComments q)) := rfl
    rw [hcommand, hfix, analyse, hstatements, List.map_cons, Statements.command, List.head?_cons,
      Option.bind_some, Statement.ofText, hs]
    rfl
  · intro d hd
    have hd : d ∈ diagnose q (clean config.stripLineComments q)
        (analyse config (clean config.stripLineComments q)) := hd
    rw [hfix] at hd
    exact code_ne_of_isBalanced hbalanced hd
  · intro inner hinner
    rw [mem_subqueries_ofQuery] at hinner ⊢
    rw [hfix] at hinner
    exact subqueries_subset hq hinner

/-- A subquery of two statements and a union with another subquery in it, behind a stray `)` and before a
    `(` that is never closed. -/
theorem subquery_report_unbalanced :
    let query := "SELECT a) FROM t WHERE b IN ( SELECT c; x UNION (SELECT d FROM u)) AND (".toList
    let q := "SELECT c; x UNION (SELECT d FROM u)".toList
    q ∈ (Report.ofQuery {} query).subqueries ∧
      clean false q = q ∧
      (Report.ofQuery {} q).command = "SELECT".toList ∧
      (∀ d ∈ (Report.ofQuery {} q).diagnostics, d.code ≠ .unbalancedParentheses) ∧
      (Report.ofQuery {} q).subqueries ⊆ (Report.ofQuery {} query).subqueries := by
  intro query q
  have hfix : clean ({} : Config).stripLineComments query = query :=
    (clean_eq_self_iff _ _).mpr (by decide +kernel)
  have hq : q ∈ (Report.ofQuery {} query).subqueries := by
    rw [mem_subqueries_ofQuery, hfix]
    decide +kernel
  exact ⟨hq, subquery_report {} hq⟩

end SqlSkim
