import SqlSkim.Proofs.Scan.Division
import SqlSkim.Proofs.Statement.Segment
import SqlSkim.Proofs.Statement.Subquery

/-!
# `Statement.Division` — no group lies across a separator

A separator stands at depth zero, where every `(` before it is closed, and holds no parenthesis itself. So
both parentheses of a pair lie in the same segment of a query, be there stray or open ones besides: cutting
a query into statements loses no group of it and makes no new one. For the same reason the statements of a
balanced query are balanced, and only the last statement of a query can leave a parenthesis open.

## Contents
- `dividesInto_separators`: how a query is divided, as far as parentheses go.
- `flatMap_groups_statements`, `flatMap_subqueries_statements`: the groups and the subqueries.
- `isBalanced_of_mem_statements`: balanced queries.
- `isClosed_of_mem_dropLast_statements`, `isClosed_of_statements_eq`: the statements before the last one.
-/

namespace SqlSkim

/-! ## Divisions -/

/-- **The separators divide a query** into its segments. -/
theorem dividesInto_separators (t : Text) : DividesInto t (separators t).segments :=
  dividesInto_cut separatorRule_width_pos skipsGroups_separatorRule (.start t)

/-! ## Groups -/

/-- A division neither loses groups nor makes any. -/
theorem DividesInto.flatMap_groups {t : Text} {segments : List Text} (h : DividesInto t segments) :
    segments.flatMap groups = groups t := by
  induction h with
  | last u => exact List.flatMap_singleton groups u
  | @token u token rest segments hdepth htoken _ ih =>
      have hclosed : IsClosed token := (isBalanced_of_no_paren htoken).isClosed
      rw [List.flatMap_cons, ih, groups_append (isClosed_of_depthAfterText hdepth),
        groups_append hclosed, groups_of_no_paren htoken, List.nil_append]

/-- What is left out of the segments, blanks and empty ones, holds no group. -/
theorem flatMap_groups_statements (t : Text) : (statements t).flatMap groups = groups t := by
  rw [← (dividesInto_separators t).flatMap_groups, statements]
  induction (separators t).segments with
  | nil => rfl
  | cons s more ih =>
      rw [List.map_cons, List.flatMap_cons, ← ih]
      by_cases hs : trim s = []
      · rw [List.filter_cons_of_neg (by simpa using hs), ← groups_trim s, hs]
        rfl
      · rw [List.filter_cons_of_pos (by simpa using hs), List.flatMap_cons, groups_trim]

/-- **The subqueries of the statements**, one statement after another, are those of the query. -/
theorem flatMap_subqueries_statements (t : Text) :
    (statements t).flatMap subqueries = subqueries t := by
  have hfilter : subqueries = fun s => (groups s).filter (Command.ofStatement? · = some .select) := rfl
  rw [hfilter, ← List.filter_flatMap, flatMap_groups_statements]

/-! ## Balanced queries -/

/-- **The statements of a balanced query** are balanced. -/
theorem isBalanced_of_mem_statements {s t : Text} (ht : IsBalanced t) (hs : s ∈ statements t) :
    IsBalanced s := by
  obtain ⟨_, segment, hsegment, rfl⟩ := mem_statements_iff.mp hs
  exact ((dividesInto_separators t).isBalanced ht segment hsegment).trim

/-! ## The statements before the last one -/

/-- Of the statements and of the segments the same one is the last, if that segment is not blank. -/
theorem exists_of_mem_dropLast_statements {s t : Text} (h : s ∈ (statements t).dropLast) :
    ∃ segment ∈ (separators t).segments.dropLast, trim segment = s := by
  have hmem : s ∈ (((separators t).segments.map trim).dropLast) :=
    (sublist_dropLast List.filter_sublist).subset h
  rw [← List.map_dropLast] at hmem
  exact List.mem_map.mp hmem

/-- **The statements before the last one** are closed. -/
theorem isClosed_of_mem_dropLast_statements {s t : Text} (h : s ∈ (statements t).dropLast) : IsClosed s := by
  obtain ⟨segment, hsegment, rfl⟩ := exists_of_mem_dropLast_statements h
  have hend := (dividesInto_separators t).depthAfterText_eq segment hsegment
  exact (isClosed_of_depthAfterText hend).trim

/-- The same for a statement with others behind it. -/
theorem isClosed_of_statements_eq {t : Text} {before after : List Text} {s : Text}
    (h : statements t = before ++ s :: after) (hne : after ≠ []) : IsClosed s := by
  apply isClosed_of_mem_dropLast_statements (t := t)
  rw [h, List.dropLast_append_of_ne_nil (by simp), List.dropLast_cons_of_ne_nil hne]
  exact List.mem_append_right before List.mem_cons_self

end SqlSkim
