import SqlSkim.Proofs.Report.Basic
import SqlSkim.Proofs.Statement.Segment

/-!
# `Report.Compose` — the report on two queries with a semicolon between them

A `;` at depth zero keeps what stands before it apart from what stands behind it: the statements of
`a;b` are those of `a` and then those of `b`. A finding of a whole query is gathered from its statements
one by one, so each finding of `a;b` is made of those of `a` and `b`.

## Contents
- `eraseDups_append_eraseDups`, `nodup_eraseDups`: taking repetitions out.
- `IsClean.append_semicolon`, `analyse_append`: the analysed statements of `a;b`.
- `statementDiagnostics_append`: the diagnostics of its statements.
- `Report.IsComposed`, `report_append`: the main result.
-/

namespace SqlSkim

/-! ## First occurrences -/

section FirstOccurrences

variable {α : Type} [BEq α] [LawfulBEq α]

/-- Taking elements out and taking repetitions out can be done in either order. -/
theorem eraseDups_filter (p : α → Bool) (xs : List α) :
    (xs.filter p).eraseDups = xs.eraseDups.filter p := by
  match xs with
  | [] => rfl
  | x :: xs =>
      have hlt : (xs.filter fun b => !b == x).length < xs.length + 1 :=
        Nat.lt_succ_of_le (List.length_filter_le _ _)
      rw [List.eraseDups_cons]
      by_cases hx : p x = true
      · rw [List.filter_cons_of_pos hx, List.filter_cons_of_pos hx, List.eraseDups_cons,
          List.filter_comm, eraseDups_filter p (xs.filter _)]
      · -- the repetitions of `x` that are taken out are among the elements taken out
        have hsub : ∀ b ∈ xs, (p b && !b == x) = p b := fun b _ => by
          by_cases hb : b = x
          · rw [hb, (Bool.not_eq_true _).mp hx, Bool.false_and]
          · simp [hb]
        rw [List.filter_cons_of_neg hx, List.filter_cons_of_neg hx, ← eraseDups_filter p (xs.filter _),
          List.filter_filter, List.filter_congr hsub]
termination_by xs.length

theorem eraseDups_eraseDups (xs : List α) : xs.eraseDups.eraseDups = xs.eraseDups := by
  match xs with
  | [] => rfl
  | x :: xs =>
      have hlt : (xs.filter fun b => !b == x).length < xs.length + 1 :=
        Nat.lt_succ_of_le (List.length_filter_le _ _)
      rw [List.eraseDups_cons, List.eraseDups_cons, ← eraseDups_filter, List.filter_filter,
        eraseDups_eraseDups (xs.filter _)]
      simp only [Bool.and_self]
termination_by xs.length

/-- **First occurrences of two lists.** They can be found in each of the lists before they are found in
    both together. -/
theorem eraseDups_append_eraseDups (xs ys : List α) :
    (xs.eraseDups ++ ys.eraseDups).eraseDups = (xs ++ ys).eraseDups := by
  have hseen : ys.eraseDups.removeAll xs.eraseDups = (ys.removeAll xs).eraseDups := by
    unfold List.removeAll
    rw [eraseDups_filter]
    exact List.filter_congr fun b _ => by simp [List.mem_eraseDups]
  rw [List.eraseDups_append, List.eraseDups_append, hseen, eraseDups_eraseDups, eraseDups_eraseDups]

/-- What is left has no repetitions. -/
theorem nodup_eraseDups (xs : List α) : xs.eraseDups.Nodup := by
  match xs with
  | [] => exact List.nodup_nil
  | x :: xs =>
      have hlt : (xs.filter fun b => !b == x).length < xs.length + 1 :=
        Nat.lt_succ_of_le (List.length_filter_le _ _)
      rw [List.eraseDups_cons, List.nodup_cons, List.mem_eraseDups]
      exact ⟨by simp, nodup_eraseDups (xs.filter _)⟩
termination_by xs.length

omit [LawfulBEq α] in
theorem isEmpty_eraseDups (xs : List α) : xs.eraseDups.isEmpty = xs.isEmpty := by
  cases xs with
  | nil => rfl
  | cons x xs => rw [List.eraseDups_cons, List.isEmpty_cons, List.isEmpty_cons]

end FirstOccurrences

/-! ## The statements -/

variable {lineComments : Bool} {a b : Text}

/-- A `;` opens no comment and ends none, so two clean texts stay clean around it. -/
theorem IsClean.append_semicolon (ha : IsClean lineComments a) (hb : IsClean lineComments b) :
    IsClean lineComments (a ++ ';' :: b) :=
  ha.append_apart rfl ⟨by decide, by decide⟩ (fun _ => by decide) hb

theorem analyse_append (config : Config) (hdepth : depthAfterText 0 a = 0) (b : Text) :
    analyse config (a ++ ';' :: b) = analyse config a ++ analyse config b := by
  rw [analyse, statements_append hdepth, List.map_append]
  rfl

/-- The diagnostic with the index of its statement raised. -/
def Diagnostic.shift (offset : Nat) (d : Diagnostic) : Diagnostic :=
  { d with statement := d.statement.map (· + (offset : Int)) }

theorem statementDiagnostics_append (first second : List Statement) :
    statementDiagnostics (first ++ second) =
      statementDiagnostics first ++
        (statementDiagnostics second).map (·.shift first.length) := by
  have hshift : ∀ index : Nat, ∀ d : Diagnostic,
      d.atStatement ((index + first.length : Nat) : Int) =
        (d.atStatement index).shift first.length := fun index d => by
    simp [Diagnostic.atStatement, Diagnostic.shift]
  unfold statementDiagnostics
  rw [List.mapIdx_append, List.flatten_append, List.map_flatten]
  simp only [hshift, List.mapIdx_eq_zipIdx_map, List.map_map, Function.comp_def]

/-! ## The report -/

/-- **A report composed of two reports**, on a query with the statements of both: the lists are joined,
    the findings of the first statement are those of the first report that has one, and the diagnostics
    of the second report's statements are tied to where those statements have moved. -/
structure Report.IsComposed (first second both : Report) : Prop where
  statements : both.statements = first.statements ++ second.statements
  tables : both.tables = (first.tables ++ second.tables).eraseDups
  joinTables : both.joinTables = (first.joinTables ++ second.joinTables).eraseDups
  subqueries : both.subqueries = (first.subqueries ++ second.subqueries).eraseDups
  hasJoin : both.hasJoin = (first.hasJoin || second.hasJoin)
  hasSubquery : both.hasSubquery = (first.hasSubquery || second.hasSubquery)
  command : both.command = if first.statements = [] then second.command else first.command
  table : both.table = if first.statements = [] then second.table else first.table
  columns : both.columns = if first.statements = [] then second.columns else first.columns
  diagnostics : both.diagnostics.filter Diagnostic.isTied =
    first.diagnostics.filter Diagnostic.isTied ++
      (second.diagnostics.filter Diagnostic.isTied).map (·.shift first.statements.length)

/-- The findings of a list of statements are composed of those of its two parts, whatever the queries. -/
theorem Report.isComposed_ofAnalysis (config : Config) {q₁ q₂ q t₁ t₂ t : Text}
    {first second : List Statement} :
    IsComposed (ofAnalysis config q₁ first (diagnose q₁ t₁ first))
      (ofAnalysis config q₂ second (diagnose q₂ t₂ second))
      (ofAnalysis config q (first ++ second) (diagnose q t (first ++ second))) where
  statements := List.map_append
  tables := by
    simp only [ofAnalysis, Statements.tables, List.flatMap_append, eraseDups_append_eraseDups]
  joinTables := by
    simp only [ofAnalysis, Statements.joinTables, List.flatMap_append, eraseDups_append_eraseDups]
  subqueries := by
    simp only [ofAnalysis, Statements.subqueries, List.flatMap_append, eraseDups_append_eraseDups]
  hasJoin := List.any_append
  hasSubquery := by
    simp only [ofAnalysis, Statements.subqueries, List.flatMap_append, isEmpty_eraseDups]
    cases first.flatMap fun s => SqlSkim.subqueries s.text <;> rfl
  command := by cases first <;> rfl
  table := by cases first <;> rfl
  columns := by cases first <;> rfl
  diagnostics := by
    simp only [ofAnalysis, diagnose_filter_isTied, statementDiagnostics_append, Statements.texts,
      List.length_map]

/-- **Two queries with a semicolon between them.** If both are clean and the first one leaves no
    parenthesis open, the report on them together is composed of their reports. -/
theorem report_append (config : Config) {a b : Text} (ha : clean config.stripLineComments a = a)
    (hb : clean config.stripLineComments b = b) (hdepth : depthAfterText 0 a = 0) :
    Report.IsComposed (Report.ofQuery config a) (Report.ofQuery config b)
      (Report.ofQuery config (a ++ ';' :: b)) := by
  have hclean : clean config.stripLineComments (a ++ ';' :: b) = a ++ ';' :: b := by
    rw [clean_eq_self_iff] at ha hb ⊢
    exact ha.append_semicolon hb
  simp only [Report.ofQuery, ha, hb, hclean, analyse_append config hdepth]
  exact Report.isComposed_ofAnalysis config

/-- A union of two selections, and a change behind the `;`. -/
theorem report_append_union_update :
    let config : Config := { stripLineComments := true }
    let a := "SELECT x FROM t JOIN u ON (t.k = u.k) UNION SELECT y FROM t".toList
    let b := " UPDATE v SET z = (SELECT x FROM t)".toList
    (clean config.stripLineComments a = a ∧ clean config.stripLineComments b = b ∧
        depthAfterText 0 a = 0) ∧
      Report.IsComposed (Report.ofQuery config a) (Report.ofQuery config b)
        (Report.ofQuery config (a ++ ';' :: b)) := by
  intro config a b
  have ha : clean config.stripLineComments a = a := (clean_eq_self_iff _ _).mpr (by decide +kernel)
  have hb : clean config.stripLineComments b = b := (clean_eq_self_iff _ _).mpr (by decide +kernel)
  have hdepth : depthAfterText 0 a = 0 := by decide +kernel
  exact ⟨⟨ha, hb, hdepth⟩, report_append config ha hb hdepth⟩

end SqlSkim
