import SqlSkim.Proofs.Diagnostic.Paren
import SqlSkim.Proofs.Report.Compose
import SqlSkim.Proofs.Scan.Lexicon
import SqlSkim.Proofs.Scan.Listing
import SqlSkim.Proofs.Statement.Subquery

/-!
# `Report.Single` — the report on one well-formed statement

A text of words and clean groups is left alone by cleaning, holds no separator, and has its parentheses in
balance. If it starts with a command and names a table, there is nothing odd about it, and the report says
of the query what the scans say of that one statement.

## Contents
- `spares_separatorRule`, `Inert.undivided`, `statements_of_undivided`: one statement.
- `diagnose_single`: nothing odd.
- `report_single`: the report.
-/

namespace SqlSkim

open Phrase

/-! ## One statement -/

/-- The separators are among the gaps of no list, and start with one word only. -/
theorem spares_separatorRule : separatorRule.Spares listGaps ["UNION".toList] := by
  constructor
  · intro before c t hc
    have hgap := isSpacing_listGaps.isGap c hc
    refine separatorRule_eq_none_iff.mpr ⟨?_, .inr ?_⟩
    · show some c ≠ some ';'
      rintro heq
      obtain rfl := Option.some.inj heq
      exact absurd hc (by decide)
    · exact isKeyword_union.wordsWidth?_eq_none (continuesWord_gap hgap.not_word t) []
  · intro before w tail hw hfree htail
    refine separatorRule_eq_none_iff.mpr ⟨?_, .inr ?_⟩
    · rw [List.head?_append_of_ne_nil _ hw.ne_nil]
      intro heq
      have hword := hw.isWordChar ';' (List.mem_of_head? heq)
      exact absurd hword (by decide)
    · have hother : upper w ≠ "UNION".toList := fun heq => hfree (by simp [heq])
      exact wordsWidth?_eq_none_of_word isKeyword_union.capital hw hother htail []
  · intro before c t hbefore hc
    refine separatorRule_eq_none_iff.mpr ⟨?_, .inl hbefore⟩
    show some c ≠ some ';'
    rintro heq
    obtain rfl := Option.some.inj heq
    exact absurd hc (by decide)

variable {bs : List Text} {t : Text}

/-- A text of words and groups without `UNION` outside the groups is undivided. -/
theorem Inert.undivided (h : Inert listGaps ["UNION".toList] bs t) : Undivided t :=
  h.quiet spares_separatorRule none 0 (atBoundary_nil _)

/-- A solid text that is undivided is one statement. -/
theorem statements_of_undivided (h : Undivided t) (hsolid : IsSolid t) : statements t = [t] := by
  rw [statements, h.separators_eq]
  simp [Cut.segments, hsolid.trim_eq, hsolid.ne_nil]

/-! ## Nothing odd -/

/-- **There is nothing odd** about one balanced statement that starts with a command and names a table. -/
theorem diagnose_single (hclean : IsClean false t) (hone : Undivided t) (hbalanced : IsBalanced t)
    {c : Command} {tables : Tables} (hnamed : tables.all ≠ []) :
    diagnose t t [⟨t, some c, tables⟩] = [] := by
  have hparens := checkParens_eq_none_iff.mpr hbalanced
  have hempty : checkEmptyStatements t = none := by
    rw [checkEmptyStatements, emptySegments_of_undivided hone]
  have htable : checkTable (some c) tables = none := if_pos hnamed
  have hstatement : Statement.diagnose ⟨t, some c, tables⟩ = [] := by
    rw [Statement.diagnose, hparens, htable]
    rfl
  rw [diagnose, checkComment_of_isClean hclean, checkQuotes_of_isClean hclean, hempty,
    List.mapIdx_cons, hstatement]
  rfl

/-! ## The report -/

theorem Tables.all_eraseDups (tables : Tables) : tables.all.eraseDups = tables.all :=
  eraseDups_eraseDups _

/-- **The report on one statement** of words and clean groups that starts with a command and names a table:
    what the scans find in it, and no diagnostic. -/
theorem report_single (hinert : Inert listGaps ["UNION".toList] bs t)
    (hclean : ∀ b ∈ bs, IsClean false b) (hsolid : IsSolid t) {c : Command}
    (hcommand : Command.ofStatement? t = some c) {tables : Tables}
    (htables : Tables.ofStatement defaultJoinKeywords (some c) t = tables) (hnamed : tables.all ≠ []) :
    Report.ofQuery {} t =
      { query := t
        statements := [t]
        command := c.text
        table := tables.target
        tables := tables.all
        joinTables := tables.joined.eraseDups
        columns := columns (some c) t
        subqueries := (bs.flatMap fun b => subqueries (inParens b)).eraseDups
        hasJoin := hasJoin defaultJoinKeywords t
        hasSubquery := !(bs.flatMap fun b => subqueries (inParens b)).isEmpty
        diagnostics := [] } := by
  have hclean := hinert.isClean hclean
  have hone := hinert.undivided
  have hall : analyse {} t = [⟨t, some c, tables⟩] := by
    rw [analyse, statements_of_undivided hone hsolid, List.map_singleton, Statement.ofText, hcommand,
      htables]
  have hds := diagnose_single hclean hone hinert.isBalanced (c := c) hnamed
  have hfix : clean ({} : Config).stripLineComments t = t := (clean_eq_self_iff false t).mpr hclean
  rw [Report.ofQuery, hfix, hall, hds]
  simp only [Report.ofAnalysis, Statements.texts, Statements.command, Statements.table,
    Statements.tables, Statements.joinTables, Statements.columns, Statements.subqueries,
    Statements.hasJoin, List.map_cons, List.map_nil, List.head?_cons, Option.bind_some,
    List.flatMap_singleton, List.any_cons, List.any_nil, Bool.or_false, Command.textOf,
    Tables.all_eraseDups, hinert.subqueries_eq, isEmpty_eraseDups]

end SqlSkim
