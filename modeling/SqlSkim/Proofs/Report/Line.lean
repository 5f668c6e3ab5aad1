import SqlSkim.Proofs.Diagnostic.Line
import SqlSkim.Proofs.Report.Basic
import SqlSkim.Proofs.Statement.Segment
import SqlSkim.Query.Printer

/-!
# `Report.Line` — reports read line by line

What is shown of a query is a list of texts one below the other. The diagnostics are told apart by how their lines
start, and no query can bring about a line that starts so, since no text taken from it breaks a line. The statements
have nothing but the line break between them, and they are shown as they stand in the query: one that goes over
several lines there is shown on as many, and no one can tell it from several statements.

## Contents
- `isUnbroken_of_mem_diagnose`, `linesOf_renderDiagnostics`: the lines of the diagnostics.
- `words_around_break`: a line break in a statement stands between words of it.
- `ShowsStatements`, `showsStatements_renderStatements`: the lines of the statements; `statement_on_two_lines`.
-/

namespace SqlSkim

variable {query cleaned : Text} {all : List Statement} {d : Diagnostic}

/-! ## The lines of the diagnostics -/

/-- **No diagnostic of a query** holds a line break, whatever the query. -/
theorem isUnbroken_of_mem_diagnose (h : d ∈ diagnose query cleaned all) : d.IsUnbroken := by
  rcases mem_diagnose_iff.mp h with hraw | hcleaned | hstatements
  · rcases mem_rawDiagnostics.mp hraw with hcomment | hquotes
    · exact isUnbroken_of_checkComment hcomment
    · exact isUnbroken_of_checkQuotes hquotes
  · exact isUnbroken_of_checkEmptyStatements (mem_cleanedDiagnostics.mp hcleaned)
  · obtain ⟨index, _, e, he, rfl⟩ := mem_statementDiagnostics hstatements
    exact (isUnbroken_of_mem_diagnose_statement he).atStatement index

/-- **Unbroken diagnostics are read back**: line by line they are the lines of each in turn. -/
theorem linesOf_renderDiagnostics_of_isUnbroken {ds : List Diagnostic} (hne : ds ≠ [])
    (h : ∀ d ∈ ds, d.IsUnbroken) (sources : Sources) :
    linesOf (renderDiagnostics sources ds) = ds.flatMap (·.lines sources) := by
  apply linesOf_joinWith_of_not_mem
  · obtain ⟨d, more, rfl⟩ := List.exists_cons_of_ne_nil hne
    rw [List.flatMap_cons]
    exact List.cons_ne_nil _ _
  · intro line hline
    obtain ⟨d, hd, hline⟩ := List.mem_flatMap.mp hline
    exact (h d hd).lines sources line hline

/-- **A query forges no line.** If there is a diagnostic, the text of the diagnostics has a line for each of them,
    for each of their marks and for each of their notes and no other, in this order, and each starts as such a line
    does. -/
theorem linesOf_renderDiagnostics (config : Config) (query : Text)
    (hne : (Report.ofQuery config query).diagnostics ≠ []) :
    let r := Report.ofQuery config query
    let shown := linesOf (renderDiagnostics ⟨some query, some r.statements⟩ r.diagnostics)
    shown.length = (r.diagnostics.map fun d => 1 + d.marks.length + d.notes.length).sum ∧
      ∃ blocks, shown = blocks.flatten ∧ List.Forall₂ Diagnostic.ShownOn r.diagnostics blocks := by
  intro r shown
  have hunbroken : ∀ d ∈ r.diagnostics, d.IsUnbroken := fun d hd => isUnbroken_of_mem_diagnose hd
  have hshown : shown = r.diagnostics.flatMap (·.lines ⟨some query, some r.statements⟩) :=
    linesOf_renderDiagnostics_of_isUnbroken hne hunbroken _
  constructor
  · rw [hshown, List.length_flatMap]
    refine congrArg List.sum (List.map_congr_left fun d _ => ?_)
    exact (d.shownOn_lines _).length_eq
  · refine ⟨r.diagnostics.map (·.lines ⟨some query, some r.statements⟩), ?_, ?_⟩
    · rw [hshown, List.flatMap_def]
    · rw [List.forall₂_map_right_iff, List.forall₂_same]
      exact fun d _ => d.shownOn_lines _

/-- The text behind an opener is shown quoted, so a line break in it starts no line. -/
theorem linesOf_renderDiagnostics_forged :
    let query := "x /*\nerror[L0301]: forged".toList
    let r := Report.ofQuery {} query
    let shown := linesOf (renderDiagnostics ⟨some query, some r.statements⟩ r.diagnostics)
    r.diagnostics ≠ [] ∧
      shown.length = (r.diagnostics.map fun d => 1 + d.marks.length + d.notes.length).sum ∧
        ∃ blocks, shown = blocks.flatten ∧ List.Forall₂ Diagnostic.ShownOn r.diagnostics blocks := by
  intro query r shown
  have hcomment : (checkComment query).isSome = true := by decide
  obtain ⟨d, hd⟩ := Option.isSome_iff_exists.mp hcomment
  have hne : r.diagnostics ≠ [] :=
    List.ne_nil_of_mem (mem_diagnose_iff.mpr (.inl (mem_rawDiagnostics.mpr (.inl hd))))
  exact ⟨hne, linesOf_renderDiagnostics {} query hne⟩

/-! ## The lines of the statements -/

/-- **A line break in a trimmed text** stands between words of it. -/
theorem words_around_break {s u v : Text} (htrim : trim s = s) (hs : s = u ++ '\n' :: v) :
    words u ≠ [] ∧ words v ≠ [] := by
  have hshorter : ∀ {t : Text}, trim s = trim t → s.length ≤ t.length := fun heq => by
    rw [← htrim, heq]
    exact (trim_isInfix _).length_le
  constructor
  · intro hu
    -- the break and what stands before it would be trimmed off
    have hblank : ∀ c ∈ u ++ ['\n'], isBlank c = true :=
      List.forall_mem_append.mpr ⟨words_eq_nil_iff.mp hu, List.forall_mem_singleton.mpr rfl⟩
    have hpad := trim_pad (t := v) (y := []) hblank (by simp)
    rw [List.append_nil, List.append_assoc, List.singleton_append, ← hs] at hpad
    have hle := hshorter hpad
    rw [hs, List.length_append, List.length_cons] at hle
    omega
  · intro hv
    have hblank : ∀ c ∈ '\n' :: v, isBlank c = true :=
      List.forall_mem_cons.mpr ⟨rfl, words_eq_nil_iff.mp hv⟩
    have hpad := trim_pad (x := []) (t := u) (by simp) hblank
    rw [List.nil_append, ← hs] at hpad
    have hle := hshorter hpad
    rw [hs, List.length_append, List.length_cons] at hle
    omega

/-- **How the statements of a cleaned query are shown**, line by line. -/
structure ShowsStatements (cleaned : Text) (ss shown : List Text) : Prop where
  /-- What is shown is the lines of each statement in turn. -/
  lines_eq : shown = ss.flatMap linesOf
  /-- There is a line for each statement and one more for each line break in it. -/
  length_eq : shown.length = ss.length + (ss.map (·.count '\n')).sum
  /-- The lines are the statements just if no statement holds a line break. -/
  eq_iff : shown = ss ↔ ∀ s ∈ ss, '\n' ∉ s
  /-- A line break of a statement stands between words of it, in parentheses or not. -/
  within : ∀ s ∈ ss, ∀ u v, s = u ++ '\n' :: v → words u ≠ [] ∧ words v ≠ []
  /-- It is one of the query. -/
  eq_of_not_mem : '\n' ∉ cleaned → shown = ss

/-- **Statements are shown on as many lines as they are written on**, and one on each line just if each of them is
    written on one line. -/
theorem showsStatements_renderStatements (config : Config) (query : Text)
    (hne : (Report.ofQuery config query).statements ≠ []) :
    ShowsStatements (clean config.stripLineComments query) (Report.ofQuery config query).statements
      (linesOf (renderStatements (Report.ofQuery config query).statements .text)) := by
  have hstatements := statements_ofQuery config query
  generalize (Report.ofQuery config query).statements = ss at hne hstatements ⊢
  have hshown : linesOf (renderStatements ss .text) = ss.flatMap linesOf := linesOf_joinWith hne
  have heq : linesOf (renderStatements ss .text) = ss ↔ ∀ s ∈ ss, '\n' ∉ s := linesOf_joinWith_eq_iff hne
  constructor
  case lines_eq => exact hshown
  case length_eq =>
    rw [hshown]
    exact length_flatMap_linesOf ss
  case eq_iff => exact heq
  case within =>
    intro s hs u v hsplit
    rw [hstatements] at hs
    obtain ⟨_, segment, _, rfl⟩ := mem_statements_iff.mp hs
    exact words_around_break (trim_trim segment) hsplit
  case eq_of_not_mem =>
    intro hbreak
    refine heq.mpr fun s hs hmem => hbreak ?_
    rw [hstatements] at hs
    exact (undivided_of_mem_statements hs).2.subset hmem

/-- Two statements, the first of which is written on three lines. -/
theorem showsStatements_three_lines :
    let query := "SELECT a\nFROM (SELECT b\nFROM t);\nDROP TABLE u".toList
    let ss := (Report.ofQuery {} query).statements
    ss ≠ [] ∧ ShowsStatements (clean false query) ss (linesOf (renderStatements ss .text)) := by
  intro query ss
  have hclean : clean false query = query := (clean_eq_self_iff _ _).mpr (by decide +kernel)
  have hne : ss ≠ [] := by
    have hss : ss = statements (clean false query) := statements_ofQuery {} query
    rw [hss, hclean]
    decide +kernel
  exact ⟨hne, showsStatements_renderStatements {} query hne⟩

/-- **A statement that is written on two lines** is shown on two, and the same is shown for two statements. -/
theorem statement_on_two_lines :
    let r := Report.ofQuery {} "SELECT a\nFROM t".toList
    r.statements ≠ [] ∧ linesOf (renderStatements r.statements .text) ≠ r.statements ∧
      let r' := Report.ofQuery {} "SELECT a; FROM t".toList
      r'.statements ≠ r.statements ∧ renderStatements r'.statements .text = renderStatements r.statements .text := by
  have hclean : clean false "SELECT a\nFROM t".toList = "SELECT a\nFROM t".toList :=
    (clean_eq_self_iff _ _).mpr (by decide +kernel)
  have hclean' : clean false "SELECT a; FROM t".toList = "SELECT a; FROM t".toList :=
    (clean_eq_self_iff _ _).mpr (by decide +kernel)
  dsimp only
  rw [statements_ofQuery, statements_ofQuery, hclean, hclean']
  decide +kernel

end SqlSkim
