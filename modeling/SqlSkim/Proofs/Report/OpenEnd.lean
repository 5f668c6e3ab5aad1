import SqlSkim.Proofs.Diagnostic.Paren
import SqlSkim.Proofs.Report.Basic
import SqlSkim.Proofs.Statement.Division

/-!
# `Report.OpenEnd` — only the last statement can be left open

The scan for separators and the check of parentheses count differently. The scan starts at the front of the
query and never goes below zero; the check starts anew at the front of each statement and stops at the first
stray `)`. They agree in one point: a statement with another one behind it ends at depth zero, where nothing
is left open. So a warning of open parentheses speaks of the last statement, and there is one at most.

## Contents
- `Diagnostic.warnsOpen`: the warning of parentheses that are left open.
- `diagnose_filter_warnsOpen`, `statementDiagnostics_filter_warnsOpen`: which statements give it.
- `only_last_left_open`: the main result.
-/

namespace SqlSkim

/-! ## The warning -/

/-- Whether a diagnostic warns of parentheses and marks none: they are left open at the end. -/
def Diagnostic.warnsOpen (d : Diagnostic) : Bool :=
  d.code = .unbalancedParentheses ∧ d.marks.isEmpty

theorem Diagnostic.warnsOpen_eq_false {d : Diagnostic} (h : d.code ≠ .unbalancedParentheses) :
    d.warnsOpen = false :=
  decide_eq_false fun hopen => h hopen.1

/-- A closed text gives no such warning. -/
theorem checkParens_of_isClosed {t : Text} {d : Diagnostic} (ht : IsClosed t)
    (h : checkParens t = some d) : d.warnsOpen = false := by
  rcases checkParens_cases h with ⟨offset, _, _, hmarks⟩ | ⟨count, hfault, _⟩
  · simp [Diagnostic.warnsOpen, hmarks]
  · exact absurd hfault (parenFault?_of_isClosed ht count)

/-- Parentheses that are counted as left open give it. -/
theorem exists_of_unclosed {t : Text} {count : Nat} (h : parenFault? t = some (.unclosed count)) :
    ∃ d, checkParens t = some d ∧ " unclosed '('".toList <:+ d.message ∧ d.warnsOpen = true := by
  refine ⟨_, Option.map_eq_some_iff.mpr ⟨_, h, rfl⟩, ?_, ?_⟩
  · exact List.suffix_append _ _
  · exact decide_eq_true ⟨rfl, rfl⟩

/-! ## The statements that give it -/

/-- Only the check of parentheses gives the warning, once for a statement. -/
theorem diagnose_filter_warnsOpen (s : Statement) :
    s.diagnose.filter (·.warnsOpen) = (checkParens s.text).toList.filter (·.warnsOpen) := by
  have hother : ∀ d, checkCommand s.text s.command = some d ∨ checkTable s.command s.tables = some d →
      d.warnsOpen = false := by
    intro d hd
    refine Diagnostic.warnsOpen_eq_false ?_
    rcases hd with hd | hd
    · rw [code_of_checkCommand hd]
      decide
    · rw [code_of_checkTable hd]
      decide
  have hsplit : s.diagnose = (checkParens s.text).toList ++
      ([checkCommand s.text s.command, checkTable s.command s.tables].filterMap id) := by
    rw [Statement.diagnose]
    cases checkParens s.text with
    | none => rfl
    | some d => rfl
  have hnone : ([checkCommand s.text s.command, checkTable s.command s.tables].filterMap id).filter
      (·.warnsOpen) = [] := by
    refine List.filter_eq_nil_iff.mpr fun d hd => ?_
    simp only [List.mem_filterMap, List.mem_cons, List.not_mem_nil, or_false, id] at hd
    obtain ⟨found, hfound, rfl⟩ := hd
    simpa using hother d (hfound.imp Eq.symm Eq.symm)
  rw [hsplit, List.filter_append, hnone, List.append_nil]

/-- What the statements warn of is what the last one warns of, if the others are closed. -/
theorem statementDiagnostics_filter_warnsOpen {front : List Statement} (last : Statement)
    (hfront : ∀ s ∈ front, IsClosed s.text) :
    (statementDiagnostics (front ++ [last])).filter (·.warnsOpen) =
      ((checkParens last.text).toList.filter (·.warnsOpen)).map (·.atStatement front.length) := by
  have hclosed : (statementDiagnostics front).filter (·.warnsOpen) = [] := by
    refine List.filter_eq_nil_iff.mpr fun d hd hopen => ?_
    obtain ⟨index, hlt, e, he, rfl⟩ := mem_statementDiagnostics hd
    have hmem : e ∈ (front[index]).diagnose.filter (·.warnsOpen) := List.mem_filter.mpr ⟨he, hopen⟩
    rw [diagnose_filter_warnsOpen, List.mem_filter, Option.mem_toList] at hmem
    rw [checkParens_of_isClosed (hfront _ (List.getElem_mem hlt)) hmem.1] at hmem
    exact absurd hmem.2 (by simp)
  have hsplit : statementDiagnostics (front ++ [last]) =
      statementDiagnostics front ++ last.diagnose.map (·.atStatement front.length) := by
    rw [statementDiagnostics, List.mapIdx_concat, List.flatten_concat]
    rfl
  rw [hsplit, List.filter_append, hclosed, List.nil_append, List.filter_map,
    ← diagnose_filter_warnsOpen]
  rfl

/-! ## The report -/

/-- The statements before the last one of an analysed query are closed. -/
theorem isClosed_of_analyse_eq {config : Config} {cleaned : Text} {front : List Statement}
    {last : Statement} (h : analyse config cleaned = front ++ [last]) :
    ∀ s ∈ front, IsClosed s.text := by
  have htexts : statements cleaned = (analyse config cleaned).map (·.text) := by
    simp [analyse, Statement.ofText, Function.comp_def]
  intro s hs
  obtain ⟨before, after, rfl⟩ := List.append_of_mem hs
  have hsplit : statements cleaned =
      before.map (·.text) ++ s.text :: (after.map (·.text) ++ [last.text]) := by
    rw [htexts, h]
    simp
  exact isClosed_of_statements_eq hsplit (by simp)

/-- What a report warns of comes from its statements. -/
theorem filter_warnsOpen_ofQuery (config : Config) (query : Text) :
    (Report.ofQuery config query).diagnostics.filter (·.warnsOpen) =
      (statementDiagnostics (analyse config (clean config.stripLineComments query))).filter
        (·.warnsOpen) := by
  rw [diagnostics_ofQuery]
  generalize clean config.stripLineComments query = cleaned
  have hraw : (rawDiagnostics query).filter (·.warnsOpen) = [] := by
    refine List.filter_eq_nil_iff.mpr fun d hd => Bool.eq_false_iff.mp ?_
    refine Diagnostic.warnsOpen_eq_false ?_
    rcases mem_rawDiagnostics.mp hd with hd | hd
    · rw [(code_of_checkComment hd).1]
      decide
    · rw [(code_of_checkQuotes hd).1]
      decide
  have hcleaned : (cleanedDiagnostics cleaned).filter (·.warnsOpen) = [] := by
    refine List.filter_eq_nil_iff.mpr fun d hd => Bool.eq_false_iff.mp ?_
    refine Diagnostic.warnsOpen_eq_false ?_
    rw [(code_of_checkEmptyStatements (mem_cleanedDiagnostics.mp hd)).1]
    decide
  rw [diagnose_eq_append, List.filter_append, List.filter_append, hraw, hcleaned, List.nil_append,
    List.nil_append]

/-- **Only the last statement can be left open.** If the check of a statement tells of unclosed parentheses,
    no statement stands behind it; and of the diagnostics of a report one at most warns of parentheses
    without a mark, and it is tied to the last statement. -/
theorem only_last_left_open :
    (∀ t before s after d, statements t = before ++ s :: after → checkParens s = some d →
        " unclosed '('".toList <:+ d.message → after = []) ∧
      ∀ config query,
        (Report.ofQuery config query).diagnostics.countP (·.warnsOpen) ≤ 1 ∧
          ∀ d ∈ (Report.ofQuery config query).diagnostics, d.warnsOpen = true →
            ∃ front last, (Report.ofQuery config query).statements = front ++ [last] ∧
              d.statement = some (front.length : Int) := by
  constructor
  · intro t before s after d hstatements hcheck hmessage
    by_contra hne
    have hclosed := isClosed_of_statements_eq hstatements hne
    rcases checkParens_cases hcheck with ⟨offset, _, hstray, _⟩ | ⟨count, hfault, _⟩
    · rw [hstray] at hmessage
      exact absurd hmessage (by decide)
    · exact parenFault?_of_isClosed hclosed count hfault
  · intro config query
    have hfilter := filter_warnsOpen_ofQuery config query
    have htexts : (Report.ofQuery config query).statements =
        (analyse config (clean config.stripLineComments query)).map (·.text) := rfl
    have hclosed := @isClosed_of_analyse_eq config (clean config.stripLineComments query)
    generalize analyse config (clean config.stripLineComments query) = all at hfilter htexts hclosed
    rw [List.countP_eq_length_filter]
    have hmem : ∀ d ∈ (Report.ofQuery config query).diagnostics, d.warnsOpen = true →
        d ∈ (statementDiagnostics all).filter (·.warnsOpen) := fun d hd hopen => by
      rw [← hfilter]
      exact List.mem_filter.mpr ⟨hd, hopen⟩
    rcases List.eq_nil_or_concat all with rfl | ⟨front, last, rfl⟩
    · refine ⟨?_, fun d hd hopen => absurd (hmem d hd hopen) (by simp [statementDiagnostics])⟩
      rw [hfilter]
      exact Nat.zero_le 1
    · rw [List.concat_eq_append] at hfilter hmem htexts
      have hlast := statementDiagnostics_filter_warnsOpen last
        (hclosed List.concat_eq_append)
      rw [hlast] at hfilter hmem
      constructor
      · rw [hfilter, List.length_map]
        refine (List.length_filter_le _ _).trans ?_
        cases checkParens last.text with
        | none => exact Nat.zero_le 1
        | some d => exact Nat.le_refl 1
      · intro d hd hopen
        obtain ⟨e, _, rfl⟩ := List.mem_map.mp (hmem d hd hopen)
        refine ⟨front.map (·.text), last.text, by rw [htexts]; simp, ?_⟩
        rw [List.length_map]
        rfl

/-- Of two statements the second one is left open, and one warning is tied to it. -/
theorem only_last_left_open_two_statements :
    let t := "a; (b".toList
    let r := Report.ofQuery {} t
    (∃ before after d, statements t = before ++ "(b".toList :: after ∧ checkParens "(b".toList = some d ∧
        " unclosed '('".toList <:+ d.message ∧ after = []) ∧
      ∃ d ∈ r.diagnostics, d.warnsOpen = true ∧ r.diagnostics.countP (·.warnsOpen) = 1 ∧
        ∃ front last, r.statements = front ++ [last] ∧ d.statement = some (front.length : Int) := by
  intro t r
  have hclean : clean false t = t := (clean_eq_self_iff _ _).mpr (by decide +kernel)
  have hstatements : statements t = ["a".toList] ++ "(b".toList :: [] := by decide +kernel
  have hfault : parenFault? "(b".toList = some (.unclosed 1) := by rfl
  obtain ⟨d, hcheck, hmessage, hopen⟩ := exists_of_unclosed hfault
  have hmem : d.atStatement 1 ∈ r.diagnostics := by
    have hanalyse : analyse {} (clean false t) = [.ofText {} "a".toList] ++ [.ofText {} "(b".toList] := by
      unfold analyse
      rw [hclean, hstatements]
      rfl
    have hclosed : ∀ s ∈ [Statement.ofText {} "a".toList], IsClosed s.text := isClosed_of_analyse_eq hanalyse
    have hfilter := filter_warnsOpen_ofQuery {} t
    rw [hanalyse, statementDiagnostics_filter_warnsOpen _ hclosed] at hfilter
    have hfiltered : d.atStatement 1 ∈ r.diagnostics.filter (·.warnsOpen) := by
      rw [hfilter]
      exact List.mem_map_of_mem (List.mem_filter.mpr ⟨Option.mem_toList.mpr hcheck, hopen⟩)
    exact (List.mem_filter.mp hfiltered).1
  obtain ⟨hlast, hreport⟩ := only_last_left_open
  constructor
  · exact ⟨["a".toList], [], d, hstatements, hcheck, hmessage, hlast t _ _ _ d hstatements hcheck hmessage⟩
  · obtain ⟨hone, htied⟩ := hreport {} t
    have hpos : 0 < r.diagnostics.countP (·.warnsOpen) := List.countP_pos_iff.mpr ⟨_, hmem, hopen⟩
    exact ⟨d.atStatement 1, hmem, hopen, Nat.le_antisymm hone hpos, htied _ hmem hopen⟩

end SqlSkim
