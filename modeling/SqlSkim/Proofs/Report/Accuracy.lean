import SqlSkim.CommandLine.Run
import SqlSkim.Proofs.Diagnostic.Mark
import SqlSkim.Proofs.Report.Basic

/-!
# `Report.Accuracy` — the diagnostics of a report are about what they say they are about

The diagnostics of a report come from scans of two kinds of text, the raw query and the statements of the
cleaned one, and nothing but an index tells which text a mark points into. They are in order all the same:
those of the query come first, those of the statements follow one statement after another, and every mark
lies in the text it is shown against. An unknown command is the one thing that is an error, so the report has
an error exactly if some statement has no command, and the command line says so by its exit code.

## Contents
- `Diagnostic.MayPrecede`, `pairwise_diagnose`: the order.
- `exists_tied_iff`: the diagnostics that are tied to one statement.
- `exists_unknownCommand_iff`, `exists_noTable_iff`, `severity_eq_error_iff`: when each of them is given.
- `Diagnostic.IsTrueMark`, `exists_source_of_mark`: what the marks cover.
- `Report.IsAccurate`, `report_isAccurate`: the main result.
-/

namespace SqlSkim

variable {query cleaned : Text} {all : List Statement} {d : Diagnostic}

/-! ## The order -/

/-- **The order of diagnostics.** Behind one that is tied to a statement stand only such as are tied to the
    same statement or to a later one. -/
def Diagnostic.MayPrecede (d e : Diagnostic) : Prop :=
  ∀ i, d.statement = some i → ∃ j, e.statement = some j ∧ i ≤ j

theorem pairwise_statementDiagnostics (all : List Statement) :
    (statementDiagnostics all).Pairwise Diagnostic.MayPrecede := by
  have htied : ∀ {i : Nat} {s : Statement} {d : Diagnostic},
      d ∈ s.diagnose.map (·.atStatement i) → d.statement = some (i : Int) := by
    intro i s d hd
    obtain ⟨e, _, rfl⟩ := List.mem_map.mp hd
    rfl
  have hle : ∀ {i j : Nat} {d e : Diagnostic}, d.statement = some (i : Int) →
      e.statement = some (j : Int) → i ≤ j → d.MayPrecede e := by
    intro i j d e hd he hij k hk
    rw [hd] at hk
    obtain rfl := Option.some.inj hk
    exact ⟨j, he, Int.ofNat_le.mpr hij⟩
  refine List.pairwise_flatten.mpr ⟨fun ds hds => ?_, ?_⟩
  · obtain ⟨i, hi, rfl⟩ := List.mem_mapIdx.mp hds
    exact List.pairwise_of_forall_mem_list fun d hd e he => hle (htied hd) (htied he) (Nat.le_refl i)
  · refine List.pairwise_iff_getElem.mpr fun i j hi hj hij d hd e he => ?_
    rw [List.getElem_mapIdx] at hd he
    exact hle (htied hd) (htied he) (Nat.le_of_lt hij)

/-- What is said of the query stands before what is said of its statements. -/
theorem pairwise_diagnose (query cleaned : Text) (all : List Statement) :
    (diagnose query cleaned all).Pairwise Diagnostic.MayPrecede := by
  -- what is tied to no statement may stand before anything
  have hfree : ∀ {d : Diagnostic}, d.isTied = false → ∀ e, d.MayPrecede e := by
    intro d hd e i hi
    rw [Diagnostic.isTied, hi] at hd
    exact absurd hd (by simp)
  have hcleaned : (cleanedDiagnostics cleaned ++ statementDiagnostics all).Pairwise
      Diagnostic.MayPrecede := by
    refine List.pairwise_append.mpr ⟨?_, pairwise_statementDiagnostics all, ?_⟩
    · exact List.pairwise_of_forall_mem_list fun d hd e _ =>
        hfree (source_of_mem_cleanedDiagnostics hd).2 e
    · exact fun d hd e _ => hfree (source_of_mem_cleanedDiagnostics hd).2 e
  rw [diagnose_eq_append]
  refine List.pairwise_append.mpr ⟨?_, hcleaned, ?_⟩
  · exact List.pairwise_of_forall_mem_list fun d hd e _ => hfree (source_of_mem_rawDiagnostics hd).2 e
  · exact fun d hd e _ => hfree (source_of_mem_rawDiagnostics hd).2 e

/-! ## The diagnostics of one statement -/

/-- A diagnostic that is tied to a statement comes from that statement. -/
theorem exists_of_mem_diagnose_of_tied {i : Int} (h : d ∈ diagnose query cleaned all)
    (hi : d.statement = some i) :
    ∃ index : Nat, ∃ s, i = index ∧ all[index]? = some s ∧
      ∃ e ∈ s.diagnose, e.atStatement index = d := by
  have htied : d ∈ (diagnose query cleaned all).filter Diagnostic.isTied :=
    List.mem_filter.mpr ⟨h, by rw [Diagnostic.isTied, hi]; rfl⟩
  rw [diagnose_filter_isTied] at htied
  obtain ⟨index, hlt, e, he, rfl⟩ := mem_statementDiagnostics htied
  obtain rfl : (index : Int) = i := Option.some.inj hi
  exact ⟨index, all[index], rfl, List.getElem?_eq_getElem hlt, e, he, rfl⟩

/-- **What is tied to a statement** is what the checks of that statement find. -/
theorem exists_tied_iff {code : Code} {index : Nat} {s : Statement} (hs : all[index]? = some s) :
    (∃ d ∈ diagnose query cleaned all, d.code = code ∧ d.statement = some (index : Int)) ↔
      ∃ e ∈ s.diagnose, e.code = code := by
  constructor
  · rintro ⟨d, hd, rfl, hindex⟩
    obtain ⟨i, s', hi, hs', e, he, rfl⟩ := exists_of_mem_diagnose_of_tied hd hindex
    obtain rfl : index = i := Int.ofNat.inj hi
    rw [hs] at hs'
    obtain rfl := Option.some.inj hs'
    exact ⟨e, he, rfl⟩
  · rintro ⟨e, he, rfl⟩
    obtain ⟨hlt, rfl⟩ := List.getElem?_eq_some_iff.mp hs
    refine ⟨e.atStatement index, ?_, rfl, rfl⟩
    refine mem_diagnose_iff.mpr (.inr (.inr ?_))
    exact List.mem_flatten.mpr ⟨_, List.mem_mapIdx.mpr ⟨index, hlt, rfl⟩, List.mem_map_of_mem he⟩

/-- **An unknown command** is told of a statement exactly if it has no command. -/
theorem exists_unknownCommand_iff (s : Statement) :
    (∃ e ∈ s.diagnose, e.code = .unknownCommand) ↔ s.command = none := by
  constructor
  · rintro ⟨e, he, hcode⟩
    rcases Statement.mem_diagnose_iff.mp he with h | h | h
    · rw [code_of_checkParens h] at hcode
      exact absurd hcode (by decide)
    · exact (exists_of_checkCommand h).1
    · rw [code_of_checkTable h] at hcode
      exact absurd hcode (by decide)
  · intro hcommand
    obtain ⟨e, he⟩ : ∃ e, checkCommand s.text s.command = some e := by
      rw [hcommand]
      exact ⟨_, rfl⟩
    exact ⟨e, Statement.mem_diagnose_iff.mpr (.inr (.inl he)), code_of_checkCommand he⟩

/-- **A missing table** is told of a statement exactly if it has a command and no table. -/
theorem exists_noTable_iff (s : Statement) :
    (∃ e ∈ s.diagnose, e.code = .noTable) ↔ s.command ≠ none ∧ s.tables.all = [] := by
  constructor
  · rintro ⟨e, he, hcode⟩
    rcases Statement.mem_diagnose_iff.mp he with h | h | h
    · rw [code_of_checkParens h] at hcode
      exact absurd hcode (by decide)
    · rw [code_of_checkCommand h] at hcode
      exact absurd hcode (by decide)
    · obtain ⟨hcommand, hnone, _⟩ := exists_of_checkTable h
      exact ⟨hcommand, hnone⟩
  · rintro ⟨hcommand, hnone⟩
    obtain ⟨c, hc⟩ := Option.ne_none_iff_exists'.mp hcommand
    obtain ⟨e, he⟩ : ∃ e, checkTable s.command s.tables = some e := by
      rw [hc]
      exact ⟨_, if_neg (not_not.mpr hnone)⟩
    exact ⟨e, Statement.mem_diagnose_iff.mpr (.inr (.inr he)), code_of_checkTable he⟩

/-! ## Errors -/

/-- The gravest severity is an error exactly if one of the diagnostics is. -/
theorem maxSeverity_eq_error_iff {ds : List Diagnostic} :
    Diagnostic.maxSeverity ds = some .error ↔ ∃ d ∈ ds, d.severity = .error := by
  constructor
  · intro h
    exact List.mem_map.mp (List.maxOn?_mem h)
  · rintro ⟨d, hd, herror⟩
    -- nothing ranks above an error, so the maximum of a list with one is one
    have hmem : Severity.error ∈ ds.map (·.severity) := List.mem_map.mpr ⟨d, hd, herror⟩
    have hsome := List.isSome_maxOn?_of_mem (f := Severity.rank) hmem
    have hrank := List.le_apply_get_maxOn?_of_mem (f := Severity.rank) hmem
    obtain ⟨top, htop⟩ := Option.isSome_iff_exists.mp hsome
    simp only [htop, Option.get_some] at hrank
    rw [Diagnostic.maxSeverity, htop]
    cases top with
    | error => rfl
    | info => exact absurd hrank (by decide)
    | warning => exact absurd hrank (by decide)

/-- **An unknown command is the one error**, whatever is diagnosed. -/
theorem severity_eq_error_iff (h : d ∈ diagnose query cleaned all) :
    d.severity = .error ↔ d.code = .unknownCommand := by
  -- each check has one code and one severity, so both sides are settled check by check
  rcases mem_diagnose_iff.mp h with h | h | h
  · rcases mem_rawDiagnostics.mp h with h | h
    · rw [severity_of_checkComment h, (code_of_checkComment h).1]
      decide
    · rw [severity_of_checkQuotes h, (code_of_checkQuotes h).1]
      decide
  · have h := mem_cleanedDiagnostics.mp h
    rw [severity_of_checkEmptyStatements h, (code_of_checkEmptyStatements h).1]
    decide
  · obtain ⟨index, hlt, e, he, rfl⟩ := mem_statementDiagnostics h
    show e.severity = .error ↔ e.code = .unknownCommand
    rcases Statement.mem_diagnose_iff.mp he with h | h | h
    · rw [severity_of_checkParens h, code_of_checkParens h]
      decide
    · rw [severity_of_checkCommand h, code_of_checkCommand h]
      decide
    · rw [severity_of_checkTable h, code_of_checkTable h]
      decide

/-- What tells of the command or the tables of a statement is tied to that statement. -/
theorem exists_statement_of_code (h : d ∈ diagnose query cleaned all)
    (hcode : d.code = .unknownCommand ∨ d.code = .noTable) :
    ∃ index : Nat, ∃ s, d.statement = some (index : Int) ∧ all[index]? = some s ∧
      ∃ e ∈ s.diagnose, e.code = d.code := by
  rcases mem_diagnose_iff.mp h with h | h | h
  · have habout := (source_of_mem_rawDiagnostics h).1
    rcases hcode with hcode | hcode <;> rw [aboutCleaned, hcode] at habout <;>
      exact absurd habout (by decide)
  · have hempty := (code_of_checkEmptyStatements (mem_cleanedDiagnostics.mp h)).1
    rcases hcode with hcode | hcode <;> exact absurd (hempty.symm.trans hcode) (by decide)
  · obtain ⟨index, hlt, e, he, rfl⟩ := mem_statementDiagnostics h
    exact ⟨index, all[index], rfl, List.getElem?_eq_getElem hlt, e, he, rfl⟩

/-- There is an error exactly if some statement has no command. -/
theorem exists_error_iff :
    (∃ d ∈ diagnose query cleaned all, d.severity = .error) ↔ ∃ s ∈ all, s.command = none := by
  constructor
  · rintro ⟨d, hd, herror⟩
    have hcode := (severity_eq_error_iff hd).mp herror
    obtain ⟨index, s, _, hs, e, he, hsame⟩ := exists_statement_of_code hd (.inl hcode)
    exact ⟨s, List.mem_of_getElem? hs,
      (exists_unknownCommand_iff s).mp ⟨e, he, hsame.trans hcode⟩⟩
  · rintro ⟨s, hs, hcommand⟩
    obtain ⟨index, hget⟩ := List.mem_iff_getElem?.mp hs
    obtain ⟨d, hd, hcode, _⟩ := (exists_tied_iff hget).mpr ((exists_unknownCommand_iff s).mpr hcommand)
    exact ⟨d, hd, (severity_eq_error_iff hd).mpr hcode⟩

/-- **An unknown command and a missing table** are never told of the same statement. -/
theorem statement_ne_of_codes {e : Diagnostic} (hd : d ∈ diagnose query cleaned all)
    (he : e ∈ diagnose query cleaned all) (hunknown : d.code = .unknownCommand)
    (hnone : e.code = .noTable) : d.statement ≠ e.statement := by
  intro hsame
  obtain ⟨i, s, hi, hs, d', hd', hcode⟩ := exists_statement_of_code hd (.inl hunknown)
  obtain ⟨j, s', hj, hs', e', he', hcode'⟩ := exists_statement_of_code he (.inr hnone)
  rw [hi, hj] at hsame
  obtain rfl : i = j := Int.ofNat.inj (Option.some.inj hsame)
  obtain rfl : s = s' := Option.some.inj (hs.symm.trans hs')
  have hcommand := (exists_unknownCommand_iff s).mp ⟨d', hd', hcode.trans hunknown⟩
  exact ((exists_noTable_iff s).mp ⟨e', he', hcode'.trans hnone⟩).1 hcommand

/-! ## Marks -/

/-- **A true mark** of a diagnostic lies in the source and covers there what the diagnostic names. -/
structure Diagnostic.IsTrueMark (d : Diagnostic) (m : Mark) (source : Text) : Prop where
  lies : m.LiesIn source
  covers_paren : d.code = .unbalancedParentheses → m.covered source = [')']
  covers_quote : d.code = .unbalancedQuote → ∃ quote, isQuote quote = true ∧
    d.message = "unbalanced ".toList ++ quote :: " quote".toList ∧ m.covered source = [quote]
  covers_opener : d.code = .unterminatedComment → ['/', '*'] <+: m.covered source

/-- The marks of the checks of the raw query point into the query. -/
theorem isTrueMark_of_mem_rawDiagnostics {m : Mark} (h : d ∈ rawDiagnostics query) (hm : m ∈ d.marks) :
    d.IsTrueMark m query := by
  rcases mem_rawDiagnostics.mp h with h | h
  · have hcode := (code_of_checkComment h).1
    obtain ⟨m', hmarks, hin, hcovered⟩ := marks_of_checkComment h
    obtain rfl : m = m' := by simpa [hmarks] using hm
    refine ⟨hin, fun hparen => ?_, fun hquote => ?_, fun _ => hcovered⟩
    · exact absurd (hcode.symm.trans hparen) (by decide)
    · exact absurd (hcode.symm.trans hquote) (by decide)
  · have hcode := (code_of_checkQuotes h).1
    obtain ⟨quote, m', hquote, hmessage, hmarks, hin, hcovered⟩ := marks_of_checkQuotes h
    obtain rfl : m = m' := by simpa [hmarks] using hm
    refine ⟨hin, fun hparen => ?_, fun _ => ⟨quote, hquote, hmessage, hcovered⟩, fun hopen => ?_⟩
    · exact absurd (hcode.symm.trans hparen) (by decide)
    · exact absurd (hcode.symm.trans hopen) (by decide)

/-- The marks of the checks of a statement point into the statement. -/
theorem isTrueMark_of_mem_diagnose {s : Statement} {e : Diagnostic} {m : Mark} (h : e ∈ s.diagnose)
    (hm : m ∈ e.marks) : e.IsTrueMark m s.text := by
  rcases Statement.mem_diagnose_iff.mp h with h | h | h
  · have hcode := code_of_checkParens h
    obtain ⟨hin, hcovered⟩ := marks_of_checkParens h m hm
    refine ⟨hin, fun _ => hcovered, fun hquote => ?_, fun hopen => ?_⟩
    · exact absurd (hcode.symm.trans hquote) (by decide)
    · exact absurd (hcode.symm.trans hopen) (by decide)
  · rw [marks_of_checkCommand h] at hm
    exact absurd hm (by simp)
  · rw [marks_of_checkTable h] at hm
    exact absurd hm (by simp)

/-- **Every mark is true** of the text that it is shown against. -/
theorem exists_source_of_mark {m : Mark} (h : d ∈ diagnose query cleaned all) (hm : m ∈ d.marks) :
    ∃ source, d.source? ⟨some query, some (Statements.texts all)⟩ = some source ∧
      d.IsTrueMark m source := by
  rcases mem_diagnose_iff.mp h with h | h | h
  · have hfree : d.statement = none := by
      simpa [Diagnostic.isTied] using (source_of_mem_rawDiagnostics h).2
    refine ⟨query, ?_, isTrueMark_of_mem_rawDiagnostics h hm⟩
    rw [Diagnostic.source?, hfree]
  · rw [marks_of_checkEmptyStatements (mem_cleanedDiagnostics.mp h)] at hm
    exact absurd hm (by simp)
  · obtain ⟨index, hlt, e, he, rfl⟩ := mem_statementDiagnostics h
    obtain ⟨hin, hparen, hquote, hopen⟩ := isTrueMark_of_mem_diagnose he hm
    -- the index that the diagnostic is tied to leads back to the text that was checked
    refine ⟨all[index].text, ?_, hin, hparen, hquote, hopen⟩
    show (Statements.texts all)[index]? = some all[index].text
    rw [Statements.texts, List.getElem?_map, List.getElem?_eq_getElem hlt]
    rfl

/-! ## The report -/

/-- **An accurate report** under the settings. -/
structure Report.IsAccurate (config : Config) (r : Report) : Prop where
  /-- What is said of statements stands behind all else, in the order of the statements. -/
  ordered : r.diagnostics.Pairwise Diagnostic.MayPrecede
  /-- A diagnostic that is tied to a statement is tied to one that there is. -/
  index_lt : ∀ d ∈ r.diagnostics, ∀ i, d.statement = some i → 0 ≤ i ∧ i < r.statements.length
  unknownCommand_iff : ∀ (index : Nat) (t : Text), r.statements[index]? = some t →
    ((∃ d ∈ r.diagnostics, d.code = .unknownCommand ∧ d.statement = some (index : Int)) ↔
      Command.ofStatement? t = none)
  noTable_iff : ∀ (index : Nat) (t : Text), r.statements[index]? = some t →
    ((∃ d ∈ r.diagnostics, d.code = .noTable ∧ d.statement = some (index : Int)) ↔
      Command.ofStatement? t ≠ none ∧
        (Tables.ofStatement config.joinKeywords (Command.ofStatement? t) t).all = [])
  /-- An unknown command and a missing table are both told of some statement, never of the same. -/
  not_both : ∀ d ∈ r.diagnostics, ∀ e ∈ r.diagnostics, d.code = .unknownCommand → e.code = .noTable →
    d.statement ≠ e.statement
  hasErrors_iff : r.hasErrors = true ↔ ∃ t ∈ r.statements, Command.ofStatement? t = none
  /-- A mark is true of the text that it is shown against. -/
  marks : ∀ d ∈ r.diagnostics, ∀ m ∈ d.marks,
    ∃ source, d.source? ⟨some r.query, some r.statements⟩ = some source ∧ d.IsTrueMark m source

/-- The analysed statement at an index is the analysis of the statement there. -/
theorem getElem?_analyse {config : Config} {index : Nat} {t : Text}
    (h : (Statements.texts (analyse config cleaned))[index]? = some t) :
    (analyse config cleaned)[index]? = some (.ofText config t) := by
  rw [Statements.texts, analyse, List.map_map, List.getElem?_map] at h
  obtain ⟨t', ht', rfl⟩ := Option.map_eq_some_iff.mp h
  rw [analyse, List.getElem?_map, ht']
  rfl

/-- A report has an error exactly if some statement has no command. -/
theorem hasErrors_ofQuery_iff (config : Config) (query : Text) :
    (Report.ofQuery config query).hasErrors = true ↔
      ∃ t ∈ (Report.ofQuery config query).statements, Command.ofStatement? t = none := by
  rw [Report.hasErrors, decide_eq_true_iff, statements_ofQuery]
  refine maxSeverity_eq_error_iff.trans (exists_error_iff.trans ?_)
  simp [analyse, Statement.ofText]

/-- **Every report is accurate**, and the command line exits with 1 exactly if some statement has no
    command. -/
theorem report_isAccurate (config : Config) (query : Text) :
    (Report.ofQuery config query).IsAccurate config ∧
      ∀ format, (Subcommand.inspect.answer format config query).exitCode = 1 ↔
        ∃ t ∈ (Report.ofQuery config query).statements, Command.ofStatement? t = none := by
  have herrors := hasErrors_ofQuery_iff config query
  have hexit : ∀ format, (Subcommand.inspect.answer format config query).exitCode = 1 ↔
      (Report.ofQuery config query).hasErrors = true := by
    intro format
    show (if (Report.ofQuery config query).hasErrors = true then 1 else 0) = 1 ↔ _
    split <;> simp_all
  refine ⟨?_, fun format => (hexit format).trans herrors⟩
  have hreport : Report.ofQuery config query = Report.ofAnalysis config query
      (analyse config (clean config.stripLineComments query))
      (diagnose query (clean config.stripLineComments query)
        (analyse config (clean config.stripLineComments query))) := rfl
  rw [hreport] at herrors ⊢
  generalize clean config.stripLineComments query = cleaned at herrors ⊢
  constructor
  case ordered => exact pairwise_diagnose query cleaned (analyse config cleaned)
  case index_lt =>
    intro d hd i hi
    obtain ⟨index, s, rfl, hs, _⟩ := exists_of_mem_diagnose_of_tied hd hi
    obtain ⟨hlt, _⟩ := List.getElem?_eq_some_iff.mp hs
    refine ⟨Int.natCast_nonneg index, Int.ofNat_lt.mpr ?_⟩
    show index < (Statements.texts (analyse config cleaned)).length
    rw [Statements.texts, List.length_map]
    exact hlt
  case unknownCommand_iff =>
    intro index t ht
    exact (exists_tied_iff (getElem?_analyse ht)).trans (exists_unknownCommand_iff _)
  case noTable_iff =>
    intro index t ht
    exact (exists_tied_iff (getElem?_analyse ht)).trans (exists_noTable_iff _)
  case not_both =>
    exact fun d hd e he hunknown hnone => statement_ne_of_codes hd he hunknown hnone
  case hasErrors_iff => exact herrors
  case marks => exact fun d hd m hm => exists_source_of_mark hd hm

end SqlSkim
