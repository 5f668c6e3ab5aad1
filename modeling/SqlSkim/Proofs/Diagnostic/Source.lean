import SqlSkim.Proofs.Comment.FixedPoint
import SqlSkim.Query.Report

/-!
# `Diagnostic.Source` — which part of a query a diagnostic speaks of

The code of a diagnostic tells what was looked at: the raw query, the cleaned query or one statement. The
two checks of the raw query have nothing to say of a clean text.

## Contents
- `exists_of_checkComment` and its like: what each check tells, and when.
- `code_of_checkComment` and its like: the code that each check uses.
- `severity_of_checkComment` and its like: how grave each check finds what it tells of.
- `Statement.mem_diagnose_iff`, `code_of_mem_diagnose`: the checks of one statement.
- `checkComment_of_isClean`, `checkQuotes_of_isClean`: clean texts give no diagnostic of the raw query.
-/

namespace SqlSkim

section Checks

variable {query cleaned statement : Text} {command : Option Command} {tables : Tables} {d : Diagnostic}

/-! ## What each check tells -/

/-- An unclosed comment is marked from its opener to the end. -/
theorem exists_of_checkComment (h : checkComment query = some d) :
    ∃ (start : Nat) (message label note : Text), openComment? query = some start ∧
      d = ((Diagnostic.warning .unterminatedComment message).marking start query.length
        (some label)).noting note := by
  rw [checkComment] at h
  cases hopen : openComment? query with
  | none =>
      rw [hopen] at h
      exact absurd h (by simp)
  | some start =>
      rw [hopen] at h
      exact ⟨start, _, _, _, rfl, (Option.some.inj h).symm⟩

/-- Of a quoting character the last one is marked that stands outside comments. -/
theorem exists_of_checkQuotes (h : checkQuotes query = some d) :
    ∃ quote ∈ quoteChars, ∃ (last : Nat) (label note : Text), (last, quote) ∈ outsideComments query ∧
      d = ((Diagnostic.warning .unbalancedQuote ("unbalanced ".toList ++ quote :: " quote".toList)).marking
        last (last + 1) (some label)).noting note := by
  obtain ⟨quote, hquote, hmark⟩ := List.exists_of_findSome?_eq_some h
  dsimp only at hmark
  split at hmark
  · next last hlast =>
      split at hmark
      · obtain rfl := Option.some.inj hmark
        obtain ⟨p, hp, rfl⟩ := List.mem_map.mp (List.mem_of_getLast? hlast)
        obtain ⟨houtside, hchar⟩ := List.mem_filter.mp hp
        obtain rfl : p.2 = quote := by simpa using hchar
        exact ⟨p.2, hquote, p.1, _, _, houtside, rfl⟩
      · exact absurd hmark (by simp)
  · exact absurd hmark (by simp)

theorem exists_of_checkEmptyStatements (h : checkEmptyStatements cleaned = some d) :
    ∃ message, d = .info .emptyStatement message := by
  unfold checkEmptyStatements at h
  split at h
  · exact absurd h (by simp)
  · exact ⟨_, (Option.some.inj h).symm⟩

/-- Only a statement without a command is reported. -/
theorem exists_of_checkCommand (h : checkCommand statement command = some d) :
    command = none ∧ ∃ message note, d = (Diagnostic.error .unknownCommand message).noting note := by
  cases command with
  | some c => exact absurd h (by simp [checkCommand])
  | none => exact ⟨rfl, _, _, (Option.some.inj h).symm⟩

/-- Only a statement with a command and without a table is warned of. -/
theorem exists_of_checkTable (h : checkTable command tables = some d) :
    command ≠ none ∧ tables.all = [] ∧ ∃ message, d = .warning .noTable message := by
  cases command with
  | none => exact absurd h (by simp [checkTable])
  | some c =>
      simp only [checkTable] at h
      split at h
      · exact absurd h (by simp)
      · next hnone => exact ⟨by simp, not_not.mp hnone, _, (Option.some.inj h).symm⟩

/-! ## Codes -/

theorem code_of_checkComment (h : checkComment query = some d) :
    d.code = .unterminatedComment ∧ d.statement = none := by
  obtain ⟨start, message, label, note, _, rfl⟩ := exists_of_checkComment h
  exact ⟨rfl, rfl⟩

theorem code_of_checkQuotes (h : checkQuotes query = some d) :
    d.code = .unbalancedQuote ∧ d.statement = none := by
  obtain ⟨quote, _, last, label, note, _, rfl⟩ := exists_of_checkQuotes h
  exact ⟨rfl, rfl⟩

theorem code_of_checkEmptyStatements (h : checkEmptyStatements cleaned = some d) :
    d.code = .emptyStatement ∧ d.statement = none := by
  obtain ⟨message, rfl⟩ := exists_of_checkEmptyStatements h
  exact ⟨rfl, rfl⟩

theorem code_of_checkParens (h : checkParens statement = some d) : d.code = .unbalancedParentheses := by
  obtain ⟨fault, _, rfl⟩ := Option.map_eq_some_iff.mp h
  cases fault <;> rfl

theorem code_of_checkCommand (h : checkCommand statement command = some d) : d.code = .unknownCommand := by
  obtain ⟨_, message, note, rfl⟩ := exists_of_checkCommand h
  rfl

theorem code_of_checkTable (h : checkTable command tables = some d) : d.code = .noTable := by
  obtain ⟨_, _, message, rfl⟩ := exists_of_checkTable h
  rfl

/-! ## Severities -/

theorem severity_of_checkComment (h : checkComment query = some d) : d.severity = .warning := by
  obtain ⟨start, message, label, note, _, rfl⟩ := exists_of_checkComment h
  rfl

theorem severity_of_checkQuotes (h : checkQuotes query = some d) : d.severity = .warning := by
  obtain ⟨quote, _, last, label, note, _, rfl⟩ := exists_of_checkQuotes h
  rfl

theorem severity_of_checkEmptyStatements (h : checkEmptyStatements cleaned = some d) :
    d.severity = .info := by
  obtain ⟨message, rfl⟩ := exists_of_checkEmptyStatements h
  rfl

theorem severity_of_checkParens (h : checkParens statement = some d) : d.severity = .warning := by
  obtain ⟨fault, _, rfl⟩ := Option.map_eq_some_iff.mp h
  cases fault <;> rfl

theorem severity_of_checkCommand (h : checkCommand statement command = some d) : d.severity = .error := by
  obtain ⟨_, message, note, rfl⟩ := exists_of_checkCommand h
  rfl

theorem severity_of_checkTable (h : checkTable command tables = some d) : d.severity = .warning := by
  obtain ⟨_, _, message, rfl⟩ := exists_of_checkTable h
  rfl

end Checks

/-! ## The diagnostics of a statement -/

theorem Statement.mem_diagnose_iff {s : Statement} {d : Diagnostic} :
    d ∈ s.diagnose ↔ checkParens s.text = some d ∨ checkCommand s.text s.command = some d ∨
      checkTable s.command s.tables = some d := by
  simp [Statement.diagnose, eq_comm]

/-- The diagnostics of a statement have the codes of the three checks of statements. -/
theorem code_of_mem_diagnose {s : Statement} {d : Diagnostic} (h : d ∈ s.diagnose) :
    d.code = .unbalancedParentheses ∨ d.code = .unknownCommand ∨ d.code = .noTable := by
  rcases Statement.mem_diagnose_iff.mp h with h | h | h
  · exact .inl (code_of_checkParens h)
  · exact .inr (.inl (code_of_checkCommand h))
  · exact .inr (.inr (code_of_checkTable h))

/-! ## Clean texts -/

theorem openCommentFrom_eq_none {t : Text} (h : ¬ ['/', '*'] <:+: t) (pos : Nat) :
    openCommentFrom pos none t = none := by
  induction t generalizing pos with
  | nil => rfl
  | cons c t ih =>
      rw [List.infix_cons_iff, not_or] at h
      rw [openCommentFrom]
      · exact ih h.2 (pos + 1)
      · rintro rest rfl rfl
        exact h.1 ⟨rest, rfl⟩

/-- A clean text holds no block comment, so none that is never closed. -/
theorem checkComment_of_isClean {lineComments : Bool} {t : Text} (h : IsClean lineComments t) :
    checkComment t = none := by
  rw [checkComment, openComment?, openCommentFrom_eq_none h.no_block]
  rfl

/-- What is outside block comments is in the text. -/
theorem mem_of_mem_outsideCommentsFrom {pos : Nat} {inside : Bool} {t : Text} {p : Nat × Char}
    (h : p ∈ outsideCommentsFrom pos inside t) : p.2 ∈ t := by
  fun_induction outsideCommentsFrom pos inside t with
  | case1 => exact absurd h (by simp)
  | case2 pos rest ih => exact List.mem_cons_of_mem _ (List.mem_cons_of_mem _ (ih h))
  | case3 pos c rest _ ih =>
      rcases List.mem_cons.mp h with rfl | h
      · exact List.mem_cons_self
      · exact List.mem_cons_of_mem _ (ih h)
  | case4 pos rest ih => exact List.mem_cons_of_mem _ (List.mem_cons_of_mem _ (ih h))
  | case5 pos c rest _ ih => exact List.mem_cons_of_mem _ (ih h)

/-- A clean text holds no quoting character, so none an odd number of times. -/
theorem checkQuotes_of_isClean {lineComments : Bool} {t : Text} (h : IsClean lineComments t) :
    checkQuotes t = none := by
  rw [checkQuotes, List.findSome?_eq_none_iff]
  intro mark hmark
  have hnot : mark ∉ t := by
    simp only [quoteChars, List.mem_cons, List.not_mem_nil, or_false] at hmark
    rcases hmark with rfl | rfl | rfl
    · exact h.no_double
    · exact h.no_single
    · exact h.no_backtick
  have hnone : (outsideComments t).filter (·.2 = mark) = [] := by
    rw [List.filter_eq_nil_iff]
    intro p hp heq
    rw [decide_eq_true_eq] at heq
    exact hnot (heq ▸ mem_of_mem_outsideCommentsFrom hp)
  rw [hnone]
  rfl

end SqlSkim
