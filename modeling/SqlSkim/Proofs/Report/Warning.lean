import SqlSkim.Proofs.Comment.Unclosed
import SqlSkim.Proofs.Report.Basic

/-!
# `Report.Warning` — what the warning of an unclosed comment is worth

A report warns of a block comment that is never closed and marks its opener. The warning is about the raw
query: one pass over it, for which line comments do not count, meets such a comment. With the default
settings that is right as far as it goes: cleaning ignores everything from the mark on. The converse needs
more. An opener inside a line comment is marked although nothing is lost when line comments count, and an
opener that only a pass brings about is never marked.

## Contents
- `Report.WarnsUnclosed`, `warnsUnclosed_iff`: what the warning is about.
- `clean_take_of_openComment?`: what stands behind the mark is ignored.
- `WarningCompares`, `dropsUnclosed_iff_warnsUnclosed`: when the warning and cleaning agree, and where they do not.
-/

namespace SqlSkim

/-- Whether a report warns of a comment that is never closed. -/
def Report.WarnsUnclosed (r : Report) : Prop := ∃ d ∈ r.diagnostics, d.code = .unterminatedComment

theorem isSome_checkComment (query : Text) :
    (checkComment query).isSome = (openComment? query).isSome := by
  rw [checkComment]
  cases openComment? query with
  | none => rfl
  | some start => rfl

/-- Only the check of comments gives such a warning. -/
theorem warnsUnclosed_iff_isSome (config : Config) (query : Text) :
    (Report.ofQuery config query).WarnsUnclosed ↔ (openComment? query).isSome = true := by
  rw [Report.WarnsUnclosed, diagnostics_ofQuery]
  constructor
  · rintro ⟨d, hd, hcode⟩
    -- the checks of the cleaned query and of its statements speak of other things
    have hnot : aboutCleaned d = false := by simp [aboutCleaned, hcode]
    rcases mem_diagnose_iff.mp hd with hraw | hcleaned | hstatements
    · rcases mem_rawDiagnostics.mp hraw with hcomment | hquotes
      · rw [← isSome_checkComment, hcomment, Option.isSome_some]
      · rw [(code_of_checkQuotes hquotes).1] at hcode
        exact absurd hcode (by decide)
    · rw [(source_of_mem_cleanedDiagnostics hcleaned).1] at hnot
      exact absurd hnot (by simp)
    · rw [(source_of_mem_statementDiagnostics hstatements).1] at hnot
      exact absurd hnot (by simp)
  · intro hopen
    rw [← isSome_checkComment] at hopen
    obtain ⟨d, hd⟩ := Option.isSome_iff_exists.mp hopen
    exact ⟨d, mem_diagnose_iff.mpr (.inl (mem_rawDiagnostics.mpr (.inl hd))), (code_of_checkComment hd).1⟩

/-- **What the warning is about**: one pass over the raw query, for which line comments do not count. -/
theorem warnsUnclosed_iff (config : Config) (query : Text) :
    (Report.ofQuery config query).WarnsUnclosed ↔ HasUnclosed false .code query := by
  rw [warnsUnclosed_iff_isSome, Option.isSome_iff_exists]
  constructor
  · rintro ⟨start, hstart⟩
    obtain ⟨read, lost, ht, -, hread, hclose⟩ := openComment?_eq_some_iff.mp hstart
    exact ⟨read, lost, ht, hread, hclose⟩
  · rintro ⟨read, lost, ht, hread, hclose⟩
    exact ⟨read.length, openComment?_eq_some_iff.mpr ⟨read, lost, ht, rfl, hread, hclose⟩⟩

/-- Cleaning goes on with what a pass returns. -/
theorem clean_cleanPass (lineComments : Bool) (t : Text) :
    clean lineComments (cleanPass lineComments .code t) = clean lineComments t := by
  by_cases hfix : cleanPass lineComments .code t = t
  · rw [hfix]
  · conv_rhs => rw [clean]
    rw [if_neg hfix]

/-- **Everything behind the mark is ignored**, if line comments do not count. -/
theorem clean_take_of_openComment? {query : Text} {start : Nat} (h : openComment? query = some start) :
    clean false query = clean false (query.take start) := by
  obtain ⟨read, lost, rfl, rfl, hread, hclose⟩ := openComment?_eq_some_iff.mp h
  rw [List.take_left, ← clean_cleanPass, cleanPass_of_unclosed hread hclose, clean_cleanPass]

/-! ## The warning and cleaning -/

/-- **How a warning compares** with what cleaning drops. -/
structure WarningCompares (lineComments : Bool) (query : Text) (warned : Prop) : Prop where
  /-- The warning is about one pass over the raw query, for which line comments do not count. -/
  warned_iff : warned ↔ HasUnclosed false .code query
  /-- Cleaning drops what its own first pass meets, and what the later ones do. -/
  drops_iff : DropsUnclosed lineComments query ↔
    HasUnclosed lineComments .code query ∨ DropsUnclosed lineComments (cleanPass lineComments .code query)
  drops_once : IsClean lineComments (cleanPass lineComments .code query) →
    (DropsUnclosed lineComments query ↔ HasUnclosed lineComments .code query)
  /-- A warning is false only at an opener that the first pass takes for a part of a comment. -/
  false_warning : warned → ¬ DropsUnclosed lineComments query → OpensOnly false lineComments query
  /-- What is dropped without a warning is dropped by a later pass, or behind an opener that is a part of a comment
      where line comments do not count. -/
  unwarned : DropsUnclosed lineComments query → ¬ warned →
    OpensOnly lineComments false query ∨ DropsUnclosed lineComments (cleanPass lineComments .code query)
  /-- It takes a line comment for such an opener. -/
  dashes : OpensOnly false lineComments query ∨ OpensOnly lineComments false query →
    lineComments = true ∧ ['-', '-'] <:+: query
  /-- If no line comment counts in the query, cleaning drops what the warning is about or a later pass meets; and
      nothing else than what the warning is about if one pass is enough. -/
  agrees : (lineComments = true → ¬ ['-', '-'] <:+: query) →
    (DropsUnclosed lineComments query ↔
        warned ∨ DropsUnclosed lineComments (cleanPass lineComments .code query)) ∧
      (IsClean lineComments (cleanPass lineComments .code query) →
        (warned ↔ DropsUnclosed lineComments query))

/-- **The warning and cleaning**, for every query and all settings. Each of them is about unclosed comments that a
    pass meets, and they differ in the pass: the warning knows the first one only, and no line comments. -/
theorem dropsUnclosed_iff_warnsUnclosed (config : Config) (query : Text) :
    WarningCompares config.stripLineComments query (Report.ofQuery config query).WarnsUnclosed := by
  have hwarns := warnsUnclosed_iff config query
  constructor
  case warned_iff => exact hwarns
  case drops_iff => exact dropsUnclosed_iff
  case drops_once => exact dropsUnclosed_iff_of_isClean
  case false_warning =>
    intro hwarned hkept
    apply (hwarns.mp hwarned).opensOnly
    intro hfirst
    exact hkept (dropsUnclosed_iff.mpr (.inl hfirst))
  case unwarned =>
    intro hdropped hsilent
    rcases dropsUnclosed_iff.mp hdropped with hfirst | hlater
    · left
      apply hfirst.opensOnly
      intro hraw
      exact hsilent (hwarns.mpr hraw)
    · right
      exact hlater
  case dashes =>
    rintro (hopens | hopens)
    · obtain ⟨hcount, hin⟩ := hopens.dashes
      exact ⟨hcount.resolve_left (by simp), hin⟩
    · obtain ⟨hcount, hin⟩ := hopens.dashes
      exact ⟨hcount.resolve_right (by simp), hin⟩
  case agrees =>
    intro hline
    rw [hwarns, ← hasUnclosed_iff_of_no_dashes hline]
    constructor
    · exact dropsUnclosed_iff
    · intro honce
      exact (dropsUnclosed_iff_of_isClean honce).symm

/-- An opener inside a line comment is marked although nothing is lost there. -/
theorem warnsUnclosed_in_lineComment :
    (Report.ofQuery { stripLineComments := true } "SELECT a FROM t -- /*\nWHERE b".toList).WarnsUnclosed ∧
      ¬ DropsUnclosed true "SELECT a FROM t -- /*\nWHERE b".toList := by
  have honce : IsClean true (cleanPass true .code "SELECT a FROM t -- /*\nWHERE b".toList) := by decide
  rw [warnsUnclosed_iff, dropsUnclosed_iff_of_isClean honce]
  exact ⟨by decide, by decide⟩

/-- Where a quote hides an opener, the rest is lost without a warning. -/
theorem dropsUnclosed_behind_quote :
    DropsUnclosed false "SELECT a FROM t /'* WHERE b".toList ∧
      ¬ (Report.ofQuery {} "SELECT a FROM t /'* WHERE b".toList).WarnsUnclosed := by
  rw [warnsUnclosed_iff]
  exact ⟨⟨1, by decide⟩, by decide⟩

/-- Each of the ways in which the two agree and differ: an open end behind a quoted text, an opener inside a line
    comment, and one that is hidden by a quote. -/
theorem dropsUnclosed_iff_warnsUnclosed_open_end :
    ((true = true → ¬ ['-', '-'] <:+: "SELECT 'a' /* b".toList) ∧
      IsClean true (cleanPass true .code "SELECT 'a' /* b".toList) ∧
      ((Report.ofQuery { stripLineComments := true } "SELECT 'a' /* b".toList).WarnsUnclosed ↔
        DropsUnclosed true "SELECT 'a' /* b".toList)) ∧
    ((Report.ofQuery { stripLineComments := true } "SELECT a FROM t -- /*\nWHERE b".toList).WarnsUnclosed ∧
      ¬ DropsUnclosed true "SELECT a FROM t -- /*\nWHERE b".toList ∧
      OpensOnly false true "SELECT a FROM t -- /*\nWHERE b".toList ∧
      ['-', '-'] <:+: "SELECT a FROM t -- /*\nWHERE b".toList) ∧
    (DropsUnclosed false "SELECT a FROM t /'* WHERE b".toList ∧
      ¬ (Report.ofQuery {} "SELECT a FROM t /'* WHERE b".toList).WarnsUnclosed ∧
      (OpensOnly false false "SELECT a FROM t /'* WHERE b".toList ∨
        DropsUnclosed false (cleanPass false .code "SELECT a FROM t /'* WHERE b".toList))) := by
  refine ⟨?_, ?_, ?_⟩
  · have hline : true = true → ¬ ['-', '-'] <:+: "SELECT 'a' /* b".toList := fun _ => by decide
    have honce : IsClean true (cleanPass true .code "SELECT 'a' /* b".toList) := by decide
    have hcompares := dropsUnclosed_iff_warnsUnclosed { stripLineComments := true } "SELECT 'a' /* b".toList
    exact ⟨hline, honce, (hcompares.agrees hline).2 honce⟩
  · obtain ⟨hwarned, hkept⟩ := warnsUnclosed_in_lineComment
    have hcompares := dropsUnclosed_iff_warnsUnclosed { stripLineComments := true }
      "SELECT a FROM t -- /*\nWHERE b".toList
    have hopens := hcompares.false_warning hwarned hkept
    exact ⟨hwarned, hkept, hopens, (hcompares.dashes (.inl hopens)).2⟩
  · obtain ⟨hdropped, hsilent⟩ := dropsUnclosed_behind_quote
    have hcompares := dropsUnclosed_iff_warnsUnclosed {} "SELECT a FROM t /'* WHERE b".toList
    exact ⟨hdropped, hsilent, hcompares.unwarned hdropped hsilent⟩

/-- **The warning and cleaning differ**, in both directions. -/
theorem warnsUnclosed_and_dropsUnclosed_differ :
    ((Report.ofQuery { stripLineComments := true } "SELECT a FROM t -- /*\nWHERE b".toList).WarnsUnclosed ∧
      ¬ DropsUnclosed true "SELECT a FROM t -- /*\nWHERE b".toList) ∧
    (¬ (Report.ofQuery {} "SELECT a FROM t /'* WHERE b".toList).WarnsUnclosed ∧
      DropsUnclosed false "SELECT a FROM t /'* WHERE b".toList) := by
  constructor
  · exact warnsUnclosed_in_lineComment
  · exact dropsUnclosed_behind_quote.symm

end SqlSkim
