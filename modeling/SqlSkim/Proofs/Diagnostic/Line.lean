import Mathlib.Data.List.Forall2
import SqlSkim.Diagnostic.Printer
import SqlSkim.Proofs.Diagnostic.Source
import SqlSkim.Proofs.Text.Line
import SqlSkim.Proofs.Text.Trim

/-!
# `Diagnostic.Line` — the lines that a diagnostic is shown on

A diagnostic is shown on a line with its level and its code, one line for each mark and one for each note. That
can be read back only if no text in it breaks its line. Two of these texts are taken from the query: the first
word of a statement, which holds no blank and so no line break, and what a mark covers, which is quoted after it
is cut short.

## Contents
- `Diagnostic.IsUnbroken`: a diagnostic whose message, labels and notes hold no line break;
  `isUnbroken_of_mem_diagnose`: every diagnostic of a query is one.
- `Diagnostic.IsUnbroken.lines`: its lines hold none either.
- `Diagnostic.ShownOn`: how the lines of a diagnostic read; `Diagnostic.shownOn_lines`.
-/

namespace SqlSkim

/-! ## Texts without line breaks -/

/-- **An unbroken diagnostic** holds no line break in its message, its labels and its notes. -/
structure Diagnostic.IsUnbroken (d : Diagnostic) : Prop where
  message : '\n' ∉ d.message
  labels : ∀ m ∈ d.marks, ∀ label ∈ m.label, '\n' ∉ label
  notes : ∀ note ∈ d.notes, '\n' ∉ note

namespace Diagnostic.IsUnbroken

variable {d : Diagnostic}

/-- A diagnostic that is nothing but its message. -/
theorem of_message {message : Text} (h : '\n' ∉ message) (severity : Severity) (code : Code) :
    IsUnbroken { severity, code, message } := ⟨h, by simp, by simp⟩

theorem marking (h : d.IsUnbroken) {label : Text} (hlabel : '\n' ∉ label) (start stop : Int) :
    (d.marking start stop (some label)).IsUnbroken where
  message := h.message
  labels := by
    intro m hm l hl
    rcases List.mem_append.mp hm with hm | hm
    · exact h.labels m hm l hl
    · obtain rfl := List.mem_singleton.mp hm
      obtain rfl := Option.some.inj hl
      exact hlabel
  notes := h.notes

theorem noting (h : d.IsUnbroken) {note : Text} (hnote : '\n' ∉ note) : (d.noting note).IsUnbroken where
  message := h.message
  labels := h.labels
  notes := by
    intro n hn
    rcases List.mem_append.mp hn with hn | hn
    · exact h.notes n hn
    · obtain rfl := List.mem_singleton.mp hn
      exact hnote

theorem atStatement (h : d.IsUnbroken) (index : Int) : (d.atStatement index).IsUnbroken :=
  ⟨h.message, h.labels, h.notes⟩

end Diagnostic.IsUnbroken

/-! ## The checks -/

section Checks

open Diagnostic

variable {query cleaned statement : Text} {command : Option Command} {tables : Tables} {d : Diagnostic}

theorem isUnbroken_of_checkComment (h : checkComment query = some d) : d.IsUnbroken := by
  obtain ⟨start, _, rfl⟩ := Option.map_eq_some_iff.mp h
  refine IsUnbroken.noting (IsUnbroken.marking (.of_message ?_ _ _) ?_ _ _) ?_
  · decide
  · decide
  · decide

theorem isUnbroken_of_checkQuotes (h : checkQuotes query = some d) : d.IsUnbroken := by
  obtain ⟨quote, hquote, hmark⟩ := List.exists_of_findSome?_eq_some h
  -- the quote that the message names is one of three characters
  have hne : '\n' ≠ quote := by
    rintro rfl
    exact absurd hquote (by decide)
  have hmessage : '\n' ∉ "unbalanced ".toList ++ quote :: " quote".toList := by
    rw [List.mem_append, List.mem_cons, not_or, not_or]
    exact ⟨by decide, hne, by decide⟩
  dsimp only at hmark
  split at hmark
  · split at hmark
    · obtain rfl := Option.some.inj hmark
      refine IsUnbroken.noting (IsUnbroken.marking (.of_message hmessage _ _) ?_ _ _) ?_
      · decide
      · decide
    · exact absurd hmark (by simp)
  · exact absurd hmark (by simp)

theorem isUnbroken_of_checkEmptyStatements (h : checkEmptyStatements cleaned = some d) : d.IsUnbroken := by
  unfold checkEmptyStatements at h
  split at h
  · exact absurd h (by simp)
  · obtain rfl := Option.some.inj h
    refine .of_message ?_ _ _
    rw [List.mem_append, not_or]
    exact ⟨break_not_mem_decimal _, by decide⟩

theorem isUnbroken_of_checkParens (h : checkParens statement = some d) : d.IsUnbroken := by
  obtain ⟨fault, _, rfl⟩ := Option.map_eq_some_iff.mp h
  cases fault with
  | unmatched offset =>
      refine IsUnbroken.marking (.of_message ?_ _ _) ?_ _ _
      · decide
      · decide
  | unclosed count =>
      have hcount : '\n' ∉ decimal count ++ " unclosed '('".toList := by
        rw [List.mem_append, not_or]
        exact ⟨break_not_mem_decimal count, by decide⟩
      exact (IsUnbroken.of_message hcount .warning .unbalancedParentheses).noting (by decide)

/-- **The first word of a statement** is shown in the message, and a word holds no line break. -/
theorem break_not_mem_head_words (t : Text) (width : Nat) : '\n' ∉ ((words t).headD []).take width := by
  intro hbreak
  have hmem := List.mem_of_mem_take hbreak
  cases hwords : words t with
  | nil =>
      rw [hwords] at hmem
      exact absurd hmem (by simp)
  | cons w more =>
      rw [hwords] at hmem
      have hw : w ∈ words t := hwords ▸ List.mem_cons_self
      exact absurd ((mem_words hw).2 '\n' hmem).1 (by decide)

theorem isUnbroken_of_checkCommand (h : checkCommand statement command = some d) : d.IsUnbroken := by
  cases command with
  | some c => exact absurd h (by simp [checkCommand])
  | none =>
      obtain rfl := Option.some.inj h
      refine IsUnbroken.noting (.of_message ?_ _ _) (by decide)
      rw [List.mem_append, not_or]
      exact ⟨by decide, break_not_mem_head_words statement 32⟩

theorem isUnbroken_of_checkTable (h : checkTable command tables = some d) : d.IsUnbroken := by
  cases command with
  | none => exact absurd h (by simp [checkTable])
  | some c =>
      simp only [checkTable] at h
      split at h
      · exact absurd h (by simp)
      · obtain rfl := Option.some.inj h
        refine .of_message ?_ _ _
        cases c <;> decide

/-- The diagnostics of a statement are unbroken. -/
theorem isUnbroken_of_mem_diagnose_statement {s : Statement} (h : d ∈ s.diagnose) : d.IsUnbroken := by
  rcases Statement.mem_diagnose_iff.mp h with h | h | h
  · exact isUnbroken_of_checkParens h
  · exact isUnbroken_of_checkCommand h
  · exact isUnbroken_of_checkTable h

end Checks

/-! ## The lines -/

namespace Diagnostic

variable {d : Diagnostic}

theorem break_not_mem_code (c : Code) : '\n' ∉ c.text := by
  obtain ⟨number⟩ := c
  cases number with
  | ofNat n =>
      rw [Code.text, List.mem_cons, not_or]
      exact ⟨by decide, break_not_mem_padZeros (break_not_mem_decimal n) 4⟩
  | negSucc n =>
      simp only [Code.text, List.mem_cons, not_or]
      exact ⟨by decide, by decide, break_not_mem_padZeros (break_not_mem_decimal (n + 1)) 3⟩

theorem IsUnbroken.headLine (h : d.IsUnbroken) : '\n' ∉ d.headLine := by
  have hname : '\n' ∉ d.severity.name := by
    cases d.severity <;> decide
  simp only [Diagnostic.headLine, List.mem_append, List.mem_cons, not_or]
  refine ⟨⟨⟨⟨hname, by decide, break_not_mem_code d.code⟩, by decide⟩, h.message⟩, ?_⟩
  cases d.statement with
  | none => exact List.not_mem_nil
  | some index =>
      simp only [List.mem_append, not_or]
      exact ⟨⟨by decide, break_not_mem_decimal _⟩, by decide⟩

/-- **The line of a mark** shows what the mark covers only quoted. -/
theorem break_not_mem_markLine {m : Mark} (hlabel : ∀ label ∈ m.label, '\n' ∉ label) (source : Option Text) :
    '\n' ∉ markLine source m := by
  have hlabel : '\n' ∉ m.label.getD [] := by
    cases hm : m.label with
    | none => exact List.not_mem_nil
    | some label => exact hlabel label hm
  intro hbreak
  have hmem := (trimRight_isPrefix _).subset hbreak
  rcases List.mem_append.mp hmem with hmem | hmem
  · rcases List.mem_append.mp hmem with hmem | hmem
    · rcases List.mem_append.mp hmem with hmem | hmem
      · exact absurd hmem (by decide)
      · exact break_not_mem_decimal _ hmem
    · cases source with
      | none =>
          rcases List.mem_append.mp hmem with hmem | hmem
          · exact absurd hmem (by decide)
          · exact break_not_mem_decimal _ hmem
      | some t =>
          rcases List.mem_append.mp hmem with hmem | hmem
          · exact absurd hmem (by decide)
          · exact break_not_mem_quoted _ hmem
  · rcases List.mem_cons.mp hmem with hmem | hmem
    · exact absurd hmem (by decide)
    · exact hlabel hmem

/-- What a mark covers over two lines is shown on one. -/
example : markLine (some "x /*\ny".toList) ⟨2, 6, none⟩ = "  --> 2: '/*\\ny'".toList := by decide

/-- **The lines of an unbroken diagnostic** hold no line break. -/
theorem IsUnbroken.lines (h : d.IsUnbroken) (sources : Sources) : ∀ line ∈ d.lines sources, '\n' ∉ line := by
  intro line hline
  rcases List.mem_append.mp hline with hline | hline
  · rcases List.mem_cons.mp hline with rfl | hline
    · exact h.headLine
    · obtain ⟨m, hm, rfl⟩ := List.mem_map.mp hline
      exact break_not_mem_markLine (h.labels m hm) _
  · obtain ⟨note, hnote, rfl⟩ := List.mem_map.mp hline
    rw [List.mem_append, not_or]
    exact ⟨by decide, h.notes note hnote⟩

/-! ## How the lines read -/

/-- **How a diagnostic is shown**: on a line that starts with its level and its code, behind it a line for each
    mark that starts with an arrow and where the mark starts, and behind these each note in a line of its own. -/
inductive ShownOn (d : Diagnostic) : List Text → Prop where
  | lines {head : Text} {marks notes : List Text} :
      d.severity.name ++ '[' :: (d.code.text ++ [']']) <+: head →
      List.Forall₂ (fun m line => "  --> ".toList ++ decimal m.start <+: line) d.marks marks →
      List.Forall₂ (fun note line => line = "  = note: ".toList ++ note) d.notes notes →
      ShownOn d (head :: (marks ++ notes))

/-- A diagnostic is shown on one line more than it has marks and notes. -/
theorem ShownOn.length_eq {lines : List Text} (h : d.ShownOn lines) :
    lines.length = 1 + d.marks.length + d.notes.length := by
  cases h with
  | lines _ hmarks hnotes =>
      rw [List.length_cons, List.length_append, hmarks.length_eq, hnotes.length_eq]
      omega

theorem isPrefix_headLine (d : Diagnostic) :
    d.severity.name ++ '[' :: (d.code.text ++ [']']) <+: d.headLine := by
  have hfront : d.severity.name ++ '[' :: d.code.text ++ "]: ".toList =
      d.severity.name ++ '[' :: (d.code.text ++ [']']) ++ ": ".toList := by
    rw [show "]: ".toList = ']' :: ": ".toList from rfl]
    simp
  unfold headLine
  rw [hfront, List.append_assoc, List.append_assoc]
  exact List.prefix_append _ _

theorem isPrefix_markLine (source : Option Text) (m : Mark) :
    "  --> ".toList ++ decimal m.start <+: markLine source m := by
  -- what is trimmed off stands behind the number, which ends with no blank
  have hstart : EndsSolid ("  --> ".toList ++ decimal m.start) := (isSolid_decimal m.start).endsSolid _
  unfold markLine
  dsimp only
  rw [List.append_assoc ("  --> ".toList ++ decimal m.start)]
  exact hstart.isPrefix_trimRight _

/-- **The lines of a diagnostic** read like this. -/
theorem shownOn_lines (d : Diagnostic) (sources : Sources) : d.ShownOn (d.lines sources) := by
  refine .lines (isPrefix_headLine d) ?_ ?_
  · rw [List.forall₂_map_right_iff, List.forall₂_same]
    exact fun m _ => isPrefix_markLine _ m
  · rw [List.forall₂_map_right_iff, List.forall₂_same]
    exact fun note _ => rfl

end Diagnostic

end SqlSkim
