import Mathlib.Algebra.Ring.Nat
import SqlSkim.Proofs.Text.Trim
import SqlSkim.Proofs.Text.Words
import SqlSkim.Text.Quoted

/-!
# `Text.Line` — the lines of a text

Texts that are shown one below the other are read back at the line breaks. What is read is the lines of the
texts, one text after another, so the texts themselves come back just if none of them holds a line break.
Numbers hold none, and neither does any text once it is quoted.

## Contents
- `linesOf`: the lines of a text; `length_linesOf`: how many they are.
- `linesOf_joinWith`, `linesOf_joinWith_eq_iff`: texts one below the other, and when they come back.
- `isSolid_decimal`, `break_not_mem_decimal`, `break_not_mem_quoted`: numbers and quoted texts.
-/

namespace SqlSkim

variable {t : Text} {ts : List Text}

/-! ## Lines -/

/-- The lines of a text: what stands between its line breaks. -/
def linesOf (t : Text) : List Text := t.splitOn '\n'

/-- A line holds no line break. -/
theorem break_not_mem_of_mem_linesOf {line : Text} (h : line ∈ linesOf t) : '\n' ∉ line := by
  intro hbreak
  rw [linesOf, List.splitOn_eq_splitOnP] at h
  exact absurd (mem_of_mem_splitOnP h hbreak).1 (by simp)

/-- **A text has one line more than it holds line breaks.** -/
theorem length_linesOf (t : Text) : (linesOf t).length = t.count '\n' + 1 := by
  unfold linesOf
  rw [List.splitOn_eq_splitOnP]
  induction t with
  | nil => rfl
  | cons c t ih =>
      rw [List.splitOnP_cons_eq_if_modifyHead]
      by_cases hc : c = '\n'
      · subst hc
        rw [if_pos (by simp), List.length_cons, ih, List.count_cons_self]
      · rw [if_neg (by simpa using hc), List.length_modifyHead, ih, List.count_cons_of_ne hc]

/-! ## Texts one below the other -/

/-- Texts have a line each and one more for each line break in them. -/
theorem length_flatMap_linesOf (ts : List Text) :
    (ts.flatMap linesOf).length = ts.length + (ts.map (·.count '\n')).sum := by
  induction ts with
  | nil => rfl
  | cons t more ih =>
      rw [List.flatMap_cons, List.length_append, ih, length_linesOf, List.length_cons, List.map_cons,
        List.sum_cons]
      omega

/-- **The lines of texts one below the other** are those of each text in turn. -/
theorem linesOf_joinWith (hne : ts ≠ []) : linesOf (joinWith "\n" ts) = ts.flatMap linesOf := by
  induction ts with
  | nil => exact absurd rfl hne
  | cons t more ih =>
      cases more with
      | nil => rw [joinWith_singleton, List.flatMap_singleton]
      | cons u more =>
          rw [joinWith_cons_cons, List.flatMap_cons, ← ih (by simp)]
          exact List.splitOn_append_cons_self t _

/-- Texts without line breaks are read back. -/
theorem linesOf_joinWith_of_not_mem (hne : ts ≠ []) (h : ∀ t ∈ ts, '\n' ∉ t) :
    linesOf (joinWith "\n" ts) = ts := List.splitOn_intercalate '\n' h hne

/-- **Texts one below the other are read back** just if none of them holds a line break. -/
theorem linesOf_joinWith_eq_iff (hne : ts ≠ []) :
    linesOf (joinWith "\n" ts) = ts ↔ ∀ t ∈ ts, '\n' ∉ t := by
  constructor
  · intro heq t ht
    rw [← heq] at ht
    exact break_not_mem_of_mem_linesOf ht
  · exact linesOf_joinWith_of_not_mem hne

/-! ## Numbers and quoted texts -/

theorem isBlank_of_isDigit {c : Char} (h : c.isDigit = true) : isBlank c = false := by
  have hbounds : 48 ≤ c.toNat ∧ c.toNat ≤ 57 := by
    simp only [Char.isDigit, Bool.and_eq_true, decide_eq_true_eq] at h
    exact ⟨h.1, h.2⟩
  simp [isBlank, blankRanges, inRanges]
  omega

/-- **A number** holds no blank. -/
theorem isBlank_of_mem_decimal {n : Int} {c : Char} (h : c ∈ decimal n) : isBlank c = false := by
  have hdigit : ∀ k, c ∈ Nat.toDigits 10 k → isBlank c = false := fun k hc =>
    isBlank_of_isDigit (Nat.isDigit_of_mem_toDigits (by decide) (by decide) hc)
  cases n with
  | ofNat n => exact hdigit n h
  | negSucc n =>
      rcases List.mem_cons.mp h with rfl | h
      · rfl
      · exact hdigit (n + 1) h

theorem isSolid_decimal (n : Int) : IsSolid (decimal n) := by
  have hne : decimal n ≠ [] := by
    cases n with
    | ofNat n => exact Nat.toDigits_ne_nil
    | negSucc n => exact List.cons_ne_nil _ _
  exact .of_no_blank hne fun c hc => isBlank_of_mem_decimal hc

theorem break_not_mem_decimal (n : Int) : '\n' ∉ decimal n := fun hbreak =>
  absurd (isBlank_of_mem_decimal hbreak) (by decide)

theorem break_not_mem_padZeros {digits : Text} (h : '\n' ∉ digits) (width : Nat) :
    '\n' ∉ padZeros width digits := by
  rw [padZeros, List.mem_append, not_or]
  refine ⟨fun hzero => ?_, h⟩
  exact absurd (List.eq_of_mem_replicate hzero) (by decide)

theorem break_not_mem_toDigits {base : Nat} (hbase : 1 < base) (n : Nat) : '\n' ∉ Nat.toDigits base n := by
  have hdigit : ∀ k, '\n' ∉ [Nat.digitChar k] := fun k hmem =>
    Nat.digitChar_ne '\n' rfl (List.mem_singleton.mp hmem).symm
  induction n using Nat.strongRecOn with
  | _ n ih =>
    by_cases hlt : n < base
    · rw [Nat.toDigits_of_lt_base hlt]
      exact hdigit n
    · have hge : base ≤ n := Nat.le_of_not_lt hlt
      rw [Nat.toDigits_of_base_le hbase hge, List.mem_append, not_or]
      exact ⟨ih (n / base) (Nat.div_lt_self (by omega) hbase), hdigit (n % base)⟩

theorem break_not_mem_hexDigits (width n : Nat) : '\n' ∉ hexDigits width n :=
  break_not_mem_padZeros (break_not_mem_toDigits (by decide) n) width

theorem break_not_mem_escapeCode (n : Nat) : '\n' ∉ escapeCode n := by
  unfold escapeCode
  split
  · rw [List.mem_append, not_or]
    exact ⟨by decide, break_not_mem_hexDigits 2 n⟩
  · split
    · rw [List.mem_append, not_or]
      exact ⟨by decide, break_not_mem_hexDigits 4 n⟩
    · rw [List.mem_append, not_or]
      exact ⟨by decide, break_not_mem_hexDigits 8 n⟩

theorem break_not_mem_escapeChar {mark : Char} (hmark : mark ≠ '\n') (c : Char) :
    '\n' ∉ escapeChar mark c := by
  unfold escapeChar
  split
  · next hc =>
      -- what stands behind the backslash is the quote or a backslash, and so no line break
      rcases hc with rfl | rfl
      · simpa using hmark.symm
      · decide
  · split
    · decide
    · next hne =>
        split
        · decide
        · split
          · decide
          · split
            · simpa using Ne.symm hne
            · exact break_not_mem_escapeCode c.toNat

/-- **A quoted text** holds no line break, whatever was quoted. -/
theorem break_not_mem_quoted (t : Text) : '\n' ∉ quoted t := by
  have hmark : quoteMark t ≠ '\n' := by
    unfold quoteMark
    split <;> decide
  unfold quoted
  simp only [List.mem_append, List.mem_cons, List.mem_flatMap, List.not_mem_nil, or_false, not_or]
  refine ⟨⟨hmark.symm, ?_⟩, hmark.symm⟩
  rintro ⟨c, _, hc⟩
  exact break_not_mem_escapeChar hmark c hc

end SqlSkim
