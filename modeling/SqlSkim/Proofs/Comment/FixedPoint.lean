import Mathlib.Data.List.Infix
import Mathlib.Logic.Function.Iterate
import SqlSkim.Query.Comment

/-!
# `Comment.FixedPoint` — the cleaned query is free of quotes and comments

One pass can bring new openers about: taking the quote out of `/'*` leaves `/*`, taking the comment out
of `/` `/**/` `*` does too. So what one pass returns need not be clean, and only the repetition is. This
module describes the texts that a pass leaves alone, and derives from it what the repetition ends in.

## Contents
- `IsClean`: free of quotes, of `/*` and, where line comments count, of `--`; `IsClean.append_apart`.
- `cleanPass_eq_self_iff`: a pass leaves alone exactly the clean texts.
- `SettlesAfter`, `clean_eq_iterate`: the cleaned query is the first pass result that the next pass
  leaves alone.
- `clean_reaches_fixedPoint`: the main result.
-/

namespace SqlSkim

variable {lineComments : Bool} {t : Text}

/-! ## Clean texts -/

/-- **A clean text** holds no quoting character, no `/*` and, where line comments count, no `--`. -/
structure IsClean (lineComments : Bool) (t : Text) : Prop where
  no_backtick : '\x60' ∉ t
  no_single : '\x27' ∉ t
  no_double : '\x22' ∉ t
  no_block : ¬ ['/', '*'] <:+: t
  no_line : lineComments = true → ¬ ['-', '-'] <:+: t

instance (lineComments : Bool) (t : Text) : Decidable (IsClean lineComments t) :=
  decidable_of_iff
    ('\x60' ∉ t ∧ '\x27' ∉ t ∧ '\x22' ∉ t ∧ ¬ ['/', '*'] <:+: t ∧
      (lineComments = true → ¬ ['-', '-'] <:+: t))
    ⟨fun ⟨h1, h2, h3, hb, hl⟩ => ⟨h1, h2, h3, hb, hl⟩, fun ⟨h1, h2, h3, hb, hl⟩ => ⟨h1, h2, h3, hb, hl⟩⟩

/-- What a pass asks of the front of a text to keep its first character: that it is no quote, and that no
    comment opens there. -/
structure KeepsHead (lineComments : Bool) (c : Char) (rest : Text) : Prop where
  not_quote : isQuote c = false
  not_block : ¬ ['/', '*'] <+: c :: rest
  not_line : lineComments = true → ¬ ['-', '-'] <+: c :: rest

theorem isClean_nil (lineComments : Bool) : IsClean lineComments [] :=
  ⟨by simp, by simp, by simp, by simp, by simp⟩

theorem isQuote_eq_false_iff {c : Char} :
    isQuote c = false ↔ c ≠ '\x60' ∧ c ≠ '\x27' ∧ c ≠ '\x22' := by
  simp [isQuote, and_assoc]

theorem isClean_cons_iff {c : Char} {rest : Text} :
    IsClean lineComments (c :: rest) ↔ KeepsHead lineComments c rest ∧ IsClean lineComments rest := by
  constructor
  · rintro ⟨h1, h2, h3, hb, hl⟩
    rw [List.mem_cons, not_or] at h1 h2 h3
    rw [List.infix_cons_iff, not_or] at hb
    refine ⟨⟨isQuote_eq_false_iff.mpr ⟨Ne.symm h1.1, Ne.symm h2.1, Ne.symm h3.1⟩, hb.1, fun h => ?_⟩,
      ⟨h1.2, h2.2, h3.2, hb.2, fun h => ?_⟩⟩
    · exact fun hp => hl h (List.infix_cons_iff.mpr (.inl hp))
    · exact fun hi => hl h (List.infix_cons_iff.mpr (.inr hi))
  · rintro ⟨⟨hq, hb, hl⟩, ⟨h1, h2, h3, hb', hl'⟩⟩
    obtain ⟨q1, q2, q3⟩ := isQuote_eq_false_iff.mp hq
    refine ⟨?_, ?_, ?_, ?_, fun h => ?_⟩
    · simpa using ⟨q1.symm, h1⟩
    · simpa using ⟨q2.symm, h2⟩
    · simpa using ⟨q3.symm, h3⟩
    · rw [List.infix_cons_iff, not_or]
      exact ⟨hb, hb'⟩
    · rw [List.infix_cons_iff, not_or]
      exact ⟨hl h, hl' h⟩

/-- Any stretch of a clean text is clean. -/
theorem IsClean.of_isInfix {u : Text} (h : IsClean lineComments t) (hu : u <:+: t) :
    IsClean lineComments u :=
  ⟨fun hc => h.no_backtick (hu.subset hc), fun hc => h.no_single (hu.subset hc),
    fun hc => h.no_double (hu.subset hc), fun hb => h.no_block (hb.trans hu),
    fun hlc hl => h.no_line hlc (hl.trans hu)⟩

/-- A text without quoting characters and without `/` is clean where line comments do not count. -/
theorem isClean_of_no_opener (h : ∀ c ∈ t, isQuote c = false ∧ c ≠ '/') : IsClean false t := by
  have hmem : ∀ {c : Char}, isQuote c = true → c ∉ t := fun hc hin => by simp [(h _ hin).1] at hc
  refine ⟨hmem rfl, hmem rfl, hmem rfl, fun hblock => ?_, fun hline => absurd hline (by simp)⟩
  exact (h '/' (hblock.subset (by simp))).2 rfl

/-- **Two clean texts stay clean** around a character that is no quote and in no opener. -/
theorem IsClean.append_apart {a b : Text} {c : Char} (ha : IsClean lineComments a)
    (hquote : isQuote c = false) (hblock : c ≠ '/' ∧ c ≠ '*') (hline : lineComments = true → c ≠ '-')
    (hb : IsClean lineComments b) : IsClean lineComments (a ++ c :: b) := by
  have hfront : KeepsHead lineComments c b := by
    refine ⟨hquote, fun hopen => ?_, fun h hopen => ?_⟩
    · exact hblock.1 (List.cons_prefix_cons.mp hopen).1.symm
    · exact hline h (List.cons_prefix_cons.mp hopen).1.symm
  induction a with
  | nil => exact isClean_cons_iff.mpr ⟨hfront, hb⟩
  | cons d a ih =>
      obtain ⟨⟨hd, hdblock, hdline⟩, ha⟩ := isClean_cons_iff.mp ha
      refine isClean_cons_iff.mpr ⟨⟨hd, ?_, fun h => ?_⟩, ih ha⟩
      -- only the last character of `a` has a new neighbour, which is `c`
      · cases a with
        | nil => simp [hblock.2.symm]
        | cons e a => simpa using hdblock
      · cases a with
        | nil => simp [(hline h).symm]
        | cons e a => simpa using hdline h

/-! ## One pass -/

/-- The first character is kept, and the pass goes on behind it; or the result is no longer than what
    follows that character. -/
theorem cleanPass_cons (lineComments : Bool) (c : Char) (rest : Text) :
    KeepsHead lineComments c rest ∧
        cleanPass lineComments .code (c :: rest) = c :: cleanPass lineComments .code rest ∨
      ¬ KeepsHead lineComments c rest ∧
        (cleanPass lineComments .code (c :: rest)).length ≤ rest.length := by
  by_cases hb : ['/', '*'] <+: c :: rest
  · -- a block comment opens here
    obtain ⟨tail, htail⟩ := hb
    obtain ⟨rfl, rfl⟩ : '/' = c ∧ '*' :: tail = rest := by simpa using htail
    have hlen := (cleanPass_sublist lineComments .blockComment tail).length_le
    refine .inr ⟨fun hk => hk.not_block ⟨tail, rfl⟩, ?_⟩
    rw [cleanPass, List.length_cons]
    omega
  · by_cases hl : ['-', '-'] <+: c :: rest
    · -- two dashes open a comment only where line comments count
      obtain ⟨tail, htail⟩ := hl
      obtain ⟨rfl, rfl⟩ : '-' = c ∧ '-' :: tail = rest := by simpa using htail
      rw [cleanPass]
      cases hlc : lineComments with
      | true =>
          have hlen := (cleanPass_sublist true .lineComment tail).length_le
          refine .inr ⟨fun hk => hk.not_line rfl ⟨tail, rfl⟩, ?_⟩
          rw [if_pos rfl, List.length_cons]
          omega
      | false => exact .inl ⟨⟨by decide, hb, fun h => absurd h (by simp)⟩, rfl⟩
    · have hstep : cleanPass lineComments .code (c :: rest) =
          if isQuote c then cleanPass lineComments .code rest
          else c :: cleanPass lineComments .code rest := by
        rw [cleanPass]
        · rintro tail rfl rfl
          exact hb ⟨tail, rfl⟩
        · rintro tail rfl rfl
          exact hl ⟨tail, rfl⟩
      by_cases hq : isQuote c = true
      · have hlen := (cleanPass_sublist lineComments .code rest).length_le
        refine .inr ⟨fun hk => by simp [hk.not_quote] at hq, ?_⟩
        rw [hstep, if_pos hq]
        exact hlen
      · rw [hstep, if_neg hq]
        exact .inl ⟨⟨by simpa using hq, hb, fun _ => hl⟩, rfl⟩

/-- **A pass leaves alone exactly the clean texts.** -/
theorem cleanPass_eq_self_iff (lineComments : Bool) (t : Text) :
    cleanPass lineComments .code t = t ↔ IsClean lineComments t := by
  induction t with
  | nil => exact ⟨fun _ => isClean_nil lineComments, fun _ => by rw [cleanPass]⟩
  | cons c rest ih =>
      rw [isClean_cons_iff]
      rcases cleanPass_cons lineComments c rest with ⟨hk, he⟩ | ⟨hk, hlen⟩
      · rw [he, List.cons_inj_right, ih]
        exact ⟨fun h => ⟨hk, h⟩, fun h => h.2⟩
      · constructor
        · -- a result that is too short is not the text
          intro he
          rw [he, List.length_cons] at hlen
          omega
        · exact fun h => absurd h.1 hk

/-! ## The repeated pass -/

/-- The repetition ends in a text that a pass leaves alone. -/
theorem cleanPass_clean (lineComments : Bool) (t : Text) :
    cleanPass lineComments .code (clean lineComments t) = clean lineComments t := by
  fun_induction clean lineComments t with
  | case1 t passed h => exact h
  | case2 t passed _ ih => exact ih

theorem clean_isClean (lineComments : Bool) (t : Text) :
    IsClean lineComments (clean lineComments t) :=
  (cleanPass_eq_self_iff lineComments _).mp (cleanPass_clean lineComments t)

/-- Cleaning only drops characters. -/
theorem clean_sublist (lineComments : Bool) (t : Text) : (clean lineComments t).Sublist t := by
  fun_induction clean lineComments t with
  | case1 t passed _ => exact .refl t
  | case2 t passed _ ih => exact ih.trans (cleanPass_sublist lineComments .code t)

/-- **Cleaning leaves alone exactly the clean texts.** -/
theorem clean_eq_self_iff (lineComments : Bool) (t : Text) :
    clean lineComments t = t ↔ IsClean lineComments t := by
  constructor
  · intro h
    rw [← h]
    exact clean_isClean lineComments t
  · intro h
    rw [clean, if_pos ((cleanPass_eq_self_iff lineComments t).mpr h)]

/-- **The repetition settles after `passes` passes**, and not before: the next one changes nothing, and
    each earlier one changed the text. -/
structure SettlesAfter (lineComments : Bool) (t : Text) (passes : Nat) : Prop where
  settled : (cleanPass lineComments .code)^[passes + 1] t = (cleanPass lineComments .code)^[passes] t
  moved : ∀ k < passes,
    (cleanPass lineComments .code)^[k + 1] t ≠ (cleanPass lineComments .code)^[k] t

/-- **The repetition ends.** It settles after at most one pass for each character, and the cleaned query
    is the text it settles in. -/
theorem clean_eq_iterate (lineComments : Bool) (t : Text) :
    ∃ passes ≤ t.length, SettlesAfter lineComments t passes ∧
      clean lineComments t = (cleanPass lineComments .code)^[passes] t := by
  fun_induction clean lineComments t with
  | case1 t passed h =>
      exact ⟨0, Nat.zero_le _, ⟨h, fun k hk => absurd hk (Nat.not_lt_zero k)⟩, rfl⟩
  | case2 t passed h ih =>
      obtain ⟨passes, hle, hsettles, heq⟩ := ih
      have hlt : passed.length < t.length := cleanPass_length_lt h
      refine ⟨passes + 1, by omega, ⟨hsettles.settled, fun k hk => ?_⟩, heq⟩
      -- the first pass changed the text, and the others are those that `passed` takes
      cases k with
      | zero => exact h
      | succ k => exact hsettles.moved k (by omega)

/-- **The cleaned query is a clean fixed point.** The repetition ends; what it ends in is the query with
    some characters dropped, and is clean; the fixed points of cleaning are the clean texts; and
    cleaning twice is cleaning once. -/
theorem clean_reaches_fixedPoint (lineComments : Bool) (t : Text) :
    (∃ passes ≤ t.length, SettlesAfter lineComments t passes ∧
      clean lineComments t = (cleanPass lineComments .code)^[passes] t) ∧
    (clean lineComments t).Sublist t ∧
    IsClean lineComments (clean lineComments t) ∧
    (∀ u, clean lineComments u = u ↔ IsClean lineComments u) ∧
    clean lineComments (clean lineComments t) = clean lineComments t := by
  have hclean := clean_isClean lineComments t
  refine ⟨clean_eq_iterate lineComments t, clean_sublist lineComments t, hclean,
    clean_eq_self_iff lineComments, ?_⟩
  exact (clean_eq_self_iff lineComments _).mpr hclean

end SqlSkim
