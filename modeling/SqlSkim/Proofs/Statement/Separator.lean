import SqlSkim.Proofs.Scan.Keyword
import SqlSkim.Proofs.Scan.Quiet
import SqlSkim.Statement.Basic

/-!
# `Statement.Separator` — separators do not depend on the statements around them

Whether `;`, `UNION` or `UNION ALL` stands at a place is decided by the character before it and by all
the text behind it. These lemmas bound that dependence: of the character before only whether it carries
a word matters, and of the text behind nothing that comes after a place where words end.

## Contents
- `SeparatorAt`: what is sure of a separator, by `separatorAt_of_rule`.
- `separatorRule_of_boundary`: at a word boundary the character before plays no part.
- `separatorRule_none_of_append`: cutting a text off at a word boundary makes no separator.
- `separatorRule_append_semicolon`: a `;` behind a text hides what follows it.
-/

namespace SqlSkim

open Phrase

/-! ## The keywords of the separators -/

theorem isKeyword_union : IsKeyword "UNION".toList :=
  ⟨by decide, List.all_eq_true.mp (by decide), by decide⟩

theorem isKeyword_all : IsKeyword "ALL".toList :=
  ⟨by decide, List.all_eq_true.mp (by decide), by decide⟩

theorem unionPhrases_eq :
    unionPhrases = [⟨["UNION".toList, "ALL".toList]⟩, ⟨["UNION".toList]⟩] := by rfl

theorem isKeyword_of_mem_unionPhrases {p : Phrase} (hp : p ∈ unionPhrases) :
    (∀ w ∈ p.words, IsKeyword w) ∧ p.words ≠ [] := by
  rw [unionPhrases_eq] at hp
  rcases List.mem_cons.mp hp with rfl | hp
  · refine ⟨fun w hw => ?_, by simp⟩
    rcases List.mem_cons.mp hw with rfl | hw
    · exact isKeyword_union
    · obtain rfl := List.mem_singleton.mp hw
      exact isKeyword_all
  · obtain rfl := List.mem_singleton.mp hp
    refine ⟨fun w hw => ?_, by simp⟩
    obtain rfl := List.mem_singleton.mp hw
    exact isKeyword_union

/-! ## What is sure of a separator -/

theorem separatorRule_semicolon (before : Option Char) (t : Text) :
    separatorRule ⟨before, ';' :: t⟩ = some ([';'], 1) := rfl

theorem separatorRule_of_ne {before : Option Char} {t : Text} (h : t.head? ≠ some ';') :
    separatorRule ⟨before, t⟩ =
      (longest? ⟨before, t⟩ unionPhrases).map fun (phrase, width) => (phrase.toText, width) := by
  unfold separatorRule
  split
  · next rest heq => exact absurd (congrArg List.head? heq) h
  · rfl

/-- **What is sure of a separator** of the given width at the front of a text: it lies within the text,
    no parenthesis is in it, and no word runs across either of its ends. -/
structure SeparatorAt (before : Option Char) (t : Text) (width : Nat) : Prop where
  pos : 0 < width
  le_length : width ≤ t.length
  no_paren : ∀ c ∈ t.take width, isParen c = false
  boundary_before : AtBoundary before t
  boundary_after : AtBoundary (lastOr before (t.take width)) (t.drop width)

theorem isParen_eq_false_of_word_or_blank {c : Char}
    (h : isWordChar c = true ∨ isBlank c = true) : isParen c = false := by
  cases hp : isParen c with
  | false => rfl
  | true =>
      have hc : c = '(' ∨ c = ')' := by simpa [isParen] using hp
      rcases hc with rfl | rfl
      · exact absurd h (by decide)
      · exact absurd h (by decide)

theorem no_paren_of_blank {t : Text} (h : ∀ c ∈ t, isBlank c = true) : ∀ c ∈ t, isParen c = false :=
  fun c hc => isParen_eq_false_of_word_or_blank (.inr (h c hc))

theorem separatorAt_of_rule {before : Option Char} {t : Text} {label : Text} {width : Nat}
    (h : separatorRule ⟨before, t⟩ = some (label, width)) : SeparatorAt before t width := by
  by_cases hsemi : t.head? = some ';'
  · -- a semicolon is no word character, so both its ends are boundaries
    obtain ⟨rest, rfl⟩ : ∃ rest, t = ';' :: rest := by
      obtain ⟨rest, hrest⟩ := List.head?_eq_some_iff.mp hsemi
      exact ⟨rest, hrest⟩
    rw [separatorRule_semicolon] at h
    obtain ⟨_, rfl⟩ := Prod.mk.inj (Option.some.inj h)
    refine ⟨by decide, by simp, ?_, fun _ => rfl, atBoundary_of_before rfl _⟩
    intro c hc
    obtain rfl : c = ';' := by simpa using hc
    rfl
  · rw [separatorRule_of_ne hsemi] at h
    obtain ⟨⟨phrase, n⟩, hbest, hn⟩ := Option.map_eq_some_iff.mp h
    obtain ⟨_, rfl⟩ := Prod.mk.inj hn
    obtain ⟨hmem, hwidth⟩ := width?_of_longest? hbest
    obtain ⟨hne, hbefore, hwidth⟩ := width?_eq_some_iff.mp hwidth
    obtain ⟨hpos, hle, hcov, hend⟩ :=
      wordsWidth?_covers (isKeyword_of_mem_unionPhrases hmem).1 hne hwidth
    exact ⟨hpos, hle, fun c hc => isParen_eq_false_of_word_or_blank (hcov c hc),
      atBoundary_of_before hbefore t, fun _ => hend⟩

/-- A place is no separator if no `;` and no `UNION` is there; `UNION ALL` is nowhere else. -/
theorem separatorRule_eq_none_iff {before : Option Char} {t : Text} :
    separatorRule ⟨before, t⟩ = none ↔
      t.head? ≠ some ';' ∧
        (before.any isWordChar = true ∨ wordsWidth? ["UNION".toList] t = none) := by
  by_cases hsemi : t.head? = some ';'
  · obtain ⟨rest, rfl⟩ := List.head?_eq_some_iff.mp hsemi
    simp [separatorRule_semicolon]
  · rw [separatorRule_of_ne hsemi, Option.map_eq_none_iff, longest?_eq_none_iff, unionPhrases_eq]
    constructor
    · intro h
      have hunion := h ⟨["UNION".toList]⟩ (by simp)
      unfold width? at hunion
      refine ⟨hsemi, ?_⟩
      by_cases hb : before.any isWordChar = true
      · exact .inl hb
      · rw [if_neg (by simpa using hb)] at hunion
        exact .inr hunion
    · rintro ⟨_, h⟩ p hp
      -- either phrase starts with the word `UNION`
      obtain ⟨more, hwords⟩ : ∃ more, p.words = "UNION".toList :: more := by
        rcases List.mem_cons.mp hp with rfl | hp
        · exact ⟨_, rfl⟩
        · obtain rfl := List.mem_singleton.mp hp
          exact ⟨_, rfl⟩
      unfold width?
      split
      · rfl
      · next hbefore =>
          rw [not_or] at hbefore
          rw [hwords]
          exact wordsWidth?_cons_eq_none (h.resolve_left hbefore.2) more

/-! ## How much of its surroundings a separator sees -/

/-- A keyword stays where it is when text is put behind a word boundary. -/
theorem wordsWidth?_singleton_append {before : Option Char} {w v tail : Text} {n : Nat}
    (hw : IsKeyword w) (hv : v ≠ []) (hcut : AtBoundary (lastOr before v) tail)
    (h : wordsWidth? [w] v = some n) : wordsWidth? [w] (v ++ tail) = some n := by
  rw [wordsWidth?_cons] at h ⊢
  split at h
  · exact absurd h (by simp)
  · next hmatch =>
      rw [not_or, not_not] at hmatch
      obtain ⟨hup, hend⟩ := hmatch
      have hle := hw.length_le hup
      have hend' : continuesWord (v.drop w.length ++ tail) = false := by
        cases hdrop : v.drop w.length with
        | nil =>
            -- the keyword is all of `v`, so a word character stands before `tail`
            obtain ⟨c, hc, hlast⟩ := exists_lastOr before hv
            rw [← List.take_append_drop w.length v, hdrop, List.append_nil] at hc
            rw [hlast] at hcut
            exact hcut (isWordChar_of_upper_eq hw.capital hup c hc)
        | cons c rest =>
            rw [hdrop] at hend
            show continuesWord (c :: rest) = false
            simpa using hend
      rw [List.take_append_of_le_length hle, List.drop_append_of_le_length hle, if_neg]
      · exact h
      · rw [not_or, not_not]
        exact ⟨hup, by simp [hend']⟩

/-- **At a word boundary the character before plays no part.** -/
theorem separatorRule_of_boundary {before : Option Char} {t : Text} (h : AtBoundary before t) :
    separatorRule ⟨before, t⟩ = separatorRule ⟨none, t⟩ := by
  by_cases hsemi : t.head? = some ';'
  · obtain ⟨rest, rfl⟩ := List.head?_eq_some_iff.mp hsemi
    rfl
  · by_cases hb : before.any isWordChar = true
    · -- no word starts in the text, so there is no union in it either
      have hleft : separatorRule ⟨before, t⟩ = none := separatorRule_eq_none_iff.mpr ⟨hsemi, .inl hb⟩
      have hright : separatorRule ⟨none, t⟩ = none :=
        separatorRule_eq_none_iff.mpr
          ⟨hsemi, .inr (isKeyword_union.wordsWidth?_eq_none (h hb) [])⟩
      rw [hleft, hright]
    · rw [separatorRule_of_ne hsemi, separatorRule_of_ne hsemi]
      refine congrArg _ (longest?_congr fun p _ => ?_)
      unfold width?
      simp [hb]

/-- **Cutting a text off at a word boundary makes no separator** in it. -/
theorem separatorRule_none_of_append {before : Option Char} {v tail : Text} (hv : v ≠ [])
    (hcut : AtBoundary (lastOr before v) tail) (h : separatorRule ⟨before, v ++ tail⟩ = none) :
    separatorRule ⟨before, v⟩ = none := by
  rw [separatorRule_eq_none_iff, List.head?_append_of_ne_nil _ hv] at h
  refine separatorRule_eq_none_iff.mpr ⟨h.1, h.2.imp id fun hnone => ?_⟩
  cases hunion : wordsWidth? ["UNION".toList] v with
  | none => rfl
  | some n =>
      rw [wordsWidth?_singleton_append isKeyword_union hv hcut hunion] at hnone
      exact absurd hnone (by simp)

/-- **A `;` behind a text hides what follows it** from the separators in the text. -/
theorem separatorRule_append_semicolon {before : Option Char} {v : Text} (hv : v ≠ []) (t : Text) :
    separatorRule ⟨before, v ++ ';' :: t⟩ = separatorRule ⟨before, v⟩ := by
  have hhead : (v ++ ';' :: t).head? = v.head? := List.head?_append_of_ne_nil _ hv
  by_cases hsemi : v.head? = some ';'
  · obtain ⟨rest, rfl⟩ := List.head?_eq_some_iff.mp hsemi
    rfl
  · rw [separatorRule_of_ne hsemi, separatorRule_of_ne (hhead ▸ hsemi)]
    refine congrArg _ (longest?_congr fun p hp => ?_)
    unfold width?
    rw [wordsWidth?_append (isKeyword_of_mem_unionPhrases hp).1 rfl rfl]

end SqlSkim
