import Mathlib.Data.List.TakeWhile
import SqlSkim.Proofs.Text.Uppercase
import SqlSkim.Proofs.Text.Words
import SqlSkim.Scan.Phrase

/-!
# `Scan.Keyword` — what a keyword match depends on

A keyword is compared with a slice of the text, and must end where a word ends. This module shows that
the match of a phrase of rigid words in ASCII capitals depends on nothing else: it lies within the text,
covers word characters and blanks only, and does not change when what follows is cut off at a place that
ends words.

## Contents
- `AtBoundary`: a place into which no word runs.
- `IsKeyword`: rigid words in ASCII capitals, and the texts they match.
- `wordsWidth?_cons_cases`, `width?_eq_some_iff`: all that a match says, once for words and once for phrases.
- `wordsWidth?_covers`, `wordsWidth?_append`: the match of several keywords.
- `wordsWidth?_prefix_or`: which phrases match at one place.
- `width?_of_longest?`, `longest?_eq_none_iff`, `longest?_congr`: the choice of the longest phrase.
- `ruleOf_width_pos`: phrases given as texts, whatever they are, match no empty stretch.
-/

namespace SqlSkim

open Phrase

/-! ## Word boundaries -/

/-- **A word boundary.** No word runs from the character before into the text. -/
def AtBoundary (before : Option Char) (t : Text) : Prop :=
  before.any isWordChar = true → continuesWord t = false

theorem atBoundary_nil (before : Option Char) : AtBoundary before [] := fun _ => rfl

theorem atBoundary_of_before {before : Option Char} (h : before.any isWordChar = false) (t : Text) :
    AtBoundary before t := fun hb => by simp [h] at hb

theorem continuesWord_gap {c : Char} (hc : isWordChar c = false) (t : Text) :
    continuesWord (c :: t) = false := hc

theorem exists_of_inRanges {ranges : List (Nat × Nat)} {n : Nat} (h : inRanges ranges n = true) :
    ∃ r ∈ ranges, r.1 ≤ n ∧ n ≤ r.2 := by
  induction ranges with
  | nil => exact absurd h (by simp [inRanges])
  | cons r more ih =>
      obtain ⟨first, last⟩ := r
      simp only [inRanges] at h
      by_cases hlt : n < first
      · simp [hlt] at h
      · by_cases hle : n ≤ last
        · exact ⟨(first, last), by simp, Nat.le_of_not_lt hlt, hle⟩
        · rw [if_neg hlt, if_neg hle] at h
          obtain ⟨r, hr, hin⟩ := ih h
          exact ⟨r, List.mem_cons_of_mem _ hr, hin⟩

set_option maxRecDepth 4000 in
/-- No range of blanks is longer than eleven characters, and none of them is a word character. -/
theorem blankRanges_not_word : ∀ r ∈ blankRanges, r.2 - r.1 < 11 ∧
    ∀ k < 11, k ≤ r.2 - r.1 → isWordChar (Char.ofNat (r.1 + k)) = false := by decide

/-- **Blanks end words.** -/
theorem isWordChar_of_isBlank {c : Char} (h : isBlank c = true) : isWordChar c = false := by
  obtain ⟨r, hr, hfirst, hlast⟩ := exists_of_inRanges h
  obtain ⟨hlen, hword⟩ := blankRanges_not_word r hr
  have hc := hword (c.toNat - r.1) (by omega) (by omega)
  rwa [show r.1 + (c.toNat - r.1) = c.toNat by omega, Char.ofNat_toNat] at hc

/-! ## Keywords -/

/-- **A keyword**: a rigid word in ASCII capitals. -/
structure IsKeyword (w : Text) : Prop where
  ne_nil : w ≠ []
  capital : ∀ c ∈ w, c.isUpper = true
  rigid : IsRigid w

/-- What is a text of ASCII capitals in upper case is a run of word characters. -/
theorem isWordChar_of_upper_eq {t w : Text} (hw : ∀ c ∈ w, c.isUpper = true) (h : upper t = w) :
    ∀ c ∈ t, isWordChar c = true := by
  intro c hc
  obtain ⟨d, hd⟩ := List.exists_mem_of_ne_nil _ (upperChar_ne_nil c)
  have hcap : d.isUpper = true := hw d (h ▸ (upperChar_infix_upper hc).subset hd)
  rw [isWordChar, isAlphanumeric_of_mem_upperChar hd hcap]
  rfl

variable {w u tail : Text}

/-- A keyword matches only where the text is long enough. -/
theorem IsKeyword.length_le (hw : IsKeyword w) (h : upper (u.take w.length) = w) :
    w.length ≤ u.length := by
  have hlen := length_of_upper_eq hw.rigid h
  rw [List.length_take] at hlen
  omega

/-- What stands behind a character that ends words cannot complete a keyword. -/
theorem IsKeyword.upper_take_append (hw : IsKeyword w) (htail : continuesWord tail = false) :
    upper ((u ++ tail).take w.length) = w ↔ upper (u.take w.length) = w := by
  by_cases hlen : w.length ≤ u.length
  · rw [List.take_append_of_le_length hlen]
  · constructor
    · intro h
      cases tail with
      | nil => rwa [List.append_nil] at h
      | cons c tail =>
          -- the slice reaches the character that ends words, yet it matches capitals only
          have hc : c ∈ (u ++ c :: tail).take w.length := by
            rw [List.take_append, show w.length - u.length = (w.length - u.length - 1) + 1 by omega,
              List.take_succ_cons]
            simp
          have hword := isWordChar_of_upper_eq hw.capital h c hc
          simp [continuesWord, hword] at htail
    · intro h
      exact absurd (hw.length_le h) hlen

/-! ## Matches of several keywords -/

theorem wordsWidth?_cons (w : Text) (more : List Text) (t : Text) :
    wordsWidth? (w :: more) t =
      if upper (t.take w.length) ≠ w ∨ continuesWord (t.drop w.length) then none
      else if more = [] then some w.length
      else if ((t.drop w.length).takeWhile isBlank).length = 0 then none
      else (wordsWidth? more
        ((t.drop w.length).drop ((t.drop w.length).takeWhile isBlank).length)).map
          (w.length + ((t.drop w.length).takeWhile isBlank).length + ·) := rfl

/-- **A match of several words** is a match of the first one, and if more words follow, blanks and a match of
    these. -/
theorem wordsWidth?_cons_cases {more : List Text} {t : Text} {n : Nat}
    (h : wordsWidth? (w :: more) t = some n) :
    upper (t.take w.length) = w ∧ continuesWord (t.drop w.length) = false ∧
      ((more = [] ∧ n = w.length) ∨
        more ≠ [] ∧ ∃ gap m, gap = ((t.drop w.length).takeWhile isBlank).length ∧ 0 < gap ∧
          wordsWidth? more (t.drop (w.length + gap)) = some m ∧ n = w.length + gap + m) := by
  rw [wordsWidth?_cons] at h
  split at h
  · exact absurd h (by simp)
  · next hmatch =>
      rw [not_or, not_not] at hmatch
      refine ⟨hmatch.1, by simpa using hmatch.2, ?_⟩
      split at h
      · next hmore => exact .inl ⟨hmore, (Option.some.inj h).symm⟩
      · next hmore =>
          split at h
          · exact absurd h (by simp)
          · next hgap =>
              obtain ⟨m, hm, rfl⟩ := Option.map_eq_some_iff.mp h
              rw [List.drop_drop] at hm
              exact .inr ⟨hmore, _, m, rfl, Nat.pos_of_ne_zero hgap, hm, rfl⟩

/-- Where the first word does not stand, no phrase stands that starts with it. -/
theorem wordsWidth?_cons_eq_none {t : Text} (h : wordsWidth? [w] t = none) (more : List Text) :
    wordsWidth? (w :: more) t = none := by
  rw [wordsWidth?_cons] at h ⊢
  split at h
  · next hmatch => rw [if_pos hmatch]
  · exact absurd h (by simp)

/-- No word of capitals stands where no word starts. -/
theorem wordsWidth?_eq_none_of_capital (hne : w ≠ []) (hcap : ∀ c ∈ w, c.isUpper = true) {t : Text}
    (ht : continuesWord t = false) (more : List Text) : wordsWidth? (w :: more) t = none := by
  refine wordsWidth?_cons_eq_none ?_ more
  rw [wordsWidth?_cons]
  refine if_pos (.inl fun hup => ?_)
  cases t with
  | nil =>
      rw [List.take_nil] at hup
      exact hne hup.symm
  | cons c t =>
      have hpos := List.length_pos_of_ne_nil hne
      have hc : c ∈ (c :: t).take w.length := by
        rw [show w.length = w.length - 1 + 1 by omega, List.take_succ_cons]
        simp
      simp [continuesWord, isWordChar_of_upper_eq hcap hup c hc] at ht

/-- No keyword stands where no word starts. -/
theorem IsKeyword.wordsWidth?_eq_none (hw : IsKeyword w) {t : Text} (ht : continuesWord t = false)
    (more : List Text) : wordsWidth? (w :: more) t = none :=
  wordsWidth?_eq_none_of_capital hw.ne_nil hw.capital ht more

/-- **A match covers word characters and blanks**, lies within the text, and ends where a word ends. -/
theorem wordsWidth?_covers {ws : List Text} (hws : ∀ w ∈ ws, IsKeyword w) (hne : ws ≠ []) {t : Text}
    {n : Nat} (h : wordsWidth? ws t = some n) :
    0 < n ∧ n ≤ t.length ∧ (∀ c ∈ t.take n, isWordChar c = true ∨ isBlank c = true) ∧
      continuesWord (t.drop n) = false := by
  induction ws generalizing t n with
  | nil => exact absurd rfl hne
  | cons w more ih =>
      have hw : IsKeyword w := hws w (by simp)
      have hpos : 0 < w.length := List.length_pos_of_ne_nil hw.ne_nil
      obtain ⟨hup, hend, hcases⟩ := wordsWidth?_cons_cases h
      have hle := hw.length_le hup
      have hword := isWordChar_of_upper_eq hw.capital hup
      rcases hcases with ⟨_, rfl⟩ | ⟨hmore, gap, m, hgap, _, hm, rfl⟩
      · exact ⟨hpos, hle, fun c hc => .inl (hword c hc), hend⟩
      · obtain ⟨_, hmle, hcov, hmend⟩ := ih (fun v hv => hws v (List.mem_cons_of_mem w hv)) hmore hm
        have hgaple := (List.takeWhile_prefix isBlank (l := t.drop w.length)).length_le
        simp only [List.length_drop] at hmle hgaple
        refine ⟨by omega, by omega, fun c hc => ?_, ?_⟩
        · -- the match is this word, the blanks behind it, and what matches the others
          rw [List.take_add, List.take_add, List.append_assoc] at hc
          rcases List.mem_append.mp hc with hc | hc
          · exact .inl (hword c hc)
          · rcases List.mem_append.mp hc with hc | hc
            · rw [hgap, ← List.prefix_iff_eq_take.mp (List.takeWhile_prefix isBlank)] at hc
              exact .inr (List.mem_takeWhile_imp hc)
            · exact hcov c hc
        · rwa [List.drop_drop] at hmend

/-- **A match does not see past what ends words.** Cutting the text off in front of a character that is
    neither a word character nor a blank changes no match. -/
theorem wordsWidth?_append {ws : List Text} (hws : ∀ w ∈ ws, IsKeyword w)
    (htail : continuesWord tail = false) (hblank : tail.takeWhile isBlank = []) :
    wordsWidth? ws (u ++ tail) = wordsWidth? ws u := by
  induction ws generalizing u with
  | nil => rfl
  | cons w more ih =>
      have hw : IsKeyword w := hws w (by simp)
      rw [wordsWidth?_cons, wordsWidth?_cons]
      by_cases hup : upper (u.take w.length) = w
      · -- the word lies within `u`, so its end and the blanks behind it do not see `tail`
        have hle := hw.length_le hup
        have hend : continuesWord (u.drop w.length ++ tail) = continuesWord (u.drop w.length) := by
          cases hdrop : u.drop w.length with
          | nil => rw [List.nil_append, htail]; rfl
          | cons c rest => rfl
        have hgap : (u.drop w.length ++ tail).takeWhile isBlank =
            (u.drop w.length).takeWhile isBlank := by
          rw [List.takeWhile_append, hblank, List.append_nil]
          split
          · next hall => exact (List.IsPrefix.eq_of_length (List.takeWhile_prefix isBlank) hall).symm
          · rfl
        have hgaple := (List.takeWhile_prefix isBlank (l := u.drop w.length)).length_le
        rw [List.take_append_of_le_length hle, List.drop_append_of_le_length hle, hend, hgap,
          List.drop_append_of_le_length hgaple, ih fun v hv => hws v (List.mem_cons_of_mem w hv)]
      · rw [if_pos (.inl (mt (hw.upper_take_append htail).mp hup)), if_pos (.inl hup)]

/-- **Behind a match no word goes on**, whatever its words are. -/
theorem not_continuesWord_of_wordsWidth? {ws : List Text} (hne : ws ≠ []) {t : Text} {n : Nat}
    (h : wordsWidth? ws t = some n) : continuesWord (t.drop n) = false := by
  induction ws generalizing t n with
  | nil => exact absurd rfl hne
  | cons w more ih =>
      obtain ⟨_, hend, ⟨_, rfl⟩ | ⟨hmore, gap, m, _, _, hm, rfl⟩⟩ := wordsWidth?_cons_cases h
      · exact hend
      · have hmend := ih hmore hm
        rwa [List.drop_drop] at hmend

/-- For one keyword it is enough that no word goes on behind the cut. -/
theorem IsKeyword.wordsWidth?_append (hw : IsKeyword w) (htail : continuesWord tail = false) :
    wordsWidth? [w] (u ++ tail) = wordsWidth? [w] u := by
  rw [wordsWidth?_cons, wordsWidth?_cons]
  by_cases hup : upper (u.take w.length) = w
  · have hle := hw.length_le hup
    have hend : continuesWord (u.drop w.length ++ tail) = continuesWord (u.drop w.length) := by
      cases hdrop : u.drop w.length with
      | nil => rw [List.nil_append, htail]; rfl
      | cons c rest => rfl
    rw [List.take_append_of_le_length hle, List.drop_append_of_le_length hle, hend, if_pos rfl,
      if_pos rfl]
  · rw [if_pos (.inl (mt (hw.upper_take_append htail).mp hup)), if_pos (.inl hup)]

/-- A text that is a keyword in upper case is one, if no word goes on behind it. -/
theorem IsKeyword.wordsWidth?_of_upper_eq (hw : IsKeyword w) (hup : upper u = w)
    (htail : continuesWord tail = false) : wordsWidth? [w] (u ++ tail) = some w.length := by
  have hlen : u.length = w.length := length_of_upper_eq hw.rigid hup
  rw [hw.wordsWidth?_append htail, wordsWidth?_cons, ← hlen, List.take_length, List.drop_length,
    if_neg (by simp [hup, continuesWord]), if_pos rfl]

/-- No keyword reaches past a place where a word ends. -/
theorem IsKeyword.length_le_of_end (hw : IsKeyword w) (hup : upper (u.take w.length) = w) {n : Nat}
    (hend : continuesWord (u.drop n) = false) : w.length ≤ n := by
  by_contra hlt
  rw [Nat.not_le] at hlt
  have hlen := hw.length_le hup
  have hdrop : u.drop n = u[n] :: u.drop (n + 1) := List.drop_eq_getElem_cons (by omega)
  have hmem : u[n] ∈ u.take w.length := List.mem_take_iff_getElem.mpr ⟨n, by omega, rfl⟩
  rw [hdrop] at hend
  have hword : isWordChar u[n] = false := hend
  rw [isWordChar_of_upper_eq hw.capital hup _ hmem] at hword
  exact absurd hword (by decide)

/-- **At one place stand only phrases that begin alike**: of two phrases that match, one starts with the
    words of the other. -/
theorem wordsWidth?_prefix_or {ws vs : List Text} (hws : ∀ w ∈ ws, IsKeyword w)
    (hvs : ∀ v ∈ vs, IsKeyword v) {t : Text} (hw : (wordsWidth? ws t).isSome = true)
    (hv : (wordsWidth? vs t).isSome = true) : ws <+: vs ∨ vs <+: ws := by
  induction ws generalizing vs t with
  | nil => exact .inl List.nil_prefix
  | cons w more ih =>
      cases vs with
      | nil => exact .inr List.nil_prefix
      | cons v others =>
          obtain ⟨n, hw⟩ := Option.isSome_iff_exists.mp hw
          obtain ⟨m, hv⟩ := Option.isSome_iff_exists.mp hv
          obtain ⟨hwup, hwend, hwcases⟩ := wordsWidth?_cons_cases hw
          obtain ⟨hvup, hvend, hvcases⟩ := wordsWidth?_cons_cases hv
          -- each ends where a word ends, so neither reaches past the other
          have hwv := (hws w (by simp)).length_le_of_end hwup hvend
          have hvw := (hvs v (by simp)).length_le_of_end hvup hwend
          have hlen : w.length = v.length := Nat.le_antisymm hwv hvw
          obtain rfl : w = v := by rw [← hwup, ← hvup, hlen]
          rw [List.prefix_cons_inj, List.prefix_cons_inj]
          rcases hwcases with ⟨rfl, _⟩ | ⟨_, gap, n', rfl, _, hw, _⟩
          · exact .inl List.nil_prefix
          · rcases hvcases with ⟨rfl, _⟩ | ⟨_, gap, m', rfl, _, hv, _⟩
            · exact .inr List.nil_prefix
            · exact ih (fun a ha => hws a (List.mem_cons_of_mem w ha))
                (fun a ha => hvs a (List.mem_cons_of_mem w ha)) (by rw [hw]; rfl) (by rw [hv]; rfl)

/-! ## The longest phrase -/

variable {place place' : Place} {phrases : List Phrase}

/-- A phrase stands where no word runs on and its words match. -/
theorem width?_eq_some_iff {p : Phrase} {n : Nat} :
    p.width? place = some n ↔
      p.words ≠ [] ∧ place.before.any isWordChar = false ∧ wordsWidth? p.words place.rest = some n := by
  unfold width?
  split
  · next h =>
      refine ⟨fun hn => absurd hn (by simp), fun ⟨hne, hbefore, _⟩ => ?_⟩
      rcases h with h | h
      · exact absurd h hne
      · exact absurd h (by simp [hbefore])
  · next h =>
      rw [not_or] at h
      exact ⟨fun hn => ⟨h.1, by simpa using h.2, hn⟩, fun ⟨_, _, hn⟩ => hn⟩

/-- The longest phrase is one of the phrases, and stands there with the width given. -/
theorem width?_of_longest? {p : Phrase} {n : Nat} (h : longest? place phrases = some (p, n)) :
    p ∈ phrases ∧ p.width? place = some n := by
  induction phrases with
  | nil => exact absurd h (by simp [longest?])
  | cons q more ih =>
      rw [longest?] at h
      split at h
      · obtain ⟨hmem, hw⟩ := ih h
        exact ⟨List.mem_cons_of_mem q hmem, hw⟩
      · next hq _ =>
          obtain ⟨rfl, rfl⟩ := Prod.mk.inj (Option.some.inj h)
          exact ⟨by simp, hq⟩
      · next hq hbest =>
          split at h
          · obtain ⟨hmem, hw⟩ := ih (hbest.trans h)
            exact ⟨List.mem_cons_of_mem q hmem, hw⟩
          · obtain ⟨rfl, rfl⟩ := Prod.mk.inj (Option.some.inj h)
            exact ⟨by simp, hq⟩

theorem longest?_eq_none_iff :
    longest? place phrases = none ↔ ∀ p ∈ phrases, p.width? place = none := by
  induction phrases with
  | nil => simp [longest?]
  | cons q more ih =>
      rw [List.forall_mem_cons, ← ih, longest?]
      cases hq : q.width? place with
      | none => simp
      | some w =>
          cases hmore : longest? place more with
          | none => simp
          | some best =>
              obtain ⟨r, v⟩ := best
              by_cases hlt : q.length < r.length <;> simp [hlt]

/-- The choice depends only on the widths of the phrases at the place. -/
theorem longest?_congr (h : ∀ p ∈ phrases, p.width? place = p.width? place') :
    longest? place phrases = longest? place' phrases := by
  induction phrases with
  | nil => rfl
  | cons q more ih =>
      rw [longest?, longest?, h q (by simp), ih fun p hp => h p (List.mem_cons_of_mem q hp)]

/-! ## Phrases given as texts -/

/-- The words of a phrase given as a text are not empty. -/
theorem ne_nil_of_mem_words_ofText {k v : Text} (hv : v ∈ (ofText k).words) : v ≠ [] := by
  obtain ⟨u, hu, rfl⟩ := List.mem_map.mp hv
  obtain ⟨c, hc⟩ := List.exists_mem_of_ne_nil u (mem_words hu).1
  intro hnil
  have hsub := (upperChar_infix_upper hc).subset
  rw [hnil] at hsub
  exact upperChar_ne_nil c (List.eq_nil_of_subset_nil hsub)

/-- A match has a character for its first word at least. -/
theorem wordsWidth?_pos (hw : w ≠ []) {more : List Text} {t : Text} {n : Nat}
    (h : wordsWidth? (w :: more) t = some n) : 0 < n := by
  have hpos := List.length_pos_of_ne_nil hw
  rcases (wordsWidth?_cons_cases h).2.2 with ⟨_, rfl⟩ | ⟨_, gap, m, _, _, _, rfl⟩
  · exact hpos
  · omega

/-- **Phrases given as texts** match no empty stretch. -/
theorem ruleOf_width_pos (keywords : List Text) (place : Place) (p : Phrase) (n : Nat)
    (h : ruleOf keywords place = some (p, n)) : 0 < n := by
  obtain ⟨hmem, hwidth⟩ := width?_of_longest? h
  obtain ⟨k, _, rfl⟩ := List.mem_map.mp hmem
  obtain ⟨hne, _, hwidth⟩ := width?_eq_some_iff.mp hwidth
  obtain ⟨v, more, hwords⟩ := List.exists_cons_of_ne_nil hne
  rw [hwords] at hwidth
  exact wordsWidth?_pos (ne_nil_of_mem_words_ofText (hwords ▸ List.mem_cons_self)) hwidth

end SqlSkim
