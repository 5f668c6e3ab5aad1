import SqlSkim.Proofs.Scan.Behind
import SqlSkim.Proofs.Scan.Inert

/-!
# `Scan.Lexicon` — where the keywords of a list stand

Most scans look for one of a few keywords that can be told apart by their first words. Such a list is a
*lexicon*. In a text it is found exactly where it is written: a whole word that is no first word starts none
of the keywords, and a keyword that is written out is found in its full width, whatever stands behind it.

## Contents
- `wordsWidth?_eq_none_of_word`, `wordsWidth?_joinWith`: a word that is another one, and words written out.
- `IsLexicon`, `firstWords`: lists of keywords that can be told apart.
- `IsLexicon.spares`, `IsLexicon.rule_eq`: where its rule finds no token, and where it finds one.
- `IsLexicon.find?_spaced`, `upTo_spaced`, `behindFrom_spaced`: the scans up to a keyword between blanks.
-/

namespace SqlSkim

open Phrase

/-! ## Words in a text -/

theorem upperChar_of_capital {c : Char} (hc : c.isUpper = true) : upperChar c = [c] := by
  have hrange : 'A'.val ≤ c.val ∧ c.val ≤ 'Z'.val := of_decide_eq_true hc
  have hsame : c.toUpper = c := dif_neg fun h =>
    absurd (UInt32.le_trans h.1 hrange.2) (by decide)
  rw [upperChar, if_pos (isUpper_toNat_lt hc), hsame]

/-- Capitals are in upper case. -/
theorem upper_of_capital {w : Text} (hw : ∀ c ∈ w, c.isUpper = true) : upper w = w := by
  induction w with
  | nil => rfl
  | cons c w ih =>
      rw [upper_cons, upperChar_of_capital (hw c (by simp)), ih fun d hd => hw d (by simp [hd])]
      rfl

/-- A word of capitals is inert for all others. -/
theorem inert_capital {gaps : List Char} {heads : List Text} {w : Text}
    (h : w ≠ [] ∧ w.all Char.isUpper = true ∧ w ∉ heads) : Inert gaps heads [] w := by
  obtain ⟨hne, hcap, hother⟩ := h
  have hcap := List.all_eq_true.mp hcap
  have hup := upper_of_capital hcap
  exact .word ⟨hne, isWordChar_of_upper_eq hcap hup⟩ (by rwa [hup])

/-- Inert texts with blanks between them are inert. -/
theorem inert_joinWith_space {gaps : List Char} {heads ws : List Text} (hgaps : IsSpacing gaps)
    (hws : ∀ w ∈ ws, Inert gaps heads [] w) : Inert gaps heads [] (joinWith " " ws) := by
  induction ws with
  | nil => exact .nil
  | cons w more ih =>
      have ih := ih fun v hv => hws v (List.mem_cons_of_mem w hv)
      cases more with
      | nil =>
          rw [joinWith_singleton]
          exact hws w (by simp)
      | cons v more =>
          rw [joinWith_cons_cons]
          exact .spaced hgaps (hws w (by simp)) ih

/-- **A whole word is no other word.** -/
theorem wordsWidth?_eq_none_of_word {k w tail : Text} (hcap : ∀ c ∈ k, c.isUpper = true)
    (hw : IsWord w) (hother : upper w ≠ k) (htail : continuesWord tail = false) (more : List Text) :
    wordsWidth? (k :: more) (w ++ tail) = none := by
  refine wordsWidth?_cons_eq_none ?_ more
  rw [wordsWidth?_cons]
  apply if_pos
  by_cases hup : upper ((w ++ tail).take k.length) = k
  · right
    have hlen : k.length < w.length := by
      -- otherwise the slice is all of `w`, or it reaches the character that ends `w`
      by_contra hle
      have hslice : (w ++ tail).take k.length = w ++ tail.take (k.length - w.length) := by
        rw [List.take_append, List.take_of_length_le (Nat.le_of_not_lt hle)]
      rw [hslice] at hup
      cases hgap : tail.take (k.length - w.length) with
      | nil =>
          rw [hgap, List.append_nil] at hup
          exact hother hup
      | cons c rest =>
          have hc : isWordChar c = true := isWordChar_of_upper_eq hcap hup c (by simp [hgap])
          have hhead : tail.head? = some c := by
            have hhead := congrArg List.head? hgap
            rw [List.head?_take] at hhead
            split at hhead
            · exact absurd hhead (by simp)
            · exact hhead
          rw [continuesWord, hhead] at htail
          simp [hc] at htail
    rw [List.drop_append_of_le_length (Nat.le_of_lt hlen)]
    cases hrest : w.drop k.length with
    | nil =>
        have hle := List.drop_eq_nil_iff.mp hrest
        omega
    | cons c rest => exact hw.isWordChar c ((List.drop_suffix k.length w).subset (by simp [hrest]))
  · exact .inl hup

/-- **Words written out**, with a blank between any two of them, are found in their full width. -/
theorem wordsWidth?_joinWith {ws : List Text} (hne : ws ≠ [])
    (hws : ∀ w ∈ ws, w ≠ [] ∧ ∀ c ∈ w, c.isUpper = true) {tail : Text}
    (htail : continuesWord tail = false) :
    wordsWidth? ws (joinWith " " ws ++ tail) = some (joinWith " " ws).length := by
  induction ws with
  | nil => exact absurd rfl hne
  | cons w more ih =>
      have hup := upper_of_capital (hws w (by simp)).2
      cases more with
      | nil =>
          rw [joinWith_singleton, wordsWidth?_cons, List.take_left, List.drop_left, if_neg, if_pos rfl]
          simp [hup, htail]
      | cons v more =>
          have ih := ih (by simp) fun u hu => hws u (List.mem_cons_of_mem w hu)
          have htext : joinWith " " (w :: v :: more) ++ tail =
              w ++ (' ' :: (joinWith " " (v :: more) ++ tail)) := by
            rw [joinWith_cons_cons, List.append_assoc]
            rfl
          -- the gap is one blank, since the next word starts behind it
          have hgap : (' ' :: (joinWith " " (v :: more) ++ tail)).takeWhile isBlank = [' '] := by
            obtain ⟨hv, hcap⟩ := hws v (by simp)
            obtain ⟨c, v, rfl⟩ := List.exists_cons_of_ne_nil hv
            have hc : isBlank c = false := by
              cases hblank : isBlank c with
              | false => rfl
              | true =>
                  have hword := isWordChar_of_upper_eq hcap (upper_of_capital hcap) c (by simp)
                  rw [isWordChar_of_isBlank hblank] at hword
                  exact absurd hword (by simp)
            have hfront : ∃ rest, joinWith " " ((c :: v) :: more) ++ tail = c :: rest := by
              cases more with
              | nil => exact ⟨v ++ tail, by rw [joinWith_singleton]; rfl⟩
              | cons u more => exact ⟨_, by rw [joinWith_cons_cons]; rfl⟩
            obtain ⟨rest, hrest⟩ := hfront
            rw [hrest, List.takeWhile_cons_of_pos (by decide), List.takeWhile_cons_of_neg (by simp [hc])]
          rw [htext, wordsWidth?_cons, List.take_left, List.drop_left, hgap, if_neg, if_neg, if_neg]
          · show (wordsWidth? (v :: more) (joinWith " " (v :: more) ++ tail)).map _ = _
            rw [ih, joinWith_cons_cons]
            simp
            omega
          · simp
          · simp
          · rw [hup]
            simp [continuesWord_blank]

/-! ## Lists of keywords -/

/-- **A lexicon**: keywords in ASCII capitals, with single blanks, no two of which start with the same
    word. -/
structure IsLexicon (keywords : List Text) : Prop where
  spelled : ∀ k ∈ keywords, (ofText k).toText = k
  ne_nil : ∀ k ∈ keywords, (ofText k).words ≠ []
  capital : ∀ k ∈ keywords, ∀ w ∈ (ofText k).words, ∀ c ∈ w, c.isUpper = true
  distinct : ∀ k ∈ keywords, ∀ l ∈ keywords,
    (ofText k).words.head? = (ofText l).words.head? → k = l

instance (keywords : List Text) : Decidable (IsLexicon keywords) :=
  decidable_of_iff
    ((∀ k ∈ keywords, (ofText k).toText = k) ∧ (∀ k ∈ keywords, (ofText k).words ≠ []) ∧
      (∀ k ∈ keywords, ∀ w ∈ (ofText k).words, w.all Char.isUpper = true) ∧
      ∀ k ∈ keywords, ∀ l ∈ keywords, (ofText k).words.head? = (ofText l).words.head? → k = l)
    ⟨fun ⟨hs, hn, hc, hd⟩ => ⟨hs, hn, fun k hk w hw => List.all_eq_true.mp (hc k hk w hw), hd⟩,
      fun ⟨hs, hn, hc, hd⟩ => ⟨hs, hn, fun k hk w hw => List.all_eq_true.mpr (hc k hk w hw), hd⟩⟩

/-- The first words of the keywords. -/
def firstWords (keywords : List Text) : List Text :=
  keywords.filterMap fun k => (ofText k).words.head?

/-- The longest phrase that stands somewhere is the only one. -/
theorem longest?_of_unique {place : Place} {phrases : List Phrase} {p : Phrase} {n : Nat}
    (hp : p ∈ phrases) (hwidth : p.width? place = some n)
    (hothers : ∀ q ∈ phrases, q ≠ p → q.width? place = none) :
    longest? place phrases = some (p, n) := by
  -- every phrase that is found is `p`
  have hsame : ∀ found, longest? place phrases = some found → found = (p, n) := by
    rintro ⟨q, m⟩ hfound
    obtain ⟨hmem, hq⟩ := width?_of_longest? hfound
    have hqp : q = p := by
      by_contra hne
      rw [hothers q hmem hne] at hq
      exact absurd hq (by simp)
    subst hqp
    rw [hwidth] at hq
    rw [Option.some.inj hq]
  cases hbest : longest? place phrases with
  | none =>
      rw [longest?_eq_none_iff.mp hbest p hp] at hwidth
      exact absurd hwidth (by simp)
  | some found => rw [hsame found hbest]

namespace IsLexicon

variable {keywords : List Text} {gaps : List Char} {k : Text}

/-- The words of a keyword: one of the first words, and more. -/
theorem words_eq (h : IsLexicon keywords) (hk : k ∈ keywords) :
    ∃ w more, (ofText k).words = w :: more ∧ w ∈ firstWords keywords ∧ w ≠ [] ∧
      ∀ c ∈ w, c.isUpper = true := by
  obtain ⟨w, more, hwords⟩ := List.exists_cons_of_ne_nil (h.ne_nil k hk)
  have hw : w ∈ (ofText k).words := by simp [hwords]
  refine ⟨w, more, hwords, ?_, ne_nil_of_mem_words_ofText hw, h.capital k hk w hw⟩
  exact List.mem_filterMap.mpr ⟨k, hk, by simp [hwords]⟩

/-- There is no token where none of the keywords can start. -/
theorem rule_eq_none (h : IsLexicon keywords) {before : Option Char} {t : Text}
    (hnone : before.any isWordChar = true ∨ ∀ w ∈ firstWords keywords, w ≠ [] →
      (∀ c ∈ w, c.isUpper = true) → ∀ more, wordsWidth? (w :: more) t = none) :
    ruleOf keywords ⟨before, t⟩ = none := by
  refine longest?_eq_none_iff.mpr fun p hp => ?_
  obtain ⟨k, hk, rfl⟩ := List.mem_map.mp hp
  obtain ⟨w, more, hwords, hfirst, hne, hcap⟩ := h.words_eq hk
  unfold width?
  split
  · rfl
  · next hplace =>
      rw [not_or] at hplace
      rw [hwords]
      exact hnone.resolve_left hplace.2 w hfirst hne hcap more

/-- **The keywords start at no gap, and at no whole word but their first words.** -/
theorem spares (h : IsLexicon keywords) (hgaps : IsSpacing gaps) :
    (ruleOf keywords).Spares gaps (firstWords keywords) := by
  constructor
  · intro before c t hc
    refine h.rule_eq_none (.inr fun w _ hne hcap more => ?_)
    exact wordsWidth?_eq_none_of_capital hne hcap (continuesWord_gap (hgaps.isGap c hc).not_word t) more
  · intro before v tail hv hfree htail
    refine h.rule_eq_none (.inr fun w hw _ hcap more => ?_)
    exact wordsWidth?_eq_none_of_word hcap hv (fun heq => hfree (heq ▸ hw)) htail more
  · intro before c t hbefore _
    exact h.rule_eq_none (.inl hbefore)

/-- **A keyword that is written out** is found there. -/
theorem rule_eq (h : IsLexicon keywords) (hk : k ∈ keywords) {before : Option Char}
    (hbefore : before.any isWordChar = false) {tail : Text} (htail : continuesWord tail = false) :
    ruleOf keywords ⟨before, k ++ tail⟩ = some (ofText k, k.length) := by
  have hwritten : joinWith " " (ofText k).words = k := h.spelled k hk
  refine longest?_of_unique (List.mem_map.mpr ⟨k, hk, rfl⟩) ?_ ?_
  · have hwords : ∀ w ∈ (ofText k).words, w ≠ [] ∧ ∀ c ∈ w, c.isUpper = true := fun w hw =>
      ⟨ne_nil_of_mem_words_ofText hw, h.capital k hk w hw⟩
    have hwidth := wordsWidth?_joinWith (h.ne_nil k hk) hwords htail
    rw [hwritten] at hwidth
    rw [width?, if_neg]
    · exact hwidth
    · simp [h.ne_nil k hk, hbefore]
  · -- the first word of another keyword is not the one written here
    intro q hq hne
    obtain ⟨l, hl, rfl⟩ := List.mem_map.mp hq
    obtain ⟨w, more, hkwords, _, hw, hwcap⟩ := h.words_eq hk
    obtain ⟨v, vs, hlwords, _, _, hvcap⟩ := h.words_eq hl
    have hother : upper w ≠ v := by
      rw [upper_of_capital hwcap]
      rintro rfl
      exact hne (congrArg ofText (h.distinct l hl k hk (by rw [hkwords, hlwords]; rfl)))
    obtain ⟨rest, hrest, hend⟩ : ∃ rest, k = w ++ rest ∧ continuesWord (rest ++ tail) = false := by
      rw [← hwritten, hkwords]
      cases more with
      | nil => exact ⟨[], by rw [joinWith_singleton, List.append_nil], htail⟩
      | cons u more =>
          exact ⟨_, joinWith_cons_cons " " w u more, continuesWord_blank _⟩
    have hword : IsWord w := ⟨hw, isWordChar_of_upper_eq hwcap (upper_of_capital hwcap)⟩
    unfold width?
    split
    · rfl
    · show wordsWidth? (ofText l).words (k ++ tail) = none
      rw [hlwords, hrest, List.append_assoc]
      exact wordsWidth?_eq_none_of_word hvcap hword hother hend vs

/-- A keyword is a text of capitals and blanks, and not empty. -/
theorem ne_nil_and_no_paren (h : IsLexicon keywords) (hk : k ∈ keywords) :
    k ≠ [] ∧ ∀ c ∈ k, isParen c = false := by
  have hwritten : joinWith " " (ofText k).words = k := h.spelled k hk
  obtain ⟨w, more, hwords, _, hw, _⟩ := h.words_eq hk
  constructor
  · rintro rfl
    rw [hwords] at hwritten
    cases more with
    | nil => exact hw (by rwa [joinWith_singleton] at hwritten)
    | cons v more => simp [joinWith_cons_cons, hw] at hwritten
  · rw [← hwritten]
    intro c hc
    rcases mem_joinWith hc with hc | ⟨v, hv, hc⟩
    · obtain rfl : c = ' ' := by simpa using hc
      rfl
    · have hcap := h.capital k hk v hv
      exact isParen_eq_false_of_word_or_blank
        (.inl (isWordChar_of_upper_eq hcap (upper_of_capital hcap) c hc))

/-- A keyword is inert for what none of its words is. -/
theorem inert (h : IsLexicon keywords) (hk : k ∈ keywords) (hgaps : IsSpacing gaps) {heads : List Text}
    (hother : ∀ w ∈ (ofText k).words, w ∉ heads) : Inert gaps heads [] k := by
  have hwritten : joinWith " " (ofText k).words = k := h.spelled k hk
  have hwords : Inert gaps heads [] (joinWith " " (ofText k).words) :=
    inert_joinWith_space hgaps fun w hw =>
      inert_capital ⟨ne_nil_of_mem_words_ofText hw, List.all_eq_true.mpr (h.capital k hk w hw),
        hother w hw⟩
  rwa [hwritten] at hwords

/-! ## Scans up to a keyword -/

variable {bs : List Text} {before : Option Char} {u tail : Text}

/-- A keyword behind an inert text, as the scan finds it. -/
theorem quiet_and_rule_eq (h : IsLexicon keywords) (hk : k ∈ keywords) (hgaps : IsSpacing gaps)
    (hu : Inert gaps (firstWords keywords) bs u) (hbefore : (lastOr before u).any isWordChar = false)
    (tail : Text) :
    ∃ c t, k ++ ' ' :: tail = c :: t ∧ isParen c = false ∧ 0 < k.length ∧
      Quiet (ruleOf keywords) before 0 u (c :: t) ∧ depthAfterText 0 u = 0 ∧
      ruleOf keywords ⟨lastOr before u, c :: t⟩ = some (ofText k, k.length) := by
  obtain ⟨hne, hparen⟩ := h.ne_nil_and_no_paren hk
  have hrule := h.rule_eq hk hbefore (continuesWord_blank tail)
  obtain ⟨c, k, rfl⟩ := List.exists_cons_of_ne_nil hne
  refine ⟨c, k ++ ' ' :: tail, rfl, hparen c (by simp), by simp, ?_, hu.isBalanced.depthAfterText_eq 0,
    hrule⟩
  exact hu.quiet (h.spares hgaps) before 0 (atBoundary_of_before hbefore _)

/-- The first keyword, with the text before it and the place behind it. -/
theorem find?_eq (h : IsLexicon keywords) (hk : k ∈ keywords) (hgaps : IsSpacing gaps)
    (hu : Inert gaps (firstWords keywords) bs u) (hbefore : (lastOr before u).any isWordChar = false)
    (tail : Text) :
    (ruleOf keywords).find? ⟨before, u ++ (k ++ ' ' :: tail)⟩ =
      some ⟨u, ofText k, ⟨k.getLast?, ' ' :: tail⟩⟩ := by
  obtain ⟨c, t, htext, hp, hpos, hquiet, hdepth, hrule⟩ :=
    h.quiet_and_rule_eq hk hgaps hu hbefore tail
  rw [htext, find?_of_token hquiet hdepth hp hpos hrule, ← htext, Place.advance_length,
    lastOr_of_ne_nil (h.ne_nil_and_no_paren hk).1 _ none, lastOr_none]

/-! ### Keywords between blanks -/

/-- The first keyword is the one behind an inert text and a blank. -/
theorem find?_spaced (h : IsLexicon keywords) (hk : k ∈ keywords) (hgaps : IsSpacing gaps)
    (hu : Inert gaps (firstWords keywords) bs u) (before : Option Char) (tail : Text) :
    (ruleOf keywords).find? ⟨before, u ++ ' ' :: (k ++ ' ' :: tail)⟩ =
      some ⟨u ++ [' '], ofText k, ⟨k.getLast?, ' ' :: tail⟩⟩ := by
  have hfind := h.find?_eq hk hgaps (hu.blank_concat hgaps) (lastOr_blank before u) tail
  rwa [List.append_assoc] at hfind

/-- The text up to that keyword. -/
theorem upTo_spaced (h : IsLexicon keywords) (hk : k ∈ keywords) (hgaps : IsSpacing gaps)
    (hu : Inert gaps (firstWords keywords) bs u) (before : Option Char) (tail : Text) :
    (ruleOf keywords).upTo ⟨before, u ++ ' ' :: (k ++ ' ' :: tail)⟩ = u ++ [' '] := by
  obtain ⟨c, t, htext, hp, hpos, hquiet, hdepth, hrule⟩ :=
    h.quiet_and_rule_eq hk hgaps (hu.blank_concat hgaps) (lastOr_blank before u) tail
  have hupTo := upTo_of_token hquiet hdepth hp hpos hrule
  rwa [← htext, List.append_assoc] at hupTo

/-- The text up to the first keyword, if a blank and a keyword follow or nothing does: all of it, with the
    blank. -/
theorem upTo_of_clause (h : IsLexicon keywords) (hgaps : IsSpacing gaps)
    (hu : Inert gaps (firstWords keywords) bs u) {rest : Text}
    (hrest : rest = [] ∨ ∃ k ∈ keywords, ∃ tail, rest = ' ' :: (k ++ ' ' :: tail))
    (before : Option Char) :
    ∃ y, (∀ c ∈ y, isBlank c = true) ∧ (ruleOf keywords).upTo ⟨before, u ++ rest⟩ = u ++ y := by
  rcases hrest with rfl | ⟨k, hk, tail, rfl⟩
  · refine ⟨[], by simp, ?_⟩
    rw [List.append_nil]
    exact upTo_of_quiet (hu.quiet (h.spares hgaps) before 0 (atBoundary_nil _))
  · exact ⟨[' '], List.forall_mem_singleton.mpr rfl, h.upTo_spaced hk hgaps hu before tail⟩

/-- The places behind the keywords: the one behind the first of them, and those that follow. -/
theorem behindFrom_spaced (h : IsLexicon keywords) (hk : k ∈ keywords) (hgaps : IsSpacing gaps)
    (hu : Inert gaps (firstWords keywords) bs u) (before : Option Char) (tail : Text) :
    (ruleOf keywords).behindFrom before 0 0 (u ++ ' ' :: (k ++ ' ' :: tail)) =
      ⟨k.getLast?, ' ' :: tail⟩ :: (ruleOf keywords).behindFrom k.getLast? 0 0 (' ' :: tail) := by
  obtain ⟨c, t, htext, hp, hpos, hquiet, hdepth, hrule⟩ :=
    h.quiet_and_rule_eq hk hgaps (hu.blank_concat hgaps) (lastOr_blank before u) tail
  have hsplit : u ++ ' ' :: (k ++ ' ' :: tail) = (u ++ [' ']) ++ (k ++ ' ' :: tail) := by simp
  rw [hsplit, htext, behindFrom_quiet hquiet, hdepth, behindFrom_token hp hpos hrule, ← htext,
    Place.advance_length, List.take_left, List.drop_left,
    depthAfterText_of_no_paren (h.ne_nil_and_no_paren hk).2,
    lastOr_of_ne_nil (h.ne_nil_and_no_paren hk).1 _ none, lastOr_none]

end IsLexicon

end SqlSkim
