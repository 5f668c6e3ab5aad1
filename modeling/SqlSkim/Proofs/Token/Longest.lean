import SqlSkim.Proofs.Checked.Cut
import SqlSkim.Proofs.Spelling.Scan
import SqlSkim.Statement.Table

/-!
# `Token.Longest` — which phrase is chosen at a place

Where several phrases stand at one place, the one with the most characters is chosen, and how many characters
of the text it covers does not count. It comes to the same: of two phrases that stand at one place, the longer
one covers more, and two of one length are one. For a word that ends inside a longer one has no blank behind
it, so no further word either; and words of one length are the same slice. The choice therefore depends on
nothing but which phrases there are.

## Contents
- `wordsWidth?_compare`, `width?_compare`: two phrases at one place.
- `longest?_eq_some_iff`, `longest?_eq_of_mem_iff`: the choice, by the set of phrases.
- `phrasesOf`, `ruleOf_eq_of_phrasesOf`: the phrases of keywords.
- `Checked.tokensInOrder`, `IsTrialOrder`, `tokensInOrder_eq`: phrases tried one by one, in any order that
  goes by length; `isTrialOrder_byLength`.
- `keyword_order_ignored`: the main result.
-/

namespace SqlSkim

open Phrase

variable {t : Text} {place : Place}

/-! ## Two phrases at one place -/

theorem Phrase.length_nil : Phrase.length ⟨[]⟩ = 0 := rfl

theorem Phrase.length_cons (w : Text) (more : List Text) :
    Phrase.length ⟨w :: more⟩ = w.length + 1 + Phrase.length ⟨more⟩ := rfl

theorem Phrase.length_pos {ws : List Text} (h : ws ≠ []) : 0 < Phrase.length ⟨ws⟩ := by
  obtain ⟨w, more, rfl⟩ := List.exists_cons_of_ne_nil h
  rw [length_cons]
  omega

/-- A gap begins with a blank. -/
theorem exists_blank_of_gap (h : 0 < (t.takeWhile isBlank).length) :
    ∃ c, t.head? = some c ∧ isBlank c = true := by
  cases t with
  | nil => exact absurd h (Nat.lt_irrefl 0)
  | cons c rest =>
      refine ⟨c, rfl, ?_⟩
      by_contra hc
      rw [List.takeWhile_cons_of_neg hc] at h
      exact absurd h (Nat.lt_irrefl 0)

/-- **A word that ends inside a longer one** is the last of its phrase. -/
theorem wordsWidth?_of_length_lt {w v : Text} {more others : List Text} {n m : Nat}
    (hv : ∀ c ∈ v, isBlank c = false) (hn : wordsWidth? (w :: more) t = some n)
    (hm : wordsWidth? (v :: others) t = some m) (hlt : w.length < v.length) :
    more = [] ∧ n = w.length ∧ v.length ≤ m := by
  obtain ⟨_, _, hncases⟩ := wordsWidth?_cons_cases hn
  obtain ⟨hvup, _, hmcases⟩ := wordsWidth?_cons_cases hm
  have hle : v.length ≤ m := by
    rcases hmcases with ⟨_, rfl⟩ | ⟨_, _, _, _, _, _, rfl⟩
    · exact Nat.le_refl _
    · omega
  rcases hncases with ⟨hmore, hlength⟩ | ⟨_, gap, _, hgap, hpos, _, _⟩
  · exact ⟨hmore, hlength, hle⟩
  · -- the blank behind the shorter word lies in the slice that the longer one matches
    exfalso
    rw [hgap] at hpos
    obtain ⟨c, hc, hblank⟩ := exists_blank_of_gap hpos
    have hat : (t.take v.length)[w.length]? = some c := by
      rw [List.getElem?_take_of_lt hlt, ← List.head?_drop, hc]
    rw [no_blank_of_upper_eq hv hvup c (List.mem_of_getElem? hat)] at hblank
    exact absurd hblank (by decide)

/-- **Two matches at one place** are the same, or the longer phrase matches more. -/
theorem wordsWidth?_compare {ws vs : List Text} (hws : Unbroken ws) (hvs : Unbroken vs) (hwne : ws ≠ [])
    (hvne : vs ≠ []) {n m : Nat} (hn : wordsWidth? ws t = some n) (hm : wordsWidth? vs t = some m) :
    ws = vs ∨ (n < m ∧ Phrase.length ⟨ws⟩ < Phrase.length ⟨vs⟩) ∨
      (m < n ∧ Phrase.length ⟨vs⟩ < Phrase.length ⟨ws⟩) := by
  induction ws generalizing vs t n m with
  | nil => exact absurd rfl hwne
  | cons w more ih =>
      obtain ⟨v, others, rfl⟩ := List.exists_cons_of_ne_nil hvne
      rw [length_cons, length_cons]
      rcases Nat.lt_trichotomy w.length v.length with hlt | hlen | hgt
      · obtain ⟨rfl, rfl, hle⟩ := wordsWidth?_of_length_lt (hvs v (by simp)) hn hm hlt
        rw [length_nil]
        exact .inr (.inl ⟨by omega, by omega⟩)
      · -- words of one length match the same slice
        obtain ⟨hwup, _, hncases⟩ := wordsWidth?_cons_cases hn
        obtain ⟨hvup, _, hmcases⟩ := wordsWidth?_cons_cases hm
        obtain rfl : w = v := by rw [← hwup, ← hvup, hlen]
        rcases hncases with ⟨rfl, rfl⟩ | ⟨hmore, gap, n', hgap, hpos, hn', rfl⟩
        · rcases hmcases with ⟨rfl, rfl⟩ | ⟨hothers, gap', m', _, hpos', _, rfl⟩
          · exact .inl rfl
          · have hlength := length_pos hothers
            rw [length_nil]
            exact .inr (.inl ⟨by omega, by omega⟩)
        · rcases hmcases with ⟨rfl, rfl⟩ | ⟨hothers, gap', m', hgap', hpos', hm', rfl⟩
          · have hlength := length_pos hmore
            rw [length_nil]
            exact .inr (.inr ⟨by omega, by omega⟩)
          · obtain rfl : gap = gap' := hgap.trans hgap'.symm
            have hmore' : Unbroken more := fun u hu => hws u (List.mem_cons_of_mem w hu)
            have hothers' : Unbroken others := fun u hu => hvs u (List.mem_cons_of_mem w hu)
            rcases ih hmore' hothers' hmore hothers hn' hm' with rfl | ⟨hlt, hlength⟩ | ⟨hlt, hlength⟩
            · exact .inl rfl
            · exact .inr (.inl ⟨by omega, by omega⟩)
            · exact .inr (.inr ⟨by omega, by omega⟩)
      · obtain ⟨rfl, rfl, hle⟩ := wordsWidth?_of_length_lt (hws w (by simp)) hm hn hgt
        rw [length_nil]
        exact .inr (.inr ⟨by omega, by omega⟩)

/-- **Two phrases at one place** are the same, or the longer one covers more. -/
theorem width?_compare {p q : Phrase} (hp : Unbroken p.words) (hq : Unbroken q.words) {n m : Nat}
    (hn : p.width? place = some n) (hm : q.width? place = some m) :
    p = q ∨ (n < m ∧ p.length < q.length) ∨ (m < n ∧ q.length < p.length) := by
  obtain ⟨hpne, _, hn⟩ := width?_eq_some_iff.mp hn
  obtain ⟨hqne, _, hm⟩ := width?_eq_some_iff.mp hm
  refine (wordsWidth?_compare hp hq hpne hqne hn hm).imp_left fun heq => ?_
  cases p
  cases q
  exact congrArg Phrase.mk heq

/-! ## The choice -/

variable {phrases others : List Phrase}

/-- No phrase that stands at the place is longer than the one chosen. -/
theorem length_le_of_longest? {p q : Phrase} {n m : Nat} (h : longest? place phrases = some (p, n))
    (hq : q ∈ phrases) (hm : q.width? place = some m) : q.length ≤ p.length := by
  induction phrases generalizing p n with
  | nil => exact absurd hq (by simp)
  | cons r more ih =>
      rw [longest?] at h
      split at h
      · next hr =>
          rcases List.mem_cons.mp hq with rfl | hq
          · rw [hm] at hr
            exact absurd hr (by simp)
          · exact ih h hq
      · next hr hbest =>
          obtain ⟨rfl, _⟩ := Prod.mk.inj (Option.some.inj h)
          rcases List.mem_cons.mp hq with rfl | hq
          · exact Nat.le_refl _
          · rw [longest?_eq_none_iff.mp hbest q hq] at hm
            exact absurd hm (by simp)
      · next hr hbest =>
          split at h
          · next hlt =>
              obtain ⟨rfl, _⟩ := Prod.mk.inj (Option.some.inj h)
              rcases List.mem_cons.mp hq with rfl | hq
              · exact Nat.le_of_lt hlt
              · exact ih hbest hq
          · next hle =>
              obtain ⟨rfl, _⟩ := Prod.mk.inj (Option.some.inj h)
              rcases List.mem_cons.mp hq with rfl | hq
              · exact Nat.le_refl _
              · exact (ih hbest hq).trans (Nat.le_of_not_lt hle)

/-- **The phrase chosen** is the one that covers most. -/
theorem longest?_eq_some_iff (h : ∀ p ∈ phrases, Unbroken p.words) {p : Phrase} {n : Nat} :
    longest? place phrases = some (p, n) ↔
      p ∈ phrases ∧ p.width? place = some n ∧ ∀ q ∈ phrases, ∀ m, q.width? place = some m → m ≤ n := by
  have hmost : ∀ {p n}, longest? place phrases = some (p, n) →
      ∀ q ∈ phrases, ∀ m, q.width? place = some m → m ≤ n := by
    intro p n hbest q hq m hm
    obtain ⟨hp, hn⟩ := width?_of_longest? hbest
    have hle := length_le_of_longest? hbest hq hm
    rcases width?_compare (h p hp) (h q hq) hn hm with rfl | ⟨_, hlt⟩ | ⟨hlt, _⟩
    · rw [hn] at hm
      exact Nat.le_of_eq (Option.some.inj hm).symm
    · exact absurd hle (Nat.not_le.mpr hlt)
    · exact Nat.le_of_lt hlt
  constructor
  · intro hbest
    obtain ⟨hp, hn⟩ := width?_of_longest? hbest
    exact ⟨hp, hn, hmost hbest⟩
  · rintro ⟨hp, hn, hall⟩
    cases hbest : longest? place phrases with
    | none =>
        rw [longest?_eq_none_iff.mp hbest p hp] at hn
        exact absurd hn (by simp)
    | some found =>
        obtain ⟨q, m⟩ := found
        obtain ⟨hq, hm⟩ := width?_of_longest? hbest
        have hnm := hmost hbest p hp n hn
        have hmn := hall q hq m hm
        rcases width?_compare (h p hp) (h q hq) hn hm with rfl | ⟨hlt, _⟩ | ⟨hlt, _⟩
        · rw [Nat.le_antisymm hnm hmn]
        · exact absurd hmn (Nat.not_le.mpr hlt)
        · exact absurd hnm (Nat.not_le.mpr hlt)

/-- **The choice depends only on which phrases there are**, empty ones apart. -/
theorem longest?_eq_of_mem_iff (h : ∀ p ∈ phrases, Unbroken p.words) (h' : ∀ p ∈ others, Unbroken p.words)
    (hmem : ∀ p : Phrase, p.words ≠ [] → (p ∈ phrases ↔ p ∈ others)) (place : Place) :
    longest? place phrases = longest? place others := by
  -- an empty phrase stands nowhere
  have hstands : ∀ p n, p.width? place = some n → (p ∈ phrases ↔ p ∈ others) := fun p n hn =>
    hmem p (width?_eq_some_iff.mp hn).1
  refine Option.ext fun ⟨p, n⟩ => ?_
  rw [longest?_eq_some_iff h, longest?_eq_some_iff h']
  constructor
  · rintro ⟨hp, hn, hall⟩
    exact ⟨(hstands p n hn).mp hp, hn, fun q hq m hm => hall q ((hstands q m hm).mpr hq) m hm⟩
  · rintro ⟨hp, hn, hall⟩
    exact ⟨(hstands p n hn).mpr hp, hn, fun q hq m hm => hall q ((hstands q m hm).mp hq) m hm⟩

/-! ## The phrases of keywords -/

/-- **The phrases of keywords**, those of blank ones left out. -/
def phrasesOf (keywords : List Text) : List Phrase := (keywords.filter (trim · ≠ [])).map ofText

theorem trim_eq_nil_iff_words {k : Text} : trim k = [] ↔ (ofText k).words = [] := by
  rw [trim_eq_nil_iff, trimLeft, List.dropWhile_eq_nil_iff, ← words_eq_nil_iff]
  exact List.map_eq_nil_iff.symm

theorem mem_phrasesOf_iff {keywords : List Text} {p : Phrase} :
    p ∈ phrasesOf keywords ↔ p ∈ keywords.map ofText ∧ p.words ≠ [] := by
  constructor
  · intro hp
    obtain ⟨k, hk, rfl⟩ := List.mem_map.mp hp
    obtain ⟨hk, hne⟩ := List.mem_filter.mp hk
    exact ⟨List.mem_map_of_mem hk, mt trim_eq_nil_iff_words.mpr (of_decide_eq_true hne)⟩
  · rintro ⟨hp, hne⟩
    obtain ⟨k, hk, rfl⟩ := List.mem_map.mp hp
    exact List.mem_map_of_mem
      (List.mem_filter.mpr ⟨hk, decide_eq_true (mt trim_eq_nil_iff_words.mp hne)⟩)

theorem phrasesOf_append (keywords others : List Text) :
    phrasesOf (keywords ++ others) = phrasesOf keywords ++ phrasesOf others := by
  rw [phrasesOf, List.filter_append, List.map_append]
  rfl

/-- **The rule for keywords depends only on their phrases.** -/
theorem ruleOf_eq_of_phrasesOf {keywords others : List Text}
    (h : ∀ p, p ∈ phrasesOf keywords ↔ p ∈ phrasesOf others) : ruleOf keywords = ruleOf others := by
  funext place
  refine longest?_eq_of_mem_iff (fun _ => unbroken_of_mem_map) (fun _ => unbroken_of_mem_map) ?_ place
  intro p hne
  have hp := h p
  rw [mem_phrasesOf_iff, mem_phrasesOf_iff] at hp
  simpa [hne] using hp

/-- **The tokens of keywords** from an offset on. -/
def keywordTokens (keywords : List Text) (t : Text) (start : Nat) : List (Hit Phrase) :=
  ((ruleOf keywords).cut (.at t start)).hits start

/-! ## Phrases tried one by one -/

/-- The tokens of phrases from an offset on, the phrases being tried one by one in the given order. -/
def Checked.tokensInOrder (order : List Phrase) (t : Text) (start : Nat) :
    Except OffsetError (List (Hit Phrase)) := do
  Checked.hits (fun i => Checked.firstPhraseAt t i order) start (← Checked.topLevel t start)

/-- **An order in which the phrases of keywords are tried**: each of them is, once or more often, and none
    before a longer one. Phrases of one length come as they may. -/
structure IsTrialOrder (keywords : List Text) (order : List Phrase) : Prop where
  by_length : order.Pairwise fun p q => q.length ≤ p.length
  mem_iff : ∀ p, p ∈ order ↔ p ∈ phrasesOf keywords

/-- Sorting by length gives such an order. -/
theorem isTrialOrder_byLength (keywords : List Text) :
    IsTrialOrder keywords (Checked.byLength keywords) where
  by_length := List.pairwise_insertionSort _ _
  mem_iff p := by
    rw [mem_phrasesOf_iff, Checked.byLength, List.mem_insertionSort, List.mem_filter, decide_eq_true_eq]

section Trial

variable {keywords : List Text} {order : List Phrase}

/-- The first phrase in such an order that stands at a place is the one that the rule chooses. -/
theorem IsTrialOrder.findSome?_eq (h : IsTrialOrder keywords order) (place : Place) :
    order.findSome? (fun p => (p.width? place).map (p, ·)) = ruleOf keywords place := by
  rw [← longest?_of_pairwise h.by_length]
  have hunbroken : ∀ p ∈ order, Unbroken p.words := fun p hp =>
    unbroken_of_mem_map (mem_phrasesOf_iff.mp ((h.mem_iff p).mp hp)).1
  refine longest?_eq_of_mem_iff hunbroken (fun _ => unbroken_of_mem_map) ?_ place
  intro p hne
  rw [h.mem_iff, mem_phrasesOf_iff]
  exact and_iff_left hne

/-- **Tried in any such order**, the phrases have the tokens that the rule for the keywords has. -/
theorem IsTrialOrder.tokensInOrder_eq (h : IsTrialOrder keywords order) (t : Text) (start : Nat) :
    Checked.tokensInOrder order t start = .ok (keywordTokens keywords t start) := by
  rw [Checked.tokensInOrder, Checked.topLevel_eq, ok_bind]
  refine hits_eq (ruleOf_width_pos keywords) (fun i hi => ?_) start
  rw [Checked.firstPhraseAt_of_le (Nat.le_of_lt hi), ← h.findSome?_eq, List.map_findSome?]
  congr 2
  funext p
  rw [Function.comp_apply, Option.map_map]
  rfl

end Trial

/-! ## The main result -/

/-- **The order of keywords does not matter.** If two lists of keywords have the same phrases, however these
    are ordered, repeated and written, they have the same tokens in every text, in whatever order phrases of
    one length are tried; so the same statements have a join, and every statement has the same tables. -/
theorem keyword_order_ignored {keywords others : List Text}
    (h : ∀ p, p ∈ phrasesOf keywords ↔ p ∈ phrasesOf others) :
    (∀ order order', IsTrialOrder keywords order → IsTrialOrder others order' → ∀ t start,
        Checked.tokensInOrder order t start = .ok (keywordTokens keywords t start) ∧
          Checked.tokensInOrder order' t start = .ok (keywordTokens keywords t start)) ∧
      (∀ t start, keywordTokens keywords t start = keywordTokens others t start) ∧
      (∀ statement, hasJoin keywords statement = hasJoin others statement) ∧
      ∀ command statement,
        Tables.ofStatement keywords command statement = Tables.ofStatement others command statement := by
  have hrule : ruleOf keywords = ruleOf others := ruleOf_eq_of_phrasesOf h
  have htokens : ∀ t start, keywordTokens keywords t start = keywordTokens others t start := by
    intro t start
    rw [keywordTokens, hrule]
    rfl
  refine ⟨fun order order' horder horder' t start => ⟨horder.tokensInOrder_eq t start, ?_⟩, htokens, ?_, ?_⟩
  · rw [htokens]
    exact horder'.tokensInOrder_eq t start
  · intro statement
    rw [hasJoin, hrule]
    rfl
  · -- the `FROM` list ends at a clause or a join, the joins are found by themselves
    have hclauses : ruleOf (fromTerminators ++ keywords) = ruleOf (fromTerminators ++ others) := by
      refine ruleOf_eq_of_phrasesOf fun p => ?_
      rw [phrasesOf_append, phrasesOf_append, List.mem_append, List.mem_append, h p]
    intro command statement
    have hselect : Tables.ofSelect keywords statement = Tables.ofSelect others statement := by
      rw [Tables.ofSelect, hrule, hclauses]
      rfl
    cases command with
    | none => rfl
    | some c =>
        cases c with
        | select => exact hselect
        | _ => rfl

/-- Two phrases of one length, in both orders; one list repeats a phrase, spells it otherwise, and has a
    blank entry. -/
theorem keyword_order_ignored_tied :
    let keywords := ["LEFT JOIN".toList, "full join".toList]
    let others := ["FULL  JOIN".toList, "left join".toList, " ".toList, "Left\tJoin".toList]
    let left : Phrase := ⟨["LEFT".toList, "JOIN".toList]⟩
    let full : Phrase := ⟨["FULL".toList, "JOIN".toList]⟩
    let statement := "SELECT a FROM t left join u FULL JOIN v".toList
    (∀ p, p ∈ phrasesOf keywords ↔ p ∈ phrasesOf others) ∧
      IsTrialOrder keywords [left, full] ∧ IsTrialOrder others [full, left] ∧
      Checked.tokensInOrder [left, full] statement 0 = Checked.tokensInOrder [full, left] statement 0 ∧
      keywordTokens keywords statement 0 = keywordTokens others statement 0 ∧
      hasJoin keywords statement = hasJoin others statement ∧
      Tables.ofStatement keywords (some .select) statement =
        Tables.ofStatement others (some .select) statement := by
  intro keywords others left full statement
  have hkeywords : phrasesOf keywords = [left, full] := by decide +kernel
  have hothers : phrasesOf others = [full, left, left] := by decide +kernel
  have hsame : ∀ p, p ∈ phrasesOf keywords ↔ p ∈ phrasesOf others := by
    intro p
    rw [hkeywords, hothers]
    simp only [List.mem_cons, List.not_mem_nil, or_false, or_self]
    exact or_comm
  have horder : IsTrialOrder keywords [left, full] :=
    ⟨by decide, fun p => by rw [hkeywords]⟩
  have horder' : IsTrialOrder others [full, left] :=
    ⟨by decide, fun p => by rw [hothers]; simp⟩
  obtain ⟨htrial, htokens, hjoin, htables⟩ := keyword_order_ignored hsame
  obtain ⟨hleft, hfull⟩ := htrial _ _ horder horder' statement 0
  exact ⟨hsame, horder, horder', hleft.trans hfull.symm, htokens statement 0, hjoin statement,
    htables _ statement⟩

end SqlSkim
