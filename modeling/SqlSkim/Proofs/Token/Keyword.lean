import SqlSkim.Proofs.Token.Longest
import SqlSkim.Proofs.Token.Walk

/-!
# `Token.Keyword` — keywords are read leftmost and longest

A search for keywords reads a text as a scanner does: at the first place where a phrase stands it takes the
one that reaches farthest, and goes on behind it. It chooses by the characters of the phrase and not by those
of the text, in which the blanks between two words can be of any number, and it passes over what is in
parentheses; neither makes a difference.

## Contents
- `IsWhole`, `isWhole_of_width?`: words that are not part of longer ones.
- `matchAt_eq_ok_iff`: a phrase at an offset of the text.
- `listsTokens_keywordTokens`, `exists_width_of_mem_keywordTokens`, `isSome_ruleOf`: the tokens of keywords,
  what is chosen for each, and where there is one.
- `IsLeftmostLongest`, `isLeftmostLongest_keywordTokens`: the main result.
-/

namespace SqlSkim

open Phrase

variable {t : Text} {start stop : Nat}

/-! ## Whole words -/

/-- **A stretch of a text that no word runs into**, from neither side. -/
structure IsWhole (t : Text) (start stop : Nat) : Prop where
  before : ∀ i c, start = i + 1 → t[i]? = some c → isWordChar c = false
  behind : ∀ c, t[stop]? = some c → isWordChar c = false

/-- The place at an offset knows the character before it. -/
theorem before_at {i : Nat} {c : Char} (h : t[i]? = some c) : (Place.at t (i + 1)).before = some c := by
  obtain ⟨hlt, hc⟩ := List.getElem?_eq_some_iff.mp h
  rw [Place.at, List.take_succ_eq_append_getElem hlt, List.getLast?_concat, hc]

/-- **A phrase stands as whole words.** -/
theorem isWhole_of_width? {p : Phrase} {width : Nat} (h : p.width? (.at t start) = some width) :
    IsWhole t start (start + width) := by
  obtain ⟨hne, hbefore, hwidth⟩ := width?_eq_some_iff.mp h
  constructor
  · rintro i c rfl hc
    rw [before_at hc] at hbefore
    exact hbefore
  · intro c hc
    have hend := not_continuesWord_of_wordsWidth? hne hwidth
    rw [Place.at, List.drop_drop, continuesWord, List.head?_drop, hc] at hend
    exact hend

/-! ## A phrase at an offset -/

/-- Within the text, the match at an offset is the match at the place. -/
theorem matchAt_eq_ok_iff {p : Phrase} (h : start ≤ t.length) :
    p.matchAt t start = .ok (some stop) ↔
      ∃ width, p.width? (.at t start) = some width ∧ stop = start + width := by
  rw [← Checked.matchAt_eq, Checked.matchAt_of_le h, Except.ok.injEq, Option.map_eq_some_iff]
  simp only [eq_comm]

/-! ## The tokens of keywords -/

variable {keywords : List Text}

/-- Every token of keywords is listed. -/
theorem listsTokens_keywordTokens (keywords : List Text) (t : Text) (start : Nat) :
    ListsTokens (ruleOf keywords) t (topLevel t start) (keywordTokens keywords t start) :=
  listsTokens_hits (ruleOf_width_pos keywords) t start

/-- **What is chosen** for a token is one of the phrases, and the one that covers most. -/
theorem exists_width_of_mem_keywordTokens {hit : Hit Phrase} (h : hit ∈ keywordTokens keywords t start) :
    hit.label ∈ phrasesOf keywords ∧ ∃ width, hit.label.width? (.at t hit.start) = some width ∧
      hit.stop = hit.start + width ∧
        ∀ p ∈ phrasesOf keywords, ∀ n, p.width? (.at t hit.start) = some n → n ≤ width := by
  obtain ⟨hlt, hrule⟩ := (listsTokens_keywordTokens keywords t start).token hit h
  obtain ⟨hmem, hwidth, hmost⟩ := (longest?_eq_some_iff fun _ => unbroken_of_mem_map).mp hrule
  refine ⟨mem_phrasesOf_iff.mpr ⟨hmem, (width?_eq_some_iff.mp hwidth).1⟩, _, hwidth, by omega, ?_⟩
  intro p hp
  exact hmost p (mem_phrasesOf_iff.mp hp).1

/-- Where a phrase stands, one is chosen. -/
theorem isSome_ruleOf {p : Phrase} (hp : p ∈ phrasesOf keywords) {place : Place} {n : Nat}
    (hn : p.width? place = some n) : (ruleOf keywords place).isSome = true := by
  rw [Option.isSome_iff_ne_none]
  intro hnone
  rw [longest?_eq_none_iff.mp hnone p (mem_phrasesOf_iff.mp hp).1] at hn
  exact absurd hn (by simp)

/-- The phrase of a keyword, written out with single blanks, has the words of that phrase. -/
theorem words_toText_of_mem_phrasesOf {p : Phrase} (hp : p ∈ phrasesOf keywords) :
    words p.toText = p.words := by
  obtain ⟨k, _, rfl⟩ := List.mem_map.mp hp
  exact words_joinWith (fun _ => ne_nil_of_mem_words_ofText) (unbroken_ofText k)

/-! ## The main result -/

/-- **The leftmost longest tokens** of keywords from an offset on. -/
structure IsLeftmostLongest (keywords : List Text) (t : Text) (start : Nat) (hits : List (Hit Phrase)) :
    Prop where
  /-- The tokens start one behind the other, and none before the last one stops. -/
  increasing : hits.Pairwise fun a b => a.start < b.start
  apart : hits.Pairwise fun a b => a.stop ≤ b.start
  /-- A token starts at depth zero. -/
  start_mem : ∀ hit ∈ hits, hit.start ∈ topLevel t start
  /-- It is one of the phrases, and its text has the words of that phrase. -/
  label_mem : ∀ hit ∈ hits, hit.label ∈ phrasesOf keywords ∧ words hit.label.toText = hit.label.words
  /-- The phrase stands there, and no other phrase that stands there reaches farther. -/
  stands : ∀ hit ∈ hits, hit.label.matchAt t hit.start = .ok (some hit.stop)
  longest : ∀ hit ∈ hits, ∀ p ∈ phrasesOf keywords, ∀ stop,
    p.matchAt t hit.start = .ok (some stop) → stop ≤ hit.stop
  /-- No word runs into it. -/
  whole : ∀ hit ∈ hits, IsWhole t hit.start hit.stop
  /-- Wherever a phrase stands at depth zero, there is a token. -/
  complete : ∀ i ∈ topLevel t start, ∀ p ∈ phrasesOf keywords, ∀ stop,
    p.matchAt t i = .ok (some stop) → ∃ hit ∈ hits, hit.start ≤ i ∧ i < hit.stop

/-- **Keywords are read leftmost and longest**, whatever the keywords, the text and the offset. -/
theorem isLeftmostLongest_keywordTokens (keywords : List Text) (t : Text) (start : Nat) :
    IsLeftmostLongest keywords t start (keywordTokens keywords t start) := by
  have hlists := listsTokens_keywordTokens keywords t start
  have hle : ∀ {i}, i ∈ topLevel t start → i ≤ t.length := fun hi =>
    Nat.le_of_lt (bounds_of_mem_topLevel hi).2
  constructor
  case increasing => exact hlists.increasing
  case apart => exact hlists.apart
  case start_mem => exact hlists.start_mem
  case label_mem =>
    intro hit hhit
    have hlabel := (exists_width_of_mem_keywordTokens hhit).1
    exact ⟨hlabel, words_toText_of_mem_phrasesOf hlabel⟩
  case stands =>
    intro hit hhit
    obtain ⟨_, width, hwidth, hstop, _⟩ := exists_width_of_mem_keywordTokens hhit
    exact (matchAt_eq_ok_iff (hle (hlists.start_mem hit hhit))).mpr ⟨width, hwidth, hstop⟩
  case longest =>
    intro hit hhit p hp stop hmatch
    obtain ⟨_, width, _, hstop, hmost⟩ := exists_width_of_mem_keywordTokens hhit
    obtain ⟨n, hn, rfl⟩ := (matchAt_eq_ok_iff (hle (hlists.start_mem hit hhit))).mp hmatch
    rw [hstop]
    exact Nat.add_le_add_left (hmost p hp n hn) hit.start
  case whole =>
    intro hit hhit
    obtain ⟨_, width, hwidth, hstop, _⟩ := exists_width_of_mem_keywordTokens hhit
    rw [hstop]
    exact isWhole_of_width? hwidth
  case complete =>
    intro i hi p hp stop hmatch
    obtain ⟨n, hn, _⟩ := (matchAt_eq_ok_iff (hle hi)).mp hmatch
    exact hlists.complete i hi (isSome_ruleOf hp hn)

end SqlSkim
