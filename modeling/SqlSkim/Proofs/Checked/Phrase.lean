import Mathlib.Data.List.Sort
import SqlSkim.Proofs.Checked.Look
import SqlSkim.Proofs.Scan.Keyword

/-!
# `Checked.Phrase` — keywords at an offset

Whether a keyword stands at an offset depends on the character before it, and that character is asked for
without a look at the length of the text. All other characters are asked for within the text only, although
the words of a keyword can reach beyond its end: upper case can be longer than what it is taken from, so a
word may match fewer characters than it has. So a match is an error at an offset behind the end, and
nowhere else.

## Contents
- `Checked.matchAt`, `matchAt_eq`: a phrase at any offset, and when looking for it is an error.
- `Checked.firstAt`, `Checked.firstPhraseAt`: the first of several phrases that stands at an offset.
- `Checked.byLength`, `Checked.keywordAt`: the longest of several keywords at an offset.
-/

namespace SqlSkim

open Phrase

/-! ## The order in which phrases are tried -/

section Order

variable {place : Place} {phrases : List Phrase} {p q : Phrase}

theorem longest?_cons_congr {others : List Phrase} (h : longest? place phrases = longest? place others) :
    longest? place (p :: phrases) = longest? place (p :: others) := by
  rw [longest?, longest?, h]

/-- A phrase that stands nowhere does not count. -/
theorem longest?_cons_of_words_nil (h : p.words = []) :
    longest? place (p :: phrases) = longest? place phrases := by
  rw [longest?, width?, if_pos (.inl h)]

/-- Of two phrases of different lengths it does not matter which one is tried first. -/
theorem longest?_cons_swap (h : p.length < q.length) :
    longest? place (p :: q :: phrases) = longest? place (q :: p :: phrases) := by
  simp only [longest?]
  -- the order counts between phrases of one length only, whatever the best of the others is
  cases p.width? place with
  | none => cases q.width? place <;> cases longest? place phrases <;> rfl
  | some w =>
      cases q.width? place with
      | none => cases longest? place phrases <;> rfl
      | some v =>
          cases longest? place phrases with
          | none => simp [h, Nat.not_lt.mpr (Nat.le_of_lt h)]
          | some best =>
              obtain ⟨r, u⟩ := best
              by_cases hq : q.length < r.length
              · have hp : p.length < r.length := by omega
                simp [hq, hp]
              · by_cases hp : p.length < r.length
                · simp [hq, hp, h]
                · simp [hq, hp, h, Nat.not_lt.mpr (Nat.le_of_lt h)]

/-- Sorting by length, which keeps the order of phrases of one length, changes no choice. -/
theorem longest?_insertionSort (phrases : List Phrase) :
    longest? place (phrases.insertionSort fun p q => q.length ≤ p.length) = longest? place phrases := by
  -- a phrase moves back past longer ones only, one at a time
  have hinsert : ∀ (p : Phrase) (ps : List Phrase),
      longest? place (ps.orderedInsert (fun p q => q.length ≤ p.length) p) = longest? place (p :: ps) := by
    intro p ps
    induction ps with
    | nil => rfl
    | cons q ps ih =>
        rw [List.orderedInsert]
        split
        · rfl
        · next hlt => rw [longest?_cons_congr ih, longest?_cons_swap (Nat.lt_of_not_le hlt)]
  induction phrases with
  | nil => rfl
  | cons p phrases ih => rw [List.insertionSort_cons, hinsert, longest?_cons_congr ih]

/-- Among phrases in the order of their lengths, the first one that stands there is the longest. -/
theorem longest?_of_pairwise (h : phrases.Pairwise fun p q => q.length ≤ p.length) :
    longest? place phrases = phrases.findSome? fun p => (p.width? place).map (p, ·) := by
  induction phrases with
  | nil => rfl
  | cons p phrases ih =>
      obtain ⟨hp, hmore⟩ := List.pairwise_cons.mp h
      rw [longest?, List.findSome?_cons]
      cases hw : p.width? place with
      | none => exact ih hmore
      | some w =>
          cases hbest : longest? place phrases with
          | none => rfl
          | some best =>
              have hle := hp best.1 (width?_of_longest? hbest).1
              simp [Nat.not_lt.mpr hle]

end Order

namespace Checked

variable {α : Type}

/-! ## A phrase at an offset -/

/-- Whether a word goes on at an offset, which may be the end of the text or lie behind it. -/
def continuesWord (t : Text) (i : Nat) : Except OffsetError Bool := do
  if i < t.length then return isWordChar (← itemAt t i) else return false

theorem continuesWord_eq (t : Text) (i : Nat) :
    continuesWord t i = .ok (Phrase.continuesWord (t.drop i)) := by
  cases h : t.drop i with
  | nil => exact if_neg (Nat.not_lt.mpr (List.drop_eq_nil_iff.mp h))
  | cons c rest =>
      obtain ⟨hlt, hc, _⟩ := itemAt_of_drop h
      rw [continuesWord, if_pos hlt, hc]
      rfl

/-- Whether a word character stands before an offset. At the start of the text none does. -/
def followsWord (t : Text) : Nat → Except OffsetError Bool
  | 0 => return false
  | pos + 1 => return isWordChar (← itemAt t pos)

theorem followsWord_of_le {t : Text} {pos : Nat} (h : pos ≤ t.length) :
    followsWord t pos = .ok ((Place.at t pos).before.any isWordChar) := by
  cases pos with
  | zero => rfl
  | succ pos =>
      have hbefore : (Place.at t (pos + 1)).before = some t[pos] := by
        rw [Place.at, List.take_succ_eq_append_getElem h, List.getLast?_append]
        rfl
      rw [followsWord, itemAt, List.getElem?_eq_getElem h, hbefore]
      rfl

/-- This is where looking for a keyword can fail. -/
theorem followsWord_of_lt {t : Text} {pos : Nat} (h : t.length < pos) :
    followsWord t pos = .error (.ofOffset pos) := by
  cases pos with
  | zero => exact absurd h (Nat.not_lt_zero _)
  | succ pos =>
      rw [followsWord, itemAt_of_length_le (Nat.le_of_lt_succ h)]
      rfl

/-- The end of the words that stand at an offset. -/
def wordsEnd (t : Text) : List Text → Nat → Except OffsetError (Option Nat)
  | [], i => return some i
  | w :: more, i => do
    let stop := i + w.length
    if upper (slice t i stop) ≠ w then return none
    else if ← continuesWord t stop then return none
    else if more = [] then return some stop
    else
      let next ← runEnd isBlank t stop
      if next = stop then return none else wordsEnd t more next

/-- The words of a phrase are looked for without an error anywhere. -/
theorem wordsEnd_eq (t : Text) (words : List Text) (i : Nat) :
    wordsEnd t words i = .ok ((wordsWidth? words (t.drop i)).map (i + ·)) := by
  induction words generalizing i with
  | nil => rfl
  | cons w more ih =>
      rw [wordsEnd, wordsWidth?_cons, slice_natCast, Nat.add_sub_cancel_left, List.drop_drop,
        continuesWord_eq, runEnd_eq]
      simp only [ok_bind, pure_eq_ok]
      by_cases hup : upper ((t.drop i).take w.length) = w
      · rw [if_neg (not_not.mpr hup)]
        by_cases hgoes : Phrase.continuesWord (t.drop (i + w.length)) = true
        · rw [if_pos hgoes, if_pos (.inr hgoes)]
          rfl
        · rw [if_neg hgoes, if_neg (not_or.mpr ⟨not_not.mpr hup, hgoes⟩)]
          by_cases hmore : more = []
          · rw [if_pos hmore, if_pos hmore]
            rfl
          · rw [if_neg hmore, if_neg hmore]
            by_cases hgap : ((t.drop (i + w.length)).takeWhile isBlank).length = 0
            · rw [if_pos (by omega), if_pos hgap]
              rfl
            · rw [if_neg (by omega), if_neg hgap, ih, List.drop_drop, Option.map_map]
              congr 2
              funext n
              show _ = i + (w.length + _ + n)
              omega
      · rw [if_pos hup, if_pos (.inl hup)]
        rfl

/-- The end of a phrase that stands at an offset. -/
def matchAt (p : Phrase) (t : Text) (pos : Nat) : Except OffsetError (Option Nat) := do
  if p.words = [] then return none
  else if ← followsWord t pos then return none
  else wordsEnd t p.words pos

/-- **Looking for a phrase** asks for one character that may not be there, the one before the offset. -/
theorem matchAt_eq (p : Phrase) (t : Text) (pos : Nat) : matchAt p t pos = p.matchAt t pos := by
  rw [matchAt, Phrase.matchAt, width?]
  by_cases hwords : p.words = []
  · rw [if_pos hwords, if_neg fun h => h.1 hwords, if_pos (.inl hwords)]
    rfl
  · rw [if_neg hwords]
    rcases Nat.lt_or_ge t.length pos with hlt | hle
    · -- the character before the offset is asked for first, and there is none
      rw [if_pos ⟨hwords, hlt⟩, followsWord_of_lt hlt]
      rfl
    · rw [if_neg fun h => Nat.not_lt.mpr hle h.2, followsWord_of_le hle, ok_bind, wordsEnd_eq]
      by_cases hword : (Place.at t pos).before.any isWordChar = true
      · rw [if_pos hword, if_pos (.inr hword)]
        rfl
      · rw [if_neg hword, if_neg (not_or.mpr ⟨hwords, hword⟩)]
        rfl

/-- Looking for a phrase fails behind the end of the text and nowhere else. -/
theorem matchAt_error_iff {p : Phrase} {t : Text} {pos : Nat} :
    (∃ e, matchAt p t pos = .error e) ↔ p.words ≠ [] ∧ t.length < pos := by
  rw [matchAt_eq, Phrase.matchAt]
  split
  · next h => exact ⟨fun _ => h, fun _ => ⟨_, rfl⟩⟩
  · next h => exact ⟨fun ⟨e, he⟩ => absurd he (by simp), fun hpos => absurd hpos h⟩

theorem matchAt_of_le {p : Phrase} {t : Text} {pos : Nat} (h : pos ≤ t.length) :
    matchAt p t pos = .ok ((p.width? (.at t pos)).map (pos + ·)) := by
  rw [matchAt_eq, Phrase.matchAt, if_neg fun hlt => Nat.not_lt.mpr h hlt.2]

/-- A keyword can be wider than the text that it stands in. -/
example : (ofText "ß".toList).width? (.at "ß".toList 0) = some 2 := by decide +kernel

/-! ## Several phrases at an offset -/

/-- The first of several entries whose phrase stands at an offset, with the end of the phrase. -/
def firstAt (phrase : α → Phrase) (t : Text) (pos : Nat) : List α → Except OffsetError (Option (α × Nat))
  | [] => return none
  | a :: more => do
    match ← matchAt (phrase a) t pos with
    | some stop => return some (a, stop)
    | none => firstAt phrase t pos more

theorem firstAt_of_le {phrase : α → Phrase} {t : Text} {pos : Nat} (h : pos ≤ t.length) (all : List α) :
    firstAt phrase t pos all =
      .ok (all.findSome? fun a => ((phrase a).width? (.at t pos)).map fun w => (a, pos + w)) := by
  induction all with
  | nil => rfl
  | cons a more ih =>
      rw [firstAt, matchAt_of_le h, ok_bind, List.findSome?_cons]
      cases (phrase a).width? (.at t pos) with
      | none => exact ih
      | some w => rfl

/-- The first of several phrases that stands at an offset, with its end. -/
def firstPhraseAt (t : Text) (pos : Nat) (phrases : List Phrase) :
    Except OffsetError (Option (Phrase × Nat)) :=
  firstAt id t pos phrases

theorem firstPhraseAt_of_le {t : Text} {pos : Nat} (h : pos ≤ t.length) (phrases : List Phrase) :
    firstPhraseAt t pos phrases =
      .ok (phrases.findSome? fun p => (p.width? (.at t pos)).map fun w => (p, pos + w)) :=
  firstAt_of_le h phrases

/-- Where the first phrase that stands there ends, if one does. -/
theorem firstPhraseAt_cases {t : Text} {pos : Nat} (h : pos ≤ t.length) (phrases : List Phrase) :
    (phrases.findSome? (·.width? (.at t pos)) = none ∧ firstPhraseAt t pos phrases = .ok none) ∨
      ∃ p width, phrases.findSome? (·.width? (.at t pos)) = some width ∧
        firstPhraseAt t pos phrases = .ok (some (p, pos + width)) := by
  rw [firstPhraseAt_of_le h]
  induction phrases with
  | nil => exact .inl ⟨rfl, rfl⟩
  | cons p more ih =>
      rw [List.findSome?_cons, List.findSome?_cons]
      cases p.width? (.at t pos) with
      | none => exact ih
      | some width => exact .inr ⟨p, width, rfl, rfl⟩

/-- The phrases of keywords that are not blank, the longest ones first. -/
def byLength (keywords : List Text) : List Phrase :=
  ((keywords.map ofText).filter (·.words ≠ [])).insertionSort fun p q => q.length ≤ p.length

/-- The first phrase by length is the one that the rule for the keywords chooses. -/
theorem findSome?_byLength (keywords : List Text) (place : Place) :
    (byLength keywords).findSome? (fun p => (p.width? place).map (p, ·)) = ruleOf keywords place := by
  have hfilter : ∀ ps : List Phrase, longest? place (ps.filter (·.words ≠ [])) = longest? place ps := by
    intro ps
    induction ps with
    | nil => rfl
    | cons p ps ih =>
        by_cases hwords : p.words = []
        · rw [List.filter_cons_of_neg (by simp [hwords]), ih, longest?_cons_of_words_nil hwords]
        · rw [List.filter_cons_of_pos (by simp [hwords]), longest?_cons_congr ih]
  rw [ruleOf, Phrase.rule, ← hfilter, ← longest?_insertionSort]
  exact (longest?_of_pairwise (List.pairwise_insertionSort _ _)).symm

/-- The longest of several keywords that stands at an offset, with its end. -/
def keywordAt (keywords : List Text) (t : Text) (pos : Nat) : Except OffsetError (Option (Phrase × Nat)) :=
  firstPhraseAt t pos (byLength keywords)

theorem keywordAt_of_le {t : Text} {pos : Nat} (h : pos ≤ t.length) (keywords : List Text) :
    keywordAt keywords t pos =
      .ok ((ruleOf keywords (.at t pos)).map fun found => (found.1, pos + found.2)) := by
  rw [keywordAt, firstPhraseAt_of_le h, ← findSome?_byLength, List.map_findSome?]
  congr 2
  funext p
  rw [Function.comp_apply, Option.map_map]
  rfl

end Checked

end SqlSkim
