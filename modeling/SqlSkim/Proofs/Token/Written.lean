import SqlSkim.Proofs.Statement.Plain
import SqlSkim.Proofs.Token.Separator

/-!
# `Token.Written` — how far a phrase reaches

A word is compared with as many characters as it has, in upper case, and the phrase ends behind as many
characters. Near the end of a text there can be fewer of them, and if one of those becomes several in upper
case, they may agree with the word all the same: then the phrase reaches beyond the end. In all other
matches the text has each word of the phrase with its length, and blanks between them.

## Contents
- `Writes`: a phrase written with words of their lengths; `wordsWidth?_of_writes`.
- `CutShort`, `writes_or_cutShort`: the two ways in which words match.
- `wordsWidth?_eq_some_iff`: the matches that lie within the text.
- `Reaches`, `matches_reach`: the main result.
- `isRigid_iff_not_mem_ligatureWords`, `Reaches.le_length_of_mem_selectWords`: which keywords of the library it
  leaves open.
-/

namespace SqlSkim

open Phrase

variable {ws : List Text} {w t u v : Text} {n start stop : Nat}

/-! ## Phrases written in full -/

/-- **A text writes a phrase** if it is its words in any letter case, each with as many characters as the word
    has, and with blanks between them. -/
inductive Writes : List Text → Text → Prop where
  | one {w u : Text} : upper u = w → u.length = w.length → Writes [w] u
  | more {w u gap v : Text} {ws : List Text} : upper u = w → u.length = w.length → gap ≠ [] →
      (∀ c ∈ gap, isBlank c = true) → Writes ws v → Writes (w :: ws) (u ++ (gap ++ v))

/-- No blank stands in front of a phrase. -/
theorem Writes.takeWhile_isBlank (h : Writes ws u) (hne : ∀ w ∈ ws, w ≠ []) (hws : Unbroken ws) (v : Text) :
    (u ++ v).takeWhile isBlank = [] := by
  have hfront : ∀ {w u : Text}, upper u = w → u.length = w.length → w ∈ ws → ∀ v,
      (u ++ v).takeWhile isBlank = [] := by
    intro w u hup hlen hw v
    have hpos := List.length_pos_of_ne_nil (hne w hw)
    obtain ⟨c, u, rfl⟩ := List.exists_cons_of_length_pos (hlen ▸ hpos)
    have hc := no_blank_of_upper_eq (hws w hw) hup c List.mem_cons_self
    rw [List.cons_append, List.takeWhile_cons_of_neg (by simp [hc])]
  cases h with
  | one hup hlen => exact hfront hup hlen List.mem_cons_self v
  | more hup hlen _ _ _ =>
      rw [List.append_assoc]
      exact hfront hup hlen List.mem_cons_self _

/-- **A phrase that is written stands there**, if no word goes on behind it. -/
theorem wordsWidth?_of_writes (h : Writes ws u) (hne : ∀ w ∈ ws, w ≠ []) (hws : Unbroken ws)
    (hend : continuesWord v = false) : wordsWidth? ws (u ++ v) = some u.length := by
  induction h with
  | @one w u hup hlen =>
      rw [wordsWidth?_cons, ← hlen, List.take_left, List.drop_left, if_neg (by simp [hup, hend]), if_pos rfl]
  | @more w u gap rest ws hup hlen hgap hblank hmore ih =>
      have hne' : ∀ w ∈ ws, w ≠ [] := fun w hw => hne w (List.mem_cons_of_mem _ hw)
      have hws' : Unbroken ws := fun w hw => hws w (List.mem_cons_of_mem _ hw)
      have hmany : ws ≠ [] := by
        rintro rfl
        cases hmore
      -- the blanks end the word, and the next word ends the blanks
      have hgoes : continuesWord (gap ++ (rest ++ v)) = false := by
        obtain ⟨c, gap, rfl⟩ := List.exists_cons_of_ne_nil hgap
        exact continuesWord_gap (isWordChar_of_isBlank (hblank c List.mem_cons_self)) _
      have htake : (gap ++ (rest ++ v)).takeWhile isBlank = gap := by
        rw [List.takeWhile_append_of_pos hblank, hmore.takeWhile_isBlank hne' hws', List.append_nil]
      rw [List.append_assoc, List.append_assoc, wordsWidth?_cons, ← hlen, List.take_left, List.drop_left,
        if_neg (by simp [hup, hgoes]), if_neg hmany, htake, if_neg (by simpa using hgap), List.drop_left,
        ih hne' hws', Option.map_some, List.length_append, List.length_append, Nat.add_assoc]

/-! ## Phrases cut short -/

/-- **The end of a text cuts a phrase short** if what is left for its last word has fewer characters than the
    word, and is the word in upper case all the same. -/
def CutShort (ws : List Text) (t : Text) (start stop : Nat) : Prop :=
  ∃ last w, start ≤ last ∧ last ≤ t.length ∧ ws.getLast? = some w ∧ upper (t.drop last) = w ∧
    t.length < stop ∧ stop = last + w.length

/-- The end of a text cuts short what stands behind an offset. -/
theorem CutShort.shift {k : Nat} (h : CutShort ws (t.drop k) start stop) (hk : k ≤ t.length) :
    CutShort ws t (k + start) (k + stop) := by
  obtain ⟨last, w, hstart, hlast, hw, hup, hshort, rfl⟩ := h
  rw [List.length_drop] at hlast hshort
  rw [List.drop_drop] at hup
  exact ⟨k + last, w, by omega, by omega, hw, hup, by omega, by omega⟩

/-- A rigid word is not cut short. -/
theorem CutShort.not_isRigid (h : CutShort ws t start stop) : ¬ ∀ w ∈ ws, IsRigid w := by
  intro hrigid
  obtain ⟨last, w, _, hlast, hw, hup, hshort, rfl⟩ := h
  have hlen := length_of_upper_eq (hrigid w (List.mem_of_getLast? hw)) hup
  rw [List.length_drop] at hlen
  omega

/-- **What words match** is written in the text, or cut short by its end. -/
theorem writes_or_cutShort (hne : ws ≠ []) (h : wordsWidth? ws t = some n) :
    (n ≤ t.length ∧ Writes ws (t.take n)) ∨ CutShort ws t 0 n := by
  induction ws generalizing t n with
  | nil => exact absurd rfl hne
  | cons w more ih =>
      obtain ⟨hup, _, ⟨rfl, rfl⟩ | ⟨hmore, gap, m, hgap, hpos, hm, rfl⟩⟩ := wordsWidth?_cons_cases h
      · rcases Nat.lt_or_ge t.length w.length with hshort | hle
        · rw [List.take_of_length_le (Nat.le_of_lt hshort)] at hup
          exact .inr ⟨0, w, Nat.le_refl 0, Nat.zero_le _, rfl, hup, hshort, (Nat.zero_add _).symm⟩
        · exact .inl ⟨hle, .one hup (List.length_take_of_le hle)⟩
      · -- a blank stands behind the word, so the word is not cut short
        have hgaple := (List.takeWhile_prefix isBlank (l := t.drop w.length)).length_le
        rw [← hgap, List.length_drop] at hgaple
        have hle : w.length + gap ≤ t.length := by omega
        rcases ih hmore hm with ⟨hmle, hwrites⟩ | hcut
        · rw [List.length_drop] at hmle
          refine .inl ⟨by omega, ?_⟩
          rw [take_blanks hgap]
          refine .more hup (List.length_take_of_le (by omega)) ?_ (fun c hc => List.mem_takeWhile_imp hc) hwrites
          rw [← List.length_pos_iff, ← hgap]
          exact hpos
        · obtain ⟨last, v, hstart, hlast⟩ := hcut.shift hle
          refine .inr ⟨last, v, Nat.zero_le last, ?_⟩
          rwa [List.getLast?_cons_of_ne_nil hmore]

/-- **The matches within a text** are the phrases written at its front that no word goes on behind. -/
theorem wordsWidth?_eq_some_iff (hmany : ws ≠ []) (hne : ∀ w ∈ ws, w ≠ []) (hws : Unbroken ws) :
    (wordsWidth? ws t = some n ∧ n ≤ t.length) ↔
      ∃ u v, t = u ++ v ∧ u.length = n ∧ Writes ws u ∧ continuesWord v = false := by
  constructor
  · rintro ⟨hwidth, hle⟩
    have hend := not_continuesWord_of_wordsWidth? hmany hwidth
    refine ⟨t.take n, t.drop n, (List.take_append_drop n t).symm, List.length_take_of_le hle, ?_, hend⟩
    rcases writes_or_cutShort hmany hwidth with ⟨_, hwrites⟩ | ⟨_, _, _, _, _, _, hshort, _⟩
    · exact hwrites
    · exact absurd hle (Nat.not_le.mpr hshort)
  · rintro ⟨u, v, rfl, rfl, hwrites, hend⟩
    exact ⟨wordsWidth?_of_writes hwrites hne hws hend, by simp⟩

/-! ## The main result -/

/-- **How far a phrase reaches** that stands at an offset of a text. -/
structure Reaches (p : Phrase) (t : Text) (start stop : Nat) : Prop where
  /-- It has a character at least. -/
  lt : start < stop
  /-- It lies within the text unless the end of the text cuts it short, and no rigid word is. -/
  le_length_iff : stop ≤ t.length ↔ ¬ CutShort p.words t start stop
  le_length_of_isRigid : (∀ w ∈ p.words, IsRigid w) → stop ≤ t.length
  /-- Within the text it is written in full. -/
  writes : stop ≤ t.length → Writes p.words (slice t start stop)

/-- A phrase that stands at a place reaches as far as is said. -/
theorem reaches_of_width? {p : Phrase} (hne : ∀ w ∈ p.words, w ≠ []) (hstart : start ≤ t.length)
    (h : p.width? (.at t start) = some n) : Reaches p t start (start + n) := by
  obtain ⟨hmany, _, hwidth⟩ := width?_eq_some_iff.mp h
  have hlt : 0 < n := by
    obtain ⟨w, more, hwords⟩ := List.exists_cons_of_ne_nil hmany
    rw [hwords] at hwidth hne
    exact wordsWidth?_pos (hne w List.mem_cons_self) hwidth
  have hcases : (start + n ≤ t.length ∧ Writes p.words (slice t start (start + n : Nat))) ∨
      CutShort p.words t start (start + n) := by
    rcases writes_or_cutShort hmany hwidth with ⟨hle, hwrites⟩ | hcut
    · rw [Place.at, List.length_drop] at hle
      refine .inl ⟨by omega, ?_⟩
      rwa [slice_natCast, Nat.add_sub_cancel_left]
    · exact .inr (hcut.shift hstart)
  have hiff : start + n ≤ t.length ↔ ¬ CutShort p.words t start (start + n) := by
    constructor
    · rintro hle ⟨_, _, _, _, _, _, hshort, _⟩
      exact absurd hle (Nat.not_le.mpr hshort)
    · exact fun hcut => (hcases.resolve_right hcut).1
  refine ⟨Nat.lt_add_of_pos_right hlt, hiff, fun hrigid => ?_, fun hle => ?_⟩
  · exact hiff.mpr fun hcut => hcut.not_isRigid hrigid
  · exact (hcases.resolve_right (hiff.mp hle)).2

/-- **A phrase that stands in a text reaches beyond its end only if the end cuts it short**, be it looked for
    at an offset, among several keywords, or as the first of them. -/
theorem matches_reach (t : Text) :
    (∀ (p : Phrase) (start stop : Nat), (∀ w ∈ p.words, w ≠ []) → start ≤ t.length →
      p.matchAt t start = .ok (some stop) → Reaches p t start stop) ∧
    (∀ keywords start, ∀ hit ∈ keywordTokens keywords t start, Reaches hit.label t hit.start hit.stop) ∧
    (∀ keywords start hit, Checked.findKeyword keywords t start = .ok (some hit) →
      Reaches hit.label t hit.start hit.stop) := by
  have htokens : ∀ keywords start, ∀ hit ∈ keywordTokens keywords t start,
      Reaches hit.label t hit.start hit.stop := by
    intro keywords start hit hhit
    obtain ⟨hlabel, width, hwidth, hstop, _⟩ := exists_width_of_mem_keywordTokens hhit
    have hstart := (bounds_of_mem_topLevel ((listsTokens_keywordTokens keywords t start).start_mem hit hhit)).2
    obtain ⟨k, _, hk⟩ := List.mem_map.mp (mem_phrasesOf_iff.mp hlabel).1
    rw [hstop]
    refine reaches_of_width? (fun w hw => ?_) (Nat.le_of_lt hstart) hwidth
    rw [← hk] at hw
    exact ne_nil_of_mem_words_ofText hw
  refine ⟨fun p start stop hne hstart hmatch => ?_, htokens, fun keywords start hit hfind => ?_⟩
  · obtain ⟨n, hwidth, rfl⟩ := (matchAt_eq_ok_iff hstart).mp hmatch
    exact reaches_of_width? hne hstart hwidth
  · rw [Checked.findKeyword, Checked.keywordHits_eq] at hfind
    exact htokens keywords start hit (List.mem_of_head? (Except.ok.inj hfind))

/-- Of two words the second one is cut short. -/
theorem matches_reach_two_words :
    let keyword := "left ssjoin".toList
    let p : Phrase := ofText keyword
    let t := "LEFT ßjoin".toList
    (∀ w ∈ p.words, w ≠ []) ∧ 0 ≤ t.length ∧ p.matchAt t 0 = .ok (some 11) ∧ Reaches p t 0 11 ∧
      ∃ hit, keywordTokens [keyword] t 0 = [hit] ∧ hit.stop = 11 ∧
        Checked.findKeyword [keyword] t 0 = .ok (some hit) ∧ Reaches hit.label t hit.start hit.stop := by
  intro keyword p t
  have hne : ∀ w ∈ p.words, w ≠ [] := by decide +kernel
  have hmatch : p.matchAt t 0 = .ok (some 11) :=
    (matchAt_eq_ok_iff (Nat.zero_le _)).mpr ⟨11, by decide +kernel, rfl⟩
  have hstops : (keywordTokens [keyword] t 0).map (·.stop) = [11] := by decide +kernel
  obtain ⟨hit, htokens, hstop⟩ := List.map_eq_singleton_iff.mp hstops
  have hfind : Checked.findKeyword [keyword] t 0 = .ok (some hit) := by
    rw [Checked.findKeyword, Checked.keywordHits_eq]
    exact congrArg (fun hits : List (Hit Phrase) => Except.ok hits.head?) htokens
  refine ⟨hne, Nat.zero_le _, hmatch, (matches_reach t).1 p 0 11 hne (Nat.zero_le _) hmatch, ?_⟩
  exact ⟨hit, htokens, hstop, hfind, (matches_reach t).2.2 [keyword] 0 hit hfind⟩

/-- A letter that is two in upper case stands for one that the text does not have. -/
theorem match_beyond_end :
    let t := "ßjoin".toList
    (⟨["SSJOIN".toList]⟩ : Phrase).matchAt t 0 = .ok (some 6) ∧ t.length = 5 ∧
      (keywordTokens ["SSJOIN".toList] t 0).map (fun hit => (hit.start, hit.stop)) = [(0, 6)] := by
  intro t
  exact ⟨(matchAt_eq_ok_iff (Nat.zero_le _)).mpr ⟨6, by decide +kernel, rfl⟩, by decide, by decide +kernel⟩

/-! ## The keywords of the library -/

/-- The words of the library's keywords that hold an `ST`, which a ligature is in upper case. -/
def ligatureWords : List Text := ["DISTINCT".toList, "EXISTS".toList]

/-- **All other words of the library's keywords** are rigid, and these are not. -/
theorem isRigid_iff_not_mem_ligatureWords (h : w ∈ selectWords) : IsRigid w ↔ w ∉ ligatureWords := by
  constructor
  · intro hrigid hligature
    have hnone : ∀ w ∈ ligatureWords, ¬ IsRigid w := by decide +kernel
    exact hnone w hligature hrigid
  · intro hother
    have hall : ∀ w ∈ selectWords, w.all Char.isUpper = true ∧
        (w ∉ ligatureWords → ∀ u ∈ capitalExpansions, ¬ u <:+: w) := by decide +kernel
    obtain ⟨hcapital, hnone⟩ := hall w h
    exact isRigid_of_capital (List.all_eq_true.mp hcapital) (hnone hother)

/-- **A keyword of the library lies within the text**, if it is none of these words. -/
theorem Reaches.le_length_of_mem_selectWords {p : Phrase} (h : Reaches p t start stop)
    (hwords : ∀ w ∈ p.words, w ∈ selectWords) (hother : ∀ w ∈ p.words, w ∉ ligatureWords) :
    stop ≤ t.length := by
  apply h.le_length_of_isRigid
  intro w hw
  exact (isRigid_iff_not_mem_ligatureWords (hwords w hw)).mpr (hother w hw)

/-- The text has seven characters, and the word has eight. -/
example : (⟨["DISTINCT".toList]⟩ : Phrase).width? (.start "diﬆinct".toList) = some 8 := by decide +kernel

end SqlSkim
