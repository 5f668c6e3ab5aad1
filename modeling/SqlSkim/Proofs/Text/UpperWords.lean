import SqlSkim.Proofs.Spelling.Text

/-!
# `Text.UpperWords` — upper case, taken twice and word by word

Upper case maps one character to several and different ones to the same, but what it gives is in upper case
already: the tables of the mapping hold no image of one of their characters as a character that is mapped
itself. Most runs of the mapping skip every other character, and the images of such a run are the characters
in between; so two runs can cover the same stretch of code points, and are told apart by parity.

Upper case also takes no blank away and brings none about. It therefore does not matter whether a text is
put in upper case and then cut into words, or the other way round.

## Contents
- `upperChar_of_isUnmapped`: characters that the tables do not hold.
- `upperChar_of_mem`, `upper_upper`: upper case, taken twice.
- `splitOnP_upper`, `words_upper`, `upper_joinWith`: upper case, word by word.
-/

namespace SqlSkim

/-! ## Characters that are not mapped -/

/-- **An unmapped code point** has no entry in the tables of the mapping. -/
structure IsUnmapped (n : Nat) : Prop where
  not_expanded : ∀ e ∈ caseExpansions, e.1 ≠ n
  in_no_run : ∀ r ∈ caseRuns, r.image? n = none

/-- Above ASCII the tables say it all. -/
theorem upperChar_of_isUnmapped {c : Char} (hc : 0x80 ≤ c.toNat) (h : IsUnmapped c.toNat) :
    upperChar c = [c] := by
  have hexpansion : caseExpansions.lookup c.toNat = none := by
    rw [List.lookup_eq_none_iff]
    intro e he
    simpa using (h.not_expanded e he).symm
  have hrun : caseRuns.findSome? (·.image? c.toNat) = none := List.findSome?_eq_none_iff.mpr h.in_no_run
  rw [upperChar, if_neg (Nat.not_lt.mpr hc), hexpansion, hrun]

/-- Whether a stretch of code points reaches into the images of a run. -/
def CaseRun.reachedBy (r : CaseRun) (first last : Nat) : Bool :=
  Nat.ble r.image last && Nat.ble first (r.image + (r.last - r.first))

/-- A run that reaches into the images of another one skips them. -/
theorem caseRuns_skip_images : ∀ r ∈ caseRuns, ∀ s ∈ caseRuns.filter fun s => r.reachedBy s.first s.last,
    (r.step = 2 ∨ r.first = r.last) ∧ s.step = 2 ∧ (r.image + s.first) % 2 = 1 := by decide +kernel

/-- An expanded character in between the images of a run is none of them. -/
theorem caseExpansions_skip_images : ∀ r ∈ caseRuns,
    ∀ e ∈ caseExpansions.filter fun e => r.reachedBy e.1 e.1, r.step = 2 ∧ (r.image + e.1) % 2 = 1 := by
  decide +kernel

/-- **The image of a character by a run** is unmapped. -/
theorem isUnmapped_of_run {r : CaseRun} (hr : r ∈ caseRuns) {k : Nat} (hk : k ≤ r.last - r.first)
    (hstep : k % r.step = 0) : IsUnmapped (r.image + k) := by
  have hreached : ∀ {first last}, first ≤ r.image + k → r.image + k ≤ last →
      r.reachedBy first last = true := by
    intro first last hfirst hlast
    rw [CaseRun.reachedBy, Bool.and_eq_true, Nat.ble_eq, Nat.ble_eq]
    omega
  constructor
  case not_expanded =>
    intro e he heq
    obtain ⟨htwo, hodd⟩ := caseExpansions_skip_images r hr e
      (List.mem_filter.mpr ⟨he, hreached (Nat.le_of_eq heq) (Nat.le_of_eq heq.symm)⟩)
    rw [htwo] at hstep
    omega
  case in_no_run =>
    intro s hs
    refine if_neg fun ⟨hfirst, hlast, hin⟩ => ?_
    obtain ⟨htwo, htwo', hodd⟩ := caseRuns_skip_images r hr s
      (List.mem_filter.mpr ⟨hs, hreached hfirst hlast⟩)
    rw [htwo'] at hin
    -- the image and the run differ by an odd number
    rcases htwo with htwo | hone
    · rw [htwo] at hstep
      omega
    · omega

/-! ## Upper case, taken twice -/

theorem caseExpansions_upperChar : ∀ e ∈ caseExpansions, ∀ code ∈ e.2,
    upperChar (Char.ofNat code) = [Char.ofNat code] := by decide +kernel

theorem ascii_upperChar_toUpper : ∀ n < 0x80,
    upperChar (Char.ofNat n).toUpper = [(Char.ofNat n).toUpper] := by decide

/-- A capital of ASCII is its own upper case. -/
theorem upperChar_of_ascii_capital : ∀ n < 0x80, (Char.ofNat n).isUpper = true →
    upperChar (Char.ofNat n) = [Char.ofNat n] := by decide

/-- **The upper-case form of a character** is in upper case. -/
theorem upperChar_of_mem {c d : Char} (hd : d ∈ upperChar c) : upperChar d = [d] := by
  rcases upperChar_cases c with
    ⟨hascii, h⟩ | ⟨codes, hmem, h⟩ | ⟨r, hr, hfirst, hlast, hstep, h⟩ | ⟨_, h⟩
  · obtain rfl : d = c.toUpper := by simpa [h] using hd
    have hupper := ascii_upperChar_toUpper c.toNat hascii
    rwa [Char.ofNat_toNat] at hupper
  · rw [h] at hd
    obtain ⟨code, hcode, rfl⟩ := List.mem_map.mp hd
    exact caseExpansions_upperChar _ hmem code hcode
  · obtain rfl : d = Char.ofNat (r.image + (c.toNat - r.first)) := by simpa [h] using hd
    have hunmapped := isUnmapped_of_run hr (Nat.sub_le_sub_right hlast r.first) hstep
    generalize hcode : r.image + (c.toNat - r.first) = code at hunmapped
    by_cases hascii : code < 0x80
    · -- only two runs have images in ASCII, and those are capitals
      have himage : r.image < 0x80 := by omega
      obtain ⟨hone, _⟩ := caseRuns_image_ascii r hr himage
      obtain rfl : code = r.image := by omega
      exact upperChar_of_ascii_capital _ hascii (caseRuns_image_capital r hr himage)
    · by_cases hvalid : code.isValidChar
      · have htoNat : (Char.ofNat code).toNat = code := by
          rw [Char.ofNat, dif_pos hvalid]
          rfl
        exact upperChar_of_isUnmapped (by omega) (by rwa [htoNat])
      · rw [Char.ofNat, dif_neg hvalid]
        decide
  · obtain rfl : d = c := by simpa [h] using hd
    exact h

/-- A text whose characters are in upper case is. -/
theorem upper_eq_self {t : Text} (h : ∀ c ∈ t, upperChar c = [c]) : upper t = t := by
  induction t with
  | nil => rfl
  | cons c t ih =>
      obtain ⟨hc, ht⟩ := List.forall_mem_cons.mp h
      rw [upper_cons, hc, ih ht]
      rfl

/-- **Upper case, taken twice,** is upper case. -/
theorem upper_upper (t : Text) : upper (upper t) = upper t := by
  refine upper_eq_self fun d hd => ?_
  obtain ⟨c, _, hd⟩ := List.mem_flatMap.mp hd
  exact upperChar_of_mem hd

/-! ## Upper case, word by word -/

theorem upper_append (t u : Text) : upper (t ++ u) = upper t ++ upper u := List.flatMap_append

theorem upper_eq_nil_iff {t : Text} : upper t = [] ↔ t = [] := by
  cases t with
  | nil => exact Iff.rfl
  | cons c t =>
      rw [upper_cons, List.append_eq_nil_iff]
      exact ⟨fun h => absurd h.1 (upperChar_ne_nil c), fun h => absurd h (by simp)⟩

/-- What holds no character of a class goes on with the first cut of what follows. -/
theorem splitOnP_append_of_forall {p : Char → Bool} {u : Text} (hu : ∀ c ∈ u, p c = false) (t : Text) :
    (u ++ t).splitOnP p = (t.splitOnP p).modifyHead (u ++ ·) := by
  induction u with
  | nil =>
      cases hsplit : t.splitOnP p with
      | nil => rw [List.nil_append, hsplit]; rfl
      | cons first more => rw [List.nil_append, hsplit]; rfl
  | cons c u ih =>
      obtain ⟨hc, hu⟩ := List.forall_mem_cons.mp hu
      rw [List.cons_append, List.splitOnP_cons_eq_if_modifyHead, if_neg (by simp [hc]), ih hu,
        List.modifyHead_modifyHead]
      rfl

/-- **The cuts of a text at its blanks** are put in upper case one by one. -/
theorem splitOnP_upper (t : Text) : (upper t).splitOnP isBlank = (t.splitOnP isBlank).map upper := by
  induction t with
  | nil => rfl
  | cons c t ih =>
      rw [upper_cons, List.splitOnP_cons_eq_if_modifyHead]
      by_cases hc : isBlank c = true
      · rw [upperChar_of_isBlank hc, List.singleton_append, List.splitOnP_cons_eq_if_modifyHead, if_pos hc,
          if_pos hc, ih]
        rfl
      · have hblank : ∀ d ∈ upperChar c, isBlank d = false := fun d hd =>
          isBlank_of_mem_upperChar hd (by simpa using hc)
        rw [splitOnP_append_of_forall hblank, if_neg hc, ih]
        cases hsplit : t.splitOnP isBlank with
        | nil => rfl
        | cons first more => rw [List.map_cons, List.modifyHead_cons, List.modifyHead_cons, List.map_cons,
            upper_cons]

/-- **The words of a text in upper case** are its words in upper case. -/
theorem words_upper (t : Text) : words (upper t) = (words t).map upper := by
  rw [words, words, splitOnP_upper, List.filter_map]
  congr 2
  funext w
  exact decide_eq_decide.mpr (not_congr upper_eq_nil_iff)

/-- Words with blanks between them are put in upper case one by one. -/
theorem upper_joinWith (ws : List Text) : upper (joinWith " " ws) = joinWith " " (ws.map upper) := by
  have hblank : upper " ".toList = " ".toList := by decide
  induction ws with
  | nil => rfl
  | cons w more ih =>
      cases more with
      | nil => rw [List.map_singleton, joinWith_singleton, joinWith_singleton]
      | cons v more =>
          rw [List.map_cons] at ih
          rw [joinWith_cons_cons, upper_append, upper_append, ih, hblank, List.map_cons, List.map_cons,
            joinWith_cons_cons]

end SqlSkim
