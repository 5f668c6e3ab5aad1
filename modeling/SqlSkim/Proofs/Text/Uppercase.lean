import Mathlib.Data.List.Infix
import SqlSkim.Text.Alphanumeric
import SqlSkim.Text.Uppercase

/-!
# `Text.Uppercase` — what the upper-case mapping can turn into a keyword

Keywords are compared in upper case, and the full mapping reaches ASCII letters from outside ASCII: `ı`
becomes `I`, `ſ` becomes `S`, `ß` becomes `SS`. Two facts keep keyword matching under control all the
same: whatever becomes an ASCII capital is a letter itself, and most keywords are *rigid*, which means
that no expansion of one character into several fits into them, so that a match has the length of the
keyword.

## Contents
- `upperChar_cases`: the four ways in which a character is mapped.
- `isAlphanumeric_of_mem_upperChar`: only letters become ASCII capitals.
- `eq_of_mem_upperChar_ascii`: all other ASCII characters come from themselves alone.
- `IsRigid`, `isRigid_of_capital`, `length_of_upper_eq`: rigid words, and what matches them.
-/

namespace SqlSkim

/-- **The mapping of one character**: as in ASCII, by an expansion, by a run, or not at all. -/
theorem upperChar_cases (c : Char) :
    (c.toNat < 0x80 ∧ upperChar c = [c.toUpper]) ∨
    (∃ codes, (c.toNat, codes) ∈ caseExpansions ∧ upperChar c = codes.map Char.ofNat) ∨
    (∃ r ∈ caseRuns, r.first ≤ c.toNat ∧ c.toNat ≤ r.last ∧ (c.toNat - r.first) % r.step = 0 ∧
      upperChar c = [Char.ofNat (r.image + (c.toNat - r.first))]) ∨
    (0x80 ≤ c.toNat ∧ upperChar c = [c]) := by
  unfold upperChar
  by_cases hascii : c.toNat < 0x80
  · exact .inl ⟨hascii, if_pos hascii⟩
  · rw [if_neg hascii]
    cases hexp : caseExpansions.lookup c.toNat with
    | some codes =>
        obtain ⟨l₁, l₂, hl, _⟩ := List.lookup_eq_some_iff.mp hexp
        exact .inr (.inl ⟨codes, by rw [hl]; simp, rfl⟩)
    | none =>
        cases hrun : caseRuns.findSome? (·.image? c.toNat) with
        | none => exact .inr (.inr (.inr ⟨Nat.le_of_not_lt hascii, rfl⟩))
        | some code =>
            obtain ⟨r, hr, himage⟩ := List.exists_of_findSome?_eq_some hrun
            unfold CaseRun.image? at himage
            split at himage
            · next hin =>
                obtain rfl := Option.some.inj himage
                exact .inr (.inr (.inl ⟨r, hr, hin.1, hin.2.1, hin.2.2, rfl⟩))
            · exact absurd himage (by simp)

/-! ## Only letters become ASCII capitals -/

set_option maxRecDepth 4000 in
/-- Only `ı` and `ſ` are mapped into ASCII by a run. -/
theorem caseRuns_image_ascii : ∀ r ∈ caseRuns, r.image < 0x80 →
    r.first = r.last ∧ (r.first = 0x131 ∨ r.first = 0x17F) := by decide

set_option maxRecDepth 4000 in
/-- The expansions with an ASCII capital are those of letters. -/
theorem caseExpansions_capital : ∀ e ∈ caseExpansions,
    (∃ code ∈ e.2, (Char.ofNat code).isUpper = true) → isAlphanumeric (Char.ofNat e.1) = true := by
  decide

theorem isUpper_toNat_lt {c : Char} (h : c.isUpper = true) : c.toNat < 0x80 := by
  have hrange : c.val ≥ 65 ∧ c.val ≤ 90 := of_decide_eq_true h
  have hle : c.toNat ≤ 90 := hrange.2
  omega

theorem lt_of_isUpper_ofNat {n : Nat} (h : (Char.ofNat n).isUpper = true) : n < 0x80 := by
  by_cases hn : n.isValidChar
  · rw [Char.ofNat, dif_pos hn] at h
    exact isUpper_toNat_lt h
  · rw [Char.ofNat, dif_neg hn] at h
    exact absurd h (by decide)

theorem ascii_capital : ∀ n < 0x80,
    (Char.ofNat n).toUpper.isUpper = true → (Char.ofNat n).isAlphanum = true := by decide

/-- **What becomes an ASCII capital is a letter**, be it alone or within an expansion. -/
theorem isAlphanumeric_of_mem_upperChar {c d : Char} (hd : d ∈ upperChar c)
    (hcap : d.isUpper = true) : isAlphanumeric c = true := by
  rcases upperChar_cases c with ⟨hascii, h⟩ | ⟨codes, hmem, h⟩ | ⟨r, hr, hfirst, hlast, _, h⟩ | ⟨hc, h⟩
  · obtain rfl : d = c.toUpper := by simpa [h] using hd
    rw [isAlphanumeric, if_pos hascii]
    have hc := ascii_capital c.toNat hascii
    rw [Char.ofNat_toNat] at hc
    exact hc hcap
  · rw [h] at hd
    obtain ⟨code, hcode, rfl⟩ := List.mem_map.mp hd
    have hc := caseExpansions_capital _ hmem ⟨code, hcode, hcap⟩
    rwa [Char.ofNat_toNat] at hc
  · -- the image of the run lies in ASCII, so the run is one of two single characters
    obtain rfl : d = Char.ofNat (r.image + (c.toNat - r.first)) := by simpa [h] using hd
    have himage : r.image < 0x80 := by
      have hlt := lt_of_isUpper_ofNat hcap
      omega
    obtain ⟨hone, hcode⟩ := caseRuns_image_ascii r hr himage
    have hc : c = Char.ofNat r.first := by
      rw [show r.first = c.toNat by omega, Char.ofNat_toNat]
    rw [hc]
    rcases hcode with h131 | h17F
    · rw [h131]; decide
    · rw [h17F]; decide
  · obtain rfl : d = c := by simpa [h] using hd
    have hlt := isUpper_toNat_lt hcap
    omega

/-! ## All other ASCII characters come from themselves alone -/

set_option maxRecDepth 4000 in
/-- The expansions hold no ASCII characters but capitals. -/
theorem caseExpansions_ascii : ∀ e ∈ caseExpansions, ∀ code ∈ e.2,
    (Char.ofNat code).toNat < 0x80 → (Char.ofNat code).isUpper = true := by decide

set_option maxRecDepth 4000 in
/-- The images of `ı` and `ſ` are capitals. -/
theorem caseRuns_image_capital : ∀ r ∈ caseRuns, r.image < 0x80 →
    (Char.ofNat r.image).isUpper = true := by decide

theorem ascii_toUpper : ∀ n < 0x80, (Char.ofNat n).toUpper.isUpper = false →
    (Char.ofNat n).toUpper = Char.ofNat n := by decide

/-- **What becomes an ASCII character other than a capital** is that character. -/
theorem eq_of_mem_upperChar_ascii {c d : Char} (hd : d ∈ upperChar c) (hascii : d.toNat < 0x80)
    (hpos : 0 < d.toNat) (hcap : d.isUpper = false) : d = c := by
  rcases upperChar_cases c with ⟨hc, h⟩ | ⟨codes, hmem, h⟩ | ⟨r, hr, hfirst, hlast, _, h⟩ | ⟨hc, h⟩
  · obtain rfl : d = c.toUpper := by simpa [h] using hd
    have hsame := ascii_toUpper c.toNat hc
    rw [Char.ofNat_toNat] at hsame
    exact hsame hcap
  · rw [h] at hd
    obtain ⟨code, hcode, rfl⟩ := List.mem_map.mp hd
    have hup := caseExpansions_ascii _ hmem code hcode hascii
    rw [hup] at hcap
    exact absurd hcap (by decide)
  · -- the code points of a run that lie in ASCII are a single capital
    obtain rfl : d = Char.ofNat (r.image + (c.toNat - r.first)) := by simpa [h] using hd
    have himage : r.image < 0x80 := by
      by_cases hvalid : (r.image + (c.toNat - r.first)).isValidChar
      · rw [Char.ofNat, dif_pos hvalid] at hascii
        have hle : r.image + (c.toNat - r.first) < 0x80 := hascii
        omega
      · rw [Char.ofNat, dif_neg hvalid] at hpos
        exact absurd hpos (by decide)
    obtain ⟨hone, _⟩ := caseRuns_image_ascii r hr himage
    have hup := caseRuns_image_capital r hr himage
    rw [show r.image + (c.toNat - r.first) = r.image by omega, hup] at hcap
    exact absurd hcap (by decide)
  · simpa [h] using hd

/-! ## Lengths -/

theorem upperChar_ne_nil (c : Char) : upperChar c ≠ [] := by
  have hexp : ∀ e ∈ caseExpansions, e.2 ≠ [] := by decide
  rcases upperChar_cases c with ⟨_, h⟩ | ⟨codes, hmem, h⟩ | ⟨r, _, _, _, _, h⟩ | ⟨_, h⟩
  · simp [h]
  · simpa [h] using hexp _ hmem
  · simp [h]
  · simp [h]

/-- **A rigid word** is one into which no expansion of a character fits. -/
def IsRigid (w : Text) : Prop := ∀ e ∈ caseExpansions, ¬ e.2.map Char.ofNat <:+: w

instance (w : Text) : Decidable (IsRigid w) :=
  inferInstanceAs (Decidable (∀ e ∈ caseExpansions, ¬ e.2.map Char.ofNat <:+: w))

/-- The upper-case forms of several capitals that single characters have. -/
def capitalExpansions : List Text := ["SS", "FF", "FI", "FL", "FFI", "FFL", "ST"].map String.toList

theorem mem_capitalExpansions : ∀ e ∈ caseExpansions,
    (∀ code ∈ e.2, (Char.ofNat code).isUpper = true) → e.2.map Char.ofNat ∈ capitalExpansions := by
  decide +kernel

/-- A word of capitals is rigid if none of these fits into it. -/
theorem isRigid_of_capital {w : Text} (hcapital : ∀ c ∈ w, c.isUpper = true)
    (h : ∀ u ∈ capitalExpansions, ¬ u <:+: w) : IsRigid w := by
  intro e he hin
  apply h _ (mem_capitalExpansions e he ?_) hin
  intro code hcode
  exact hcapital _ (hin.subset (List.mem_map_of_mem hcode))

/-- A character whose upper-case form lies within a rigid word has one of length one. -/
theorem IsRigid.length_upperChar {w : Text} (hw : IsRigid w) {c : Char} (hc : upperChar c <:+: w) :
    (upperChar c).length = 1 := by
  rcases upperChar_cases c with ⟨_, h⟩ | ⟨codes, hmem, h⟩ | ⟨r, _, _, _, _, h⟩ | ⟨_, h⟩
  · rw [h]; rfl
  · rw [h] at hc
    exact absurd hc (hw _ hmem)
  · rw [h]; rfl
  · rw [h]; rfl

theorem upper_cons (c : Char) (t : Text) : upper (c :: t) = upperChar c ++ upper t :=
  List.flatMap_cons

/-- The upper-case form of each character lies within that of the text. -/
theorem upperChar_infix_upper {t : Text} {c : Char} (hc : c ∈ t) : upperChar c <:+: upper t := by
  obtain ⟨u, v, rfl⟩ := List.append_of_mem hc
  rw [upper, List.flatMap_append, List.flatMap_cons]
  exact ⟨_, _, List.append_assoc _ _ _⟩

/-- **A match of a rigid word is as long as the word.** -/
theorem length_of_upper_eq {t w : Text} (hw : IsRigid w) (h : upper t = w) : t.length = w.length := by
  have hone : ∀ c ∈ t, (upperChar c).length = 1 := fun c hc =>
    hw.length_upperChar (h ▸ upperChar_infix_upper hc)
  rw [← h]
  clear h
  induction t with
  | nil => rfl
  | cons c t ih =>
      rw [upper_cons, List.length_append, hone c (by simp), List.length_cons,
        ih fun d hd => hone d (List.mem_cons_of_mem c hd)]
      omega

end SqlSkim
