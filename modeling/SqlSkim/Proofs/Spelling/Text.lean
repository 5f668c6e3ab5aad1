import Mathlib.Data.List.Forall2
import SqlSkim.Proofs.Scan.Keyword
import SqlSkim.Proofs.Text.Trim

/-!
# `Spelling.Text` — letter case and kinds of blanks

Two texts are *alike* if they differ at most in the case of ASCII letters and in which blanks they use. This
module says what the operations on texts do with alike texts. The one that is not plain is upper case: it
makes the letters of two alike texts equal and leaves their blanks as different as they are, so their upper
case is compared with words that hold no blank, as all the words of keywords do.

## Contents
- `AlikeChar`, `Alike`: the relation on characters and on texts.
- `AlikeChar.isBlank_eq` and its like: the classes of characters.
- `Alike.takeWhile`, `Alike.dropWhile`, `Alike.trim`: cutting blanks off.
- `upperChar_of_isBlank`, `no_blank_upper`, `no_blank_of_upper_eq`, `Unbroken`: upper case and blanks.
- `Alike.upper_eq_iff`: upper case and words.
-/

namespace SqlSkim

/-! ## Alike characters -/

/-- **Alike characters**: equal ones, the two cases of an ASCII letter, or two blanks. -/
inductive AlikeChar (c d : Char) : Prop where
  | same : c = d → AlikeChar c d
  | letter : c.isAlpha = true → d.isAlpha = true → c.toUpper = d.toUpper → AlikeChar c d
  | blank : isBlank c = true → isBlank d = true → AlikeChar c d

theorem alikeChar_iff {c d : Char} : AlikeChar c d ↔
    c = d ∨ (c.isAlpha = true ∧ d.isAlpha = true ∧ c.toUpper = d.toUpper) ∨
      (isBlank c = true ∧ isBlank d = true) := by
  constructor
  · intro h
    cases h with
    | same heq => exact .inl heq
    | letter hc hd hup => exact .inr (.inl ⟨hc, hd, hup⟩)
    | blank hc hd => exact .inr (.inr ⟨hc, hd⟩)
  · rintro (heq | ⟨hc, hd, hup⟩ | ⟨hc, hd⟩)
    · exact .same heq
    · exact .letter hc hd hup
    · exact .blank hc hd

instance (c d : Char) : Decidable (AlikeChar c d) := decidable_of_iff _ alikeChar_iff.symm

/-- **Alike texts** are of one length, and alike character by character. -/
abbrev Alike : Text → Text → Prop := List.Forall₂ AlikeChar

theorem toNat_lt_of_isAlpha {c : Char} (h : c.isAlpha = true) : c.toNat < 0x80 := by
  rcases Bool.or_eq_true _ _ ▸ h with hup | hlow
  · exact isUpper_toNat_lt hup
  · have hrange : (decide (c.val ≥ 97) && decide (c.val ≤ 122)) = true := hlow
    have hle : c.toNat ≤ 122 := of_decide_eq_true (Bool.and_eq_true_iff.mp hrange).2
    omega

theorem toNat_lt_of_isAlphanum {c : Char} (h : c.isAlphanum = true) : c.toNat < 0x80 := by
  rcases Bool.or_eq_true _ _ ▸ h with halpha | hdigit
  · exact toNat_lt_of_isAlpha halpha
  · have hrange : (decide (c.val ≥ 48) && decide (c.val ≤ 57)) = true := hdigit
    have hle : c.toNat ≤ 57 := of_decide_eq_true (Bool.and_eq_true_iff.mp hrange).2
    omega

/-- ASCII letters and digits make up words. -/
theorem isWordChar_of_isAlphanum {c : Char} (h : c.isAlphanum = true) : isWordChar c = true := by
  rw [isWordChar, isAlphanumeric, if_pos (toNat_lt_of_isAlphanum h), h, Bool.true_or]

theorem isWordChar_of_isAlpha {c : Char} (h : c.isAlpha = true) : isWordChar c = true := by
  apply isWordChar_of_isAlphanum
  rw [Char.isAlphanum, h, Bool.true_or]

theorem isBlank_of_isWordChar {c : Char} (h : isWordChar c = true) : isBlank c = false := by
  by_contra hblank
  rw [isWordChar_of_isBlank (by simpa using hblank)] at h
  exact absurd h (by decide)

namespace AlikeChar

variable {c d : Char}

/-- A class of characters does not tell alike ones apart if it holds all letters or none, and all blanks or
    none. -/
theorem class_eq {p : Char → Bool} (h : AlikeChar c d) (letters blanks : Bool)
    (hletters : ∀ e : Char, e.isAlpha = true → p e = letters)
    (hblanks : ∀ e, isBlank e = true → p e = blanks) : p c = p d := by
  cases h with
  | same heq => rw [heq]
  | letter hc hd _ => rw [hletters c hc, hletters d hd]
  | blank hc hd => rw [hblanks c hc, hblanks d hd]

theorem isBlank_eq (h : AlikeChar c d) : isBlank c = isBlank d :=
  h.class_eq false true (fun _ he => isBlank_of_isWordChar (isWordChar_of_isAlpha he)) fun _ he => he

theorem isWordChar_eq (h : AlikeChar c d) : isWordChar c = isWordChar d :=
  h.class_eq true false (fun _ he => isWordChar_of_isAlpha he) fun _ he => isWordChar_of_isBlank he

theorem isAlpha_eq (h : AlikeChar c d) : c.isAlpha = d.isAlpha := by
  refine h.class_eq true false (fun _ he => he) fun e he => ?_
  by_contra halpha
  rw [isBlank_of_isWordChar (isWordChar_of_isAlpha (by simpa using halpha))] at he
  exact absurd he (by decide)

theorem isAlphanum_eq (h : AlikeChar c d) : c.isAlphanum = d.isAlphanum := by
  refine h.class_eq true false (fun e he => ?_) fun e he => ?_
  · rw [Char.isAlphanum, he, Bool.true_or]
  · by_contra halnum
    rw [Bool.not_eq_false] at halnum
    rw [isBlank_of_isWordChar (isWordChar_of_isAlphanum halnum)] at he
    exact absurd he (by decide)

/-- A character that is neither a letter nor a blank is alike to itself only. -/
theorem eq_iff {x : Char} (h : AlikeChar c d) (hletter : x.isAlpha = false) (hblank : isBlank x = false) :
    c = x ↔ d = x := by
  have hclass : decide (c = x) = decide (d = x) := by
    refine h.class_eq (p := fun e => decide (e = x)) false false ?_ ?_
    · intro e he
      refine decide_eq_false ?_
      rintro rfl
      simp [he] at hletter
    · intro e he
      refine decide_eq_false ?_
      rintro rfl
      simp [he] at hblank
  exact decide_eq_decide.mp hclass

/-- A set of characters that holds neither letters nor blanks does not tell alike ones apart. -/
theorem contains_eq {xs : List Char} (h : AlikeChar c d)
    (hxs : xs.all (fun x => !x.isAlpha && !isBlank x) = true) : xs.contains c = xs.contains d := by
  induction xs with
  | nil => rfl
  | cons x xs ih =>
      rw [List.all_cons, Bool.and_eq_true, Bool.and_eq_true, Bool.not_eq_true', Bool.not_eq_true'] at hxs
      rw [List.contains_cons, List.contains_cons, ih hxs.2]
      congr 1
      rw [Bool.eq_iff_iff, beq_iff_eq, beq_iff_eq]
      exact h.eq_iff hxs.1.1 hxs.1.2

/-- Upper case makes alike characters equal, but for blanks. -/
theorem upperChar_eq (h : AlikeChar c d) (hblank : isBlank c = false) : upperChar c = upperChar d := by
  cases h with
  | same heq => rw [heq]
  | letter hc hd hup =>
      rw [upperChar, upperChar, if_pos (toNat_lt_of_isAlpha hc), if_pos (toNat_lt_of_isAlpha hd), hup]
  | blank hc _ =>
      rw [hblank] at hc
      exact absurd hc (by decide)

end AlikeChar

/-! ## Upper case and blanks -/

/-- No blank has another upper case. -/
theorem blankRanges_upperChar : ∀ r ∈ blankRanges, r.2 - r.1 < 11 ∧ ∀ k < 11, k ≤ r.2 - r.1 →
    upperChar (Char.ofNat (r.1 + k)) = [Char.ofNat (r.1 + k)] := by decide +kernel

theorem upperChar_of_isBlank {c : Char} (h : isBlank c = true) : upperChar c = [c] := by
  obtain ⟨r, hr, hfirst, hlast⟩ := exists_of_inRanges h
  obtain ⟨hlen, hupper⟩ := blankRanges_upperChar r hr
  have hc := hupper (c.toNat - r.1) (by omega) (by omega)
  rwa [show r.1 + (c.toNat - r.1) = c.toNat by omega, Char.ofNat_toNat] at hc

/-- The images of the runs are no blanks. -/
theorem caseRuns_not_blank : ∀ r ∈ caseRuns, ∀ b ∈ blankRanges,
    b.2 < r.image ∨ r.image + (r.last - r.first) < b.1 := by decide +kernel

theorem caseExpansions_not_blank : ∀ e ∈ caseExpansions, ∀ code ∈ e.2,
    isBlank (Char.ofNat code) = false := by decide +kernel

theorem ascii_not_blank : ∀ n < 0x80, isBlank (Char.ofNat n) = false →
    isBlank (Char.ofNat n).toUpper = false := by decide +kernel

/-- **Upper case brings no blank about.** -/
theorem isBlank_of_mem_upperChar {c d : Char} (hd : d ∈ upperChar c) (hc : isBlank c = false) :
    isBlank d = false := by
  rcases upperChar_cases c with ⟨hascii, h⟩ | ⟨codes, hmem, h⟩ | ⟨r, hr, hfirst, hlast, _, h⟩ | ⟨_, h⟩
  · obtain rfl : d = c.toUpper := by simpa [h] using hd
    have hup := ascii_not_blank c.toNat hascii
    rw [Char.ofNat_toNat] at hup
    exact hup hc
  · rw [h] at hd
    obtain ⟨code, hcode, rfl⟩ := List.mem_map.mp hd
    exact caseExpansions_not_blank _ hmem code hcode
  · obtain rfl : d = Char.ofNat (r.image + (c.toNat - r.first)) := by simpa [h] using hd
    by_contra hblank
    rw [Bool.not_eq_false] at hblank
    obtain ⟨b, hb, hlow, hhigh⟩ := exists_of_inRanges hblank
    by_cases hvalid : (r.image + (c.toNat - r.first)).isValidChar
    · have hnat : (Char.ofNat (r.image + (c.toNat - r.first))).toNat =
          r.image + (c.toNat - r.first) := by
        rw [Char.ofNat, dif_pos hvalid]
        rfl
      rw [hnat] at hlow hhigh
      have hapart := caseRuns_not_blank r hr b hb
      omega
    · -- a code point that is no character stands for the null character
      rw [Char.ofNat, dif_neg hvalid] at hblank
      exact absurd hblank (by decide)
  · obtain rfl : d = c := by simpa [h] using hd
    exact hc

theorem no_blank_upper {t : Text} (ht : ∀ c ∈ t, isBlank c = false) : ∀ c ∈ upper t, isBlank c = false := by
  intro d hd
  obtain ⟨c, hc, hd⟩ := List.mem_flatMap.mp hd
  exact isBlank_of_mem_upperChar hd (ht c hc)

/-- What has no blank in upper case has none. -/
theorem no_blank_of_upper_eq {t w : Text} (hw : ∀ c ∈ w, isBlank c = false) (h : upper t = w) :
    ∀ c ∈ t, isBlank c = false := by
  intro c hc
  by_contra hblank
  have hself := upperChar_of_isBlank (by simpa using hblank)
  exact hblank (hw c (h ▸ (upperChar_infix_upper hc).subset (by simp [hself])))

/-- Words are **unbroken** if none of them holds a blank. -/
def Unbroken (ws : List Text) : Prop := ∀ w ∈ ws, ∀ c ∈ w, isBlank c = false

theorem unbroken_of_all {ws : List Text} (h : ws.all (·.all (!isBlank ·)) = true) : Unbroken ws := by
  intro w hw c hc
  have hword := List.all_eq_true.mp h w hw
  simpa using List.all_eq_true.mp hword c hc

/-! ## Alike texts -/

section Cutting

variable {α β : Type} {R : α → β → Prop} {xs : List α} {ys : List β} {p : α → Bool} {q : β → Bool}

theorem forall₂_takeWhile (hpq : ∀ a b, R a b → p a = q b) (h : List.Forall₂ R xs ys) :
    List.Forall₂ R (xs.takeWhile p) (ys.takeWhile q) := by
  induction h with
  | nil => exact .nil
  | @cons a b xs ys hab _ ih =>
      rw [List.takeWhile_cons, List.takeWhile_cons, ← hpq a b hab]
      split
      · exact .cons hab ih
      · exact .nil

theorem forall₂_dropWhile (hpq : ∀ a b, R a b → p a = q b) (h : List.Forall₂ R xs ys) :
    List.Forall₂ R (xs.dropWhile p) (ys.dropWhile q) := by
  induction h with
  | nil => exact .nil
  | @cons a b xs ys hab h ih =>
      rw [List.dropWhile_cons, List.dropWhile_cons, ← hpq a b hab]
      split
      · exact ih
      · exact .cons hab h

end Cutting

namespace Alike

variable {t t' : Text}

theorem refl (t : Text) : Alike t t := List.forall₂_same.mpr fun _ _ => .same rfl

theorem eq_nil_iff (h : Alike t t') : t = [] ↔ t' = [] := by
  rw [← List.length_eq_zero_iff, ← List.length_eq_zero_iff, h.length_eq]

theorem trimLeft (h : Alike t t') : Alike (SqlSkim.trimLeft t) (SqlSkim.trimLeft t') :=
  forall₂_dropWhile (fun _ _ => AlikeChar.isBlank_eq) h

/-- **Trimming** takes the same characters away. -/
theorem trim (h : Alike t t') : Alike (SqlSkim.trim t) (SqlSkim.trim t') := by
  have hback : Alike (SqlSkim.trimLeft t).reverse (SqlSkim.trimLeft t').reverse :=
    List.rel_reverse h.trimLeft
  exact List.rel_reverse (forall₂_dropWhile (fun _ _ => AlikeChar.isBlank_eq) hback)

/-- As many blanks stand in front. -/
theorem length_blanks (h : Alike t t') :
    (t.takeWhile isBlank).length = (t'.takeWhile isBlank).length :=
  (forall₂_takeWhile (p := isBlank) (q := isBlank) (fun _ _ => AlikeChar.isBlank_eq) h).length_eq

/-- A character that is neither a letter nor a blank stands in both texts or in neither. -/
theorem contains_eq (h : Alike t t') {x : Char} (hletter : x.isAlpha = false) (hblank : isBlank x = false) :
    t.contains x = t'.contains x := by
  induction h with
  | nil => rfl
  | cons hcd _ ih =>
      rw [List.contains_cons, List.contains_cons, ih]
      congr 1
      rw [Bool.eq_iff_iff, beq_iff_eq, beq_iff_eq, eq_comm, hcd.eq_iff hletter hblank, eq_comm]

theorem symm (h : Alike t t') : Alike t' t := by
  refine List.Forall₂.flip (h.imp fun c d hcd => ?_)
  cases hcd with
  | same heq => exact .same heq.symm
  | letter hc hd hup => exact .letter hd hc hup.symm
  | blank hc hd => exact .blank hd hc

/-- Upper case makes alike texts without blanks equal. -/
theorem upper_eq (h : Alike t t') (ht : ∀ c ∈ t, isBlank c = false) : upper t = upper t' := by
  induction h with
  | nil => rfl
  | cons hcd _ ih =>
      rw [List.forall_mem_cons] at ht
      rw [upper_cons, upper_cons, hcd.upperChar_eq ht.1, ih ht.2]

/-- **In upper case, alike texts are the same words.** -/
theorem upper_eq_iff (h : Alike t t') {w : Text} (hw : ∀ c ∈ w, isBlank c = false) :
    upper t = w ↔ upper t' = w := by
  have hone : ∀ {u u' : Text}, Alike u u' → upper u = w → upper u' = w := by
    intro u u' hu hup
    rw [← hu.upper_eq (no_blank_of_upper_eq hw hup), hup]
  exact ⟨hone h, hone h.symm⟩

/-- The same words of a table of words without blanks. -/
theorem contains_upper_eq (h : Alike t t') {ws : List Text} (hws : Unbroken ws) :
    ws.contains (upper t) = ws.contains (upper t') := by
  rw [Bool.eq_iff_iff, List.contains_iff_mem, List.contains_iff_mem]
  constructor
  · intro hmem
    rwa [(h.upper_eq_iff (hws _ hmem)).mp rfl]
  · intro hmem
    rwa [(h.upper_eq_iff (hws _ hmem)).mpr rfl]

end Alike

end SqlSkim
