import Mathlib.Data.List.DropRight
import SqlSkim.Text.Basic

/-!
# `Text.Trim` — what trimming takes away

## Contents
- `trim_split`: a text is its trimmed form between two runs of blanks.
- `trimLeft_append_cons`, `trimRight_append_cons`: the blanks in front of what is none, and those behind.
- `trim_trim`: trimming twice is trimming once.
- `trim_eq_nil_iff`, `trim_pad`: blank texts, and blanks around a text.
- `isBlank_head_of_trim_eq`, `trim_cons_ne_nil`, `filter_trim`: what is left.
- `IsSolid`, `EndsSolid`: texts with nothing to trim, at all or at their end.
-/

namespace SqlSkim

theorem trimRight_eq_rdropWhile (t : Text) : trimRight t = t.rdropWhile isBlank := rfl

/-- **A text is its trimmed form between two runs of blanks.** -/
theorem trim_split (t : Text) :
    ∃ x y, t = x ++ (trim t ++ y) ∧ (∀ c ∈ x, isBlank c = true) ∧ ∀ c ∈ y, isBlank c = true := by
  refine ⟨t.takeWhile isBlank, (trimLeft t).rtakeWhile isBlank, ?_,
    fun c hc => List.mem_takeWhile_imp hc, fun c hc => List.mem_rtakeWhile_imp hc⟩
  rw [trim, trimRight_eq_rdropWhile, List.rdropWhile_append_rtakeWhile, trimLeft,
    List.takeWhile_append_dropWhile]

theorem trim_isInfix (t : Text) : trim t <:+: t := by
  obtain ⟨x, y, ht, _, _⟩ := trim_split t
  exact ⟨x, y, by rw [List.append_assoc, ← ht]⟩

/-- The blanks at the front of a text end before any other character. -/
theorem trimLeft_append_cons {c : Char} (hc : isBlank c = false) (u rest : Text) :
    trimLeft (u ++ c :: rest) = trimLeft u ++ c :: rest := by
  rw [trimLeft, List.dropWhile_append]
  split
  · next hblank =>
      rw [trimLeft, List.isEmpty_iff.mp hblank]
      exact List.dropWhile_cons_of_neg (by simp [hc])
  · rfl

theorem trimRight_isPrefix (t : Text) : trimRight t <+: t := List.rdropWhile_prefix isBlank t

/-- The blanks at the end of a text start behind any other character. -/
theorem trimRight_append_cons {c : Char} (hc : isBlank c = false) (u rest : Text) :
    trimRight (u ++ c :: rest) = u ++ c :: trimRight rest := by
  have hreverse : (u ++ c :: rest).reverse = rest.reverse ++ c :: u.reverse := by simp
  have hleft : (rest.reverse ++ c :: u.reverse).dropWhile isBlank =
      rest.reverse.dropWhile isBlank ++ c :: u.reverse := trimLeft_append_cons hc _ _
  unfold trimRight
  rw [hreverse, hleft]
  simp

/-- Trimming the end of a text that starts with no blank leaves its front as it is. -/
theorem trimLeft_trim (t : Text) : trimLeft (trim t) = trim t := by
  cases hr : trim t with
  | nil => rfl
  | cons c rest =>
      obtain ⟨more, hmore⟩ := List.rdropWhile_prefix isBlank (l := trimLeft t)
      have hfront : (t.dropWhile isBlank).head? = some c := by
        show (trimLeft t).head? = some c
        rw [← hmore, ← trimRight_eq_rdropWhile, show trimRight (trimLeft t) = c :: rest from hr]
        rfl
      have hc := List.head?_dropWhile_not isBlank t
      rw [hfront] at hc
      rw [trimLeft, List.dropWhile_cons, if_neg (by simpa using hc)]

/-- **Trimming twice is trimming once.** -/
theorem trim_trim (t : Text) : trim (trim t) = trim t := by
  have h : trim (trim t) = trimRight (trimLeft (trim t)) := rfl
  rw [h, trimLeft_trim]
  exact List.rdropWhile_idempotent isBlank (trimLeft t)

/-- **Nothing is left of a blank text**, and of no other text. -/
theorem trim_eq_nil_iff {t : Text} : trim t = [] ↔ trimLeft t = [] := by
  constructor
  · intro h
    have htrim : (trimLeft t).rdropWhile isBlank = [] := h
    rw [List.rdropWhile_eq_nil_iff] at htrim
    cases hleft : trimLeft t with
    | nil => rfl
    | cons c rest =>
        -- the first character that trimming leaves is no blank
        have hc := List.head?_dropWhile_not isBlank t
        rw [show t.dropWhile isBlank = c :: rest from hleft] at hc
        have hblank := htrim c (by rw [hleft]; exact List.mem_cons_self)
        simp [hblank] at hc
  · intro h
    rw [trim, h]
    rfl

/-- **Blanks around a text** are trimmed off. -/
theorem trim_pad {x t y : Text} (hx : ∀ c ∈ x, isBlank c = true) (hy : ∀ c ∈ y, isBlank c = true) :
    trim (x ++ (t ++ y)) = trim t := by
  have hleft : trimLeft (x ++ (t ++ y)) = trimLeft (t ++ y) := List.dropWhile_append_of_pos hx
  rw [trim, hleft]
  by_cases hblank : ∀ c ∈ t, isBlank c = true
  · have hall : trimLeft (t ++ y) = [] := by
      rw [trimLeft, List.dropWhile_eq_nil_iff]
      intro c hc
      rcases List.mem_append.mp hc with hc | hc
      · exact hblank c hc
      · exact hy c hc
    have ht : trimLeft t = [] := List.dropWhile_eq_nil_iff.mpr hblank
    rw [hall, trim_eq_nil_iff.mpr ht]
    rfl
  · have hmid : trimLeft (t ++ y) = trimLeft t ++ y := by
      rw [trimLeft, List.dropWhile_append]
      have hne : (t.dropWhile isBlank).isEmpty = false := by
        rw [List.isEmpty_eq_false_iff]
        intro hnil
        exact hblank (List.dropWhile_eq_nil_iff.mp hnil)
      rw [hne]
      rfl
    rw [hmid, trim, trimRight_eq_rdropWhile, trimRight_eq_rdropWhile, List.rdropWhile,
      List.reverse_append, List.dropWhile_append_of_pos fun c hc => hy c (List.mem_reverse.mp hc)]
    rfl

/-- A trimmed text starts with no blank. -/
theorem isBlank_head_of_trim_eq {c : Char} {t : Text} (h : trim (c :: t) = c :: t) : isBlank c = false := by
  have hleft := trimLeft_trim (c :: t)
  rw [h] at hleft
  cases hc : isBlank c with
  | false => rfl
  | true =>
      have hshorter : (trimLeft t).length ≤ t.length := (List.dropWhile_suffix isBlank).length_le
      have hlength := congrArg List.length hleft
      rw [trimLeft, List.dropWhile_cons_of_pos hc] at hlength
      exact absurd hlength (Nat.ne_of_lt (Nat.lt_succ_of_le hshorter))

/-- A text that starts with no blank is not trimmed away. -/
theorem trim_cons_ne_nil {c : Char} (hc : isBlank c = false) (t : Text) : trim (c :: t) ≠ [] := by
  rw [ne_eq, trim_eq_nil_iff, trimLeft, List.dropWhile_cons_of_neg (by simp [hc])]
  exact List.cons_ne_nil c t

/-- Trimming takes away nothing but blanks. -/
theorem filter_trim (t : Text) : (trim t).filter (!isBlank ·) = t.filter (!isBlank ·) := by
  obtain ⟨x, y, ht, hx, hy⟩ := trim_split t
  have hnone : ∀ {u : Text}, (∀ c ∈ u, isBlank c = true) → u.filter (!isBlank ·) = [] := fun hu =>
    List.filter_eq_nil_iff.mpr fun c hc => by simp [hu c hc]
  conv_rhs => rw [ht]
  rw [List.filter_append, List.filter_append, hnone hx, hnone hy, List.append_nil, List.nil_append]

/-! ## Texts with nothing to trim -/

/-- **A solid text** starts and ends with a character that is no blank. -/
structure IsSolid (t : Text) : Prop where
  head : t.head?.any (!isBlank ·) = true
  last : t.getLast?.any (!isBlank ·) = true

namespace IsSolid

variable {t u : Text}

theorem ne_nil (h : IsSolid t) : t ≠ [] := by
  rintro rfl
  exact absurd h.head (by simp)

theorem trimLeft_eq (h : IsSolid t) : trimLeft t = t := by
  have hhead := h.head
  cases t with
  | nil => rfl
  | cons c t => exact List.dropWhile_cons_of_neg (by simpa using hhead)

/-- A text without blanks. -/
theorem of_no_blank (hne : t ≠ []) (h : ∀ c ∈ t, isBlank c = false) : IsSolid t := by
  constructor
  · rw [List.head?_eq_some_head hne]
    simp [h _ (List.head_mem hne)]
  · rw [List.getLast?_eq_some_getLast hne]
    simp [h _ (List.getLast_mem hne)]

/-- **There is nothing to trim off.** -/
theorem trim_eq (h : IsSolid t) : trim t = t := by
  rw [trim, h.trimLeft_eq, trimRight_eq_rdropWhile]
  have hlast := h.last
  obtain ⟨u, c, rfl⟩ : ∃ u c, t = u ++ [c] :=
    ⟨t.dropLast, t.getLast h.ne_nil, (List.dropLast_append_getLast h.ne_nil).symm⟩
  rw [List.getLast?_concat] at hlast
  exact List.rdropWhile_concat_neg _ _ _ (by simpa using hlast)

/-- A blank behind a solid text is all there is to trim off. -/
theorem trim_blank_concat (h : IsSolid t) : trim (t ++ [' ']) = t := by
  have hpad := trim_pad (x := []) (t := t) (y := [' ']) (by simp) (List.forall_mem_singleton.mpr rfl)
  exact hpad.trans h.trim_eq

/-- Whatever stands between two solid texts, the whole is solid. -/
theorem append (ht : IsSolid t) (hu : IsSolid u) (between : Text) :
    IsSolid (t ++ (between ++ u)) := by
  constructor
  · rw [List.head?_append_of_ne_nil _ ht.ne_nil]
    exact ht.head
  · rw [← List.append_assoc, List.getLast?_append_of_ne_nil _ hu.ne_nil]
    exact hu.last

end IsSolid

/-- A text that does not end with a blank. -/
def EndsSolid (t : Text) : Prop := t.getLast?.all (!isBlank ·) = true

theorem EndsSolid.append {t u : Text} (ht : EndsSolid t) (hu : EndsSolid u) : EndsSolid (t ++ u) := by
  unfold EndsSolid
  rw [List.getLast?_append]
  cases hlast : u.getLast? with
  | none => exact ht
  | some c =>
      rw [EndsSolid, hlast] at hu
      exact hu

/-- Whatever stands before a solid text, the whole ends like it. -/
theorem IsSolid.endsSolid {t : Text} (ht : IsSolid t) (before : Text) : EndsSolid (before ++ t) := by
  have hlast := ht.last
  rw [EndsSolid, List.getLast?_append_of_ne_nil _ ht.ne_nil]
  cases h : t.getLast? with
  | none => rfl
  | some c =>
      rw [h] at hlast
      exact hlast

/-- Trimming the end of a text leaves a front of it that does not end with a blank. -/
theorem EndsSolid.isPrefix_trimRight {u : Text} (hu : EndsSolid u) (rest : Text) :
    u <+: trimRight (u ++ rest) := by
  rcases List.eq_nil_or_concat u with rfl | ⟨front, c, rfl⟩
  · exact List.nil_prefix
  · have hc : isBlank c = false := by simpa [EndsSolid] using hu
    rw [List.concat_eq_append, List.append_assoc, List.singleton_append, trimRight_append_cons hc]
    exact ⟨trimRight rest, by simp⟩

/-- Behind a solid text may stand whatever does not end with a blank. -/
theorem IsSolid.append_of_endsSolid {t u : Text} (ht : IsSolid t) (hu : EndsSolid u) :
    IsSolid (t ++ u) := by
  constructor
  · rw [List.head?_append_of_ne_nil _ ht.ne_nil]
    exact ht.head
  · rw [List.getLast?_append]
    cases hlast : u.getLast? with
    | none => exact ht.last
    | some c =>
        rw [EndsSolid, hlast] at hu
        exact hu

end SqlSkim
