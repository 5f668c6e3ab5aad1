import SqlSkim.Text.Basic

/-!
# `Text.Words` — the words of a text

## Contents
- `mem_words`: a word is not empty, holds no blank, and holds only characters of the text.
- `words_eq_nil_iff`: only a blank text has no words.
- `joinWith_singleton`, `joinWith_cons_cons`, `mem_joinWith`: texts joined again; `words_joinWith`: words
  joined and found again.
-/

namespace SqlSkim

/-- The cuts made at characters hold the other characters of the text and no more. -/
theorem mem_of_mem_splitOnP {p : Char → Bool} {t w : Text} (hw : w ∈ t.splitOnP p) {c : Char}
    (hc : c ∈ w) : p c = false ∧ c ∈ t := by
  induction t generalizing w with
  | nil =>
      obtain rfl : w = [] := by simpa [List.splitOnP_nil] using hw
      exact absurd hc (by simp)
  | cons d t ih =>
      rw [List.splitOnP_cons_eq_if_modifyHead] at hw
      by_cases hd : p d = true
      · rw [if_pos hd] at hw
        rcases List.mem_cons.mp hw with rfl | hw
        · exact absurd hc (by simp)
        · obtain ⟨hp, hmem⟩ := ih hw hc
          exact ⟨hp, List.mem_cons_of_mem d hmem⟩
      · -- `d` is put in front of the first cut of what follows
        rw [if_neg hd] at hw
        cases hsplit : t.splitOnP p with
        | nil => exact absurd hsplit (List.splitOnP_ne_nil p t)
        | cons first more =>
            rw [hsplit] at hw ih
            rcases List.mem_cons.mp hw with rfl | hw
            · rcases List.mem_cons.mp hc with rfl | hc
              · exact ⟨by simpa using hd, List.mem_cons_self⟩
              · obtain ⟨hp, hmem⟩ := ih List.mem_cons_self hc
                exact ⟨hp, List.mem_cons_of_mem d hmem⟩
            · obtain ⟨hp, hmem⟩ := ih (List.mem_cons_of_mem first hw) hc
              exact ⟨hp, List.mem_cons_of_mem d hmem⟩

/-- **A word** is not empty, holds no blank, and holds only characters of the text. -/
theorem mem_words {t w : Text} (hw : w ∈ words t) :
    w ≠ [] ∧ ∀ c ∈ w, isBlank c = false ∧ c ∈ t := by
  obtain ⟨hw, hne⟩ := List.mem_filter.mp hw
  exact ⟨by simpa using hne, fun c hc => mem_of_mem_splitOnP hw hc⟩

theorem words_cons (c : Char) (t : Text) :
    isBlank c = true ∧ words (c :: t) = words t ∨ isBlank c = false ∧ words (c :: t) ≠ [] := by
  unfold words
  rw [List.splitOnP_cons_eq_if_modifyHead]
  cases hc : isBlank c with
  | true => exact .inl ⟨rfl, by simp⟩
  | false =>
      -- the character starts the first cut, or goes on with it
      obtain ⟨first, more, hsplit⟩ := List.exists_cons_of_ne_nil (List.splitOnP_ne_nil isBlank t)
      exact .inr ⟨rfl, by simp [hsplit]⟩

/-- **Only a blank text has no words.** -/
theorem words_eq_nil_iff {t : Text} : words t = [] ↔ ∀ c ∈ t, isBlank c = true := by
  induction t with
  | nil => simp [words, List.splitOnP_nil]
  | cons c t ih =>
      rw [List.forall_mem_cons, ← ih]
      rcases words_cons c t with ⟨hc, hwords⟩ | ⟨hc, hwords⟩
      · simp [hc, hwords]
      · simp [hc, hwords]

/-! ## Joining -/

theorem joinWith_singleton (sep : String) (t : Text) : joinWith sep [t] = t :=
  List.intercalate_singleton

theorem joinWith_cons_cons (sep : String) (t u : Text) (more : List Text) :
    joinWith sep (t :: u :: more) = t ++ (sep.toList ++ joinWith sep (u :: more)) := by
  rw [joinWith, List.intercalate_cons_cons, List.append_assoc]
  rfl

/-- A character of joined texts is one of the separator, or of one of the texts. -/
theorem mem_joinWith {sep : String} {ts : List Text} {c : Char} (hc : c ∈ joinWith sep ts) :
    c ∈ sep.toList ∨ ∃ t ∈ ts, c ∈ t := by
  induction ts with
  | nil => exact absurd hc (by simp [joinWith])
  | cons t more ih =>
      cases more with
      | nil =>
          rw [joinWith_singleton] at hc
          exact .inr ⟨t, by simp, hc⟩
      | cons u more =>
          rw [joinWith_cons_cons, List.mem_append, List.mem_append] at hc
          rcases hc with hc | hc | hc
          · exact .inr ⟨t, by simp, hc⟩
          · exact .inl hc
          · exact (ih hc).imp id fun ⟨v, hv, hcv⟩ => ⟨v, List.mem_cons_of_mem t hv, hcv⟩

/-- Joining with blanks adds nothing but blanks. -/
theorem filter_joinWith (ts : List Text) :
    (joinWith " " ts).filter (!isBlank ·) = ts.flatten.filter (!isBlank ·) := by
  induction ts with
  | nil => rfl
  | cons t more ih =>
      cases more with
      | nil => rw [joinWith_singleton, List.flatten_singleton]
      | cons u more =>
          rw [joinWith_cons_cons, List.flatten_cons, List.filter_append, List.filter_append, ih,
            List.filter_append]
          rfl

/-- **Words with blanks between them** are found again. -/
theorem words_joinWith {ws : List Text} (hne : ∀ w ∈ ws, w ≠ [])
    (hblank : ∀ w ∈ ws, ∀ c ∈ w, isBlank c = false) : words (joinWith " " ws) = ws := by
  induction ws with
  | nil => rfl
  | cons w more ih =>
      obtain ⟨hw, hmore⟩ := List.forall_mem_cons.mp hne
      obtain ⟨hwblank, hmoreblank⟩ := List.forall_mem_cons.mp hblank
      cases more with
      | nil =>
          rw [joinWith_singleton, words, List.splitOnP_eq_singleton hwblank]
          simp [hw]
      | cons v more =>
          have hsplit : words (w ++ ' ' :: joinWith " " (v :: more)) =
              w :: words (joinWith " " (v :: more)) := by
            unfold words
            rw [List.splitOnP_append_cons_of_forall_mem hwblank ' ' rfl, List.filter_cons_of_pos]
            simpa using hw
          rw [joinWith_cons_cons]
          exact hsplit.trans (congrArg (w :: ·) (ih hmore hmoreblank))

end SqlSkim
