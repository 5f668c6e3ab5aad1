import SqlSkim.Scan.Identifier
import SqlSkim.Scan.Phrase

/-!
# `Checked.Look` — walks along a text with an offset

The scans of this library take texts apart from the front, where nothing can go wrong. A program that walks
along a text with an offset asks for the character at that offset, and there may be none. The functions of
`Checked` do just that: every character and every entry of a list is asked for by its offset, and asking
behind the end is an error. Here is how it is asked, and the walks over runs of characters and names, each
with the scan that it agrees with and so never fails.

## Contents
- `itemAt`, `headAt`: an entry by its index. `slice_natCast`: slices, which are clamped and cannot fail.
- `Checked.runEnd`, `Checked.readIdentifier`, `Checked.identifier?`: runs of characters and names.
-/

namespace SqlSkim

variable {α β : Type}

/-! ## Results that are there -/

theorem ok_bind (a : α) (f : α → Except OffsetError β) : (Except.ok a >>= f) = f a := rfl

theorem pure_eq_ok (a : α) : (pure a : Except OffsetError α) = .ok a := rfl

/-- A function that never fails on the entries of a list can be mapped over it. -/
theorem mapM_ok {f : α → Except OffsetError β} {g : α → β} {items : List α}
    (h : ∀ a ∈ items, f a = .ok (g a)) : items.mapM f = .ok (items.map g) := by
  induction items with
  | nil => rfl
  | cons a more ih =>
      rw [List.mapM_cons, h a (by simp), ih fun b hb => h b (List.mem_cons_of_mem a hb)]
      rfl

/-! ## Entries by their index -/

/-- The entry of a list at an index. Asking behind the end is an error. -/
def itemAt (items : List α) (i : Nat) : Except OffsetError α :=
  match items[i]? with
  | some item => .ok item
  | none => .error (.ofOffset (i + 1))

/-- Asking fails behind the end and nowhere else. -/
theorem itemAt_error_iff {items : List α} {i : Nat} :
    (∃ e, itemAt items i = .error e) ↔ items.length ≤ i := by
  rw [itemAt, ← List.getElem?_eq_none_iff]
  cases items[i]? <;> simp

theorem itemAt_of_length_le {items : List α} {i : Nat} (h : items.length ≤ i) :
    itemAt items i = .error (.ofOffset (i + 1)) := by
  rw [itemAt, List.getElem?_eq_none_iff.mpr h]

/-- What is left of a text at an offset says what stands there, and what is left behind it. -/
theorem itemAt_of_drop {t rest : List α} {i : Nat} {c : α} (h : t.drop i = c :: rest) :
    i < t.length ∧ itemAt t i = .ok c ∧ t.drop (i + 1) = rest := by
  have hlt : i < t.length := by
    rcases Nat.lt_or_ge i t.length with hlt | hle
    · exact hlt
    · rw [List.drop_of_length_le hle] at h
      exact absurd h (by simp)
  obtain ⟨hc, hrest⟩ : t[i] = c ∧ t.drop (i + 1) = rest := by
    rw [List.drop_eq_getElem_cons hlt] at h
    exact List.cons.inj h
  exact ⟨hlt, by rw [itemAt, List.getElem?_eq_getElem hlt, hc], hrest⟩

/-- The first entry of a list, if it has one: asked for only where there is one. -/
def headAt (items : List α) : Except OffsetError (Option α) :=
  if items = [] then return none else return some (← itemAt items 0)

theorem headAt_eq (items : List α) : headAt items = .ok items.head? := by
  cases items <;> rfl

/-- Slices between offsets are clamped, so they can be taken anywhere. -/
theorem slice_natCast (t : Text) (start stop : Nat) :
    slice t start stop = (t.drop start).take (stop - start) := by
  have hclamp : ∀ n : Nat, clampOffset t.length n = min n t.length := by
    intro n
    rw [clampOffset, if_neg (by omega), Int.toNat_natCast]
  rw [slice, hclamp, hclamp]
  -- behind the end of the text there is nothing to take on either side
  rcases Nat.le_total start t.length with h | h
  · rw [Nat.min_eq_left h]
    rcases Nat.le_total stop t.length with hs | hs
    · rw [Nat.min_eq_left hs]
    · have hdrop : (t.drop start).length = t.length - start := List.length_drop
      rw [Nat.min_eq_right hs, List.take_of_length_le (by omega), List.take_of_length_le (by omega)]
  · rw [Nat.min_eq_right h, List.drop_length, List.drop_of_length_le h, List.take_nil, List.take_nil]

namespace Checked

/-! ## Runs and names -/

/-- The offset behind the run of characters of a kind that starts at an offset. -/
def runEnd (p : Char → Bool) (t : Text) (i : Nat) : Except OffsetError Nat :=
  if i < t.length then do
    if p (← itemAt t i) then runEnd p t (i + 1) else return i
  else return i
termination_by t.length - i

theorem runEnd_eq (p : Char → Bool) (t : Text) (i : Nat) :
    runEnd p t i = .ok (i + ((t.drop i).takeWhile p).length) := by
  induction h : t.drop i generalizing i with
  | nil =>
      rw [runEnd, if_neg (Nat.not_lt.mpr (List.drop_eq_nil_iff.mp h))]
      rfl
  | cons c rest ih =>
      obtain ⟨hlt, hc, hrest⟩ := itemAt_of_drop h
      rw [runEnd, if_pos hlt, hc, ok_bind, List.takeWhile_cons]
      cases p c with
      | false => rfl
      | true =>
          rw [if_pos rfl, if_pos rfl, ih (i + 1) hrest, List.length_cons]
          congr 1
          omega

/-- The name behind any blanks at an offset, and the offset behind it. -/
def readIdentifier (t : Text) (pos : Nat) : Except OffsetError (Text × Nat) := do
  let start ← runEnd isBlank t pos
  let stop ← runEnd (!endsIdentifier ·) t start
  return (slice t start stop, stop)

theorem drop_takeWhile_length (p : Char → Bool) (t : Text) :
    t.drop (t.takeWhile p).length = t.dropWhile p := by
  have hsplit := List.takeWhile_append_dropWhile (p := p) (l := t)
  calc t.drop (t.takeWhile p).length
      = (t.takeWhile p ++ t.dropWhile p).drop (t.takeWhile p).length := by rw [hsplit]
    _ = t.dropWhile p := List.drop_left

/-- The text without the blanks at its front is what is left behind them. -/
theorem drop_blanks (t : Text) : t.drop (t.takeWhile isBlank).length = trimLeft t :=
  drop_takeWhile_length isBlank t

theorem take_takeWhile_length (p : Char → Bool) (t : Text) :
    t.take (t.takeWhile p).length = t.takeWhile p :=
  List.prefix_iff_eq_take.mp (List.takeWhile_prefix p) |>.symm

theorem readIdentifier_eq (t : Text) (pos : Nat) :
    readIdentifier t pos = .ok ((SqlSkim.readIdentifier (t.drop pos)).1,
      pos + (SqlSkim.readIdentifier (t.drop pos)).2) := by
  rw [readIdentifier, runEnd_eq, ok_bind, runEnd_eq, ok_bind, ← List.drop_drop, drop_blanks,
    slice_natCast, Nat.add_sub_cancel_left, ← List.drop_drop, drop_blanks, take_takeWhile_length,
    Nat.add_assoc]
  rfl

/-- The name at an offset, if there is one. -/
def identifier? (t : Text) (pos : Nat) : Except OffsetError (Option Text) := do
  match ← readIdentifier t pos with
  | ([], _) => return none
  | (name, _) => return some name

theorem identifier?_eq (t : Text) (pos : Nat) :
    identifier? t pos = .ok (SqlSkim.identifier? (t.drop pos)) := by
  rw [identifier?, readIdentifier_eq, ok_bind, SqlSkim.identifier?]
  cases (SqlSkim.readIdentifier (t.drop pos)).1 <;> rfl

end Checked

end SqlSkim
