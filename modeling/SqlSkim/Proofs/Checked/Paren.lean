import Mathlib.Data.List.Sort
import SqlSkim.Proofs.Checked.Look
import SqlSkim.Proofs.Scan.Span

/-!
# `Checked.Paren` — parentheses by their offsets

Depth and matching parentheses need a count and no more. For all balanced pairs of a text the offsets of the
open parentheses are kept on a stack, the last one on top, and each `)` takes one off: the pairs come in the
order in which they close, and are sorted in the end. The top is asked for only where there is one.

## Contents
- `Checked.topLevel`, `Checked.matchingParen?`: depth zero and the matching `)`; `closingFrom_shift`.
- `Checked.parenSpans`: all balanced pairs; `stackSpans_perm`: what a stack gives.
-/

namespace SqlSkim

namespace Checked

/-! ## Depth and matching parentheses -/

/-- The offsets from `i` on that lie at depth zero, the depth at `i` being given. -/
def topLevelFrom (t : Text) (depth i : Nat) : Except OffsetError (List Nat) :=
  if i < t.length then do
    let c ← itemAt t i
    let more ← topLevelFrom t (depthAfter depth c) (i + 1)
    return if depth = 0 ∧ !isParen c then i :: more else more
  else return []
termination_by t.length - i

theorem topLevelFrom_eq (t : Text) (depth i : Nat) :
    topLevelFrom t depth i = .ok (SqlSkim.topLevelFrom i depth (t.drop i)) := by
  induction h : t.drop i generalizing depth i with
  | nil =>
      rw [topLevelFrom, if_neg (Nat.not_lt.mpr (List.drop_eq_nil_iff.mp h))]
      rfl
  | cons c rest ih =>
      obtain ⟨hlt, hc, hrest⟩ := itemAt_of_drop h
      rw [topLevelFrom, if_pos hlt, hc, ok_bind, ih _ _ hrest]
      rfl

/-- The offsets from `start` on that lie at depth zero, counted from `start`. -/
def topLevel (t : Text) (start : Nat) : Except OffsetError (List Nat) := topLevelFrom t 0 start

theorem topLevel_eq (t : Text) (start : Nat) : topLevel t start = .ok (SqlSkim.topLevel t start) :=
  topLevelFrom_eq t 0 start

/-- The first `)` from `i` on that takes the running balance to zero. -/
def closingFrom (t : Text) (balance : Int) (i : Nat) : Except OffsetError (Option Nat) :=
  if i < t.length then do
    let c ← itemAt t i
    if c = '(' then closingFrom t (balance + 1) (i + 1)
    else if c = ')' then
      if balance = 1 then return some i else closingFrom t (balance - 1) (i + 1)
    else closingFrom t balance (i + 1)
  else return none
termination_by t.length - i

theorem closingFrom_eq (t : Text) (balance : Int) (i : Nat) :
    closingFrom t balance i = .ok (SqlSkim.closingFrom i balance (t.drop i)) := by
  induction h : t.drop i generalizing balance i with
  | nil =>
      rw [closingFrom, if_neg (Nat.not_lt.mpr (List.drop_eq_nil_iff.mp h))]
      rfl
  | cons c rest ih =>
      obtain ⟨hlt, hc, hrest⟩ := itemAt_of_drop h
      rw [closingFrom, if_pos hlt, hc, ok_bind, SqlSkim.closingFrom]
      simp only [ih _ _ hrest, pure_eq_ok]
      split
      · rfl
      · split
        · split <;> rfl
        · rfl

/-- The offset of the `)` that closes the group opened at `start`, if there is one. -/
def matchingParen? (t : Text) (start : Nat) : Except OffsetError (Option Nat) := closingFrom t 0 start

theorem matchingParen?_eq (t : Text) (start : Nat) :
    matchingParen? t start = .ok (SqlSkim.matchingParen? t start) :=
  closingFrom_eq t 0 start

end Checked

/-- Where the text starts moves the offset of the matching `)`. -/
theorem closingFrom_shift (pos n : Nat) (balance : Int) (t : Text) :
    closingFrom (pos + n) balance t = (closingFrom pos balance t).map (· + n) := by
  induction t generalizing pos balance with
  | nil => rfl
  | cons c t ih =>
      have ih := fun balance => ih (pos + 1) balance
      simp only [Nat.add_right_comm pos 1 n] at ih
      rw [closingFrom, closingFrom, ih, ih, ih]
      split
      · rfl
      · split
        · split <;> rfl
        · rfl

/-! ## Balanced pairs -/

/-- The pairs of a text open one after another. -/
theorem parenSpansFrom_pairwise (pos : Nat) (t : Text) :
    (parenSpansFrom pos t).1.Pairwise fun s s' => s.1 < s'.1 := by
  induction t generalizing pos with
  | nil => exact .nil
  | cons c t ih =>
      have ih := ih (pos + 1)
      have hbounds := (parenSpansFrom_bounds (pos + 1) t).1
      rcases paren_cases c with rfl | rfl | hc
      · rw [parenSpansFrom_open]
        split
        · exact ih
        · exact List.pairwise_cons.mpr ⟨fun s hs => (hbounds s hs).1, ih⟩
      · rw [parenSpansFrom_close]
        exact ih
      · rw [parenSpansFrom_other hc]
        exact ih

namespace Checked

/-- The balanced pairs of the text that starts at offset `pos`, as they close. The stack holds the offsets
    of the open parentheses before it. -/
def stackSpans (pos : Nat) (stack : List Nat) : Text → Except OffsetError (List (Nat × Nat))
  | [] => return []
  | c :: rest =>
    if c = '(' then stackSpans (pos + 1) (pos :: stack) rest
    else if c = ')' ∧ stack ≠ [] then do
      let start ← itemAt stack 0
      return (start, pos) :: (← stackSpans (pos + 1) stack.tail rest)
    else stackSpans (pos + 1) stack rest

/-- **What a stack gives**: the pairs within the text, and a pair for each open parenthesis before it that
    is closed in the text. -/
theorem stackSpans_perm (pos : Nat) (stack : List Nat) (t : Text) :
    ∃ spans, stackSpans pos stack t = .ok spans ∧
      spans.Perm ((parenSpansFrom pos t).1 ++ stack.zip (parenSpansFrom pos t).2) := by
  induction t generalizing pos stack with
  | nil => exact ⟨[], rfl, by simp [parenSpansFrom]⟩
  | cons c t ih =>
      rcases paren_cases c with rfl | rfl | hc
      · obtain ⟨spans, hspans, hperm⟩ := ih (pos + 1) (pos :: stack)
        refine ⟨spans, hspans, hperm.trans ?_⟩
        rw [parenSpansFrom_open]
        -- the first `)` that is left over closes this `(`, and its pair comes first in the order of opening
        cases (parenSpansFrom (pos + 1) t).2 with
        | nil => simp
        | cons close outer => exact List.perm_middle
      · rw [parenSpansFrom_close]
        cases stack with
        | nil =>
            obtain ⟨spans, hspans, hperm⟩ := ih (pos + 1) []
            exact ⟨spans, hspans, by simpa using hperm⟩
        | cons start stack =>
            obtain ⟨spans, hspans, hperm⟩ := ih (pos + 1) stack
            refine ⟨(start, pos) :: spans, ?_, (hperm.cons _).trans List.perm_middle.symm⟩
            show (do return (start, pos) :: (← stackSpans (pos + 1) stack t) : Except OffsetError _) = _
            rw [hspans]
            rfl
      · have hne := ne_of_no_paren hc
        obtain ⟨spans, hspans, hperm⟩ := ih (pos + 1) stack
        refine ⟨spans, ?_, by rwa [parenSpansFrom_other hc]⟩
        rw [stackSpans, if_neg hne.1, if_neg fun h => hne.2 h.1, hspans]

/-- The offsets of every balanced pair of parentheses, in the order in which they open. -/
def parenSpans (t : Text) : Except OffsetError (List (Nat × Nat)) :=
  return (← stackSpans 0 [] t).insertionSort fun s s' => s.1 ≤ s'.1

theorem parenSpans_eq (t : Text) : parenSpans t = .ok (SqlSkim.parenSpans t) := by
  obtain ⟨spans, hspans, hperm⟩ := stackSpans_perm 0 [] t
  rw [List.zip_nil_left, List.append_nil] at hperm
  have hpairs := parenSpansFrom_pairwise 0 t
  have hnodup : ((SqlSkim.parenSpans t).map Prod.fst).Nodup :=
    (List.pairwise_map.mpr hpairs).imp Nat.ne_of_lt
  have hsort := List.perm_insertionSort (fun s s' : Nat × Nat => s.1 ≤ s'.1) spans
  have hsorted : spans.insertionSort (fun s s' => s.1 ≤ s'.1) = SqlSkim.parenSpans t := by
    refine (hsort.trans hperm).eq_of_pairwise ?_ (List.pairwise_insertionSort _ _)
      (hpairs.imp Nat.le_of_lt)
    -- no two pairs open at the same offset, so there is but one order
    intro s s' hs hs' hle hge
    exact List.inj_on_of_nodup_map hnodup ((hsort.trans hperm).mem_iff.mp hs) hs'
      (Nat.le_antisymm hle hge)
  rw [parenSpans, hspans, ok_bind, hsorted]
  rfl

end Checked

end SqlSkim
