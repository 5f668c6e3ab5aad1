import SqlSkim.Diagnostic.Check
import SqlSkim.Proofs.Scan.Span

/-!
# `Diagnostic.Paren` — parentheses out of balance

The check counts the open parentheses along the text. It has nothing to say of a balanced one, and finds no
parenthesis left open in a closed one.

## Contents
- `parenFaultFrom_eq_none_iff`: no fault, with some parentheses open before.
- `parenFault?_eq_none_iff_isBalanced`, `checkParens_eq_none_iff`: balanced texts.
- `parenFault?_of_isClosed`, `checkParens_cases`: which of the two faults a text has, and how it is told.
-/

namespace SqlSkim

variable {t : Text}

/-- A statement about all fronts of a text is one about its first character and the fronts of the rest. -/
theorem forall_prefix_cons {P : Text → Prop} {c : Char} :
    (∀ u, u <+: c :: t → P u) ↔ P [] ∧ ∀ u, u <+: t → P (c :: u) := by
  constructor
  · intro h
    exact ⟨h [] List.nil_prefix, fun u hu => h (c :: u) (List.cons_prefix_cons.mpr ⟨rfl, hu⟩)⟩
  · rintro ⟨hnil, hcons⟩ u hu
    rcases List.prefix_cons_iff.mp hu with rfl | ⟨v, rfl, hv⟩
    · exact hnil
    · exact hcons v hv

/-- **The count finds no fault** just if it never gets below zero and ends there. -/
theorem parenFaultFrom_eq_none_iff {pos depth : Nat} :
    parenFaultFrom pos depth t = none ↔
      (∀ u, u <+: t → u.count ')' ≤ depth + u.count '(') ∧ t.count ')' = depth + t.count '(' := by
  induction t generalizing pos depth with
  | nil =>
      rw [parenFaultFrom]
      by_cases hdepth : depth = 0
      · simp [hdepth]
      · simp [hdepth, Ne.symm hdepth]
  | cons c t ih =>
      rw [parenFaultFrom, forall_prefix_cons]
      rcases paren_cases c with rfl | rfl | hc
      · have hopen : ∀ u : Text, ('(' :: u).count '(' = u.count '(' + 1 := fun u => List.count_cons_self
        have hclose : ∀ u : Text, ('(' :: u).count ')' = u.count ')' := fun u => List.count_cons_of_ne (by decide)
        simp only [hopen, hclose, if_pos, ih]
        simp [Nat.add_assoc, Nat.add_comm 1]
      · have hopen : ∀ u : Text, (')' :: u).count '(' = u.count '(' := fun u => List.count_cons_of_ne (by decide)
        have hclose : ∀ u : Text, (')' :: u).count ')' = u.count ')' + 1 := fun u => List.count_cons_self
        rw [if_neg (by decide), if_pos rfl]
        cases depth with
        | zero =>
            -- the first character alone has a `)` too many
            simp only [hopen, hclose, if_pos, reduceCtorEq, false_iff, not_and]
            intro hstray
            exact absurd (hstray.2 [] List.nil_prefix) (by simp)
        | succ depth =>
            simp only [hopen, hclose]
            simp [Nat.add_right_comm depth 1, ih]
      · have hne := ne_of_no_paren hc
        have hopen : ∀ u : Text, (c :: u).count '(' = u.count '(' := fun u => List.count_cons_of_ne hne.1
        have hclose : ∀ u : Text, (c :: u).count ')' = u.count ')' := fun u => List.count_cons_of_ne hne.2
        simp only [hopen, hclose, if_neg hne.1, if_neg hne.2, ih]
        simp

/-- The parentheses of a text have no fault just if it is balanced. -/
theorem parenFault?_eq_none_iff_isBalanced : parenFault? t = none ↔ IsBalanced t := by
  rw [parenFault?, parenFaultFrom_eq_none_iff]
  simp only [Nat.zero_add]
  exact ⟨fun ⟨hstray, hclosed⟩ => ⟨hstray, hclosed.symm⟩, fun h => ⟨h.no_stray, h.closed.symm⟩⟩

/-- **No warning** is given of a balanced text, and of no other. -/
theorem checkParens_eq_none_iff : checkParens t = none ↔ IsBalanced t := by
  rw [checkParens, Option.map_eq_none_iff, parenFault?_eq_none_iff_isBalanced]

/-! ## Parentheses left open -/

/-- As many parentheses are found unclosed as are opened and not closed, with those open before. -/
theorem count_of_parenFaultFrom_unclosed {pos depth count : Nat}
    (h : parenFaultFrom pos depth t = some (.unclosed count)) :
    0 < count ∧ count + t.count ')' = depth + t.count '(' := by
  induction t generalizing pos depth with
  | nil =>
      rw [parenFaultFrom] at h
      split at h
      · exact absurd h (by simp)
      · next hdepth =>
          obtain rfl : depth = count := by simpa using h
          exact ⟨Nat.pos_of_ne_zero hdepth, rfl⟩
  | cons c t ih =>
      rw [parenFaultFrom] at h
      rcases paren_cases c with rfl | rfl | hc
      · rw [if_pos rfl] at h
        have ih := ih h
        simp
        omega
      · rw [if_neg (by decide), if_pos rfl] at h
        split at h
        · -- a stray `)` is the other fault
          exact absurd h (by simp)
        · have ih := ih h
          simp
          omega
      · have hne := ne_of_no_paren hc
        rw [if_neg hne.1, if_neg hne.2] at h
        rw [List.count_cons_of_ne hne.1, List.count_cons_of_ne hne.2]
        exact ih h

/-- **A closed text** leaves nothing open, though a `)` of it may be stray. -/
theorem parenFault?_of_isClosed (h : IsClosed t) (count : Nat) :
    parenFault? t ≠ some (.unclosed count) := by
  intro hfault
  have hcount := count_of_parenFaultFrom_unclosed hfault
  have hall := h t List.suffix_rfl
  omega

/-- **The two warnings.** A stray `)` is marked, and parentheses left open are counted in the message. -/
theorem checkParens_cases {d : Diagnostic} (h : checkParens t = some d) :
    (∃ offset : Nat, parenFault? t = some (.unmatched offset) ∧
        d.message = "unmatched ')'".toList ∧
        d.marks = [⟨offset, offset + 1, some "no opening parenthesis".toList⟩]) ∨
      ∃ count : Nat, parenFault? t = some (.unclosed count) ∧
        d.message = decimal count ++ " unclosed '('".toList ∧ d.marks = [] := by
  obtain ⟨fault, hfault, rfl⟩ := Option.map_eq_some_iff.mp h
  cases fault with
  | unmatched offset => exact .inl ⟨offset, hfault, rfl, rfl⟩
  | unclosed count => exact .inr ⟨count, hfault, rfl, rfl⟩

end SqlSkim
