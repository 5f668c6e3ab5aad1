import SqlSkim.Proofs.Scan.Inert
import SqlSkim.Proofs.Scan.Span
import SqlSkim.Proofs.Text.Trim
import SqlSkim.Statement.Subquery

/-!
# `Statement.Subquery` — the subqueries of texts put together

Subqueries are the contents of groups, so a text that is put together has those of its parts: a text of
words and groups has the subqueries of its groups, one group after another.

## Contents
- `between`, `groups_eq`: what stands in a pair, and how it moves with the text; `between_inParens`.
- `groups_append`, `subqueries_append`: a closed text and what follows.
- `groups_trim`, `subqueries_trim`: blanks around a text.
- `groups_inParens`, `subqueries_inParens`: a group.
- `mem_groups_iff`, `mem_subqueries_iff`: the groups and the subqueries of any text.
- `Inert.subqueries_eq`: texts of words and groups.
-/

namespace SqlSkim

/-! ## The text of a pair -/

/-- What stands between the two parentheses of a pair. -/
def between (t : Text) (s : Nat × Nat) : Text := (t.drop (s.1 + 1)).take (s.2 - (s.1 + 1))

theorem groups_eq (t : Text) : groups t = (parenSpans t).map fun s => trim (between t s) := rfl

/-- What stands behind a text is in none of its pairs. -/
theorem between_append {u : Text} {s : Nat × Nat} (h : s ∈ parenSpans u) (tail : Text) :
    between (u ++ tail) s = between u s := by
  obtain ⟨_, hlt, hle⟩ := (parenSpansFrom_bounds 0 u).1 s h
  rw [Nat.zero_add] at hle
  unfold between
  rw [List.drop_append_of_le_length (by omega),
    List.take_append_of_le_length (by rw [List.length_drop]; omega)]

/-- What stands before a text moves its pairs. -/
theorem between_shift (u tail : Text) (s : Nat × Nat) :
    between (u ++ tail) (s.1 + u.length, s.2 + u.length) = between tail s := by
  unfold between
  dsimp only
  rw [show s.1 + u.length + 1 = u.length + (s.1 + 1) by omega, List.drop_length_add_append,
    show s.2 + u.length - (u.length + (s.1 + 1)) = s.2 - (s.1 + 1) by omega]

/-- What stands in a pair is what it encloses. -/
theorem between_inParens (u b v : Text) :
    between (u ++ (inParens b ++ v)) (u.length, u.length + 1 + b.length) = b := by
  have htext : u ++ (inParens b ++ v) = (u ++ ['(']) ++ (b ++ ')' :: v) := by simp [inParens]
  have hlength : u.length + 1 = (u ++ ['(']).length := by simp
  unfold between
  dsimp only
  rw [htext, hlength, List.drop_left, Nat.add_sub_cancel_left, List.take_left]

/-! ## Texts put together -/

/-- The groups of a closed text and of what follows are those of the two. -/
theorem groups_append {u : Text} (hu : IsClosed u) (tail : Text) :
    groups (u ++ tail) = groups u ++ groups tail := by
  rw [groups_eq, groups_eq, groups_eq, hu.parenSpans_append, List.map_append, List.map_map]
  congr 1
  · exact List.map_congr_left fun s hs => congrArg trim (between_append hs tail)
  · exact List.map_congr_left fun s _ => congrArg trim (between_shift u tail s)

/-- **The subqueries of a closed text and of what follows** are those of the two. -/
theorem subqueries_append {u : Text} (hu : IsClosed u) (tail : Text) :
    subqueries (u ++ tail) = subqueries u ++ subqueries tail := by
  rw [subqueries, groups_append hu, List.filter_append]
  rfl

theorem groups_of_no_paren {t : Text} (h : ∀ c ∈ t, isParen c = false) : groups t = [] := by
  rw [groups, parenSpans_of_no_paren h]
  rfl

/-- Nothing behind a text without parentheses changes its groups, closed or not. -/
theorem groups_append_of_no_paren (u : Text) {tail : Text} (h : ∀ c ∈ tail, isParen c = false) :
    groups (u ++ tail) = groups u := by
  rw [groups_eq, groups_eq, parenSpans_append_of_no_paren u h]
  exact List.map_congr_left fun s hs => congrArg trim (between_append hs tail)

/-- **Blanks around a text** do not change its groups. -/
theorem groups_trim (t : Text) : groups (trim t) = groups t := by
  obtain ⟨x, y, ht, hx, hy⟩ := trim_split t
  have hclosed : IsClosed x := (isBalanced_of_no_paren (no_paren_of_blank hx)).isClosed
  conv_rhs => rw [ht]
  rw [groups_append hclosed, groups_of_no_paren (no_paren_of_blank hx), List.nil_append,
    groups_append_of_no_paren _ (no_paren_of_blank hy)]

theorem subqueries_trim (t : Text) : subqueries (trim t) = subqueries t := by
  rw [subqueries, groups_trim]
  rfl

/-- **The groups of a group**: its content, and the groups of its content. -/
theorem groups_inParens {b : Text} (hb : IsBalanced b) :
    groups (inParens b) = trim b :: groups b := by
  have hcontent : between (inParens b) (0, 1 + b.length) = b := by
    show (b ++ [')']).take (1 + b.length - 1) = b
    rw [Nat.add_sub_cancel_left, List.take_left]
  rw [groups_eq, groups_eq, parenSpans_inParens hb, List.map_cons, List.map_map, hcontent]
  congr 1
  refine List.map_congr_left fun s hs => congrArg trim ?_
  exact (between_shift ['('] (b ++ [')']) s).trans (between_append hs [')'])

/-- **The subqueries of a group**: its content, if that is a selection, and those of its content. -/
theorem subqueries_inParens {b : Text} (hb : IsBalanced b) :
    subqueries (inParens b) =
      (if Command.ofStatement? (trim b) = some .select then [trim b] else []) ++ subqueries b := by
  rw [subqueries, groups_inParens hb, List.filter_cons]
  by_cases hselect : Command.ofStatement? (trim b) = some .select
  · rw [if_pos (by simpa using hselect), if_pos hselect]
    rfl
  · rw [if_neg (by simpa using hselect), if_neg hselect]
    rfl

theorem subqueries_of_no_paren {t : Text} (h : ∀ c ∈ t, isParen c = false) : subqueries t = [] := by
  rw [subqueries, groups_of_no_paren h]
  rfl

/-! ## The groups of any text -/

/-- **The groups of a text** are the balanced stretches in parentheses, whatever stands around them: a
    stray `)` or a `(` that is never closed makes no difference. -/
theorem mem_groups_iff {g t : Text} :
    g ∈ groups t ↔ ∃ u b v, t = u ++ (inParens b ++ v) ∧ IsBalanced b ∧ trim b = g := by
  rw [groups_eq, List.mem_map]
  constructor
  · rintro ⟨s, hs, rfl⟩
    obtain ⟨u, b, v, rfl, hb, rfl⟩ := mem_parenSpans_iff.mp hs
    exact ⟨u, b, v, rfl, hb, by rw [between_inParens]⟩
  · rintro ⟨u, b, v, rfl, hb, rfl⟩
    exact ⟨_, mem_parenSpans_iff.mpr ⟨u, b, v, rfl, hb, rfl⟩, by rw [between_inParens]⟩

/-- **The subqueries of a text** are those of its groups that are a selection. -/
theorem mem_subqueries_iff {q t : Text} :
    q ∈ subqueries t ↔ (∃ u b v, t = u ++ (inParens b ++ v) ∧ IsBalanced b ∧ trim b = q) ∧
      Command.ofStatement? q = some .select := by
  rw [subqueries, List.mem_filter, mem_groups_iff, decide_eq_true_eq]

/-! ## Texts of words and groups -/

/-- **The subqueries of an inert text** are those of its groups. -/
theorem Inert.subqueries_eq {gaps : List Char} {heads : List Text} {bs : List Text} {t : Text}
    (h : Inert gaps heads bs t) : subqueries t = bs.flatMap fun b => subqueries (inParens b) := by
  induction h with
  | nil => exact subqueries_of_no_paren (by simp)
  | word hw _ => exact subqueries_of_no_paren hw.no_paren
  | group _ => simp
  | @apart bs bs' c u v _ hgap hu _ ihu ihv =>
      have hc : ∀ d ∈ [c], isParen d = false := List.forall_mem_singleton.mpr hgap.not_paren
      have htext : u ++ c :: v = u ++ ([c] ++ v) := rfl
      rw [htext, subqueries_append hu.isBalanced.isClosed,
        subqueries_append (isBalanced_of_no_paren hc).isClosed,
        subqueries_of_no_paren hc, ihu, ihv, List.nil_append, List.flatMap_append]

end SqlSkim
