import Mathlib.Data.List.Nodup
import Mathlib.Data.List.Pairwise
import SqlSkim.Proofs.Checked.Paren
import SqlSkim.Proofs.Statement.Subquery

/-!
# `Paren.Pair` — which parentheses belong together

A `(` and a `)` behind it belong together if the text between them is balanced. That says nothing of a stack,
and of the text around the two it says nothing at all, so it makes sense in texts that are not balanced. The
scan finds exactly these pairs. Of two of them neither can start inside the other and end behind it: the `)`
that the front of such an overlap lacks would be stray in the pair that starts later.

## Contents
- `IsPair`, `mem_parenSpans_iff_isPair`: balanced pairs, and that they are what is found.
- `between_eq_append`, `between_isPrefix`: what stands between two offsets, cut at one in between.
- `Apart`, `Inside`, `IsPair.apart_or_inside`: how two pairs can lie.
- `ListsPairs`, `listsPairs_parenSpans`: the main result.
-/

namespace SqlSkim

variable {t : Text} {a b s : Nat × Nat}

/-! ## Balanced pairs -/

/-- **A balanced pair**: a `(` and a `)` behind it with a balanced text between them. -/
structure IsPair (t : Text) (s : Nat × Nat) : Prop where
  lt : s.1 < s.2
  opens : t[s.1]? = some '('
  closes : t[s.2]? = some ')'
  balanced : IsBalanced (between t s)

/-- A text from an offset on, when the character there is known. -/
theorem drop_of_getElem? {i : Nat} {c : Char} (h : t[i]? = some c) : t.drop i = c :: t.drop (i + 1) := by
  obtain ⟨hlt, rfl⟩ := List.getElem?_eq_some_iff.mp h
  exact List.drop_eq_getElem_cons hlt

/-- What encloses a balanced text is a balanced pair. -/
theorem isPair_inParens {b : Text} (hb : IsBalanced b) (u v : Text) :
    IsPair (u ++ (inParens b ++ v)) (u.length, u.length + 1 + b.length) := by
  have hclose : u ++ (inParens b ++ v) = (u ++ '(' :: b) ++ ')' :: v := by simp [inParens]
  have hlength : u.length + 1 + b.length = (u ++ '(' :: b).length := by simp; omega
  constructor
  case lt => show u.length < u.length + 1 + b.length; omega
  case opens =>
    show (u ++ (inParens b ++ v))[u.length]? = some '('
    rw [List.getElem?_append_right (Nat.le_refl _), Nat.sub_self]
    rfl
  case closes =>
    show (u ++ (inParens b ++ v))[u.length + 1 + b.length]? = some ')'
    rw [hclose, hlength, List.getElem?_append_right (Nat.le_refl _), Nat.sub_self]
    rfl
  case balanced =>
    rw [between_inParens]
    exact hb

/-- A balanced pair takes its text apart: what stands before it, in it, and behind it. -/
theorem IsPair.exists_eq (h : IsPair t s) :
    ∃ u v, t = u ++ (inParens (between t s) ++ v) ∧
      s = (u.length, u.length + 1 + (between t s).length) := by
  obtain ⟨i, j⟩ := s
  have hlt : i < j := h.lt
  have hj : j < t.length := (List.getElem?_eq_some_iff.mp h.closes).1
  have hlength : (between t (i, j)).length = j - (i + 1) := by
    unfold between
    dsimp only
    rw [List.length_take, List.length_drop]
    omega
  have hinside : t.drop (i + 1) = between t (i, j) ++ t.drop j := by
    have hsplit := List.take_append_drop (j - (i + 1)) (t.drop (i + 1))
    rw [List.drop_drop, Nat.add_sub_cancel' hlt] at hsplit
    exact hsplit.symm
  refine ⟨t.take i, t.drop (j + 1), ?_, ?_⟩
  · calc t = t.take i ++ t.drop i := (List.take_append_drop i t).symm
      _ = t.take i ++ '(' :: (between t (i, j) ++ ')' :: t.drop (j + 1)) := by
        rw [drop_of_getElem? h.opens, hinside, drop_of_getElem? h.closes]
      _ = t.take i ++ (inParens (between t (i, j)) ++ t.drop (j + 1)) := by simp [inParens]
  · rw [List.length_take_of_le (by omega), hlength, Nat.add_sub_cancel' hlt]

/-- **The pairs that are found** are the balanced ones. -/
theorem mem_parenSpans_iff_isPair : s ∈ parenSpans t ↔ IsPair t s := by
  rw [mem_parenSpans_iff]
  constructor
  · rintro ⟨u, b, v, rfl, hb, rfl⟩
    exact isPair_inParens hb u v
  · intro h
    obtain ⟨u, v, ht, hs⟩ := h.exists_eq
    exact ⟨u, between t s, v, ht, h.balanced, hs⟩

/-! ## Two pairs -/

/-- An offset in between cuts what stands between two offsets. -/
theorem between_eq_append {i j k : Nat} {c : Char} (hij : i < j) (hjk : j < k) (hc : t[j]? = some c) :
    between t (i, k) = between t (i, j) ++ c :: between t (j, k) := by
  have hsum : k - (i + 1) = (j - (i + 1)) + (k - (j + 1) + 1) := by omega
  unfold between
  dsimp only
  rw [hsum, List.take_add, List.drop_drop, Nat.add_sub_cancel' hij, drop_of_getElem? hc,
    List.take_succ_cons]

/-- Up to a later offset stands what stands up to an earlier one, and more. -/
theorem between_isPrefix {i j k : Nat} (h : j ≤ k) : between t (i, j) <+: between t (i, k) :=
  List.take_prefix_take_left (Nat.sub_le_sub_right h (i + 1))

/-- **Two pairs that lie apart**: one of them ends before the other starts. -/
def Apart (a b : Nat × Nat) : Prop := a.2 < b.1 ∨ b.2 < a.1

/-- **A pair inside another one**, with both its ends. -/
def Inside (a b : Nat × Nat) : Prop := b.1 < a.1 ∧ a.2 < b.2

/-- **A pair that starts later** lies behind the other one or inside of it. -/
theorem IsPair.apart_or_inside (ha : IsPair t a) (hb : IsPair t b) (hlt : a.1 < b.1) :
    Apart a b ∨ Inside b a := by
  by_cases hbefore : a.2 < b.1
  · exact .inl (.inl hbefore)
  · have hne : a.2 ≠ b.1 := by
      intro heq
      have hclose := ha.closes
      rw [heq, hb.opens] at hclose
      exact absurd hclose (by decide)
    have hinner : b.1 < a.2 := by omega
    -- `a` is balanced and its front up to `b` closes no more than it opens, so behind the `(` of `b` more is
    -- closed than opened
    have hall : IsBalanced (between t (a.1, b.1) ++ '(' :: between t (b.1, a.2)) := by
      rw [← between_eq_append hlt hinner hb.opens]
      exact ha.balanced
    have hfront := hall.no_stray _ (List.prefix_append _ _)
    have hclosed := hall.closed
    simp only [List.count_append, List.count_cons_self,
      List.count_cons_of_ne (show '(' ≠ ')' by decide)] at hclosed
    refine .inr ⟨hlt, ?_⟩
    by_contra hover
    have hback := hb.balanced.no_stray _ (between_isPrefix (Nat.le_of_not_lt hover))
    omega

/-- **Two pairs** lie apart, or one of them lies inside the other. -/
theorem IsPair.apart_or_nested (ha : IsPair t a) (hb : IsPair t b) (hne : a.1 ≠ b.1) :
    Apart a b ∨ Inside a b ∨ Inside b a := by
  rcases Nat.lt_or_gt_of_ne hne with hlt | hgt
  · rcases ha.apart_or_inside hb hlt with hapart | hinside
    · exact .inl hapart
    · exact .inr (.inr hinside)
  · rcases hb.apart_or_inside ha hgt with hapart | hinside
    · exact .inl hapart.symm
    · exact .inr (.inl hinside)

/-! ## The main result -/

/-- **The list of the balanced pairs** of a text. -/
structure ListsPairs (t : Text) (spans : List (Nat × Nat)) : Prop where
  /-- Listed are the balanced pairs and no others. -/
  mem_iff : ∀ s, s ∈ spans ↔ IsPair t s
  /-- They are listed in the order in which they open. -/
  increasing : spans.Pairwise fun a b => a.1 < b.1
  /-- No offset is an end of two pairs, or both ends of one. -/
  ends_nodup : (spans.flatMap fun s => [s.1, s.2]).Nodup
  /-- Two pairs lie apart, or one of them lies inside the other. -/
  apart_or_nested : ∀ a ∈ spans, ∀ b ∈ spans, a ≠ b → Apart a b ∨ Inside a b ∨ Inside b a

/-- **The pairs that are found are the balanced ones**, in order and properly nested, whatever the text. A
    stack whose pairs are sorted in the end finds the same list. -/
theorem listsPairs_parenSpans (t : Text) :
    ListsPairs t (parenSpans t) ∧ Checked.parenSpans t = .ok (parenSpans t) := by
  have hpair : ∀ s ∈ parenSpans t, IsPair t s := fun s hs => mem_parenSpans_iff_isPair.mp hs
  have hincreasing := parenSpansFrom_pairwise 0 t
  refine ⟨?_, Checked.parenSpans_eq t⟩
  constructor
  case mem_iff => exact fun s => mem_parenSpans_iff_isPair
  case increasing => exact hincreasing
  case ends_nodup =>
    rw [List.nodup_flatMap]
    constructor
    · intro s hs
      have hlt := (hpair s hs).lt
      simp
      omega
    · apply hincreasing.imp_of_mem
      intro a b ha hb hlt
      have hlie := (hpair a ha).apart_or_inside (hpair b hb) hlt
      have ha := (hpair a ha).lt
      have hb := (hpair b hb).lt
      simp [Apart, Inside] at hlie ⊢
      omega
  case apart_or_nested =>
    intro a ha b hb hne
    have hfst : ((parenSpans t).map Prod.fst).Nodup :=
      (List.pairwise_map.mpr hincreasing).imp Nat.ne_of_lt
    apply (hpair a ha).apart_or_nested (hpair b hb)
    intro hsame
    exact hne (List.inj_on_of_nodup_map hfst ha hb hsame)

/-- A stray `)` in front and two `(` that stay open are in no pair. -/
example : parenSpans ")(a(b)((c)".toList = [(3, 5), (7, 9)] := by decide

end SqlSkim
