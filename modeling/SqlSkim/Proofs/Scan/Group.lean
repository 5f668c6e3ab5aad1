import Mathlib.Data.List.Infix
import SqlSkim.Proofs.Scan.Quiet
import SqlSkim.Text.Basic

/-!
# `Scan.Group` — balanced groups, and texts that differ only inside them

A text in parentheses is a *group* when the text itself is balanced. A scan that enters a group at any
depth leaves it at the same depth, and never comes down to depth zero in between. So all that a scan at
depth zero can notice of a group is that it is there. `SameOutside` relates two texts that are one text
but for the content of some groups.

## Contents
- `IsBalanced`, `inParens`: balanced texts, and groups, with what is put together from them.
- `IsBalanced.of_append`: balanced texts taken apart.
- `depthAfterText_inParens`, `quiet_inParens`: how a scan passes a group.
- `SameOutside`: texts that differ only inside groups, with what their fronts have in common.
-/

namespace SqlSkim

/-! ## Balanced texts -/

/-- **A balanced text.** Up to no place in it more parentheses are closed than opened, and at its end as
    many. -/
structure IsBalanced (t : Text) : Prop where
  no_stray : ∀ u, u <+: t → u.count ')' ≤ u.count '('
  closed : t.count '(' = t.count ')'

instance (t : Text) : Decidable (IsBalanced t) :=
  decidable_of_iff ((∀ u ∈ t.inits, u.count ')' ≤ u.count '(') ∧ t.count '(' = t.count ')')
    ⟨fun ⟨hu, hc⟩ => ⟨fun u h => hu u ((List.mem_inits u t).mpr h), hc⟩,
      fun ⟨hu, hc⟩ => ⟨fun u h => hu u ((List.mem_inits u t).mp h), hc⟩⟩

/-- A text in parentheses. -/
def inParens (t : Text) : Text := '(' :: (t ++ [')'])

/-- A text without parentheses is balanced. -/
theorem isBalanced_of_no_paren {t : Text} (h : ∀ c ∈ t, isParen c = false) : IsBalanced t := by
  obtain ⟨hopen, hclose⟩ := not_mem_of_no_paren h
  constructor
  · intro u hu
    rw [List.count_eq_zero_of_not_mem fun hc => hclose (hu.subset hc)]
    exact Nat.zero_le _
  · rw [List.count_eq_zero_of_not_mem hopen, List.count_eq_zero_of_not_mem hclose]

/-- Two balanced texts one after the other are balanced. -/
theorem IsBalanced.append {t u : Text} (ht : IsBalanced t) (hu : IsBalanced u) :
    IsBalanced (t ++ u) := by
  constructor
  · intro v hv
    rcases List.prefix_or_prefix_of_prefix hv (List.prefix_append t u) with hvt | ⟨x, rfl⟩
    · exact ht.no_stray v hvt
    · -- the prefix covers `t` and a prefix of `u`
      have hx := hu.no_stray x ((List.prefix_append_right_inj t).mp hv)
      have hclosed := ht.closed
      rw [List.count_append, List.count_append]
      omega
  · rw [List.count_append, List.count_append, ht.closed, hu.closed]

/-- **A group is balanced.** -/
theorem isBalanced_inParens {t : Text} (ht : IsBalanced t) : IsBalanced (inParens t) := by
  have hclosed := ht.closed
  constructor
  · intro v hv
    cases v with
    | nil => simp
    | cons c v =>
        obtain ⟨rfl, hrest⟩ := List.cons_prefix_cons.mp hv
        rcases List.prefix_concat_iff.mp hrest with rfl | hrest
        · simp [hclosed]
        · have hle := ht.no_stray v hrest
          simp
          omega
  · simp [inParens, hclosed]

/-! ## How a scan passes a group -/

variable {α : Type} {rule : Rule α}

/-- Where no `)` is stray, the depth is the number of open parentheses. -/
theorem depthAfterText_add_count {depth : Nat} {t : Text}
    (h : ∀ u, u <+: t → u.count ')' ≤ depth + u.count '(') :
    depthAfterText depth t + t.count ')' = depth + t.count '(' := by
  induction t generalizing depth with
  | nil => rfl
  | cons c t ih =>
      have hstep : ∀ u, u <+: t → (c :: u).count ')' ≤ depth + (c :: u).count '(' := fun u hu =>
        h (c :: u) (List.cons_prefix_cons.mpr ⟨rfl, hu⟩)
      show depthAfterText (depthAfter depth c) t + _ = _
      by_cases hopen : c = '('
      · subst hopen
        have hrest := @ih (depth + 1) fun u hu => by
          have hu := hstep u hu
          simp at hu
          omega
        have hdepth : depthAfter depth '(' = depth + 1 := rfl
        rw [hdepth]
        simp
        omega
      · by_cases hclose : c = ')'
        · subst hclose
          have hpos := hstep [] List.nil_prefix
          simp at hpos
          have hrest := @ih (depth - 1) fun u hu => by
            have hu := hstep u hu
            simp at hu
            omega
          have hdepth : depthAfter depth ')' = depth - 1 := rfl
          rw [hdepth]
          simp
          omega
        · have hrest := @ih depth fun u hu => by
            have hu := hstep u hu
            simpa [hopen, hclose] using hu
          have hdepth : depthAfter depth c = depth := by simp [depthAfter, hopen, hclose]
          rw [hdepth]
          simpa [hopen, hclose] using hrest

/-- A balanced text leaves the depth as it is. -/
theorem IsBalanced.depthAfterText_eq {t : Text} (h : IsBalanced t) (depth : Nat) :
    depthAfterText depth t = depth := by
  have hcount : depthAfterText depth t + t.count ')' = depth + t.count '(' :=
    depthAfterText_add_count fun u hu => by
      have hu := h.no_stray u hu
      omega
  have hclosed := h.closed
  omega

/-- **A balanced text can be taken apart** where the depth is zero. -/
theorem IsBalanced.of_append {u v : Text} (h : IsBalanced (u ++ v)) (hdepth : depthAfterText 0 u = 0) :
    IsBalanced u ∧ IsBalanced v := by
  have hstray : ∀ x, x <+: u → x.count ')' ≤ x.count '(' := fun x hx =>
    h.no_stray x (hx.trans (List.prefix_append u v))
  have hcount : depthAfterText 0 u + u.count ')' = 0 + u.count '(' :=
    depthAfterText_add_count fun x hx => by simpa using hstray x hx
  have hclosed := h.closed
  rw [List.count_append, List.count_append] at hclosed
  refine ⟨⟨hstray, by omega⟩, ⟨fun x hx => ?_, by omega⟩⟩
  -- what stands before `x` opens as many parentheses as it closes
  have hx := h.no_stray (u ++ x) ((List.prefix_append_right_inj u).mpr hx)
  rw [List.count_append, List.count_append] at hx
  omega

/-- A group leaves the depth as it is. -/
theorem IsBalanced.depthAfterText_inParens {t : Text} (h : IsBalanced t) (depth : Nat) :
    depthAfterText depth (inParens t) = depth := by
  show depthAfterText (depth + 1) (t ++ [')']) = depth
  rw [depthAfterText_append, h.depthAfterText_eq]
  rfl

theorem lastOr_inParens (before : Option Char) (t : Text) :
    lastOr before (inParens t) = some ')' := by
  rw [inParens, lastOr_cons, lastOr_append]
  rfl

/-- Where the depth stays above zero no token starts. -/
theorem quiet_of_deep {before : Option Char} {depth : Nat} {t tail : Text}
    (h : ∀ u, u <+: t → u.count ')' < depth + u.count '(') : Quiet rule before depth t tail := by
  induction t generalizing before depth with
  | nil => trivial
  | cons c t ih =>
      have hpos := h [] List.nil_prefix
      simp at hpos
      refine ⟨fun hzero => absurd hzero (by omega), ih fun u hu => ?_⟩
      have hu := h (c :: u) (List.cons_prefix_cons.mpr ⟨rfl, hu⟩)
      simp only [List.count_cons, beq_iff_eq] at hu
      simp only [depthAfter]
      by_cases hopen : c = '('
      · subst hopen
        simp at hu ⊢
        omega
      · by_cases hclose : c = ')'
        · subst hclose
          simp at hu ⊢
          omega
        · simpa [hopen, hclose] using hu

/-- **No token starts in a group.** -/
theorem IsBalanced.quiet_inParens {t : Text} (h : IsBalanced t) (before : Option Char) (depth : Nat)
    (tail : Text) : Quiet rule before depth (inParens t) tail := by
  -- the parentheses themselves start no token, and between them the depth is at least one
  refine ⟨fun _ hp => absurd hp (by decide), ?_⟩
  rw [quiet_append_iff]
  constructor
  · refine quiet_of_deep fun u hu => ?_
    have hu := h.no_stray u hu
    show u.count ')' < depth + 1 + u.count '('
    omega
  · exact ⟨fun _ hp => absurd hp (by decide), trivial⟩

/-! ## The same text outside groups -/

/-- **The same text outside groups**: two texts that differ only in the content of some groups. -/
inductive SameOutside : Text → Text → Prop where
  | nil : SameOutside [] []
  | char (c : Char) {t t' : Text} : SameOutside t t' → SameOutside (c :: t) (c :: t')
  | group {b b' t t' : Text} : IsBalanced b → IsBalanced b' → SameOutside t t' →
      SameOutside (inParens b ++ t) (inParens b' ++ t')

namespace SameOutside

variable {t t' : Text}

theorem refl (t : Text) : SameOutside t t := by
  induction t with
  | nil => exact .nil
  | cons c t ih => exact .char c ih

theorem symm (h : SameOutside t t') : SameOutside t' t := by
  induction h with
  | nil => exact .nil
  | char c _ ih => exact .char c ih
  | group hb hb' _ ih => exact .group hb' hb ih

theorem append_left (u : Text) (h : SameOutside t t') : SameOutside (u ++ t) (u ++ t') := by
  induction u with
  | nil => exact h
  | cons c u ih => exact .char c ih

/-- A group in the same surroundings. -/
theorem of_group {b b' : Text} (hb : IsBalanced b) (hb' : IsBalanced b') (p q : Text) :
    SameOutside (p ++ (inParens b ++ q)) (p ++ (inParens b' ++ q)) :=
  append_left p (.group hb hb' (refl q))

theorem head?_eq (h : SameOutside t t') : t.head? = t'.head? := by
  cases h with
  | nil => rfl
  | char c _ => rfl
  | group _ _ _ => rfl

theorem eq_nil_iff (h : SameOutside t t') : t = [] ↔ t' = [] := by
  rw [← List.head?_eq_none_iff, ← List.head?_eq_none_iff, h.head?_eq]

/-- **Up to the first parenthesis** the two texts are one, and behind that they are again the same
    outside groups. -/
theorem take_drop (h : SameOutside t t') {n : Nat} (hn : ∀ c ∈ t.take n, isParen c = false) :
    t'.take n = t.take n ∧ SameOutside (t.drop n) (t'.drop n) := by
  induction h generalizing n with
  | nil => simpa using SameOutside.nil
  | char c h ih =>
      cases n with
      | zero => exact ⟨rfl, .char c h⟩
      | succ n =>
          obtain ⟨htake, hdrop⟩ := ih fun d hd => hn d (List.mem_cons_of_mem c hd)
          exact ⟨by simp [htake], hdrop⟩
  | group hb hb' h _ =>
      cases n with
      | zero => exact ⟨rfl, .group hb hb' h⟩
      | succ n => exact absurd (hn '(' (by simp [inParens])) (by decide)

/-- What ends in front of a group at the latest is the same. -/
theorem takeWhile_eq (h : SameOutside t t') {p : Char → Bool} (hp : p '(' = false) :
    t.takeWhile p = t'.takeWhile p := by
  induction h with
  | nil => rfl
  | char c _ ih => rw [List.takeWhile_cons, List.takeWhile_cons, ih]
  | group _ _ _ _ => simp [inParens, hp]

theorem dropWhile (h : SameOutside t t') {p : Char → Bool} (hp : p '(' = false) :
    SameOutside (t.dropWhile p) (t'.dropWhile p) := by
  induction h with
  | nil => exact .nil
  | char c h ih =>
      rw [List.dropWhile_cons, List.dropWhile_cons]
      split
      · exact ih
      · exact .char c h
  | group hb hb' h _ =>
      have hstop : ∀ b u, (inParens b ++ u).dropWhile p = inParens b ++ u := fun b u => by
        simp [inParens, hp]
      rw [hstop, hstop]
      exact .group hb hb' h

end SameOutside

end SqlSkim
