import SqlSkim.Proofs.Scan.Group

/-!
# `Scan.Span` — the pairs of parentheses of texts put together

The pairs of a text are found from its end to its front, with the `)` that wait for their `(` at hand. A
text in which every `(` is closed hands on those that wait behind it, so its own pairs and those of what
follows do not mix. What stands between the two parentheses of a pair is a balanced text.

## Contents
- `parenSpansFrom_bounds`, `parenSpansFrom_shift`: where the pairs lie.
- `IsClosed`, `isClosed_of_depthAfterText`, `IsClosed.depthAfterText_eq`: texts that leave no parenthesis
  open, which are those that end at depth zero.
- `parenSpansFrom_append`, `IsClosed.parenSpans_append`: the pairs of such a text and of what follows.
- `parenSpans_append_of_no_paren`, `parenSpansFrom_isSuffix`: the pairs of any text and of what follows.
- `parenSpans_inParens`, `mem_parenSpans_iff`: the pairs of a group, and those of any text, which are what
  encloses a balanced text.
- `matchingParen?_inParens`, `exists_of_matchingParen?`: the `)` that closes a group, and the group that a `)`
  closes.
-/

namespace SqlSkim

/-! ## One character -/

theorem parenSpansFrom_open (pos : Nat) (rest : Text) :
    parenSpansFrom pos ('(' :: rest) =
      match (parenSpansFrom (pos + 1) rest).2 with
      | [] => ((parenSpansFrom (pos + 1) rest).1, [])
      | close :: outer => ((pos, close) :: (parenSpansFrom (pos + 1) rest).1, outer) := rfl

theorem parenSpansFrom_close (pos : Nat) (rest : Text) :
    parenSpansFrom pos (')' :: rest) =
      ((parenSpansFrom (pos + 1) rest).1, pos :: (parenSpansFrom (pos + 1) rest).2) := rfl

theorem parenSpansFrom_other {c : Char} (hc : isParen c = false) (pos : Nat) (rest : Text) :
    parenSpansFrom pos (c :: rest) = parenSpansFrom (pos + 1) rest := by
  have hne := ne_of_no_paren hc
  rw [parenSpansFrom]
  dsimp only
  rw [if_neg hne.1, if_neg hne.2]

/-- A character opens, closes, or is no parenthesis. -/
theorem paren_cases (c : Char) : c = '(' ∨ c = ')' ∨ isParen c = false := by
  by_cases hopen : c = '('
  · exact .inl hopen
  · by_cases hclose : c = ')'
    · exact .inr (.inl hclose)
    · exact .inr (.inr (by simp [isParen, hopen, hclose]))

/-! ## Where the pairs lie -/

/-- The pairs lie within the text, and open before they close. -/
theorem parenSpansFrom_bounds (pos : Nat) (t : Text) :
    (∀ s ∈ (parenSpansFrom pos t).1, pos ≤ s.1 ∧ s.1 < s.2 ∧ s.2 < pos + t.length) ∧
      ∀ close ∈ (parenSpansFrom pos t).2, pos ≤ close ∧ close < pos + t.length := by
  induction t generalizing pos with
  | nil => exact ⟨by simp [parenSpansFrom], by simp [parenSpansFrom]⟩
  | cons c t ih =>
      obtain ⟨hspans, hwaiting⟩ := ih (pos + 1)
      have hspans' : ∀ s ∈ (parenSpansFrom (pos + 1) t).1,
          pos ≤ s.1 ∧ s.1 < s.2 ∧ s.2 < pos + (t.length + 1) := fun s hs => by
        have hs := hspans s hs
        omega
      have hwaiting' : ∀ close ∈ (parenSpansFrom (pos + 1) t).2,
          pos < close ∧ close < pos + (t.length + 1) := fun close hclose => by
        have hclose := hwaiting close hclose
        omega
      rw [List.length_cons]
      rcases paren_cases c with rfl | rfl | hc
      · rw [parenSpansFrom_open]
        split
        · exact ⟨hspans', by simp⟩
        · next close outer hw =>
            rw [hw] at hwaiting'
            have hclose := hwaiting' close (by simp)
            refine ⟨List.forall_mem_cons.mpr ⟨⟨Nat.le_refl pos, hclose.1, hclose.2⟩, hspans'⟩, ?_⟩
            intro d hd
            have hd := hwaiting' d (List.mem_cons_of_mem close hd)
            omega
      · rw [parenSpansFrom_close]
        refine ⟨hspans', List.forall_mem_cons.mpr ⟨⟨Nat.le_refl pos, by omega⟩, ?_⟩⟩
        intro d hd
        have hd := hwaiting' d hd
        omega
      · rw [parenSpansFrom_other hc]
        exact ⟨hspans', fun d hd => ⟨Nat.le_of_lt (hwaiting' d hd).1, (hwaiting' d hd).2⟩⟩

/-- Where the text starts moves its pairs and changes nothing else. -/
theorem parenSpansFrom_shift (pos n : Nat) (t : Text) :
    parenSpansFrom (pos + n) t =
      ((parenSpansFrom pos t).1.map fun s => (s.1 + n, s.2 + n),
        (parenSpansFrom pos t).2.map (· + n)) := by
  induction t generalizing pos with
  | nil => rfl
  | cons c t ih =>
      have ih := ih (pos + 1)
      rw [Nat.add_right_comm] at ih
      rcases paren_cases c with rfl | rfl | hc
      · rw [parenSpansFrom_open, parenSpansFrom_open, ih]
        cases (parenSpansFrom (pos + 1) t).2 <;> rfl
      · rw [parenSpansFrom_close, parenSpansFrom_close, ih]
        rfl
      · rw [parenSpansFrom_other hc, parenSpansFrom_other hc, ih]

/-! ## Texts that leave nothing open -/

/-- **A closed text** leaves no parenthesis open: from no place in it on more are opened than closed. It
    may hold a stray `)`. -/
def IsClosed (t : Text) : Prop := ∀ s, s <:+ t → s.count '(' ≤ s.count ')'

/-- A balanced text is closed. -/
theorem IsBalanced.isClosed {t : Text} (h : IsBalanced t) : IsClosed t := by
  rintro s ⟨v, rfl⟩
  have hv := h.no_stray v (List.prefix_append v s)
  have hclosed := h.closed
  rw [List.count_append, List.count_append] at hclosed
  omega

/-- The depth is at least the number of parentheses that were opened and not closed. -/
theorem count_open_le_depthAfterText (depth : Nat) (t : Text) :
    depth + t.count '(' ≤ depthAfterText depth t + t.count ')' := by
  induction t generalizing depth with
  | nil => exact Nat.le_refl _
  | cons c t ih =>
      have ih := ih (depthAfter depth c)
      show _ ≤ depthAfterText (depthAfter depth c) t + _
      rcases paren_cases c with rfl | rfl | hc
      · have hstep : depthAfter depth '(' = depth + 1 := rfl
        rw [hstep] at ih ⊢
        simp
        omega
      · -- at depth zero the `)` is stray, and the depth stays above the balance
        have hstep : depthAfter depth ')' = depth - 1 := rfl
        rw [hstep] at ih ⊢
        simp
        omega
      · have hne := ne_of_no_paren hc
        have hstep := depthAfter_of_no_paren hc depth
        rw [hstep] at ih ⊢
        rwa [List.count_cons_of_ne hne.1, List.count_cons_of_ne hne.2]

/-- **A text that ends at depth zero is closed**, whatever the depth before it. -/
theorem isClosed_of_depthAfterText {depth : Nat} {t : Text} (h : depthAfterText depth t = 0) :
    IsClosed t := by
  rintro s ⟨v, rfl⟩
  rw [depthAfterText_append] at h
  have hs := count_open_le_depthAfterText (depthAfterText depth v) s
  omega

/-- A closed text that closes all that was open before it ends at depth zero. -/
theorem IsClosed.depthAfterText_eq_zero {depth : Nat} {t : Text} (h : IsClosed t)
    (hcount : depth + t.count '(' ≤ t.count ')') : depthAfterText depth t = 0 := by
  induction t generalizing depth with
  | nil => exact Nat.le_zero.mp hcount
  | cons c t ih =>
      have hrest : IsClosed t := fun s hs => h s (hs.trans (List.suffix_cons c t))
      show depthAfterText (depthAfter depth c) t = 0
      refine ih hrest ?_
      rcases paren_cases c with rfl | rfl | hc
      · have hstep : depthAfter depth '(' = depth + 1 := rfl
        rw [hstep]
        simp at hcount
        omega
      · -- at depth zero the `)` closes nothing, but what follows leaves nothing open by itself
        have hstep : depthAfter depth ')' = depth - 1 := rfl
        have hall := hrest t List.suffix_rfl
        rw [hstep]
        simp at hcount
        omega
      · have hne := ne_of_no_paren hc
        have hstep := depthAfter_of_no_paren hc depth
        rw [List.count_cons_of_ne hne.1, List.count_cons_of_ne hne.2] at hcount
        rw [hstep]
        exact hcount

/-- **A closed text ends at depth zero**, from depth zero on. -/
theorem IsClosed.depthAfterText_eq {t : Text} (h : IsClosed t) : depthAfterText 0 t = 0 := by
  refine h.depthAfterText_eq_zero ?_
  rw [Nat.zero_add]
  exact h t List.suffix_rfl

/-! ## Texts put together -/

/-- A closed text keeps its pairs to itself, and hands on the `)` that wait behind it. As many of its own
    wait as it closes more than it opens. -/
theorem parenSpansFrom_append {u : Text} (h : IsClosed u) (pos : Nat) (tail : Text) :
    parenSpansFrom pos (u ++ tail) =
        ((parenSpansFrom pos u).1 ++ (parenSpansFrom (pos + u.length) tail).1,
          (parenSpansFrom pos u).2 ++ (parenSpansFrom (pos + u.length) tail).2) ∧
      (parenSpansFrom pos u).2.length + u.count '(' = u.count ')' := by
  induction u generalizing pos with
  | nil => exact ⟨rfl, rfl⟩
  | cons c u ih =>
      obtain ⟨ih, hcount⟩ := ih (fun s hs => h s (hs.trans (List.suffix_cons c u))) (pos + 1)
      have hall := h (c :: u) List.suffix_rfl
      have hpos : pos + 1 + u.length = pos + (c :: u).length := by
        rw [List.length_cons]
        omega
      rw [hpos] at ih
      rw [List.cons_append]
      rcases paren_cases c with rfl | rfl | hc
      · -- a `)` of `u` waits for this `(`
        simp only [List.count_cons, beq_iff_eq] at hall ⊢
        rw [parenSpansFrom_open, parenSpansFrom_open, ih]
        cases hw : (parenSpansFrom (pos + 1) u).2 with
        | nil =>
            rw [hw] at hcount
            simp at hall hcount
            omega
        | cons close outer =>
            rw [hw] at hcount
            simp at hcount ⊢
            omega
      · rw [parenSpansFrom_close, parenSpansFrom_close, ih]
        simp at hcount ⊢
        omega
      · have hne := ne_of_no_paren hc
        rw [parenSpansFrom_other hc, parenSpansFrom_other hc, List.count_cons_of_ne hne.1,
          List.count_cons_of_ne hne.2]
        exact ⟨ih, hcount⟩

/-- **The pairs of a closed text and of what follows** are those of the two. -/
theorem IsClosed.parenSpans_append {u : Text} (hu : IsClosed u) (tail : Text) :
    parenSpans (u ++ tail) =
      parenSpans u ++ (parenSpans tail).map fun s => (s.1 + u.length, s.2 + u.length) := by
  have happend := (parenSpansFrom_append hu 0 tail).1
  rw [parenSpans, happend, parenSpansFrom_shift]
  rfl

theorem parenSpansFrom_of_no_paren {t : Text} (h : ∀ c ∈ t, isParen c = false) (pos : Nat) :
    parenSpansFrom pos t = ([], []) := by
  induction t generalizing pos with
  | nil => rfl
  | cons c t ih =>
      rw [parenSpansFrom_other (h c (by simp))]
      exact ih (fun d hd => h d (List.mem_cons_of_mem c hd)) (pos + 1)

theorem parenSpans_of_no_paren {t : Text} (h : ∀ c ∈ t, isParen c = false) : parenSpans t = [] := by
  rw [parenSpans, parenSpansFrom_of_no_paren h]

/-- Nothing behind a text without parentheses changes its pairs. -/
theorem parenSpans_append_of_no_paren (u : Text) {tail : Text} (h : ∀ c ∈ tail, isParen c = false) :
    parenSpans (u ++ tail) = parenSpans u := by
  have hfrom : ∀ pos, parenSpansFrom pos (u ++ tail) = parenSpansFrom pos u := by
    induction u with
    | nil => exact fun pos => parenSpansFrom_of_no_paren h pos
    | cons c u ih =>
        intro pos
        have ih := ih (pos + 1)
        rw [List.cons_append]
        rcases paren_cases c with rfl | rfl | hc
        · rw [parenSpansFrom_open, parenSpansFrom_open, ih]
        · rw [parenSpansFrom_close, parenSpansFrom_close, ih]
        · rw [parenSpansFrom_other hc, parenSpansFrom_other hc, ih]
  rw [parenSpans, parenSpans, hfrom]

/-- Whatever stands before a text, the pairs of the text are the last ones. -/
theorem parenSpansFrom_isSuffix (pos : Nat) (u tail : Text) :
    (parenSpansFrom (pos + u.length) tail).1 <:+ (parenSpansFrom pos (u ++ tail)).1 := by
  induction u generalizing pos with
  | nil => exact List.suffix_rfl
  | cons c u ih =>
      have ih := ih (pos + 1)
      rw [show pos + 1 + u.length = pos + (c :: u).length by rw [List.length_cons]; omega] at ih
      rw [List.cons_append]
      rcases paren_cases c with rfl | rfl | hc
      · rw [parenSpansFrom_open]
        split
        · exact ih
        · exact ih.trans (List.suffix_cons _ _)
      · rw [parenSpansFrom_close]
        exact ih
      · rw [parenSpansFrom_other hc]
        exact ih

/-! ## What a pair encloses -/

/-- What stands before the first `)` that waits for its `(` is balanced, and the others that wait stand
    behind it. -/
theorem exists_of_waiting {pos : Nat} {t : Text} {close : Nat} {outer : List Nat}
    (h : (parenSpansFrom pos t).2 = close :: outer) :
    ∃ b v, t = b ++ ')' :: v ∧ IsBalanced b ∧ close = pos + b.length ∧
      (parenSpansFrom (close + 1) v).2 = outer := by
  induction hn : t.length using Nat.strongRecOn generalizing pos t close outer with
  | _ n ih =>
    subst hn
    cases t with
    | nil => exact absurd h (by simp [parenSpansFrom])
    | cons c t =>
        rcases paren_cases c with rfl | rfl | hc
        · rw [parenSpansFrom_open] at h
          split at h
          · exact absurd h (by simp)
          · -- the `(` takes the first `)` behind it, and the one sought is the first behind that group
            next first others hfirst =>
              obtain rfl : others = close :: outer := h
              obtain ⟨b, v, rfl, hb, rfl, hv⟩ := ih t.length (by simp) hfirst rfl
              obtain ⟨b', v', rfl, hb', rfl, hv'⟩ := ih v.length (by simp; omega) hv rfl
              refine ⟨inParens b ++ b', v', by simp [inParens], (isBalanced_inParens hb).append hb',
                ?_, hv'⟩
              simp [inParens]
              omega
        · obtain ⟨rfl, rfl⟩ := List.cons.inj h
          exact ⟨[], t, rfl, isBalanced_of_no_paren (by simp), rfl, rfl⟩
        · rw [parenSpansFrom_other hc] at h
          obtain ⟨b, v, rfl, hb, rfl, hv⟩ := ih t.length (by simp) h rfl
          have hfront : IsBalanced [c] := isBalanced_of_no_paren (List.forall_mem_singleton.mpr hc)
          refine ⟨c :: b, v, rfl, hfront.append hb, ?_, hv⟩
          rw [List.length_cons]
          omega

/-- A pair encloses a balanced text. -/
theorem exists_of_mem_parenSpansFrom {pos : Nat} {t : Text} {s : Nat × Nat}
    (h : s ∈ (parenSpansFrom pos t).1) :
    ∃ u b v, t = u ++ (inParens b ++ v) ∧ IsBalanced b ∧
      s = (pos + u.length, pos + u.length + 1 + b.length) := by
  induction t generalizing pos with
  | nil => exact absurd h (by simp [parenSpansFrom])
  | cons c t ih =>
      have hlater : s ∈ (parenSpansFrom (pos + 1) t).1 → ∃ u b v, c :: t = u ++ (inParens b ++ v) ∧
          IsBalanced b ∧ s = (pos + u.length, pos + u.length + 1 + b.length) := by
        intro hs
        obtain ⟨u, b, v, rfl, hb, rfl⟩ := ih hs
        refine ⟨c :: u, b, v, rfl, hb, ?_⟩
        rw [List.length_cons, Nat.add_right_comm pos 1, Nat.add_assoc pos]
      rcases paren_cases c with rfl | rfl | hc
      · rw [parenSpansFrom_open] at h
        split at h
        · exact hlater h
        · next close outer hwaiting =>
            rcases List.mem_cons.mp h with rfl | h
            · obtain ⟨b, v, rfl, hb, rfl, -⟩ := exists_of_waiting hwaiting
              exact ⟨[], b, v, by simp [inParens], hb, rfl⟩
            · exact hlater h
      · rw [parenSpansFrom_close] at h
        exact hlater h
      · rw [parenSpansFrom_other hc] at h
        exact hlater h

/-- **The pairs of a group**: the outer one, and those of its content. -/
theorem parenSpans_inParens {b : Text} (hb : IsBalanced b) :
    parenSpans (inParens b) =
      (0, 1 + b.length) :: (parenSpans b).map fun s => (s.1 + 1, s.2 + 1) := by
  -- the first `(` opens the pair that the last character closes
  have hinside := (parenSpansFrom_append hb.isClosed 1 [')']).1
  have hwaiting : (parenSpansFrom 1 b).2 = [] := by
    have hcount := (parenSpansFrom_append hb.isClosed 1 []).2
    have hclosed := hb.closed
    exact List.eq_nil_of_length_eq_zero (by omega)
  rw [parenSpans, inParens, parenSpansFrom_open, hinside, hwaiting, parenSpansFrom_shift 0 1 b]
  show (0, 1 + b.length) :: ((parenSpans b).map _ ++ []) = _
  rw [List.append_nil]

/-- **The pairs of a text** are those that enclose a balanced text, whatever stands around them. -/
theorem mem_parenSpans_iff {t : Text} {s : Nat × Nat} :
    s ∈ parenSpans t ↔
      ∃ u b v, t = u ++ (inParens b ++ v) ∧ IsBalanced b ∧ s = (u.length, u.length + 1 + b.length) := by
  constructor
  · intro h
    obtain ⟨u, b, v, ht, hb, hs⟩ := exists_of_mem_parenSpansFrom h
    rw [Nat.zero_add] at hs
    exact ⟨u, b, v, ht, hb, hs⟩
  · rintro ⟨u, b, v, rfl, hb, rfl⟩
    -- a group that stands in front has its outer pair, and what stands before it only moves that
    have hgroup := (isBalanced_inParens hb).isClosed.parenSpans_append v
    rw [parenSpans_inParens hb] at hgroup
    apply (parenSpansFrom_isSuffix 0 u (inParens b ++ v)).subset
    rw [parenSpansFrom_shift 0 u.length]
    refine List.mem_map.mpr ⟨(0, 1 + b.length), ?_, ?_⟩
    · show _ ∈ parenSpans (inParens b ++ v)
      rw [hgroup]
      exact List.mem_cons_self
    · rw [Nat.zero_add, Nat.add_comm (1 + b.length), Nat.add_assoc]

/-! ## The end of a group -/

/-- A search that has an open parenthesis all through a text goes on behind it. -/
theorem closingFrom_append {u : Text} {balance : Nat}
    (h : ∀ s, s <+: u → s.count ')' < balance + s.count '(') (pos : Nat) (tail : Text) :
    closingFrom pos balance (u ++ tail) =
      closingFrom (pos + u.length) (balance + u.count '(' - u.count ')' : Nat) tail := by
  induction u generalizing pos balance with
  | nil => rfl
  | cons c u ih =>
      have hstep : ∀ s, s <+: u → (c :: s).count ')' < balance + (c :: s).count '(' := fun s hs =>
        h (c :: s) (List.cons_prefix_cons.mpr ⟨rfl, hs⟩)
      have hfirst := hstep [] List.nil_prefix
      have hpos : pos + 1 + u.length = pos + (c :: u).length := by
        rw [List.length_cons]
        omega
      rw [List.cons_append, closingFrom]
      rcases paren_cases c with rfl | rfl | hc
      · have ih := @ih (balance + 1) (fun s hs => by
          have hs := hstep s hs
          simp at hs
          omega) (pos + 1)
        rw [if_pos rfl, show ((balance : Int) + 1) = ((balance + 1 : Nat) : Int) by simp, ih, hpos]
        simp only [List.count_cons_self, List.count_cons_of_ne (show '(' ≠ ')' by decide)]
        congr 2
        omega
      · simp at hfirst
        have ih := @ih (balance - 1) (fun s hs => by
          have hs := hstep s hs
          simp at hs
          omega) (pos + 1)
        rw [if_neg (by decide), if_pos rfl, if_neg (by omega),
          show ((balance : Int) - 1) = ((balance - 1 : Nat) : Int) by omega, ih, hpos]
        simp only [List.count_cons_self, List.count_cons_of_ne (show ')' ≠ '(' by decide)]
        congr 2
        omega
      · have hne := ne_of_no_paren hc
        have ih := @ih balance (fun s hs => by
          have hs := hstep s hs
          rwa [List.count_cons_of_ne hne.1, List.count_cons_of_ne hne.2] at hs) (pos + 1)
        rw [if_neg hne.1, if_neg hne.2, ih, hpos, List.count_cons_of_ne hne.1,
          List.count_cons_of_ne hne.2]

/-- **The `)` that closes a group** stands behind its content. -/
theorem matchingParen?_inParens {b : Text} (hb : IsBalanced b) (tail : Text) :
    matchingParen? (inParens b ++ tail) 0 = some (b.length + 1) := by
  have htext : inParens b ++ tail = '(' :: (b ++ ')' :: tail) := by simp [inParens]
  have hopen : ∀ s, s <+: b → s.count ')' < 1 + s.count '(' := fun s hs => by
    have hs := hb.no_stray s hs
    omega
  have hclosed := hb.closed
  show closingFrom 0 0 (inParens b ++ tail) = _
  rw [htext, closingFrom, if_pos rfl]
  have hinside := closingFrom_append hopen 1 (')' :: tail)
  rw [show 1 + b.count '(' - b.count ')' = 1 by omega] at hinside
  refine hinside.trans ?_
  rw [closingFrom, if_neg (by decide), if_pos rfl, if_pos (by rfl), Nat.add_comm]

/-- **A search that stops** has an open parenthesis up to the `)` where it stops, and none behind it. -/
theorem exists_of_closingFrom {t : Text} {pos balance close : Nat} (hbalance : 0 < balance)
    (h : closingFrom pos balance t = some close) :
    ∃ b tail, t = b ++ ')' :: tail ∧ (∀ s, s <+: b → s.count ')' < balance + s.count '(') ∧
      b.count ')' + 1 = balance + b.count '(' ∧ close = pos + b.length := by
  induction t generalizing pos balance with
  | nil => exact absurd h (by simp [closingFrom])
  | cons c t ih =>
      -- what is counted with one more character in front
      have hlater : ∀ {b : Text}, (∀ s, s <+: b → (c :: s).count ')' < balance + (c :: s).count '(') →
          ∀ s, s <+: c :: b → s.count ')' < balance + s.count '(' := by
        intro b hb s hs
        rcases List.prefix_cons_iff.mp hs with rfl | ⟨s, rfl, hfront⟩
        · simpa using hbalance
        · exact hb s hfront
      have hpos : ∀ b : Text, pos + 1 + b.length = pos + (c :: b).length := fun b => by
        rw [List.length_cons]
        omega
      rw [closingFrom] at h
      rcases paren_cases c with rfl | rfl | hc
      · rw [if_pos rfl, show ((balance : Int) + 1) = ((balance + 1 : Nat) : Int) by simp] at h
        obtain ⟨b, tail, rfl, hopen, hcount, rfl⟩ := ih (Nat.succ_pos balance) h
        refine ⟨'(' :: b, tail, rfl, hlater fun s hs => ?_, ?_, hpos b⟩
        · have hs := hopen s hs
          simp
          omega
        · simp
          omega
      · rw [if_neg (by decide), if_pos rfl] at h
        split at h
        · next hone =>
            obtain rfl := Option.some.inj h
            refine ⟨[], t, rfl, fun s hs => ?_, ?_, rfl⟩
            · simpa [List.prefix_nil.mp hs] using hbalance
            · simp
              omega
        · next hmany =>
            rw [show ((balance : Int) - 1) = ((balance - 1 : Nat) : Int) by omega] at h
            obtain ⟨b, tail, rfl, hopen, hcount, rfl⟩ := ih (by omega) h
            refine ⟨')' :: b, tail, rfl, hlater fun s hs => ?_, ?_, hpos b⟩
            · have hs := hopen s hs
              simp
              omega
            · simp
              omega
      · have hne := ne_of_no_paren hc
        rw [if_neg hne.1, if_neg hne.2] at h
        obtain ⟨b, tail, rfl, hopen, hcount, rfl⟩ := ih hbalance h
        refine ⟨c :: b, tail, rfl, hlater fun s hs => ?_, ?_, hpos b⟩
        · rw [List.count_cons_of_ne hne.1, List.count_cons_of_ne hne.2]
          exact hopen s hs
        · rwa [List.count_cons_of_ne hne.1, List.count_cons_of_ne hne.2]

/-- **The `)` that is found for a `(` in front** closes a group. -/
theorem exists_of_matchingParen? {rest : Text} {close : Nat}
    (h : matchingParen? ('(' :: rest) 0 = some close) :
    ∃ b tail, '(' :: rest = inParens b ++ tail ∧ IsBalanced b ∧ close = b.length + 1 := by
  have h : closingFrom 1 (1 : Nat) rest = some close := h
  obtain ⟨b, tail, rfl, hopen, hcount, rfl⟩ := exists_of_closingFrom Nat.one_pos h
  refine ⟨b, tail, by simp [inParens], ⟨fun s hs => ?_, by omega⟩, Nat.add_comm 1 b.length⟩
  have hs := hopen s hs
  omega

end SqlSkim
