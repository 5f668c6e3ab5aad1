import SqlSkim.Proofs.Paren.Pair
import SqlSkim.Proofs.Token.Walk

/-!
# `Paren.Depth` — three ways to follow the parentheses

The offsets at depth zero are found with a count that a stray `)` leaves at zero, the `)` that closes a group with a
count that may fall below zero, and the pairs of a text with a stack. They agree in any text, be it balanced or not:
all of them can be described by the balanced pairs. A text ends at depth zero just if each `(` of it opens a pair of
it, so an offset lies at depth zero just if each `(` before it is closed before it.

## Contents
- `matchingParen?_eq_some_iff`: the `)` that closes a group, as the end of a pair.
- `isPair_take_iff`, `depthAfterText_eq_zero_iff`: pairs of the front of a text, and depth zero.
- `mem_topLevel_iff`, `topLevelFrom_append`, `topLevel_restart`: the offsets at depth zero.
- `DepthsAgree`, `depthsAgree_parenSpans`: the main result.
-/

namespace SqlSkim

variable {t u v : Text} {i o close : Nat}

/-! ## The end of a group -/

/-- A pair is a group with something before it and something behind it. -/
theorem IsPair.exists_append (h : IsPair t (o, close)) :
    ∃ u b v, t = u ++ (inParens b ++ v) ∧ IsBalanced b ∧ u.length = o ∧ close = o + 1 + b.length := by
  obtain ⟨u, v, ht, hs⟩ := h.exists_eq
  obtain ⟨ho, hclose⟩ := Prod.mk.inj hs
  refine ⟨u, between t (o, close), v, ht, h.balanced, ho.symm, ?_⟩
  rwa [← ho] at hclose

/-- **The `)` that closes a group** is the other end of its pair. -/
theorem matchingParen?_eq_some_iff (hopen : t[o]? = some '(') :
    matchingParen? t o = some close ↔ IsPair t (o, close) := by
  have hlt : o < t.length := (List.getElem?_eq_some_iff.mp hopen).1
  have hshift : matchingParen? t o = (matchingParen? (t.drop o) 0).map (· + o) := by
    have hmoved := closingFrom_shift 0 o 0 (t.drop o)
    rwa [Nat.zero_add] at hmoved
  rw [hshift, Option.map_eq_some_iff]
  constructor
  · rintro ⟨k, hk, rfl⟩
    have hfront := drop_of_getElem? hopen
    rw [hfront] at hk
    obtain ⟨b, tail, htext, hb, rfl⟩ := exists_of_matchingParen? hk
    have hpair := isPair_inParens hb (t.take o) tail
    rw [← htext, ← hfront, List.take_append_drop, List.length_take_of_le (Nat.le_of_lt hlt)] at hpair
    rwa [show b.length + 1 + o = o + 1 + b.length by omega]
  · intro hpair
    obtain ⟨u, b, v, rfl, hb, rfl, rfl⟩ := hpair.exists_append
    refine ⟨b.length + 1, ?_, by omega⟩
    rw [List.drop_left]
    exact matchingParen?_inParens hb v

/-! ## Pairs and depth zero -/

/-- **The pairs of a front of a text** are the pairs of the text that end in it. -/
theorem isPair_take_iff {s : Nat × Nat} : IsPair (t.take i) s ↔ IsPair t s ∧ s.2 < i := by
  have hget : ∀ {j : Nat}, j < i → (t.take i)[j]? = t[j]? := fun hj => by rw [List.getElem?_take, if_pos hj]
  have hbetween : s.2 < i → between (t.take i) s = between t s := fun hstop => by
    unfold between
    rw [List.drop_take, List.take_take, Nat.min_eq_left (by omega)]
  constructor
  · intro h
    have hlt := h.lt
    have hstop : s.2 < i := by
      have hlength := (List.getElem?_eq_some_iff.mp h.closes).1
      rw [List.length_take] at hlength
      omega
    refine ⟨⟨hlt, ?_, ?_, ?_⟩, hstop⟩
    · rw [← hget (Nat.lt_trans hlt hstop)]
      exact h.opens
    · rw [← hget hstop]
      exact h.closes
    · rw [← hbetween hstop]
      exact h.balanced
  · rintro ⟨h, hstop⟩
    have hlt := h.lt
    refine ⟨hlt, ?_, ?_, ?_⟩
    · rw [hget (Nat.lt_trans hlt hstop)]
      exact h.opens
    · rw [hget hstop]
      exact h.closes
    · rw [hbetween hstop]
      exact h.balanced

/-- A closed text that starts with a `(` starts with a group. -/
theorem IsClosed.exists_group {m : Text} (h : IsClosed ('(' :: m)) :
    ∃ b v, '(' :: m = inParens b ++ v ∧ IsBalanced b := by
  have hm : IsClosed m := fun s hs => h s (hs.trans (List.suffix_cons '(' m))
  have hcount := (parenSpansFrom_append hm 0 []).2
  have hall := h ('(' :: m) List.suffix_rfl
  rw [List.count_cons_self, List.count_cons_of_ne (show '(' ≠ ')' by decide)] at hall
  -- more is closed than opened behind the `(`, so some `)` there waits for it
  cases hwaiting : (parenSpansFrom 0 m).2 with
  | nil =>
      rw [hwaiting, List.length_nil] at hcount
      omega
  | cons close outer =>
      obtain ⟨b, v, rfl, hb, -, -⟩ := exists_of_waiting hwaiting
      exact ⟨b, v, by simp [inParens], hb⟩

/-- The pairs of a text behind its first character. -/
theorem IsPair.of_cons {c : Char} (h : IsPair (c :: t) (o + 1, close)) : ∃ close', IsPair t (o, close') := by
  obtain ⟨u, b, v, ht, hb, hlength, -⟩ := h.exists_append
  cases u with
  | nil => exact absurd hlength (by simp)
  | cons d u =>
      obtain ⟨rfl, rfl⟩ := List.cons.inj ht
      obtain rfl : u.length = o := by simpa using hlength
      exact ⟨_, isPair_inParens hb u v⟩

/-- **A text ends at depth zero** just if each `(` of it opens a pair of it. -/
theorem depthAfterText_eq_zero_iff :
    depthAfterText 0 t = 0 ↔ ∀ o, t[o]? = some '(' → ∃ close, IsPair t (o, close) := by
  constructor
  · intro h o hopen
    have hfront := drop_of_getElem? hopen
    have hclosed : IsClosed ('(' :: t.drop (o + 1)) := by
      rw [← hfront]
      exact fun s hs => isClosed_of_depthAfterText h s (hs.trans (List.drop_suffix o t))
    obtain ⟨b, v, htext, hb⟩ := hclosed.exists_group
    have hlt : o < t.length := (List.getElem?_eq_some_iff.mp hopen).1
    have hpair := isPair_inParens hb (t.take o) v
    rw [← htext, ← hfront, List.take_append_drop, List.length_take_of_le (Nat.le_of_lt hlt)] at hpair
    exact ⟨_, hpair⟩
  · intro h
    induction t with
    | nil => rfl
    | cons c t ih =>
        have hrest : depthAfterText 0 t = 0 := ih fun o hopen => by
          obtain ⟨close, hpair⟩ := h (o + 1) hopen
          exact hpair.of_cons
        rcases paren_cases c with rfl | rfl | hc
        · -- the text starts with a group, and what is behind that is the end of what is behind the `(`
          obtain ⟨close, hpair⟩ := h 0 rfl
          obtain ⟨u, b, v, ht, hb, hlength, -⟩ := hpair.exists_append
          obtain rfl : u = [] := List.eq_nil_of_length_eq_zero hlength
          have hend : v <:+ t := ⟨b ++ [')'], (List.cons.inj ht).2.symm⟩
          have hv : IsClosed v := fun s hs => isClosed_of_depthAfterText hrest s (hs.trans hend)
          rw [ht, List.nil_append, depthAfterText_append, hb.depthAfterText_inParens]
          exact hv.depthAfterText_eq
        · exact hrest
        · show depthAfterText (depthAfter 0 c) t = 0
          rw [depthAfter_of_no_paren hc]
          exact hrest

/-! ## The offsets at depth zero -/

theorem mem_topLevelFrom_cons {pos depth : Nat} {c : Char} :
    i ∈ topLevelFrom pos depth (c :: t) ↔
      (i = pos ∧ isParen c = false ∧ depth = 0) ∨ i ∈ topLevelFrom (pos + 1) (depthAfter depth c) t := by
  rw [topLevelFrom]
  by_cases htop : depth = 0 ∧ !isParen c
  · have hc : isParen c = false := by simpa using htop.2
    rw [if_pos htop, List.mem_cons]
    simp [hc, htop.1]
  · rw [if_neg htop, or_iff_right]
    rintro ⟨_, hc, hdepth⟩
    exact htop ⟨hdepth, by simp [hc]⟩

theorem mem_topLevelFrom_iff {pos depth : Nat} :
    i ∈ topLevelFrom pos depth t ↔ ∃ k c, i = pos + k ∧ t[k]? = some c ∧ isParen c = false ∧
      depthAfterText depth (t.take k) = 0 := by
  induction t generalizing pos depth with
  | nil => simp [topLevelFrom]
  | cons c t ih =>
      rw [mem_topLevelFrom_cons, ih]
      constructor
      · rintro (⟨rfl, hc, rfl⟩ | ⟨k, d, rfl, hd⟩)
        · exact ⟨0, c, rfl, rfl, hc, rfl⟩
        · exact ⟨k + 1, d, by omega, hd⟩
      · rintro ⟨k, d, rfl, hd, hparen, hdepth⟩
        cases k with
        | zero =>
            obtain rfl : c = d := by simpa using hd
            exact .inl ⟨rfl, hparen, hdepth⟩
        | succ k => exact .inr ⟨k, d, by omega, hd, hparen, hdepth⟩

/-- **The offsets at depth zero** are those of no parenthesis up to which the text ends at depth zero. -/
theorem mem_topLevel_iff :
    i ∈ topLevel t 0 ↔ ∃ c, t[i]? = some c ∧ isParen c = false ∧ depthAfterText 0 (t.take i) = 0 := by
  unfold topLevel
  rw [List.drop_zero, mem_topLevelFrom_iff]
  constructor
  · rintro ⟨k, c, hi, h⟩
    rw [Nat.zero_add] at hi
    subst hi
    exact ⟨c, h⟩
  · rintro ⟨c, h⟩
    exact ⟨i, c, (Nat.zero_add i).symm, h⟩

/-- A scan goes on at the depth at which the front of the text ends. -/
theorem topLevelFrom_append (pos depth : Nat) (u v : Text) :
    topLevelFrom pos depth (u ++ v) =
      topLevelFrom pos depth u ++ topLevelFrom (pos + u.length) (depthAfterText depth u) v := by
  induction u generalizing pos depth with
  | nil => rfl
  | cons c u ih =>
      have hpos : pos + 1 + u.length = pos + (c :: u).length := by
        rw [List.length_cons]
        omega
      have ih := ih (pos + 1) (depthAfter depth c)
      rw [hpos] at ih
      rw [List.cons_append, topLevelFrom, topLevelFrom, ih]
      split <;> rfl

/-- **A scan started at depth zero** finds what is left of a scan from the front. -/
theorem topLevel_restart {start : Nat} (h : depthAfterText 0 (t.take start) = 0) :
    topLevel t start = (topLevel t 0).filter (start ≤ ·) := by
  have hall : topLevel t 0 = topLevelFrom 0 0 (t.take start) ++ topLevel t start := by
    have happend := topLevelFrom_append 0 0 (t.take start) (t.drop start)
    rw [List.take_append_drop, h, Nat.zero_add] at happend
    refine happend.trans (congrArg _ ?_)
    by_cases hle : start ≤ t.length
    · rw [List.length_take_of_le hle]
      rfl
    · have hnone : t.drop start = [] := List.drop_eq_nil_of_le (by omega)
      rw [topLevel, hnone]
      rfl
  have hbefore : (topLevelFrom 0 0 (t.take start)).filter (start ≤ ·) = [] := by
    refine List.filter_eq_nil_iff.mpr fun i hi => ?_
    have hlt := (bounds_of_mem_topLevelFrom hi).2
    rw [Nat.zero_add, List.length_take] at hlt
    simp
    omega
  have hbehind : (topLevel t start).filter (start ≤ ·) = topLevel t start := by
    refine List.filter_eq_self.mpr fun i hi => ?_
    exact decide_eq_true (bounds_of_mem_topLevel hi).1
  rw [hall, List.filter_append, hbefore, hbehind, List.nil_append]

/-- The scan may as well start at the `)` that takes the depth to zero. -/
theorem topLevel_restart_of_succ {start : Nat} (h : depthAfterText 0 (t.take (start + 1)) = 0) :
    topLevel t start = (topLevel t 0).filter (start ≤ ·) := by
  cases hrest : t.drop start with
  | nil =>
      -- there is nothing behind `start`
      refine topLevel_restart ?_
      rw [List.take_of_length_le (List.drop_eq_nil_iff.mp hrest)]
      rwa [List.take_of_length_le (Nat.le_succ_of_le (List.drop_eq_nil_iff.mp hrest))] at h
  | cons c rest =>
      have htake : t.take (start + 1) = t.take start ++ [c] := by
        rw [List.take_add, hrest]
        rfl
      have hstep : depthAfter (depthAfterText 0 (t.take start)) c = 0 := by
        rwa [htake, depthAfterText_append] at h
      rcases paren_cases c with rfl | rfl | hc
      · exact absurd hstep (Nat.succ_ne_zero _)
      · have hnext : topLevel t start = topLevel t (start + 1) := by
          unfold topLevel
          rw [← List.drop_drop, hrest]
          rfl
        rw [hnext, topLevel_restart h]
        refine List.filter_congr fun i hi => ?_
        -- a parenthesis is not among the offsets
        have hne : i ≠ start := by
          rintro rfl
          obtain ⟨d, hd, hparen, _⟩ := mem_topLevel_iff.mp hi
          have hclose : t[i]? = some ')' := by
            rw [← List.head?_drop, hrest]
            rfl
          obtain rfl : ')' = d := Option.some.inj (hclose.symm.trans hd)
          exact absurd hparen (by decide)
        simp
        omega
      · rw [depthAfter_of_no_paren hc] at hstep
        exact topLevel_restart hstep

/-! ## The main result -/

/-- **An offset that lies in a group**: some `(` before it is closed only behind it, or not at all. -/
def LiesInGroup (t : Text) (i : Nat) : Prop :=
  ∃ o, o < i ∧ t[o]? = some '(' ∧ ∀ close, matchingParen? t o = some close → i < close

/-- Up to an offset that is in no group the text ends at depth zero, and up to no other. -/
theorem depthAfterText_take_eq_zero_iff (hother : t[i]? ≠ some ')') :
    depthAfterText 0 (t.take i) = 0 ↔ ¬ LiesInGroup t i := by
  have hget : ∀ o, (t.take i)[o]? = some '(' ↔ o < i ∧ t[o]? = some '(' := fun o => by
    rw [List.getElem?_take]
    split <;> simp_all
  rw [depthAfterText_eq_zero_iff]
  constructor
  · rintro h ⟨o, ho, hopen, hlate⟩
    obtain ⟨close, hpair⟩ := h o ((hget o).mpr ⟨ho, hopen⟩)
    obtain ⟨hpair, hlt⟩ := isPair_take_iff.mp hpair
    exact absurd (hlate close ((matchingParen?_eq_some_iff hopen).mpr hpair)) (Nat.lt_asymm hlt)
  · intro h o hopen
    obtain ⟨ho, hopen⟩ := (hget o).mp hopen
    -- the `)` that is found does not stand behind `i`, and `i` is no `)`
    have hearly : ∃ close, matchingParen? t o = some close ∧ ¬ i < close := by
      by_contra hnone
      exact h ⟨o, ho, hopen, fun close hclose => by_contra fun hlt => hnone ⟨close, hclose, hlt⟩⟩
    obtain ⟨close, hclose, hle⟩ := hearly
    have hpair := (matchingParen?_eq_some_iff hopen).mp hclose
    have hne : close ≠ i := fun heq => hother (heq ▸ hpair.closes)
    exact ⟨close, isPair_take_iff.mpr ⟨hpair, by omega⟩⟩

/-- **Counts and pairs that agree** on a text. -/
structure DepthsAgree (t : Text) (spans : List (Nat × Nat)) : Prop where
  /-- The `)` that is found for a `(` is the one that it is paired with. -/
  matching_iff : ∀ o, t[o]? = some '(' → ∀ close, matchingParen? t o = some close ↔ (o, close) ∈ spans
  /-- None is found exactly if no pair opens there. -/
  unmatched_iff : ∀ o, t[o]? = some '(' → (matchingParen? t o = none ↔ ∀ s ∈ spans, s.1 ≠ o)
  /-- At depth zero lies what is no parenthesis and in no group, be that closed or left open. -/
  topLevel_iff : ∀ i, i ∈ topLevel t 0 ↔ (∃ c, t[i]? = some c ∧ isParen c = false) ∧ ¬ LiesInGroup t i
  /-- A scan started where the depth is zero, before the character there or behind it, sees the same depth. -/
  restart : ∀ start, depthAfterText 0 (t.take start) = 0 ∨ depthAfterText 0 (t.take (start + 1)) = 0 →
    topLevel t start = (topLevel t 0).filter (start ≤ ·)

/-- **The counts agree with the pairs**, and these with what a stack finds, whatever the text. -/
theorem depthsAgree_parenSpans (t : Text) :
    DepthsAgree t (parenSpans t) ∧ Checked.parenSpans t = .ok (parenSpans t) := by
  have hmatching : ∀ o, t[o]? = some '(' → ∀ close,
      matchingParen? t o = some close ↔ (o, close) ∈ parenSpans t := fun o hopen close =>
    (matchingParen?_eq_some_iff hopen).trans mem_parenSpans_iff_isPair.symm
  refine ⟨?_, Checked.parenSpans_eq t⟩
  constructor
  case matching_iff => exact hmatching
  case unmatched_iff =>
    intro o hopen
    rw [Option.eq_none_iff_forall_ne_some]
    constructor
    · rintro h ⟨_, close⟩ hs rfl
      exact h close ((hmatching _ hopen close).mpr hs)
    · intro h close hclose
      exact h (o, close) ((hmatching o hopen close).mp hclose) rfl
  case topLevel_iff =>
    intro i
    have hother : ∀ c, t[i]? = some c → isParen c = false → t[i]? ≠ some ')' := by
      intro c hc hparen hclose
      obtain rfl : c = ')' := Option.some.inj (hc.symm.trans hclose)
      exact absurd hparen (by decide)
    rw [mem_topLevel_iff]
    constructor
    · rintro ⟨c, hc, hparen, hdepth⟩
      exact ⟨⟨c, hc, hparen⟩, (depthAfterText_take_eq_zero_iff (hother c hc hparen)).mp hdepth⟩
    · rintro ⟨⟨c, hc, hparen⟩, hgroup⟩
      exact ⟨c, hc, hparen, (depthAfterText_take_eq_zero_iff (hother c hc hparen)).mpr hgroup⟩
  case restart =>
    rintro start (hbefore | hbehind)
    · exact topLevel_restart hbefore
    · exact topLevel_restart_of_succ hbehind

/-- The first `)` is stray, and the last `(` is left open. -/
example : topLevel "a)(b)c(d".toList 0 = [0, 5] ∧ matchingParen? "a)(b)c(d".toList 2 = some 4 ∧
    matchingParen? "a)(b)c(d".toList 6 = none := by decide

end SqlSkim
