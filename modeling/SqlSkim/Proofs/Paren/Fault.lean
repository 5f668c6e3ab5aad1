import Mathlib.Data.List.Basic
import SqlSkim.Proofs.Diagnostic.Paren
import SqlSkim.Proofs.Paren.Pair

/-!
# `Paren.Fault` — parentheses out of balance, and the pairs they are not in

The check of parentheses counts how many are open and stops at the first `)` that closes none. The pairs of a
text are found without a count, and those that are in no pair are dropped. Both see the same ones: with as many
open before the text as the count says, the `)` that closes none of them is the one that so many others of the
text stand before, and at the end as many are open as open no pair.

## Contents
- `strayOffsets`, `openOffsets`: the parentheses in no pair; `waiting_eq`, `openFrom_open`: how they are found.
- `faultOf`, `parenFaultFrom_eq`: what the count finds, with some parentheses open before.
- `parenFault?_eq_none_iff`, `parenFault?_eq_unmatched_iff`, `parenFault?_eq_unclosed_iff`: each fault.
- `AgreesWithPairs`, `agreesWithPairs_checkParens`: the main result.
-/

namespace SqlSkim

variable {t : Text} {i n : Nat} {c : Char}

/-! ## Parentheses in no pair -/

/-- The `)` of the text that starts at offset `pos` that close no pair of it. -/
def strayFrom (pos : Nat) (t : Text) : List Nat :=
  (t.idxsOf ')' pos).filter (· ∉ (parenSpansFrom pos t).1.map Prod.snd)

/-- The `(` of the text that starts at offset `pos` that open no pair of it. -/
def openFrom (pos : Nat) (t : Text) : List Nat :=
  (t.idxsOf '(' pos).filter (· ∉ (parenSpansFrom pos t).1.map Prod.fst)

/-- **The stray `)` of a text**, which close no pair. -/
def strayOffsets (t : Text) : List Nat := strayFrom 0 t

/-- **The `(` of a text that stay open**: they open no pair. -/
def openOffsets (t : Text) : List Nat := openFrom 0 t

theorem mem_idxsOf_iff : i ∈ t.idxsOf c ↔ t[i]? = some c := by
  rw [List.mem_idxsOf_iff_exists_getElem_pos]
  simp [List.getElem?_eq_some_iff]

theorem mem_strayOffsets_iff :
    i ∈ strayOffsets t ↔ t[i]? = some ')' ∧ ∀ s ∈ parenSpans t, s.2 ≠ i := by
  unfold strayOffsets strayFrom
  rw [List.mem_filter, mem_idxsOf_iff, decide_eq_true_eq, List.mem_map, not_exists]
  simp only [not_and]
  rfl

theorem mem_openOffsets_iff :
    i ∈ openOffsets t ↔ t[i]? = some '(' ∧ ∀ s ∈ parenSpans t, s.1 ≠ i := by
  unfold openOffsets openFrom
  rw [List.mem_filter, mem_idxsOf_iff, decide_eq_true_eq, List.mem_map, not_exists]
  simp only [not_and]
  rfl

/-- Leaving out one more offset. -/
theorem filter_not_mem_cons (i : Nat) (ends offsets : List Nat) :
    offsets.filter (· ∉ i :: ends) = (offsets.filter (· ∉ ends)).filter (· ≠ i) := by
  rw [List.filter_filter]
  refine List.filter_congr fun j _ => ?_
  rw [← Bool.decide_and, decide_eq_decide, List.mem_cons, not_or]

/-- The parentheses of what follows a character lie behind it. -/
theorem ne_of_mem_idxsOf_succ {pos : Nat} (h : i ∈ t.idxsOf c (pos + 1)) : i ≠ pos :=
  Nat.ne_of_gt (List.ge_of_mem_idxsOf i h)

/-- **The `)` that wait for their `(`** are the stray ones. -/
theorem waiting_eq (pos : Nat) (t : Text) : (parenSpansFrom pos t).2 = strayFrom pos t := by
  induction t generalizing pos with
  | nil => rfl
  | cons c t ih =>
      have ih := ih (pos + 1)
      unfold strayFrom at ih ⊢
      rw [List.idxsOf_cons]
      rcases paren_cases c with rfl | rfl | hc
      · rw [parenSpansFrom_open, if_neg (by decide)]
        cases hw : (parenSpansFrom (pos + 1) t).2 with
        | nil => exact hw.symm.trans ih
        | cons close outer =>
            rw [hw] at ih
            -- the `(` takes the first one that waits, and no other stands at its offset
            have hnodup : (close :: outer).Nodup := by
              rw [ih]
              exact List.nodup_idxsOf.filter _
            dsimp only
            rw [List.map_cons, filter_not_mem_cons, ← ih, List.filter_cons_of_neg (by simp), eq_comm,
              List.filter_eq_self]
            intro i hi
            have hne : i ≠ close := fun heq => (List.nodup_cons.mp hnodup).1 (heq ▸ hi)
            exact decide_eq_true hne
      · have hpos : pos ∉ (parenSpansFrom (pos + 1) t).1.map Prod.snd := by
          intro hmem
          obtain ⟨s, hs, hend⟩ := List.mem_map.mp hmem
          have hbounds := (parenSpansFrom_bounds (pos + 1) t).1 s hs
          omega
        rw [parenSpansFrom_close, if_pos (by decide), List.filter_cons_of_pos (by simpa using hpos)]
        exact congrArg (pos :: ·) ih
      · have hne : c ≠ ')' := (ne_of_no_paren hc).2
        rw [parenSpansFrom_other hc, if_neg (by simpa using hne)]
        exact ih

/-- A `(` opens a pair if a `)` waits behind it, and stays open if none does. -/
theorem openFrom_open (pos : Nat) (rest : Text) :
    openFrom pos ('(' :: rest) =
      if (parenSpansFrom (pos + 1) rest).2 = [] then pos :: openFrom (pos + 1) rest
      else openFrom (pos + 1) rest := by
  unfold openFrom
  rw [List.idxsOf_cons, if_pos (by decide), parenSpansFrom_open]
  cases hw : (parenSpansFrom (pos + 1) rest).2 with
  | nil =>
      have hpos : pos ∉ (parenSpansFrom (pos + 1) rest).1.map Prod.fst := by
        intro hmem
        obtain ⟨s, hs, hstart⟩ := List.mem_map.mp hmem
        have hbounds := (parenSpansFrom_bounds (pos + 1) rest).1 s hs
        omega
      rw [if_pos rfl]
      exact List.filter_cons_of_pos (decide_eq_true hpos)
  | cons close outer =>
      rw [if_neg (List.cons_ne_nil close outer), List.filter_cons_of_neg (by simp)]
      apply List.filter_congr
      intro i hi
      have hne := ne_of_mem_idxsOf_succ hi
      simp [hne]

theorem openFrom_close (pos : Nat) (rest : Text) :
    openFrom pos (')' :: rest) = openFrom (pos + 1) rest := by
  unfold openFrom
  rw [List.idxsOf_cons, if_neg (by decide), parenSpansFrom_close]

theorem openFrom_other (hc : isParen c = false) (pos : Nat) (rest : Text) :
    openFrom pos (c :: rest) = openFrom (pos + 1) rest := by
  have hne : c ≠ '(' := (ne_of_no_paren hc).1
  unfold openFrom
  rw [List.idxsOf_cons, if_neg (by simpa using hne), parenSpansFrom_other hc]

/-! ## What the count finds -/

/-- The fault of a text with `depth` parentheses open before it: each stray `)` closes one of those, and the
    first one for which none is left is unmatched. -/
def faultOf (depth : Nat) (stray opened : List Nat) : Option ParenFault :=
  match stray.drop depth with
  | i :: _ => some (.unmatched i)
  | [] =>
    match depth - stray.length + opened.length with
    | 0 => none
    | n + 1 => some (.unclosed (n + 1))

theorem faultOf_succ_cons (depth i : Nat) (stray opened : List Nat) :
    faultOf (depth + 1) (i :: stray) opened = faultOf depth stray opened := by
  unfold faultOf
  rw [List.drop_succ_cons, List.length_cons, Nat.add_sub_add_right]

/-- One more that is open is the same before the text and at its end, if nothing closes it. -/
theorem faultOf_succ_nil (depth pos : Nat) (opened : List Nat) :
    faultOf (depth + 1) [] opened = faultOf depth [] (pos :: opened) := by
  unfold faultOf
  rw [List.drop_nil, List.drop_nil, List.length_nil, List.length_cons, Nat.sub_zero, Nat.sub_zero,
    Nat.add_right_comm, Nat.add_assoc]

/-- **The count finds the parentheses in no pair.** -/
theorem parenFaultFrom_eq (pos depth : Nat) (t : Text) :
    parenFaultFrom pos depth t = faultOf depth (parenSpansFrom pos t).2 (openFrom pos t) := by
  induction t generalizing pos depth with
  | nil =>
      show (if depth = 0 then none else some (ParenFault.unclosed depth)) = faultOf depth [] []
      unfold faultOf
      cases depth with
      | zero => rfl
      | succ depth => rfl
  | cons c t ih =>
      rw [parenFaultFrom]
      rcases paren_cases c with rfl | rfl | hc
      · rw [if_pos rfl, ih, parenSpansFrom_open, openFrom_open]
        cases (parenSpansFrom (pos + 1) t).2 with
        | nil => exact faultOf_succ_nil depth pos _
        | cons close outer => exact faultOf_succ_cons depth close outer _
      · rw [if_neg (by decide), if_pos rfl, parenSpansFrom_close, openFrom_close]
        cases depth with
        | zero => rfl
        | succ depth =>
            rw [if_neg (Nat.succ_ne_zero depth), ih]
            exact (faultOf_succ_cons depth pos _ _).symm
      · have hne := ne_of_no_paren hc
        rw [if_neg hne.1, if_neg hne.2, ih, parenSpansFrom_other hc, openFrom_other hc]

/-- The fault of a whole text, before which nothing is open. -/
theorem parenFault?_eq (t : Text) : parenFault? t = faultOf 0 (strayOffsets t) (openOffsets t) := by
  rw [parenFault?, parenFaultFrom_eq, waiting_eq]
  rfl

/-- The stray `)` come in the order in which they stand. -/
theorem pairwise_strayOffsets (t : Text) : (strayOffsets t).Pairwise (· < ·) :=
  List.pairwise_idxsOf.filter _

/-- **No fault** is found where every parenthesis is in a pair. -/
theorem parenFault?_eq_none_iff :
    parenFault? t = none ↔ strayOffsets t = [] ∧ openOffsets t = [] := by
  rw [parenFault?_eq]
  unfold faultOf
  rw [List.drop_zero]
  cases strayOffsets t with
  | nil =>
      cases openOffsets t with
      | nil => simp
      | cons j more => simp
  | cons i more => simp

/-- **The unmatched `)`** is the first stray one. -/
theorem parenFault?_eq_unmatched_iff :
    parenFault? t = some (.unmatched i) ↔
      i ∈ strayOffsets t ∧ ∀ j ∈ strayOffsets t, i ≤ j := by
  have hsorted := pairwise_strayOffsets t
  rw [parenFault?_eq]
  unfold faultOf
  rw [List.drop_zero]
  cases hstray : strayOffsets t with
  | nil =>
      constructor
      · intro h
        dsimp only at h
        split at h
        · exact absurd h (by simp)
        · exact absurd h (by simp)
      · intro h
        exact absurd h.1 (by simp)
  | cons first more =>
      rw [hstray] at hsorted
      have hfirst := (List.pairwise_cons.mp hsorted).1
      constructor
      · intro h
        obtain rfl : first = i := by simpa using h
        refine ⟨List.mem_cons_self, List.forall_mem_cons.mpr ⟨Nat.le_refl _, ?_⟩⟩
        intro j hj
        exact Nat.le_of_lt (hfirst j hj)
      · rintro ⟨hmem, hleast⟩
        have hle := hleast first List.mem_cons_self
        rcases List.mem_cons.mp hmem with rfl | hlater
        · rfl
        · have hlt := hfirst i hlater
          omega

/-- **Unclosed parentheses** are counted where no `)` is stray. -/
theorem parenFault?_eq_unclosed_iff :
    parenFault? t = some (.unclosed n) ↔
      strayOffsets t = [] ∧ 0 < n ∧ (openOffsets t).length = n := by
  rw [parenFault?_eq]
  unfold faultOf
  rw [List.drop_zero]
  cases strayOffsets t with
  | nil =>
      cases openOffsets t with
      | nil =>
          simp
          omega
      | cons j more =>
          simp
          omega
  | cons i more => simp

/-! ## What the warnings say -/

/-- Decimal numbers that are written alike are equal. -/
theorem decimal_inj {m n : Nat} (h : decimal m = decimal n) : m = n := by
  have hdigits : Nat.toDigits 10 m = Nat.toDigits 10 n := h
  calc m = Nat.ofDigitChars 10 (Nat.toDigits 10 m) 0 := Nat.ofDigitChars_ten_toDigits.symm
    _ = Nat.ofDigitChars 10 (Nat.toDigits 10 n) 0 := by rw [hdigits]
    _ = n := Nat.ofDigitChars_ten_toDigits

/-- **A warning of an unmatched `)`** at an offset. -/
structure Diagnostic.WarnsUnmatched (d : Diagnostic) (offset : Nat) : Prop where
  severity : d.severity = .warning
  code : d.code = .unbalancedParentheses
  message : d.message = "unmatched ')'".toList
  marks : d.marks = [⟨offset, offset + 1, some "no opening parenthesis".toList⟩]

/-- **A warning of so many unclosed `(`**. -/
structure Diagnostic.WarnsUnclosed (d : Diagnostic) (count : Nat) : Prop where
  severity : d.severity = .warning
  code : d.code = .unbalancedParentheses
  message : d.message = decimal count ++ " unclosed '('".toList
  marks : d.marks = []

/-- The check warns of an unmatched `)` where that is the fault. -/
theorem exists_warnsUnmatched_iff :
    (∃ d, checkParens t = some d ∧ d.WarnsUnmatched i) ↔ parenFault? t = some (.unmatched i) := by
  constructor
  · rintro ⟨d, hcheck, hd⟩
    rcases checkParens_cases hcheck with ⟨offset, hfault, _, hmarks⟩ | ⟨count, _, _, hmarks⟩
    · rw [hd.marks] at hmarks
      have hcast : (i : Int) = offset := by simpa using hmarks
      obtain rfl := Int.natCast_inj.mp hcast
      exact hfault
    · rw [hd.marks] at hmarks
      exact absurd hmarks (by simp)
  · intro hfault
    unfold checkParens
    rw [hfault]
    exact ⟨_, rfl, rfl, rfl, rfl, rfl⟩

/-- The check warns of unclosed `(` where they are the fault. -/
theorem exists_warnsUnclosed_iff :
    (∃ d, checkParens t = some d ∧ d.WarnsUnclosed n) ↔ parenFault? t = some (.unclosed n) := by
  constructor
  · rintro ⟨d, hcheck, hd⟩
    rcases checkParens_cases hcheck with ⟨offset, _, _, hmarks⟩ | ⟨count, hfault, hmessage, _⟩
    · rw [hd.marks] at hmarks
      exact absurd hmarks (by simp)
    · rw [hd.message] at hmessage
      obtain rfl := decimal_inj (List.append_cancel_right hmessage)
      exact hfault
  · intro hfault
    unfold checkParens
    rw [hfault]
    exact ⟨_, rfl, rfl, rfl, rfl, rfl⟩

/-! ## The main result -/

/-- **A warning that agrees with the pairs** of a text, or the lack of one. -/
structure AgreesWithPairs (t : Text) (warning : Option Diagnostic) : Prop where
  /-- There is none exactly if every parenthesis is an end of a pair. -/
  none_iff : warning = none ↔
    ∀ i c, t[i]? = some c → isParen c = true → ∃ s ∈ parenSpans t, i = s.1 ∨ i = s.2
  /-- It is of an unmatched `)` exactly if that is the first one that closes no pair. -/
  unmatched_iff : ∀ i, (∃ d, warning = some d ∧ d.WarnsUnmatched i) ↔
    i ∈ strayOffsets t ∧ ∀ j ∈ strayOffsets t, i ≤ j
  /-- It is of unclosed `(` exactly if every `)` closes a pair, and so many `(` open none. -/
  unclosed_iff : ∀ n, (∃ d, warning = some d ∧ d.WarnsUnclosed n) ↔
    strayOffsets t = [] ∧ 0 < n ∧ (openOffsets t).length = n

/-- Every parenthesis is in a pair if none is stray and none stays open. -/
theorem forall_paren_in_pair_iff :
    (∀ i c, t[i]? = some c → isParen c = true → ∃ s ∈ parenSpans t, i = s.1 ∨ i = s.2) ↔
      strayOffsets t = [] ∧ openOffsets t = [] := by
  constructor
  · intro h
    constructor
    · refine List.eq_nil_iff_forall_not_mem.mpr fun i hi => ?_
      obtain ⟨hclose, hnone⟩ := mem_strayOffsets_iff.mp hi
      obtain ⟨s, hs, rfl | rfl⟩ := h i ')' hclose rfl
      · -- where a pair opens no `)` stands
        have hopen := (mem_parenSpans_iff_isPair.mp hs).opens
        rw [hclose] at hopen
        exact absurd hopen (by decide)
      · exact hnone s hs rfl
    · refine List.eq_nil_iff_forall_not_mem.mpr fun i hi => ?_
      obtain ⟨hopen, hnone⟩ := mem_openOffsets_iff.mp hi
      obtain ⟨s, hs, rfl | rfl⟩ := h i '(' hopen rfl
      · exact hnone s hs rfl
      · have hclose := (mem_parenSpans_iff_isPair.mp hs).closes
        rw [hopen] at hclose
        exact absurd hclose (by decide)
  · rintro ⟨hstray, hopened⟩ i c hc hparen
    by_contra hnone
    rcases paren_cases c with rfl | rfl | hother
    · have hmem : i ∈ openOffsets t :=
        mem_openOffsets_iff.mpr ⟨hc, fun s hs heq => hnone ⟨s, hs, .inl heq.symm⟩⟩
      rw [hopened] at hmem
      exact absurd hmem (by simp)
    · have hmem : i ∈ strayOffsets t :=
        mem_strayOffsets_iff.mpr ⟨hc, fun s hs heq => hnone ⟨s, hs, .inr heq.symm⟩⟩
      rw [hstray] at hmem
      exact absurd hmem (by simp)
    · rw [hother] at hparen
      exact absurd hparen (by simp)

/-- **The check of parentheses agrees with the pairs**, whatever the statement. -/
theorem agreesWithPairs_checkParens (statement : Text) :
    AgreesWithPairs statement (checkParens statement) where
  none_iff := by
    unfold checkParens
    rw [Option.map_eq_none_iff, parenFault?_eq_none_iff, forall_paren_in_pair_iff]
  unmatched_iff i := by rw [exists_warnsUnmatched_iff, parenFault?_eq_unmatched_iff]
  unclosed_iff n := by rw [exists_warnsUnclosed_iff, parenFault?_eq_unclosed_iff]

end SqlSkim
