import SqlSkim.Scan.Cut

/-!
# `Scan.Quiet` — the stretches of a text in which no token starts

A cut is a list of segments with a token between any two of them, and a segment is a stretch in which no
token starts at depth zero. Whether a token starts somewhere is decided with all the characters behind
that stretch present, so `Quiet` carries them along: that is what makes stretches compose, and what
tells a segment in its context from the same text on its own.

## Contents
- `depthAfterText_append` and `lastOr`: what a stretch leaves behind for what follows it.
- `Quiet`, with its rules for concatenation and for another context.
- `cutFrom_skip`, `cutFrom_quiet`, `cutFrom_token`: a cut, computed stretch by stretch.
- `CutsInto`: cuts as a relation, for inductions over the tokens of a text. `cutsInto_cutFrom` and
  `CutsInto.cutFrom_eq`: the scan computes it.
- `char_eq_some`, `quiet_char_of_all`: tokens that are single characters.
-/

namespace SqlSkim

/-! ## What a stretch leaves behind -/

theorem depthAfterText_append (depth : Nat) (u v : Text) :
    depthAfterText depth (u ++ v) = depthAfterText (depthAfterText depth u) v :=
  List.foldl_append

theorem no_paren_of_all {u : Text} (h : u.all (!isParen ·) = true) : ∀ c ∈ u, isParen c = false :=
  fun c hc => by simpa using List.all_eq_true.mp h c hc

theorem ne_of_no_paren {c : Char} (h : isParen c = false) : c ≠ '(' ∧ c ≠ ')' :=
  not_or.mp (by simpa [isParen] using h)

/-- Only parentheses change the depth. -/
theorem depthAfter_of_no_paren {c : Char} (h : isParen c = false) (depth : Nat) :
    depthAfter depth c = depth := by
  rw [depthAfter, if_neg (ne_of_no_paren h).1, if_neg (ne_of_no_paren h).2]

theorem not_mem_of_no_paren {u : Text} (hu : ∀ c ∈ u, isParen c = false) : '(' ∉ u ∧ ')' ∉ u :=
  ⟨fun hc => (ne_of_no_paren (hu _ hc)).1 rfl, fun hc => (ne_of_no_paren (hu _ hc)).2 rfl⟩

/-- A text without parentheses leaves the depth as it is. -/
theorem depthAfterText_of_no_paren {u : Text} (hu : ∀ c ∈ u, isParen c = false) (depth : Nat) :
    depthAfterText depth u = depth := by
  induction u with
  | nil => rfl
  | cons c u ih =>
      show depthAfterText (depthAfter depth c) u = depth
      rw [depthAfter_of_no_paren (hu c List.mem_cons_self)]
      exact ih fun d hd => hu d (List.mem_cons_of_mem c hd)

/-- The character before what follows a stretch: its last one, or the one before it. -/
def lastOr (before : Option Char) (u : Text) : Option Char := u.getLast?.or before

@[simp] theorem lastOr_nil (before : Option Char) : lastOr before [] = before := rfl

theorem lastOr_none (u : Text) : lastOr none u = u.getLast? := Option.or_none

@[simp] theorem lastOr_cons (before : Option Char) (c : Char) (u : Text) :
    lastOr before (c :: u) = lastOr (some c) u := by
  cases h : u.getLast? with
  | none => simp [lastOr, List.getLast?_cons, h]
  | some d => simp [lastOr, List.getLast?_cons, h]

theorem lastOr_append (before : Option Char) (u v : Text) :
    lastOr before (u ++ v) = lastOr (lastOr before u) v := by
  rw [lastOr, List.getLast?_append, Option.or_assoc]
  rfl

/-- What stands before what follows is the last character, whatever came before it. -/
theorem lastOr_concat (before : Option Char) (u : Text) (c : Char) :
    lastOr before (u ++ [c]) = some c := by
  rw [lastOr_append, lastOr_cons, lastOr_nil]

theorem lastOr_of_ne_nil {u : Text} (hu : u ≠ []) (before before' : Option Char) :
    lastOr before u = lastOr before' u := by
  cases u with
  | nil => exact absurd rfl hu
  | cons c u => rw [lastOr_cons, lastOr_cons]

/-- Behind a stretch that is not empty stands one of its characters. -/
theorem exists_lastOr (before : Option Char) {u : Text} (hu : u ≠ []) :
    ∃ c ∈ u, lastOr before u = some c :=
  ⟨u.getLast hu, List.getLast_mem hu, by rw [lastOr, List.getLast?_eq_some_getLast hu]; rfl⟩

/-! ## Quiet stretches -/

variable {α : Type} {rule : Rule α}

/-- **A quiet stretch.** With `tail` behind it, no token starts at depth zero inside `u`; `before` and
    `depth` are the character and the depth before it. -/
def Quiet (rule : Rule α) (before : Option Char) (depth : Nat) : Text → Text → Prop
  | [], _ => True
  | c :: u, tail =>
    (depth = 0 → isParen c = false → rule ⟨before, c :: (u ++ tail)⟩ = none) ∧
      Quiet rule (some c) (depthAfter depth c) u tail

/-- A concatenation is quiet if both parts are, each in its context. -/
theorem quiet_append_iff {before : Option Char} {depth : Nat} {u v tail : Text} :
    Quiet rule before depth (u ++ v) tail ↔
      Quiet rule before depth u (v ++ tail) ∧
        Quiet rule (lastOr before u) (depthAfterText depth u) v tail := by
  induction u generalizing before depth with
  | nil => simp [Quiet, depthAfterText]
  | cons c u ih =>
      rw [List.cons_append, Quiet, ih, Quiet, lastOr_cons, List.append_assoc, and_assoc]
      rfl

/-- A stretch stays quiet in another context if no token that starts in it there is lost here. -/
theorem Quiet.of_tail {before : Option Char} {depth : Nat} {u tail tail' : Text}
    (h : Quiet rule before depth u tail)
    (hrule : ∀ b v, v ≠ [] → v <:+ u → rule ⟨b, v ++ tail⟩ = none → rule ⟨b, v ++ tail'⟩ = none) :
    Quiet rule before depth u tail' := by
  induction u generalizing before depth with
  | nil => trivial
  | cons c u ih =>
      obtain ⟨hc, hu⟩ := h
      refine ⟨fun hd hp => ?_, ih hu fun b v hv hs => hrule b v hv (hs.trans (List.suffix_cons c u))⟩
      exact hrule before (c :: u) (by simp) List.suffix_rfl (hc hd hp)

/-! ## Computing a cut -/

/-- Skipped characters are in no segment; they count for the depth and for what stands before. -/
theorem cutFrom_skip (rule : Rule α) (before : Option Char) (depth skip : Nat) (t : Text) :
    rule.cutFrom before depth skip t =
      rule.cutFrom (lastOr before (t.take skip)) (depthAfterText depth (t.take skip)) 0
        (t.drop skip) := by
  induction t generalizing before depth skip with
  | nil => simp [Rule.cutFrom]
  | cons c t ih =>
      cases skip with
      | zero => rfl
      | succ skip =>
          rw [List.take_succ_cons, List.drop_succ_cons, lastOr_cons, Rule.cutFrom, ih]
          rfl

/-- A quiet stretch goes to the head of the cut. -/
theorem cutFrom_quiet {before : Option Char} {depth : Nat} {u tail : Text}
    (h : Quiet rule before depth u tail) :
    rule.cutFrom before depth 0 (u ++ tail) =
      ⟨u ++ (rule.cutFrom (lastOr before u) (depthAfterText depth u) 0 tail).head,
        (rule.cutFrom (lastOr before u) (depthAfterText depth u) 0 tail).pieces⟩ := by
  induction u generalizing before depth with
  | nil => rfl
  | cons c u ih =>
      obtain ⟨hc, hu⟩ := h
      have hnone : (if depth = 0 ∧ !isParen c then rule ⟨before, c :: (u ++ tail)⟩ else none) =
          none := by
        by_cases hd : depth = 0 ∧ !isParen c
        · rw [if_pos hd]
          exact hc hd.1 (by simpa using hd.2)
        · rw [if_neg hd]
      rw [List.cons_append, Rule.cutFrom, hnone, ih hu, lastOr_cons]
      rfl

/-- A token at depth zero opens a piece, and the cut goes on behind it. -/
theorem cutFrom_token {before : Option Char} {c : Char} {t : Text} {label : α} {width : Nat}
    (hp : isParen c = false) (hw : 0 < width) (h : rule ⟨before, c :: t⟩ = some (label, width)) :
    rule.cutFrom before 0 0 (c :: t) =
      ⟨[], ⟨label, width,
        (rule.cutFrom (lastOr before ((c :: t).take width))
          (depthAfterText 0 ((c :: t).take width)) 0 ((c :: t).drop width)).head⟩ ::
        (rule.cutFrom (lastOr before ((c :: t).take width))
          (depthAfterText 0 ((c :: t).take width)) 0 ((c :: t).drop width)).pieces⟩ := by
  obtain ⟨width, rfl⟩ : ∃ n, width = n + 1 := ⟨width - 1, by omega⟩
  rw [Rule.cutFrom, if_pos ⟨rfl, by simp [hp]⟩, h]
  simp only [Nat.add_sub_cancel]
  rw [cutFrom_skip, List.take_succ_cons, List.drop_succ_cons, lastOr_cons]
  rfl

/-! ## Cuts as a relation -/

/-- **How a text is cut.** It is a quiet stretch up to its end, or a quiet stretch up to a token at depth
    zero, behind which the cut goes on. -/
inductive CutsInto (rule : Rule α) : Option Char → Nat → Text → Cut α → Prop where
  | last {before : Option Char} {depth : Nat} {u : Text} :
      Quiet rule before depth u [] → CutsInto rule before depth u ⟨u, []⟩
  | token {before : Option Char} {depth : Nat} {u rest : Text} {c : Char} {label : α} {width : Nat}
      {after : Cut α} :
      Quiet rule before depth u (c :: rest) → depthAfterText depth u = 0 → isParen c = false →
      rule ⟨lastOr before u, c :: rest⟩ = some (label, width) → 0 < width →
      CutsInto rule (lastOr (lastOr before u) ((c :: rest).take width))
        (depthAfterText 0 ((c :: rest).take width)) ((c :: rest).drop width) after →
      CutsInto rule before depth (u ++ c :: rest) ⟨u, ⟨label, width, after.head⟩ :: after.pieces⟩

/-- Every text is a quiet stretch with nothing or with a token at depth zero behind it. -/
theorem exists_quiet_stretch (rule : Rule α) (before : Option Char) (depth : Nat) (t : Text) :
    ∃ u tail, t = u ++ tail ∧ Quiet rule before depth u tail ∧
      (tail = [] ∨ ∃ c rest label width, tail = c :: rest ∧ depthAfterText depth u = 0 ∧
        isParen c = false ∧ rule ⟨lastOr before u, c :: rest⟩ = some (label, width)) := by
  induction t generalizing before depth with
  | nil => exact ⟨[], [], rfl, trivial, .inl rfl⟩
  | cons c t ih =>
      by_cases hfire : depth = 0 ∧ isParen c = false ∧ rule ⟨before, c :: t⟩ ≠ none
      · -- a token starts right here, and the stretch before it is empty
        obtain ⟨hd, hp, hr⟩ := hfire
        obtain ⟨⟨label, width⟩, hfound⟩ := Option.ne_none_iff_exists'.mp hr
        exact ⟨[], c :: t, rfl, trivial, .inr ⟨c, t, label, width, rfl, hd, hp, hfound⟩⟩
      · obtain ⟨u, tail, rfl, hq, hend⟩ := ih (some c) (depthAfter depth c)
        refine ⟨c :: u, tail, rfl, ⟨fun hd hp => ?_, hq⟩, ?_⟩
        · by_cases hr : rule ⟨before, c :: (u ++ tail)⟩ = none
          · exact hr
          · exact absurd ⟨hd, hp, hr⟩ hfire
        · rw [lastOr_cons]
          exact hend

/-- A rule none of whose tokens is empty. -/
def Rule.Moves (rule : Rule α) : Prop := ∀ p label width, rule p = some (label, width) → 0 < width

/-- **A single character is a token** if it is of the class, and no other text is one. -/
theorem char_eq_some {p : Char → Bool} {place : Place} {label : Char} {width : Nat}
    (h : Rule.char p place = some (label, width)) :
    ∃ rest, place.rest = label :: rest ∧ p label = true ∧ width = 1 := by
  unfold Rule.char at h
  split at h
  · next c rest hrest =>
      split at h
      · next hc =>
          obtain ⟨rfl, rfl⟩ := Prod.mk.inj (Option.some.inj h)
          exact ⟨rest, hrest, hc, rfl⟩
      · exact absurd h (by simp)
  · exact absurd h (by simp)

theorem char_eq_none_iff {p : Char → Bool} {before : Option Char} {c : Char} {t : Text} :
    Rule.char p ⟨before, c :: t⟩ = none ↔ p c = false := by
  unfold Rule.char
  dsimp only
  split <;> simp_all

/-- It is not empty. -/
theorem char_width_pos (p : Char → Bool) (place : Place) (label : Char) (width : Nat)
    (h : Rule.char p place = some (label, width)) : 0 < width := by
  obtain ⟨_, _, _, rfl⟩ := char_eq_some h
  exact Nat.one_pos

/-- A stretch without characters of the class is quiet. -/
theorem quiet_char_of_all {p : Char → Bool} {u : Text} (h : ∀ c ∈ u, p c = false) (before : Option Char)
    (depth : Nat) (tail : Text) : Quiet (Rule.char p) before depth u tail := by
  induction u generalizing before depth with
  | nil => trivial
  | cons c u ih =>
      refine ⟨fun _ _ => char_eq_none_iff.mpr (h c List.mem_cons_self), ?_⟩
      exact ih (fun d hd => h d (List.mem_cons_of_mem c hd)) _ _

/-- The scan computes the cut. -/
theorem CutsInto.cutFrom_eq {before : Option Char} {depth : Nat} {t : Text} {cut : Cut α}
    (h : CutsInto rule before depth t cut) : rule.cutFrom before depth 0 t = cut := by
  induction h with
  | last hq =>
      have h := cutFrom_quiet hq
      rw [List.append_nil] at h
      rw [h]
      simp [Rule.cutFrom]
  | token hq hd hp hr hw _ ih =>
      rw [cutFrom_quiet hq, hd, cutFrom_token hp hw hr, ih, List.append_nil]

/-- **Every text has a cut**, for a rule whose tokens have at least one character. -/
theorem cutsInto_cutFrom (hrule : ∀ p label width, rule p = some (label, width) → 0 < width)
    (before : Option Char) (depth : Nat) (t : Text) :
    CutsInto rule before depth t (rule.cutFrom before depth 0 t) := by
  -- a text has one cut only, so it is enough to find some cut
  suffices h : ∃ cut, CutsInto rule before depth t cut by
    obtain ⟨cut, hcut⟩ := h
    rw [hcut.cutFrom_eq]
    exact hcut
  induction hn : t.length using Nat.strongRecOn generalizing before depth t with
  | _ n ih =>
    subst hn
    obtain ⟨u, tail, rfl, hq, rfl | ⟨c, rest, label, width, rfl, hd, hp, hr⟩⟩ :=
      exists_quiet_stretch rule before depth t
    · exact ⟨⟨u, []⟩, by rw [List.append_nil]; exact .last hq⟩
    · have hw : 0 < width := hrule _ label width hr
      obtain ⟨after, hafter⟩ := ih ((c :: rest).drop width).length
        (by simp only [List.length_append, List.length_drop, List.length_cons]; omega)
        (lastOr (lastOr before u) ((c :: rest).take width))
        (depthAfterText 0 ((c :: rest).take width)) ((c :: rest).drop width) rfl
      exact ⟨_, .token hq hd hp hr hw hafter⟩

end SqlSkim
