import SqlSkim.Proofs.Scan.Quiet

/-!
# `Scan.Behind` — the places behind the tokens

Most scans want no segment, but what stands behind a token: the name behind `INTO`, the list behind
`SELECT`, the name behind every join. `Rule.behind` lists those places by a recursion of its own, in
which no offset occurs. Both the first token that `Rule.find?` gives and the offsets that `Cut.hits`
gives lead to these places.

## Contents
- `Rule.behind`: the places behind the tokens; `exists_of_mem_behind`: there are no others among them.
- `find?_map_after`, `hits_map_drop`: the first place, and all of them by their offsets.
- `behindFrom_quiet`, `behindFrom_token`, `find?_of_token`, `upTo_of_token`: computing them stretch by
  stretch.
-/

namespace SqlSkim

variable {α : Type} {rule : Rule α}

/-! ## Going on -/

theorem Place.advance_eq (p : Place) (n : Nat) :
    p.advance n = ⟨lastOr p.before (p.rest.take n), p.rest.drop n⟩ := rfl

/-- The first character of a place is passed on the way to any later one. -/
theorem Place.advance_succ (before : Option Char) (c : Char) (t : Text) (n : Nat) :
    Place.advance ⟨before, c :: t⟩ (n + 1) = Place.advance ⟨some c, t⟩ n := by
  rw [advance_eq, advance_eq, List.take_succ_cons, List.drop_succ_cons, lastOr_cons]

/-- Behind a whole stretch. -/
theorem Place.advance_length (before : Option Char) (u tail : Text) :
    Place.advance ⟨before, u ++ tail⟩ u.length = ⟨lastOr before u, tail⟩ := by
  rw [advance_eq, List.take_left, List.drop_left]

/-! ## The places behind the tokens -/

/-- The places behind the tokens of the text that follows `before` at the given depth. The next `skip`
    characters belong to the token found last. -/
def Rule.behindFrom (rule : Rule α) (before : Option Char) (depth skip : Nat) : Text → List Place
  | [] => []
  | c :: rest =>
    match skip with
    | skip + 1 => Rule.behindFrom rule (some c) (depthAfter depth c) skip rest
    | 0 =>
      match if depth = 0 ∧ !isParen c then rule ⟨before, c :: rest⟩ else none with
      | some (_, width) =>
        Place.advance ⟨before, c :: rest⟩ width ::
          Rule.behindFrom rule (some c) (depthAfter depth c) (width - 1) rest
      | none => Rule.behindFrom rule (some c) (depthAfter depth c) 0 rest

/-- **The places behind the tokens** from a place on. -/
def Rule.behind (rule : Rule α) (p : Place) : List Place := rule.behindFrom p.before 0 0 p.rest

/-- Such a place is behind a token. -/
theorem exists_of_mem_behindFrom {before : Option Char} {depth skip : Nat} {t : Text} {place : Place}
    (h : place ∈ rule.behindFrom before depth skip t) :
    ∃ q label width, rule q = some (label, width) ∧ place = q.advance width := by
  induction t generalizing before depth skip with
  | nil => exact absurd h (by simp [Rule.behindFrom])
  | cons c t ih =>
      cases skip with
      | succ skip => exact ih h
      | zero =>
          rw [Rule.behindFrom] at h
          split at h
          · next label width hfire =>
              rcases List.mem_cons.mp h with rfl | hmore
              · split at hfire
                · exact ⟨_, label, width, hfire, rfl⟩
                · exact absurd hfire (by simp)
              · exact ih hmore
          · exact ih h

theorem exists_of_mem_behind {p place : Place} (h : place ∈ rule.behind p) :
    ∃ q label width, rule q = some (label, width) ∧ place = q.advance width :=
  exists_of_mem_behindFrom h

/-- The first piece of a cut leads to the first of the places. -/
theorem pieces_head?_behindFrom (before : Option Char) (depth skip : Nat) (t : Text) :
    ((rule.cutFrom before depth skip t).pieces.head?.map fun piece =>
        Place.advance ⟨before, t⟩
          (skip + (rule.cutFrom before depth skip t).head.length + piece.width)) =
      (rule.behindFrom before depth skip t).head? := by
  induction t generalizing before depth skip with
  | nil => rfl
  | cons c t ih =>
      cases skip with
      | succ skip =>
          have ih := ih (some c) (depthAfter depth c) skip
          rw [Rule.cutFrom, Rule.behindFrom, ← ih]
          refine Option.map_congr fun piece _ => ?_
          rw [← Place.advance_succ before c t]
          congr 1
          omega
      | zero =>
          rw [Rule.cutFrom, Rule.behindFrom]
          generalize (if depth = 0 ∧ !isParen c then rule ⟨before, c :: t⟩ else none) = fired
          cases fired with
          | some found =>
              obtain ⟨label, width⟩ := found
              simp
          | none =>
              have ih := ih (some c) (depthAfter depth c) 0
              dsimp only
              rw [← ih]
              refine Option.map_congr fun piece _ => ?_
              rw [← Place.advance_succ before c t]
              congr 1
              simp only [List.length_cons]
              omega

/-- **The first token** ends at the first of the places. -/
theorem find?_map_after (p : Place) :
    (rule.find? p).map (·.after) = (rule.behind p).head? := by
  rw [Rule.behind, ← pieces_head?_behindFrom]
  unfold Rule.find? Rule.cut
  split
  · next head hcut => rw [hcut]; rfl
  · next head piece more hcut =>
      rw [hcut]
      simp

/-- The offsets of a cut lead to the places, one by one. -/
theorem hits_map_drop_behindFrom (hrule : ∀ p label width, rule p = some (label, width) → 0 < width)
    (whole : Text) (before : Option Char) (depth skip offset : Nat) (t : Text)
    (ht : whole.drop offset = t) :
    ((rule.cutFrom before depth skip t).hits (offset + skip)).map (whole.drop ·.stop) =
      (rule.behindFrom before depth skip t).map (·.rest) := by
  induction t generalizing before depth skip offset with
  | nil => rfl
  | cons c t ih =>
      have hrest : whole.drop (offset + 1) = t := by
        rw [← List.drop_drop, ht]
        rfl
      cases skip with
      | succ skip =>
          have ih := ih (some c) (depthAfter depth c) skip (offset + 1) hrest
          rw [Rule.cutFrom, Rule.behindFrom, ← ih]
          congr 2
          omega
      | zero =>
          rw [Rule.cutFrom, Rule.behindFrom]
          generalize hfire : (if depth = 0 ∧ !isParen c then rule ⟨before, c :: t⟩ else none) = fired
          cases fired with
          | some found =>
              obtain ⟨label, width⟩ := found
              have hpos : 0 < width := by
                split at hfire
                · exact hrule _ _ _ hfire
                · exact absurd hfire (by simp)
              have ih := ih (some c) (depthAfter depth c) (width - 1) (offset + 1) hrest
              rw [show offset + 1 + (width - 1) = offset + width by omega] at ih
              dsimp only
              rw [List.map_cons, ← ih]
              simp only [Cut.hits, hitsFrom, List.map_cons, List.length_nil, Nat.add_zero]
              rw [← List.drop_drop, ht]
              rfl
          | none =>
              have ih := ih (some c) (depthAfter depth c) 0 (offset + 1) hrest
              dsimp only
              rw [← ih]
              simp only [Cut.hits, List.length_cons]
              congr 2
              omega

/-- **The tokens by their offsets** end at the places. -/
theorem hits_map_drop (hrule : ∀ p label width, rule p = some (label, width) → 0 < width) (t : Text) :
    ((rule.cut (.start t)).hits 0).map (t.drop ·.stop) =
      (rule.behind (.start t)).map (·.rest) :=
  hits_map_drop_behindFrom hrule t none 0 0 0 t rfl

/-! ## Stretch by stretch -/

/-- Skipped characters start no token. -/
theorem behindFrom_skip (rule : Rule α) (before : Option Char) (depth skip : Nat) (t : Text) :
    rule.behindFrom before depth skip t =
      rule.behindFrom (lastOr before (t.take skip)) (depthAfterText depth (t.take skip)) 0
        (t.drop skip) := by
  induction t generalizing before depth skip with
  | nil => simp [Rule.behindFrom]
  | cons c t ih =>
      cases skip with
      | zero => rfl
      | succ skip =>
          rw [List.take_succ_cons, List.drop_succ_cons, lastOr_cons, Rule.behindFrom, ih]
          rfl

/-- There is no such place in a quiet stretch. -/
theorem behindFrom_quiet {before : Option Char} {depth : Nat} {u tail : Text}
    (h : Quiet rule before depth u tail) :
    rule.behindFrom before depth 0 (u ++ tail) =
      rule.behindFrom (lastOr before u) (depthAfterText depth u) 0 tail := by
  induction u generalizing before depth with
  | nil => rfl
  | cons c u ih =>
      obtain ⟨hc, hu⟩ := h
      have hnone : (if depth = 0 ∧ !isParen c then rule ⟨before, c :: (u ++ tail)⟩ else none) =
          none := by
        by_cases hd : depth = 0 ∧ !isParen c
        · rw [if_pos hd]
          exact hc hd.1 (by simpa using hd.2)
        · rw [if_neg hd]
      rw [List.cons_append, Rule.behindFrom, hnone, lastOr_cons]
      exact ih hu

/-- In a quiet text there is no such place. -/
theorem behindFrom_of_quiet {before : Option Char} {depth : Nat} {u : Text}
    (h : Quiet rule before depth u []) : rule.behindFrom before depth 0 u = [] := by
  have hquiet := behindFrom_quiet h
  rwa [List.append_nil] at hquiet

/-- Behind a token at depth zero is such a place, and the others are behind it. -/
theorem behindFrom_token {before : Option Char} {c : Char} {t : Text} {label : α} {width : Nat}
    (hp : isParen c = false) (hw : 0 < width) (h : rule ⟨before, c :: t⟩ = some (label, width)) :
    rule.behindFrom before 0 0 (c :: t) =
      Place.advance ⟨before, c :: t⟩ width ::
        rule.behindFrom (lastOr before ((c :: t).take width))
          (depthAfterText 0 ((c :: t).take width)) 0 ((c :: t).drop width) := by
  obtain ⟨width, rfl⟩ : ∃ n, width = n + 1 := ⟨width - 1, by omega⟩
  rw [Rule.behindFrom, if_pos ⟨rfl, by simp [hp]⟩, h]
  simp only [Nat.add_sub_cancel]
  rw [behindFrom_skip, List.take_succ_cons, List.drop_succ_cons, lastOr_cons]
  rfl

/-! ## The first token behind a quiet stretch -/

variable {before : Option Char} {u t : Text} {c : Char} {label : α} {width : Nat}

/-- The text up to the first token is the quiet stretch before it. -/
theorem upTo_of_token (hquiet : Quiet rule before 0 u (c :: t)) (hdepth : depthAfterText 0 u = 0)
    (hp : isParen c = false) (hw : 0 < width)
    (h : rule ⟨lastOr before u, c :: t⟩ = some (label, width)) :
    rule.upTo ⟨before, u ++ c :: t⟩ = u := by
  show (rule.cutFrom before 0 0 (u ++ c :: t)).head = u
  rw [cutFrom_quiet hquiet, hdepth, cutFrom_token hp hw h, List.append_nil]

theorem find?_of_token (hquiet : Quiet rule before 0 u (c :: t)) (hdepth : depthAfterText 0 u = 0)
    (hp : isParen c = false) (hw : 0 < width)
    (h : rule ⟨lastOr before u, c :: t⟩ = some (label, width)) :
    rule.find? ⟨before, u ++ c :: t⟩ =
      some ⟨u, label, Place.advance ⟨lastOr before u, c :: t⟩ width⟩ := by
  have hcut : rule.cut ⟨before, u ++ c :: t⟩ = rule.cutFrom before 0 0 (u ++ c :: t) := rfl
  rw [cutFrom_quiet hquiet, hdepth, cutFrom_token hp hw h, List.append_nil] at hcut
  have hafter : Place.advance ⟨before, u ++ c :: t⟩ (u.length + width) =
      Place.advance ⟨lastOr before u, c :: t⟩ width := by
    rw [Place.advance_eq, Place.advance_eq, List.take_length_add_append,
      List.drop_length_add_append, lastOr_append]
  rw [Rule.find?, hcut, ← hafter]

/-- In a quiet text there is no token. -/
theorem upTo_of_quiet (hquiet : Quiet rule before 0 u []) : rule.upTo ⟨before, u⟩ = u :=
  congrArg Cut.head (CutsInto.last hquiet).cutFrom_eq

theorem find?_of_quiet (hquiet : Quiet rule before 0 u []) : rule.find? ⟨before, u⟩ = none := by
  have hcut : rule.cut ⟨before, u⟩ = ⟨u, []⟩ := (CutsInto.last hquiet).cutFrom_eq
  rw [Rule.find?, hcut]

end SqlSkim
