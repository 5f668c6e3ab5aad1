import SqlSkim.Proofs.Checked.Cut

/-!
# `Token.Walk` — the tokens of a text among its offsets

A cut knows its tokens by what stands between them. By their offsets they are what a walk from the front
finds: it stops at each offset at depth zero, takes the token that starts there, and goes on behind it. This
module says what such a walk lists, one offset at a time, for any rule whose tokens are not empty.

## Contents
- `topLevel_pairwise`, `bounds_of_mem_topLevel`: the offsets at depth zero.
- `ListsTokens`: a list of tokens in order, apart, and with none left out; `ListsTokens.pass` and
  `ListsTokens.take`, the two steps of the walk.
- `listsTokens_hits`: the tokens of a cut; `stop_le_of_mem_hits`: those that stop within the text.
- `interleave`, `interleave_segmentsOf`: the segments and the tokens between them, put together again.
-/

namespace SqlSkim

variable {α : Type} {rule : Rule α} {t : Text}

/-! ## The offsets at depth zero -/

/-- The offsets at depth zero lie within the text. -/
theorem bounds_of_mem_topLevelFrom {pos depth i : Nat} (h : i ∈ topLevelFrom pos depth t) :
    pos ≤ i ∧ i < pos + t.length := by
  induction t generalizing pos depth with
  | nil => exact absurd h (by simp [topLevelFrom])
  | cons c t ih =>
      have hlater : i ∈ topLevelFrom (pos + 1) (depthAfter depth c) t →
          pos ≤ i ∧ i < pos + (c :: t).length := fun hmore => by
        have hbounds := ih hmore
        rw [List.length_cons]
        omega
      rw [topLevelFrom] at h
      split at h
      · rcases List.mem_cons.mp h with rfl | hmore
        · exact ⟨Nat.le_refl i, by rw [List.length_cons]; omega⟩
        · exact hlater hmore
      · exact hlater h

/-- They are listed in increasing order. -/
theorem topLevelFrom_pairwise (pos depth : Nat) (t : Text) :
    (topLevelFrom pos depth t).Pairwise (· < ·) := by
  induction t generalizing pos depth with
  | nil => exact .nil
  | cons c t ih =>
      have hmore := ih (pos + 1) (depthAfter depth c)
      rw [topLevelFrom]
      split
      · refine List.pairwise_cons.mpr ⟨fun i hi => ?_, hmore⟩
        exact (bounds_of_mem_topLevelFrom hi).1
      · exact hmore

theorem topLevel_pairwise (t : Text) (start : Nat) : (topLevel t start).Pairwise (· < ·) :=
  topLevelFrom_pairwise start 0 _

theorem bounds_of_mem_topLevel {start i : Nat} (h : i ∈ topLevel t start) : start ≤ i ∧ i < t.length := by
  have hbounds := bounds_of_mem_topLevelFrom h
  rw [List.length_drop] at hbounds
  omega

/-! ## What a walk lists -/

/-- **A list of the tokens** of a rule that start at the given offsets: in order and apart from each other,
    and with no offset left out at which a token starts but none that lies in a token of the list. -/
structure ListsTokens (rule : Rule α) (t : Text) (offsets : List Nat) (hits : List (Hit α)) : Prop where
  apart : hits.Pairwise fun a b => a.stop ≤ b.start
  start_mem : ∀ hit ∈ hits, hit.start ∈ offsets
  token : ∀ hit ∈ hits, hit.start < hit.stop ∧
    rule (.at t hit.start) = some (hit.label, hit.stop - hit.start)
  complete : ∀ i ∈ offsets, (rule (.at t i)).isSome = true → ∃ hit ∈ hits, hit.start ≤ i ∧ i < hit.stop

namespace ListsTokens

variable {offsets : List Nat} {hits : List (Hit α)} {i : Nat}

/-- Each token starts behind the start of the one before it. -/
theorem increasing (h : ListsTokens rule t offsets hits) : hits.Pairwise fun a b => a.start < b.start :=
  h.apart.imp_of_mem fun ha _ hab => Nat.lt_of_lt_of_le (h.token _ ha).1 hab

theorem nil (rule : Rule α) (t : Text) : ListsTokens rule t [] [] :=
  ⟨.nil, by simp, by simp, by simp⟩

/-- **An offset at which no token starts** is passed. -/
theorem pass (h : ListsTokens rule t offsets hits) (hnone : rule (.at t i) = none) :
    ListsTokens rule t (i :: offsets) hits where
  apart := h.apart
  start_mem hit hhit := List.mem_cons_of_mem i (h.start_mem hit hhit)
  token := h.token
  complete := by
    intro j hj hsome
    rcases List.mem_cons.mp hj with rfl | hj
    · rw [hnone] at hsome
      exact absurd hsome (by simp)
    · exact h.complete j hj hsome

/-- **A token is taken**, and the walk goes on behind it. -/
theorem take {label : α} {width : Nat}
    (h : ListsTokens rule t (offsets.filter (i + width ≤ ·)) hits) (hoffsets : ∀ j ∈ offsets, i < j)
    (hwidth : 0 < width) (hsome : rule (.at t i) = some (label, width)) :
    ListsTokens rule t (i :: offsets) (⟨i, i + width, label⟩ :: hits) where
  apart := by
    refine List.pairwise_cons.mpr ⟨fun hit hhit => ?_, h.apart⟩
    exact of_decide_eq_true (List.mem_filter.mp (h.start_mem hit hhit)).2
  start_mem := by
    refine List.forall_mem_cons.mpr ⟨List.mem_cons_self, fun hit hhit => ?_⟩
    exact List.mem_cons_of_mem i (List.mem_filter.mp (h.start_mem hit hhit)).1
  token := by
    refine List.forall_mem_cons.mpr ⟨⟨Nat.lt_add_of_pos_right hwidth, ?_⟩, h.token⟩
    rw [Nat.add_sub_cancel_left]
    exact hsome
  complete := by
    intro j hj hfires
    by_cases hinside : j < i + width
    · -- the token reaches over all offsets up to its stop
      refine ⟨_, List.mem_cons_self, ?_, hinside⟩
      rcases List.mem_cons.mp hj with rfl | hj
      · exact Nat.le_refl j
      · exact Nat.le_of_lt (hoffsets j hj)
    · have hlater : j ∈ offsets.filter (i + width ≤ ·) := by
        refine List.mem_filter.mpr ⟨?_, decide_eq_true (Nat.le_of_not_lt hinside)⟩
        rcases List.mem_cons.mp hj with rfl | hj
        · omega
        · exact hj
      obtain ⟨hit, hhit, hin⟩ := h.complete j hlater hfires
      exact ⟨hit, List.mem_cons_of_mem _ hhit, hin⟩

end ListsTokens

/-- **The walk lists the tokens** among the offsets that the last token does not reach over. -/
theorem listsTokens_walk (hrule : rule.Moves) {look : Nat → Except OffsetError (Option (α × Nat))}
    {offsets : List Nat} (hsorted : offsets.Pairwise (· < ·))
    (hlook : ∀ i ∈ offsets, look i = .ok ((rule (.at t i)).map fun found => (found.1, i + found.2)))
    (resume : Nat) :
    ∃ hits, Checked.hits look resume offsets = .ok hits ∧
      ListsTokens rule t (offsets.filter (resume ≤ ·)) hits := by
  induction offsets generalizing resume with
  | nil => exact ⟨[], rfl, .nil rule t⟩
  | cons i offsets ih =>
      obtain ⟨hi, hsorted⟩ := List.pairwise_cons.mp hsorted
      have ih := ih hsorted fun j hj => hlook j (List.mem_cons_of_mem i hj)
      rw [Checked.hits]
      by_cases hresume : i < resume
      · obtain ⟨hits, heq, hlists⟩ := ih resume
        refine ⟨hits, by rw [if_pos hresume, heq], ?_⟩
        rwa [List.filter_cons_of_neg (by simpa using hresume)]
      · rw [if_neg hresume, hlook i List.mem_cons_self, ok_bind,
          List.filter_cons_of_pos (by simpa using hresume)]
        cases hfires : rule (.at t i) with
        | none =>
            obtain ⟨hits, heq, hlists⟩ := ih resume
            exact ⟨hits, heq, hlists.pass hfires⟩
        | some found =>
            obtain ⟨label, width⟩ := found
            have hwidth := hrule _ _ _ hfires
            obtain ⟨hits, heq, hlists⟩ := ih (i + width)
            refine ⟨⟨i, i + width, label⟩ :: hits, by dsimp only [Option.map_some]; rw [heq]; rfl, ?_⟩
            refine .take ?_ (fun j hj => hi j (List.mem_filter.mp hj).1) hwidth hfires
            -- what the token does not reach over was not reached over before
            have hsame : (offsets.filter (resume ≤ ·)).filter (i + width ≤ ·) =
                offsets.filter (i + width ≤ ·) := by
              rw [List.filter_filter]
              refine List.filter_congr fun j _ => ?_
              simp
              omega
            rwa [hsame]

/-- **The tokens of a cut** are listed among all offsets at depth zero. -/
theorem listsTokens_hits (hrule : rule.Moves) (t : Text) (start : Nat) :
    ListsTokens rule t (topLevel t start) ((rule.cut (.at t start)).hits start) := by
  let look : Nat → Except OffsetError (Option (α × Nat)) := fun i =>
    .ok ((rule (.at t i)).map fun found => (found.1, i + found.2))
  have hlook : ∀ i ∈ topLevel t start,
      look i = .ok ((rule (.at t i)).map fun found => (found.1, i + found.2)) := fun _ _ => rfl
  obtain ⟨hits, heq, hlists⟩ := listsTokens_walk hrule (topLevel_pairwise t start) hlook start
  rw [hits_eq hrule (fun _ _ => rfl)] at heq
  obtain rfl := Except.ok.inj heq
  rwa [List.filter_eq_self.mpr fun i hi => decide_eq_true (bounds_of_mem_topLevel hi).1] at hlists

/-- The tokens of a rule that fits stop within the text. -/
theorem stop_le_of_mem_hits (hrule : rule.Moves) (hfits : rule.Fits) {start : Nat} {hit : Hit α}
    (h : hit ∈ (rule.cut (.at t start)).hits start) : hit.stop ≤ t.length := by
  have hlists := listsTokens_hits hrule t start
  obtain ⟨hlt, htoken⟩ := hlists.token hit h
  have hwidth : hit.stop - hit.start ≤ (t.drop hit.start).length := hfits _ _ _ htoken
  have hstart := (bounds_of_mem_topLevel (hlists.start_mem hit h)).2
  rw [List.length_drop] at hwidth
  omega

/-! ## The text put together again -/

/-- Segments with the texts of the tokens between them. -/
def interleave : List Text → List Text → Text
  | [], _ => []
  | segment :: segments, [] => segment ++ interleave segments []
  | segment :: segments, token :: tokens => segment ++ (token ++ interleave segments tokens)

/-- **The segments and the tokens between them** make up the text. -/
theorem interleave_segmentsOf {hits : List (Hit α)} (hapart : hits.Pairwise fun a b => a.stop ≤ b.start)
    (hnonempty : ∀ hit ∈ hits, hit.start < hit.stop) {last : Nat}
    (hlast : ∀ hit ∈ hits, last ≤ hit.start) :
    interleave (segmentsOf t last hits) (hits.map fun hit => slice t hit.start hit.stop) = t.drop last := by
  induction hits generalizing last with
  | nil =>
      show t.drop last ++ [] = t.drop last
      exact List.append_nil _
  | cons hit hits ih =>
      obtain ⟨hlater, hapart⟩ := List.pairwise_cons.mp hapart
      obtain ⟨hstart, _⟩ := List.forall_mem_cons.mp hlast
      obtain ⟨hstop, hnonempty⟩ := List.forall_mem_cons.mp hnonempty
      have hjoin : ∀ {a b : Nat}, a ≤ b → slice t a b ++ t.drop b = t.drop a := by
        intro a b hab
        have hdrop : t.drop b = (t.drop a).drop (b - a) := by
          rw [List.drop_drop, Nat.add_sub_cancel' hab]
        rw [slice_natCast, hdrop, List.take_append_drop]
      calc interleave (segmentsOf t last (hit :: hits))
            ((hit :: hits).map fun hit => slice t hit.start hit.stop)
          = slice t last hit.start ++ (slice t hit.start hit.stop ++ t.drop hit.stop) := by
            rw [← ih hapart hnonempty hlater]
            rfl
        _ = t.drop last := by rw [hjoin (Nat.le_of_lt hstop), hjoin hstart]

end SqlSkim
