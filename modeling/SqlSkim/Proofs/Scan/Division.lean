import SqlSkim.Proofs.Scan.Outside
import SqlSkim.Proofs.Scan.Span
import SqlSkim.Proofs.Text.Trim

/-!
# `Scan.Division` — cuts keep parentheses together

A token starts at depth zero, where every `(` before it is closed, and holds no parenthesis itself. So both
parentheses of a pair lie in the same segment, be there stray or open ones besides. The segments of a balanced
text are balanced, and only the last segment of a text can leave a parenthesis open.

## Contents
- `DividesInto`, `dividesInto_cut`: how a text is divided, as far as parentheses go.
- `DividesInto.exists_append`, `exists_of_find?`: where segments stand.
- `IsBalanced.trim`, `DividesInto.isBalanced`, `IsBalanced.of_find?`: balanced texts.
- `IsClosed.trim`, `DividesInto.depthAfterText_eq`: the segments before the last one.
-/

namespace SqlSkim

variable {α : Type} {rule : Rule α} {t : Text} {segments : List Text} {s : Text}

/-! ## Divisions -/

/-- **A division of a text** into segments: the text between two of them holds no parenthesis, and every
    segment but the last one ends at depth zero. -/
inductive DividesInto : Text → List Text → Prop where
  | last (u : Text) : DividesInto u [u]
  | token {u token rest : Text} {segments : List Text} : depthAfterText 0 u = 0 →
      (∀ c ∈ token, isParen c = false) → DividesInto rest segments →
      DividesInto (u ++ (token ++ rest)) (u :: segments)

theorem dividesInto_of_cutsInto (hrule : rule.SkipsGroups) {before : Option Char} {depth : Nat}
    {cut : Cut α} (h : CutsInto rule before depth t cut) (hdepth : depth = 0) :
    DividesInto t cut.segments := by
  induction h with
  | last _ => exact .last _
  | @token before depth u rest c label width after _ hd _ hfound _ _ ih =>
      subst hdepth
      have htoken := hrule.no_paren _ _ _ _ hfound
      rw [← List.take_append_drop width (c :: rest)]
      exact .token hd htoken (ih (depthAfterText_of_no_paren htoken 0))

/-- **A cut divides the text** behind its place. -/
theorem dividesInto_cut (hmoves : rule.Moves) (hrule : rule.SkipsGroups) (p : Place) :
    DividesInto p.rest (rule.cut p).segments :=
  dividesInto_of_cutsInto hrule (cutsInto_cutFrom hmoves p.before 0 p.rest) rfl

/-! ## Where segments stand -/

/-- What stands before a segment ends at depth zero. -/
theorem DividesInto.exists_append (h : DividesInto t segments) (hs : s ∈ segments) :
    ∃ u v, t = u ++ (s ++ v) ∧ depthAfterText 0 u = 0 := by
  induction h with
  | last u =>
      obtain rfl := List.mem_singleton.mp hs
      exact ⟨[], [], (List.append_nil s).symm, rfl⟩
  | @token u token rest segments hdepth htoken _ ih =>
      rcases List.mem_cons.mp hs with rfl | hs
      · exact ⟨[], token ++ rest, rfl, rfl⟩
      · obtain ⟨x, v, rfl, hx⟩ := ih hs
        refine ⟨u ++ (token ++ x), v, by simp only [List.append_assoc], ?_⟩
        rw [depthAfterText_append, hdepth, depthAfterText_append, depthAfterText_of_no_paren htoken, hx]

/-- **The first token** holds no parenthesis, and what stands before it ends at depth zero. -/
theorem exists_of_find? (hmoves : rule.Moves) (hrule : rule.SkipsGroups) {p : Place} {found : Found α}
    (h : rule.find? p = some found) :
    ∃ token, p.rest = found.lead ++ (token ++ found.after.rest) ∧ depthAfterText 0 found.lead = 0 ∧
      ∀ c ∈ token, isParen c = false := by
  obtain ⟨before, t⟩ := p
  have hcut : CutsInto rule before 0 t (rule.cut ⟨before, t⟩) := cutsInto_cutFrom hmoves before 0 t
  unfold Rule.find? at h
  generalize rule.cut ⟨before, t⟩ = cut at h hcut
  cases hcut with
  | last _ => exact absurd h (by simp)
  | @token _ _ u rest c label width after _ hd _ hfound _ _ =>
      obtain rfl := Option.some.inj h
      refine ⟨(c :: rest).take width, ?_, hd, hrule.no_paren _ _ _ _ hfound⟩
      show u ++ c :: rest = u ++ ((c :: rest).take width ++ (u ++ c :: rest).drop (u.length + width))
      rw [List.drop_length_add_append, List.take_append_drop]

/-! ## Balanced texts -/

/-- Blanks do not matter for the balance. -/
theorem IsBalanced.trim (h : IsBalanced t) : IsBalanced (SqlSkim.trim t) := by
  obtain ⟨x, y, ht, hx, hy⟩ := trim_split t
  rw [ht] at h
  have hrest := (h.of_append (depthAfterText_of_no_paren (no_paren_of_blank hx) 0)).2
  refine (hrest.of_append ?_).1
  -- the blanks behind it leave the depth as it is, and at the end it is zero
  have hend := hrest.depthAfterText_eq 0
  rwa [depthAfterText_append, depthAfterText_of_no_paren (no_paren_of_blank hy)] at hend

/-- **The segments of a balanced text** are balanced. -/
theorem DividesInto.isBalanced (h : DividesInto t segments) (ht : IsBalanced t) :
    ∀ s ∈ segments, IsBalanced s := by
  induction h with
  | last u => exact List.forall_mem_singleton.mpr ht
  | @token u token rest segments hdepth htoken _ ih =>
      obtain ⟨hu, hrest⟩ := ht.of_append hdepth
      have hrest := (hrest.of_append (depthAfterText_of_no_paren htoken 0)).2
      exact List.forall_mem_cons.mpr ⟨hu, ih hrest⟩

/-- What stands before the first token of a balanced text is balanced, and so is what stands behind it. -/
theorem IsBalanced.of_find? (hmoves : rule.Moves) (hrule : rule.SkipsGroups) {p : Place} {found : Found α}
    (h : rule.find? p = some found) (hp : IsBalanced p.rest) :
    IsBalanced found.lead ∧ IsBalanced found.after.rest := by
  obtain ⟨token, hrest, hlead, htoken⟩ := exists_of_find? hmoves hrule h
  rw [hrest] at hp
  obtain ⟨hbefore, hbehind⟩ := hp.of_append hlead
  exact ⟨hbefore, (hbehind.of_append (depthAfterText_of_no_paren htoken 0)).2⟩

/-! ## The segments before the last one -/

/-- Blanks do not matter for what is left open. -/
theorem IsClosed.trim (h : IsClosed t) : IsClosed (SqlSkim.trim t) := by
  obtain ⟨x, y, ht, _, hy⟩ := trim_split t
  obtain ⟨hnopen, hnclose⟩ := not_mem_of_no_paren (no_paren_of_blank hy)
  have hopen : y.count '(' = 0 := List.count_eq_zero_of_not_mem hnopen
  have hclose : y.count ')' = 0 := List.count_eq_zero_of_not_mem hnclose
  rintro s ⟨v, hv⟩
  -- with the blanks behind it, what ends the trimmed text ends the text
  have hs := h (s ++ y) ⟨x ++ v, by rw [ht, ← hv]; simp⟩
  rw [List.count_append, List.count_append] at hs
  omega

theorem DividesInto.ne_nil (h : DividesInto t segments) : segments ≠ [] := by
  cases h <;> simp

/-- **Every segment but the last one** ends at depth zero. -/
theorem DividesInto.depthAfterText_eq (h : DividesInto t segments) :
    ∀ s ∈ segments.dropLast, depthAfterText 0 s = 0 := by
  induction h with
  | last u => simp
  | token hdepth _ hrest ih =>
      rw [List.dropLast_cons_of_ne_nil hrest.ne_nil]
      exact List.forall_mem_cons.mpr ⟨hdepth, ih⟩

/-- What is not the last one of some segments is not the last one of all. -/
theorem sublist_dropLast {β : Type} {xs ys : List β} (h : xs.Sublist ys) : xs.dropLast.Sublist ys.dropLast := by
  have htails := h.reverse.tail
  rwa [List.tail_reverse, List.tail_reverse, List.reverse_sublist] at htails

end SqlSkim
