import SqlSkim.Proofs.Statement.Separator
import SqlSkim.Proofs.Text.Trim

/-!
# `Statement.Segment` — a statement on its own is one statement

The segments of a query lie at depth zero between separators, and no word runs across their ends. So no
place inside a segment turns into a separator when the segment is taken out of its query: a statement,
scanned again, is the one statement of itself. For the same reason the statements before a `;` at depth
zero and those behind it do not know of each other.

## Contents
- `Undivided`: a text that holds no separator of its own.
- `undivided_of_mem_segments`, `statements_of_mem`: the segments of a query, and its statements.
- `segments_append`, `statements_append`: two queries with a `;` between them.
-/

namespace SqlSkim

/-! ## Undivided texts -/

/-- **An undivided text** holds no separator at depth zero. -/
def Undivided (t : Text) : Prop := Quiet separatorRule none 0 t []

theorem separatorRule_width_pos (p : Place) (label : Text) (width : Nat)
    (h : separatorRule p = some (label, width)) : 0 < width := (separatorAt_of_rule h).pos

/-- At a word boundary a stretch is as quiet as at the start of a text. -/
theorem Quiet.of_boundary {before : Option Char} {depth : Nat} {u tail : Text}
    (hstart : AtBoundary before (u ++ tail)) (h : Quiet separatorRule before depth u tail) :
    Quiet separatorRule none depth u tail := by
  cases u with
  | nil => trivial
  | cons c u =>
      have hfront : separatorRule ⟨before, c :: (u ++ tail)⟩ = separatorRule ⟨none, c :: (u ++ tail)⟩ :=
        separatorRule_of_boundary hstart
      exact ⟨fun hd hp => hfront ▸ h.1 hd hp, h.2⟩

/-- **A quiet stretch between two word boundaries is undivided**, once it stands alone. -/
theorem Quiet.undivided {before : Option Char} {u tail : Text}
    (h : Quiet separatorRule before 0 u tail) (hstart : AtBoundary before (u ++ tail))
    (hend : AtBoundary (lastOr before u) tail) : Undivided u := by
  refine Quiet.of_tail (h.of_boundary hstart) fun b v hv hs hnone => ?_
  obtain ⟨x, rfl⟩ := hs
  rw [List.append_nil]
  refine separatorRule_none_of_append hv ?_ hnone
  rwa [lastOr_append, lastOr_of_ne_nil hv _ b] at hend

theorem Undivided.separators_eq {t : Text} (h : Undivided t) : separators t = ⟨t, []⟩ :=
  (CutsInto.last h).cutFrom_eq

/-- Nothing stands before a separator in an undivided text. -/
theorem emptySegments_of_undivided {t : Text} (h : Undivided t) : emptySegments t = 0 := by
  rw [emptySegments, h.separators_eq]
  rfl

/-- Trimming takes blanks away, and neither starts nor ends a word. -/
theorem Undivided.trim {t : Text} (h : Undivided t) : Undivided (SqlSkim.trim t) := by
  obtain ⟨x, y, ht, hx, hy⟩ := trim_split t
  have hparen := no_paren_of_blank hx
  have hbefore : (lastOr none x).any isWordChar = false := by
    cases hne : x with
    | nil => rfl
    | cons d x' =>
        obtain ⟨c, hc, hlast⟩ := exists_lastOr none (u := d :: x') (by simp)
        rw [hlast]
        exact isWordChar_of_isBlank (hx c (hne ▸ hc))
  have hbehind : ∀ before, AtBoundary before y := fun before _ => by
    cases hne : y with
    | nil => rfl
    | cons c y' => exact isWordChar_of_isBlank (hy c (by simp [hne]))
  -- of the three stretches of `t` the middle one is what trimming leaves
  rw [Undivided, ht, quiet_append_iff, quiet_append_iff, depthAfterText_of_no_paren hparen,
    List.append_nil y] at h
  exact h.2.1.undivided (atBoundary_of_before hbefore _) (hbehind _)

/-! ## The segments of a query -/

/-- **Every segment is undivided.** -/
theorem undivided_of_mem_segments {before : Option Char} {depth : Nat} {t : Text} {cut : Cut Text}
    (h : CutsInto separatorRule before depth t cut) (hdepth : depth = 0)
    (hstart : AtBoundary before t) : ∀ s ∈ cut.segments, Undivided s ∧ s <:+: t := by
  induction h with
  | last hq =>
      intro s hs
      obtain rfl : s = _ := by simpa [Cut.segments] using hs
      subst hdepth
      exact ⟨hq.undivided (by simpa using hstart) (atBoundary_nil _), List.infix_rfl⟩
  | @token before depth u rest c label width after hq hd hp hr hw _ ih =>
      subst hdepth
      have hsep := separatorAt_of_rule hr
      intro s hs
      rcases List.mem_cons.mp hs with rfl | hs
      · exact ⟨hq.undivided hstart hsep.boundary_before, List.infix_append_left⟩
      · -- behind the token the depth is zero again, and a new word may start
        obtain ⟨hs, hin⟩ := ih (depthAfterText_of_no_paren hsep.no_paren 0) hsep.boundary_after s hs
        refine ⟨hs, hin.trans ?_⟩
        exact List.infix_append_of_infix_right (List.drop_suffix _ _).isInfix

theorem mem_statements_iff {s t : Text} :
    s ∈ statements t ↔ s ≠ [] ∧ ∃ segment ∈ (separators t).segments, trim segment = s := by
  rw [statements, List.mem_filter, List.mem_map, and_comm, decide_eq_true_eq]

/-- A statement is a stretch of its query without separators. -/
theorem undivided_of_mem_statements {s t : Text} (h : s ∈ statements t) :
    Undivided s ∧ s <:+: t := by
  obtain ⟨_, segment, hsegment, rfl⟩ := mem_statements_iff.mp h
  have hcut := cutsInto_cutFrom separatorRule_width_pos none 0 t
  obtain ⟨hs, hin⟩ :=
    undivided_of_mem_segments hcut rfl (atBoundary_of_before rfl t) segment hsegment
  exact ⟨hs.trim, (trim_isInfix segment).trans hin⟩

/-- **A statement on its own is one statement.** -/
theorem statements_of_mem {s t : Text} (h : s ∈ statements t) : statements s = [s] := by
  have hs := (undivided_of_mem_statements h).1
  obtain ⟨hne, segment, _, rfl⟩ := mem_statements_iff.mp h
  rw [statements, hs.separators_eq]
  simp [Cut.segments, trim_trim, hne]

/-! ## Two queries with a semicolon between them -/

theorem cutFrom_of_boundary {before : Option Char} {t : Text} (h : AtBoundary before t)
    (depth : Nat) :
    separatorRule.cutFrom before depth 0 t = separatorRule.cutFrom none depth 0 t := by
  cases t with
  | nil => rfl
  | cons c t => rw [Rule.cutFrom, Rule.cutFrom, separatorRule_of_boundary h]

/-- Behind a `;` at depth zero the query starts anew. -/
theorem cutFrom_semicolon (before : Option Char) (b : Text) :
    separatorRule.cutFrom before 0 0 (';' :: b) =
      ⟨[], ⟨[';'], 1, (separators b).head⟩ :: (separators b).pieces⟩ := by
  have hafter : separatorRule.cutFrom (some ';') 0 0 b = separators b :=
    cutFrom_of_boundary (atBoundary_of_before rfl b) 0
  rw [cutFrom_token rfl Nat.one_pos (separatorRule_semicolon before b), ← hafter]
  rfl

/-- The cut of the first query, the `;`, and the cut of the second one. -/
theorem cutFrom_append_semicolon {before : Option Char} {depth : Nat} {a : Text} {cut : Cut Text}
    (h : CutsInto separatorRule before depth a cut) (hend : depthAfterText depth a = 0) (b : Text) :
    separatorRule.cutFrom before depth 0 (a ++ ';' :: b) =
      ⟨cut.head, cut.pieces ++ ⟨[';'], 1, (separators b).head⟩ :: (separators b).pieces⟩ := by
  induction h with
  | last hq =>
      -- with the `;` behind it instead of the end of the query the stretch stays quiet
      have hq' : Quiet separatorRule _ _ _ (';' :: b) := hq.of_tail fun before v hv _ hnone => by
        rw [separatorRule_append_semicolon hv]
        rwa [List.append_nil] at hnone
      rw [cutFrom_quiet hq', hend, cutFrom_semicolon]
      simp
  | @token before depth u rest c label width after hq hd hp hr hw _ ih =>
      have hq' : Quiet separatorRule before depth u (c :: rest ++ ';' :: b) :=
        hq.of_tail fun before v hv _ hnone => by
          rw [← List.append_assoc, separatorRule_append_semicolon (by simp)]
          exact hnone
      have hr' : separatorRule ⟨lastOr before u, c :: rest ++ ';' :: b⟩ = some (label, width) := by
        rw [separatorRule_append_semicolon (by simp)]
        exact hr
      have hle := (separatorAt_of_rule hr).le_length
      have hend' : depthAfterText (depthAfterText 0 ((c :: rest).take width))
          ((c :: rest).drop width) = 0 := by
        rw [depthAfterText_append, hd] at hend
        rw [← depthAfterText_append, List.take_append_drop]
        exact hend
      rw [List.append_assoc, cutFrom_quiet hq', hd]
      rw [List.cons_append] at hr' ⊢
      rw [cutFrom_token hp hw hr', ← List.cons_append, List.take_append_of_le_length hle,
        List.drop_append_of_le_length hle, ih hend']
      simp

/-- **The segments before a `;` and those behind it.** -/
theorem segments_append {a : Text} (hend : depthAfterText 0 a = 0) (b : Text) :
    (separators (a ++ ';' :: b)).segments = (separators a).segments ++ (separators b).segments := by
  have h := cutFrom_append_semicolon (cutsInto_cutFrom separatorRule_width_pos none 0 a) hend b
  have hcut : separators (a ++ ';' :: b) = separatorRule.cutFrom none 0 0 (a ++ ';' :: b) := rfl
  rw [hcut, h]
  simp [Cut.segments, separators, Rule.cut, Place.start]

/-- Behind the statements of `a` its last segment counts too: it is before a separator now. -/
theorem emptySegments_append {a : Text} (hend : depthAfterText 0 a = 0) (b : Text) :
    emptySegments (a ++ ';' :: b) = (separators a).segments.countP (trim · = []) + emptySegments b := by
  rw [emptySegments, segments_append hend, List.dropLast_append_of_ne_nil (by simp [Cut.segments]),
    List.countP_append]
  rfl

theorem statements_append {a : Text} (hend : depthAfterText 0 a = 0) (b : Text) :
    statements (a ++ ';' :: b) = statements a ++ statements b := by
  rw [statements, segments_append hend, List.map_append, List.filter_append]
  rfl

end SqlSkim
