import SqlSkim.Proofs.Statement.Division

/-!
# `Statement.Rejoin` — statements joined again

A query is brought into a normal form by splitting it and joining its statements with a `;`. Splitting that
gives the same statements, and no empty one among them. What could get in the way is depth: an open `(` hides
every separator behind it. But a statement with another one behind it was followed by a separator, which
stands at depth zero, so it leaves nothing open, on its own as in its query.

## Contents
- `statements_joinWith`: undivided texts, joined and split again.
- `statements_normalForm`: the main result.
-/

namespace SqlSkim

/-- **Undivided texts joined by `;`** are split into these texts again, if none but the last one is left
    open. -/
theorem statements_joinWith {ss : List Text}
    (hone : ∀ s ∈ ss, Undivided s ∧ s ≠ [] ∧ trim s = s)
    (hclosed : ∀ s ∈ ss.dropLast, depthAfterText 0 s = 0) :
    statements (joinWith ";" ss) = ss ∧ emptySegments (joinWith ";" ss) = 0 := by
  induction ss with
  | nil => exact ⟨rfl, rfl⟩
  | cons s more ih =>
      obtain ⟨⟨hundivided, hne, htrim⟩, hmore⟩ := List.forall_mem_cons.mp hone
      have hstatements : statements s = [s] := by
        rw [statements, hundivided.separators_eq]
        simp [Cut.segments, htrim, hne]
      cases more with
      | nil =>
          rw [joinWith_singleton]
          exact ⟨hstatements, emptySegments_of_undivided hundivided⟩
      | cons r more =>
          rw [List.dropLast_cons_cons, List.forall_mem_cons] at hclosed
          obtain ⟨hend, hclosed⟩ := hclosed
          obtain ⟨hsplit, hempty⟩ := ih hmore hclosed
          have hjoin : joinWith ";" (s :: r :: more) = s ++ ';' :: joinWith ";" (r :: more) :=
            joinWith_cons_cons ";" s r more
          constructor
          · rw [hjoin, statements_append hend, hstatements, hsplit]
            rfl
          · have hsegments : (separators s).segments.countP (trim · = []) = 0 := by
              rw [hundivided.separators_eq]
              simp [Cut.segments, htrim, hne]
            rw [hjoin, emptySegments_append hend, hsegments, hempty]

/-- A statement with others behind it ends at depth zero. -/
theorem depthAfterText_of_mem_dropLast {s t : Text} (h : s ∈ (statements t).dropLast) :
    depthAfterText 0 s = 0 := (isClosed_of_mem_dropLast_statements h).depthAfterText_eq

/-- **Splitting reaches a normal form.** Each statement is trimmed, not empty, and one statement on its own;
    and the statements joined by `;` are split into the same statements again, with no empty one. -/
theorem statements_normalForm (t : Text) :
    (∀ s ∈ statements t, s ≠ [] ∧ trim s = s ∧ statements s = [s]) ∧
      statements (joinWith ";" (statements t)) = statements t ∧
      emptySegments (joinWith ";" (statements t)) = 0 := by
  have htrimmed : ∀ s ∈ statements t, s ≠ [] ∧ trim s = s := by
    intro s hs
    obtain ⟨hne, segment, _, rfl⟩ := mem_statements_iff.mp hs
    exact ⟨hne, trim_trim segment⟩
  constructor
  · intro s hs
    obtain ⟨hne, htrim⟩ := htrimmed s hs
    exact ⟨hne, htrim, statements_of_mem hs⟩
  · refine statements_joinWith (fun s hs => ?_) fun s hs => depthAfterText_of_mem_dropLast hs
    obtain ⟨hne, htrim⟩ := htrimmed s hs
    exact ⟨(undivided_of_mem_statements hs).1, hne, htrim⟩

/-- An open parenthesis at the end hides nothing, and a `UNION` inside a word is none. -/
example : statements (joinWith ";" (statements "a) UNION b;; REUNION UNION ALL (c; d".toList)) =
    ["a)".toList, "b".toList, "REUNION".toList, "(c; d".toList] := by decide +kernel

end SqlSkim
