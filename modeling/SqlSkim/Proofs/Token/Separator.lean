import SqlSkim.Proofs.Token.Keyword

/-!
# `Token.Separator` — the separators divide a text without a gap

The separators of a query are found in one walk, `;` at once and unions by a match that may reach far. They
lie apart, what stands between them is what the statements are made of, and together with that they are the
whole text. Every segment becomes a statement or, if it is blank, counts as empty; the last one, which no
separator follows, is left out of the count.

## Contents
- `Spells`, `spells_of_wordsWidth?`: how a phrase can be written.
- `IsSeparator`, `isSeparator_of_rule`: what stands in a separator.
- `isSome_separatorRule`: where one is found.
- `segmentsOf_eq_concat`, `length_statements_add_emptySegments`: the count.
- `IsPartition`, `isPartition_separators`: the main result.
-/

namespace SqlSkim

open Phrase

/-! ## What a separator is -/

/-- **A text spells a phrase** if it is its words in any letter case, with blanks between them. -/
inductive Spells : List Text → Text → Prop where
  | one {w u : Text} : upper u = w → Spells [w] u
  | more {w u gap v : Text} {ws : List Text} : upper u = w → gap ≠ [] → (∀ c ∈ gap, isBlank c = true) →
      Spells ws v → Spells (w :: ws) (u ++ (gap ++ v))

/-- The front of a text, taken apart at the blanks that stand in it. -/
theorem take_blanks {t : Text} {n gap : Nat} (hgap : gap = ((t.drop n).takeWhile isBlank).length) (m : Nat) :
    t.take (n + gap + m) = t.take n ++ ((t.drop n).takeWhile isBlank ++ (t.drop (n + gap)).take m) := by
  rw [List.take_add, List.take_add, List.append_assoc, hgap, Checked.take_takeWhile_length]

/-- What a phrase matches spells it. -/
theorem spells_of_wordsWidth? {ws : List Text} (hne : ws ≠ []) {t : Text} {n : Nat}
    (h : wordsWidth? ws t = some n) : Spells ws (t.take n) := by
  induction ws generalizing t n with
  | nil => exact absurd rfl hne
  | cons w more ih =>
      obtain ⟨hup, _, ⟨rfl, rfl⟩ | ⟨hmore, gap, m, hgap, hpos, hm, rfl⟩⟩ := wordsWidth?_cons_cases h
      · exact .one hup
      · rw [take_blanks hgap]
        refine .more hup ?_ (fun c hc => List.mem_takeWhile_imp hc) (ih hmore hm)
        intro hnil
        rw [hnil] at hgap
        exact absurd hgap (Nat.ne_of_gt hpos)

/-- **A separator**: a `;`, or the words `UNION` or `UNION ALL` that are not part of longer ones. -/
def IsSeparator (t : Text) (start stop : Nat) : Prop :=
  slice t start stop = [';'] ∨
    IsWhole t start stop ∧ (Spells ["UNION".toList] (slice t start stop) ∨
      Spells ["UNION".toList, "ALL".toList] (slice t start stop))

/-- Where the rule finds a token there is a separator. -/
theorem isSeparator_of_rule {t label : Text} {start width : Nat}
    (h : separatorRule (.at t start) = some (label, width)) : IsSeparator t start (start + width) := by
  have hslice : slice t start (start + width : Nat) = (t.drop start).take width := by
    rw [slice_natCast, Nat.add_sub_cancel_left]
  unfold IsSeparator
  rw [hslice]
  by_cases hsemi : (t.drop start).head? = some ';'
  · obtain ⟨rest, hrest⟩ := List.head?_eq_some_iff.mp hsemi
    rw [Place.at, hrest, separatorRule_semicolon] at h
    obtain ⟨_, rfl⟩ := Prod.mk.inj (Option.some.inj h)
    rw [hrest]
    exact .inl rfl
  · rw [Place.at, separatorRule_of_ne hsemi] at h
    obtain ⟨⟨phrase, n⟩, hbest, heq⟩ := Option.map_eq_some_iff.mp h
    obtain ⟨_, rfl⟩ := Prod.mk.inj heq
    obtain ⟨hmem, hwidth⟩ := width?_of_longest? hbest
    obtain ⟨hne, _, hwords⟩ := width?_eq_some_iff.mp hwidth
    have hspells := spells_of_wordsWidth? hne hwords
    refine .inr ⟨isWhole_of_width? hwidth, ?_⟩
    rw [unionPhrases_eq] at hmem
    rcases List.mem_cons.mp hmem with rfl | hmem
    · exact .inr hspells
    · obtain rfl := List.mem_singleton.mp hmem
      exact .inl hspells

/-- **The rule finds a token** at each `;` and wherever the word `UNION` stands. -/
theorem isSome_separatorRule {t : Text} {i : Nat}
    (h : t[i]? = some ';' ∨ ((⟨["UNION".toList]⟩ : Phrase).width? (.at t i)).isSome = true) :
    (separatorRule (.at t i)).isSome = true := by
  rw [Option.isSome_iff_ne_none]
  intro hnone
  obtain ⟨hsemi, hunion⟩ := separatorRule_eq_none_iff.mp hnone
  rcases h with h | h
  · exact hsemi (by rw [List.head?_drop, h])
  · obtain ⟨width, hwidth⟩ := Option.isSome_iff_exists.mp h
    obtain ⟨_, hbefore, hwords⟩ := width?_eq_some_iff.mp hwidth
    rcases hunion with hunion | hunion
    · rw [Place.at] at hbefore
      rw [hbefore] at hunion
      exact absurd hunion (by decide)
    · rw [Place.at] at hwords
      rw [hwords] at hunion
      exact absurd hunion (by simp)

/-! ## Counting segments -/

variable {α : Type}

/-- What stands behind the last token, or from `last` on if there is none. -/
def behindLast (t : Text) (last : Nat) (hits : List (Hit α)) : Text :=
  t.drop ((hits.getLast?.map (·.stop)).getD last)

/-- Each token ends a segment, and one is left behind the last token. -/
theorem segmentsOf_eq_concat (t : Text) (last : Nat) (hits : List (Hit α)) :
    ∃ front, segmentsOf t last hits = front ++ [behindLast t last hits] ∧ front.length = hits.length := by
  induction hits generalizing last with
  | nil => exact ⟨[], rfl, rfl⟩
  | cons hit more ih =>
      obtain ⟨front, hfront, hlength⟩ := ih hit.stop
      refine ⟨slice t last hit.start :: front, ?_, by simp [hlength]⟩
      have hlast : behindLast t last (hit :: more) = behindLast t hit.stop more := by
        unfold behindLast
        rw [List.getLast?_cons]
        cases more.getLast? <;> rfl
      rw [segmentsOf, hfront, hlast]
      rfl

/-- **Statements and empty segments together** are as many as there are separators, and one more if
    something stands behind the last separator. -/
theorem length_statements_add_emptySegments (t : Text) {hits : List (Hit α)}
    (h : (separators t).segments = segmentsOf t 0 hits) :
    (statements t).length + emptySegments t =
      hits.length + if trim (behindLast t 0 hits) = [] then 0 else 1 := by
  obtain ⟨front, hfront, hlength⟩ := segmentsOf_eq_concat t 0 hits
  have hstatements : (statements t).length = (separators t).segments.countP (trim · ≠ []) := by
    rw [statements, ← List.countP_eq_length_filter, List.countP_map]
    rfl
  have hboth : front.length = front.countP (trim · = []) + front.countP (trim · ≠ []) := by
    rw [List.length_eq_countP_add_countP (trim · = [])]
    simp
  rw [hstatements, emptySegments, h, hfront, List.dropLast_concat, List.countP_append, ← hlength, hboth,
    List.countP_singleton]
  by_cases hblank : trim (behindLast t 0 hits) = []
  · simp [hblank]
    omega
  · simp [hblank]
    omega

/-! ## The main result -/

/-- **A division of a text by separators** with nothing lost and nothing left out. -/
structure IsPartition (t : Text) (hits : List (Hit Text)) : Prop where
  /-- The separators are not empty, lie within the text, and come one behind the other. -/
  nonempty : ∀ hit ∈ hits, hit.start < hit.stop
  within : ∀ hit ∈ hits, hit.stop ≤ t.length
  increasing : hits.Pairwise fun a b => a.start < b.start
  apart : hits.Pairwise fun a b => a.stop ≤ b.start
  /-- What stands between them is cut into statements, and with them it is the whole text. -/
  segments_eq : (separators t).segments = segmentsOf t 0 hits
  interleaved : interleave (segmentsOf t 0 hits) (hits.map fun hit => slice t hit.start hit.stop) = t
  /-- A separator starts at depth zero, and is a `;` or a union. -/
  start_mem : ∀ hit ∈ hits, hit.start ∈ topLevel t 0
  separator : ∀ hit ∈ hits, IsSeparator t hit.start hit.stop
  /-- No `;` and no `UNION` at depth zero is outside of them. -/
  semicolon : ∀ i ∈ topLevel t 0, t[i]? = some ';' → ∃ hit ∈ hits, hit.start ≤ i ∧ i < hit.stop
  union : ∀ i ∈ topLevel t 0, ∀ stop, (⟨["UNION".toList]⟩ : Phrase).matchAt t i = .ok (some stop) →
    ∃ hit ∈ hits, hit.start ≤ i ∧ i < hit.stop
  /-- Every segment is a statement or empty, but the last one is not called empty. -/
  count : (statements t).length + emptySegments t =
    hits.length + if trim (behindLast t 0 hits) = [] then 0 else 1

/-- **The separators divide the text**, whatever it is. -/
theorem isPartition_separators (t : Text) : IsPartition t ((separators t).hits 0) := by
  have hlists : ListsTokens separatorRule t (topLevel t 0) ((separators t).hits 0) :=
    listsTokens_hits separatorRule_width_pos t 0
  have hsegments : (separators t).segments = segmentsOf t 0 ((separators t).hits 0) :=
    (segmentsOf_hits separatorRule_width_pos t 0).symm
  have hnonempty : ∀ hit ∈ (separators t).hits 0, hit.start < hit.stop := fun hit hhit =>
    (hlists.token hit hhit).1
  constructor
  case nonempty => exact hnonempty
  case within =>
    have hfits : separatorRule.Fits := fun _ _ _ hrule => (separatorAt_of_rule hrule).le_length
    exact fun _ => stop_le_of_mem_hits separatorRule_width_pos hfits
  case increasing => exact hlists.increasing
  case apart => exact hlists.apart
  case segments_eq => exact hsegments
  case interleaved =>
    rw [interleave_segmentsOf hlists.apart hnonempty fun _ _ => Nat.zero_le _]
    rfl
  case start_mem => exact hlists.start_mem
  case separator =>
    intro hit hhit
    obtain ⟨hlt, hrule⟩ := hlists.token hit hhit
    have hseparator := isSeparator_of_rule hrule
    rwa [Nat.add_sub_cancel' (Nat.le_of_lt hlt)] at hseparator
  case semicolon => exact fun i hi hsemi => hlists.complete i hi (isSome_separatorRule (.inl hsemi))
  case union =>
    intro i hi stop hmatch
    have hle : i ≤ t.length := Nat.le_of_lt (bounds_of_mem_topLevel hi).2
    obtain ⟨width, hwidth, _⟩ := (matchAt_eq_ok_iff hle).mp hmatch
    exact hlists.complete i hi (isSome_separatorRule (.inr (by rw [hwidth]; rfl)))
  case count => exact length_statements_add_emptySegments t hsegments

end SqlSkim
