import SqlSkim.Proofs.Paren.Depth
import SqlSkim.Proofs.Scan.Part

/-!
# `Scan.Rejoin` — words and parts joined again

A text is split at its blanks or at another character, and the pieces are joined with that character: splitting
what comes of it gives the same pieces. An open `(` would hide what stands behind it, but it can only be in the last
piece: behind any other one stood a separator, at depth zero, so the piece ends at depth zero by itself. Neither the
empty pieces that were dropped nor the blanks that were trimmed off change that.

## Contents
- `withoutBlanksAt`, `withoutOuterBlanks`, `flatten_topLevelWords`: what the words of a text are made of.
- `topLevelWords_rejoined`: words joined again.
- `depthAfterText_of_mem_dropLast_parts`, `splitTopLevel_rejoined`: parts joined again.
- `RejoinsWords`, `RejoinsParts`, `rejoins_topLevel`: the main result.
-/

namespace SqlSkim

variable {t : Text} {c : Char}

/-! ## What words are made of -/

/-- The text that starts at offset `pos`, without its blanks at the given offsets. -/
def withoutBlanksAt (offsets : List Nat) (pos : Nat) (t : Text) : Text :=
  ((t.zipIdx pos).filter fun q => !(isBlank q.1 && offsets.contains q.2)).map Prod.fst

/-- The text without its blanks at depth zero. -/
def withoutOuterBlanks (t : Text) : Text := withoutBlanksAt (topLevel t 0) 0 t

variable {offsets offsets' : List Nat} {pos : Nat}

/-- A blank at one of the offsets is left out. -/
theorem withoutBlanksAt_cons_of_mem (hblank : isBlank c = true) (hpos : pos ∈ offsets) (t : Text) :
    withoutBlanksAt offsets pos (c :: t) = withoutBlanksAt offsets (pos + 1) t := by
  unfold withoutBlanksAt
  rw [List.zipIdx_cons, List.filter_cons_of_neg (by simp [hblank, hpos])]

/-- Any other character is kept. -/
theorem withoutBlanksAt_cons (h : isBlank c = true → pos ∉ offsets) (t : Text) :
    withoutBlanksAt offsets pos (c :: t) = c :: withoutBlanksAt offsets (pos + 1) t := by
  unfold withoutBlanksAt
  rw [List.zipIdx_cons, List.filter_cons_of_pos, List.map_cons]
  cases hblank : isBlank c with
  | false => rfl
  | true => simp [h hblank]

/-- The offsets before the text are of no concern. -/
theorem withoutBlanksAt_congr (h : ∀ i, pos ≤ i → (i ∈ offsets ↔ i ∈ offsets')) (t : Text) :
    withoutBlanksAt offsets pos t = withoutBlanksAt offsets' pos t := by
  unfold withoutBlanksAt
  refine congrArg _ (List.filter_congr fun q hq => ?_)
  have hmem : offsets.contains q.2 = offsets'.contains q.2 := by
    rw [Bool.eq_iff_iff, List.contains_iff_mem, List.contains_iff_mem]
    exact h q.2 (List.le_snd_of_mem_zipIdx hq)
  rw [hmem]

/-- **A cut at the blanks** leaves out those at depth zero, and nothing else. -/
theorem flatten_segments_blank (pos depth : Nat) (t : Text) :
    ((Rule.char isBlank).cutFrom none depth 0 t).segments.flatten =
      withoutBlanksAt (topLevelFrom pos depth t) pos t := by
  induction t generalizing pos depth with
  | nil => rfl
  | cons c t ih =>
      have hpos : pos ∈ topLevelFrom pos depth (c :: t) ↔ isParen c = false ∧ depth = 0 := by
        rw [mem_topLevelFrom_cons, or_iff_left]
        · exact and_iff_right rfl
        · intro hlater
          exact Nat.not_succ_le_self pos (bounds_of_mem_topLevelFrom hlater).1
      -- behind the first character, only the later offsets matter
      have hbehind : withoutBlanksAt (topLevelFrom pos depth (c :: t)) (pos + 1) t =
          ((Rule.char isBlank).cutFrom none (depthAfter depth c) 0 t).segments.flatten := by
        rw [ih (pos + 1) (depthAfter depth c)]
        refine withoutBlanksAt_congr (fun i hi => ?_) t
        rw [mem_topLevelFrom_cons, or_iff_right]
        rintro ⟨rfl, _⟩
        exact Nat.not_succ_le_self i hi
      by_cases hcut : isBlank c = true ∧ isParen c = false ∧ depth = 0
      · obtain ⟨hblank, hparen, rfl⟩ := hcut
        have hunsplit : Unsplit isBlank [] := trivial
        have hflatten := congrArg List.flatten (hunsplit.segments_append_cons rfl hblank hparen t)
        rw [withoutBlanksAt_cons_of_mem hblank (hpos.mpr ⟨hparen, rfl⟩), hbehind,
          depthAfter_of_no_paren hparen]
        exact hflatten
      · have hquiet : Quiet (Rule.char isBlank) none depth [c] t := by
          refine ⟨fun hdepth hparen => char_eq_none_iff.mpr ?_, trivial⟩
          exact Bool.eq_false_iff.mpr fun hblank => hcut ⟨hblank, hparen, hdepth⟩
        have hkept := cutFrom_quiet hquiet
        rw [lastOr_cons, lastOr_nil, cutFrom_char isBlank (some c)] at hkept
        rw [withoutBlanksAt_cons fun hblank hmem => hcut ⟨hblank, hpos.mp hmem⟩, hbehind]
        exact congrArg (·.segments.flatten) hkept

/-- **The words are the text** without its blanks at depth zero. -/
theorem flatten_topLevelWords (t : Text) : (topLevelWords t).flatten = withoutOuterBlanks t := by
  rw [topLevelWords, List.flatten_filter_ne_nil]
  exact flatten_segments_blank 0 0 t

/-! ## Words joined again -/

/-- **The words of a text**, joined and split again. -/
theorem topLevelWords_rejoined (t : Text) : topLevelWords (joinWith " " (topLevelWords t)) = topLevelWords t := by
  refine topLevelWords_joinWith_of_closed (fun w hw => ?_) fun w hw => (isSolid_of_mem_words hw).2
  obtain ⟨hne, hmem⟩ := mem_segments_of_mem_words hw
  exact ⟨hne, unsplit_of_mem_segments hmem⟩

/-! ## Parts joined again -/

variable {sep : Char}

/-- **The parts before the last one** leave nothing open. -/
theorem depthAfterText_of_mem_dropLast_parts (hparen : isParen sep = false) {s : Text}
    (h : s ∈ (splitTopLevel [sep] t).dropLast) : depthAfterText 0 s = 0 := by
  have hskips : (Rule.char ([·] = [sep])).SkipsGroups := skipsGroups_char fun c hc => by
    obtain rfl : c = sep := by simpa using hc
    exact hparen
  have hdivides := dividesInto_cut (char_width_pos ([·] = [sep])) hskips (.start t)
  have hdropLast := (sublist_dropLast List.filter_sublist).subset h
  rw [← List.map_dropLast] at hdropLast
  obtain ⟨segment, hsegment, rfl⟩ := List.mem_map.mp hdropLast
  exact (isClosed_of_depthAfterText (hdivides.depthAfterText_eq segment hsegment)).trim.depthAfterText_eq

/-- No text is split at a parenthesis. -/
theorem unsplit_paren (hparen : isParen sep = true) (t : Text) : Unsplit ([·] = [sep]) t := by
  unfold Unsplit
  generalize (none : Option Char) = before
  generalize 0 = depth
  induction t generalizing before depth with
  | nil => trivial
  | cons c t ih =>
      refine ⟨fun _ hc => char_eq_none_iff.mpr (decide_eq_false fun heq => ?_), ih _ _⟩
      obtain rfl : c = sep := List.singleton_inj.mp heq
      rw [hparen] at hc
      exact absurd hc (by decide)

/-- **The parts of a text**, joined and split again. -/
theorem splitTopLevel_rejoined (sep : Char) (t : Text) :
    splitTopLevel [sep] (joinWith (String.singleton sep) (splitTopLevel [sep] t)) = splitTopLevel [sep] t := by
  have hpart : ∀ s ∈ splitTopLevel [sep] t, IsPart [sep] s := fun s hs => isPart_of_mem_splitTopLevel hs
  cases hparen : isParen sep with
  | false =>
      exact splitTopLevel_joinWith_of_closed hparen hpart fun s hs =>
        depthAfterText_of_mem_dropLast_parts hparen hs
  | true =>
      -- there is one part at most
      have hone : splitTopLevel [sep] t = [trim t].filter (· ≠ []) := by
        rw [splitTopLevel, (unsplit_paren hparen t).segments_eq]
        rfl
      by_cases hnil : trim t = []
      · have hnone : splitTopLevel [sep] t = [] := by
          rw [hone, hnil]
          rfl
        rw [hnone]
        rfl
      · have hsingle : splitTopLevel [sep] t = [trim t] := by
          rw [hone]
          exact List.filter_cons_of_pos (by simpa using hnil)
        rw [hsingle, joinWith_singleton]
        exact (hpart (trim t) (hsingle ▸ List.mem_singleton_self _)).splitTopLevel_eq

/-! ## The main result -/

/-- **Words of a text that can be joined again.** -/
structure RejoinsWords (t : Text) (ws : List Text) : Prop where
  ne_nil : ∀ w ∈ ws, w ≠ []
  /-- They are the text, but for its blanks at depth zero. -/
  flatten_eq : ws.flatten = withoutOuterBlanks t
  rejoined : topLevelWords (joinWith " " ws) = ws

/-- **Parts that can be joined again** with the separator between them. -/
structure RejoinsParts (sep : Char) (ps : List Text) : Prop where
  ne_nil : ∀ s ∈ ps, s ≠ []
  trim_eq : ∀ s ∈ ps, trim s = s
  /-- No part is split further. -/
  single : ∀ s ∈ ps, splitTopLevel [sep] s = [s]
  rejoined : splitTopLevel [sep] (joinWith (String.singleton sep) ps) = ps

/-- **Splitting is stable under joining**: for the words of any text, and for its parts, whatever character
    separates them. At a parenthesis no text is split. -/
theorem rejoins_topLevel (t : Text) :
    RejoinsWords t (topLevelWords t) ∧ ∀ sep, RejoinsParts sep (splitTopLevel [sep] t) := by
  constructor
  · exact {
      ne_nil := fun w hw => (mem_segments_of_mem_words hw).1
      flatten_eq := flatten_topLevelWords t
      rejoined := topLevelWords_rejoined t }
  · intro sep
    have hpart : ∀ s ∈ splitTopLevel [sep] t, IsPart [sep] s := fun s hs => isPart_of_mem_splitTopLevel hs
    exact {
      ne_nil := fun s hs => (hpart s hs).ne_nil
      trim_eq := fun s hs => (hpart s hs).trim_eq
      single := fun s hs => (hpart s hs).splitTopLevel_eq
      rejoined := splitTopLevel_rejoined sep t }

/-- The first `)` is stray, and the last `(` is left open. -/
example : topLevelWords "a)  b,(c d), (e, f".toList = ["a)".toList, "b,(c d),".toList, "(e, f".toList] ∧
    splitTopLevel [','] "a)  b,(c d), (e, f".toList = ["a)  b".toList, "(c d)".toList, "(e, f".toList] := by decide

end SqlSkim
