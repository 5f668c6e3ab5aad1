import SqlSkim.Proofs.Scan.Division
import SqlSkim.Proofs.Text.Words

/-!
# `Scan.Part` — the parts between single characters

A text split at a class of characters falls into parts that hold none of them outside their groups. Whether one
starts a token is seen from the character alone, so a part on its own is not split again, and a text is such a
part just if its pieces are, as long as the pieces lie at depth zero.

## Contents
- `Unsplit`: a text without a character of a class at depth zero; `Unsplit.append`, `Unsplit.of_append`,
  `Unsplit.trim`: putting such texts together and taking them apart.
- `unsplit_of_mem_segments`, `splitTopLevel_of_mem`: the parts of a text.
- `isSolid_of_mem_words`, `filter_flatten_words`, `words_of_part`: the words of a text, which are its parts
  between blanks.
- `Unsplit.segments_append_cons`, `segments_joinWith_of_closed`, with `topLevelWords_joinWith_of_closed` and
  `splitTopLevel_joinWith_of_closed`: unsplit texts that are joined are found again.
- `unsplit_joinWith`, `isBalanced_joinWith`: what joined words inherit.
-/

namespace SqlSkim

variable {p q : Char → Bool} {t u v : Text} {c : Char}

/-! ## Texts that are not split -/

/-- **An unsplit text** holds no character of a class at depth zero. -/
def Unsplit (p : Char → Bool) (t : Text) : Prop := Quiet (Rule.char p) none 0 t []

/-- What stands around a stretch is of no concern for single characters. -/
theorem quiet_char_iff {before : Option Char} {depth : Nat} {tail : Text} :
    Quiet (Rule.char p) before depth t tail ↔ Quiet (Rule.char p) none depth t [] := by
  induction t generalizing before depth tail with
  | nil => rfl
  | cons c t ih =>
      unfold Quiet
      rw [char_eq_none_iff, char_eq_none_iff]
      exact and_congr_right fun _ => ih.trans ih.symm

/-- A text put together at depth zero is unsplit just if both parts are. -/
theorem unsplit_append_iff (hdepth : depthAfterText 0 u = 0) :
    Unsplit p (u ++ v) ↔ Unsplit p u ∧ Unsplit p v := by
  unfold Unsplit
  rw [quiet_append_iff, hdepth, quiet_char_iff, @quiet_char_iff p v]

/-- The front of an unsplit text is unsplit, at whatever depth it ends. -/
theorem Unsplit.of_append (h : Unsplit p (u ++ v)) : Unsplit p u :=
  quiet_char_iff.mp (quiet_append_iff.mp h).1

/-- A stretch of an unsplit text that starts at depth zero is unsplit. -/
theorem Unsplit.of_stretch {x y : Text} (h : Unsplit p t) (ht : t = x ++ (u ++ y))
    (hdepth : depthAfterText 0 x = 0) : Unsplit p u := by
  rw [ht, unsplit_append_iff hdepth] at h
  exact h.2.of_append

/-- Blanks around a text do not matter. -/
theorem Unsplit.trim (h : Unsplit p t) : Unsplit p (SqlSkim.trim t) := by
  obtain ⟨x, y, ht, hx, _⟩ := trim_split t
  exact h.of_stretch ht (depthAfterText_of_no_paren (no_paren_of_blank hx) 0)

/-! ## The parts of a text -/

/-- **The segments of a cut** are unsplit. -/
theorem unsplit_of_cutsInto {before : Option Char} {depth : Nat} {cut : Cut Char}
    (h : CutsInto (Rule.char p) before depth t cut) (hdepth : depth = 0) :
    ∀ s ∈ cut.segments, Unsplit p s := by
  induction h with
  | last hquiet =>
      subst hdepth
      exact List.forall_mem_singleton.mpr (quiet_char_iff.mp hquiet)
  | @token before depth u rest c label width after hquiet _ hparen hrule _ _ ih =>
      subst hdepth
      obtain ⟨_, _, _, rfl⟩ := char_eq_some hrule
      refine List.forall_mem_cons.mpr ⟨quiet_char_iff.mp hquiet, ih ?_⟩
      exact depthAfterText_of_no_paren (List.forall_mem_singleton.mpr hparen) 0

theorem unsplit_of_mem_segments {s : Text} (h : s ∈ ((Rule.char p).cut (.start t)).segments) : Unsplit p s :=
  unsplit_of_cutsInto (cutsInto_cutFrom (char_width_pos p) none 0 t) rfl s h

/-- An unsplit text is the only segment of its cut. -/
theorem Unsplit.segments_eq (h : Unsplit p t) : ((Rule.char p).cut (.start t)).segments = [t] := by
  have hcut : (Rule.char p).cut (.start t) = ⟨t, []⟩ := (CutsInto.last h).cutFrom_eq
  rw [hcut]
  rfl

theorem mem_splitTopLevel_iff {sep s : Text} :
    s ∈ splitTopLevel sep t ↔
      s ≠ [] ∧ ∃ segment ∈ ((Rule.char ([·] = sep)).cut (.start t)).segments, trim segment = s := by
  rw [splitTopLevel, List.mem_filter, List.mem_map, and_comm, decide_eq_true_eq]

/-- **A part of a text** is not empty, trimmed, and not split again. -/
structure IsPart (sep : Text) (s : Text) : Prop where
  ne_nil : s ≠ []
  trim_eq : trim s = s
  unsplit : Unsplit ([·] = sep) s

theorem isPart_of_mem_splitTopLevel {sep s : Text} (h : s ∈ splitTopLevel sep t) : IsPart sep s := by
  obtain ⟨hne, segment, hsegment, rfl⟩ := mem_splitTopLevel_iff.mp h
  exact ⟨hne, trim_trim segment, (unsplit_of_mem_segments hsegment).trim⟩

/-- **A part, split again**, is the one part of itself. -/
theorem IsPart.splitTopLevel_eq {sep s : Text} (h : IsPart sep s) : splitTopLevel sep s = [s] := by
  rw [splitTopLevel, h.unsplit.segments_eq, List.map_singleton, h.trim_eq, List.filter_singleton]
  simp [h.ne_nil]

/-! ## The words of a text -/

/-- Where the words of a text stand. -/
theorem dividesInto_words (t : Text) : DividesInto t ((Rule.char isBlank).cut (.start t)).segments :=
  dividesInto_cut (char_width_pos isBlank) skipsGroups_blank (.start t)

/-- The first character of a text without blanks at depth zero is none. -/
theorem isBlank_head_of_unsplit {c : Char} (h : Unsplit isBlank (c :: t)) : isBlank c = false := by
  cases hc : isParen c with
  | false => exact char_eq_none_iff.mp (h.1 rfl hc)
  | true =>
      cases hblank : isBlank c with
      | false => rfl
      | true =>
          rw [isParen_eq_false_of_word_or_blank (.inr hblank)] at hc
          exact absurd hc (by decide)

/-- **A word that leaves nothing open** starts and ends with a character that is no blank. -/
theorem isSolid_of_unsplit (hne : t ≠ []) (h : Unsplit isBlank t) (hdepth : depthAfterText 0 t = 0) :
    IsSolid t := by
  constructor
  · obtain ⟨c, rest, rfl⟩ := List.exists_cons_of_ne_nil hne
    simpa using isBlank_head_of_unsplit h
  · obtain ⟨front, c, rfl⟩ : ∃ front c, t = front ++ [c] :=
      ⟨t.dropLast, t.getLast hne, (List.dropLast_append_getLast hne).symm⟩
    rw [List.getLast?_concat]
    cases hblank : isBlank c with
    | false => simp [hblank]
    | true =>
        -- a blank at the end would be at depth zero
        have hparen := isParen_eq_false_of_word_or_blank (.inr hblank)
        rw [depthAfterText_append, depthAfterText_of_no_paren (List.forall_mem_singleton.mpr hparen)] at hdepth
        have hlast := isBlank_head_of_unsplit ((unsplit_append_iff hdepth).mp h).2
        rw [hblank] at hlast
        exact absurd hlast (by decide)

/-- A word is one of the segments between blanks. -/
theorem mem_segments_of_mem_words {w : Text} (h : w ∈ topLevelWords t) :
    w ≠ [] ∧ w ∈ ((Rule.char isBlank).cut (.start t)).segments := by
  obtain ⟨hmem, hne⟩ := List.mem_filter.mp h
  exact ⟨by simpa using hne, hmem⟩

/-- **The words before the last one** leave nothing open, and start and end with no blank. -/
theorem isSolid_of_mem_words {w : Text} (h : w ∈ (topLevelWords t).dropLast) :
    IsSolid w ∧ depthAfterText 0 w = 0 := by
  obtain ⟨hne, hmem⟩ := mem_segments_of_mem_words (List.mem_of_mem_dropLast h)
  have hdropLast := (sublist_dropLast List.filter_sublist).subset h
  have hdepth := (dividesInto_words t).depthAfterText_eq w hdropLast
  exact ⟨isSolid_of_unsplit hne (unsplit_of_mem_segments hmem) hdepth, hdepth⟩

theorem filter_flatten_of_cutsInto {before : Option Char} {depth : Nat} {cut : Cut Char}
    (h : CutsInto (Rule.char isBlank) before depth t cut) :
    cut.segments.flatten.filter (!isBlank ·) = t.filter (!isBlank ·) := by
  induction h with
  | @last _ _ u _ =>
      show ([u].flatten).filter _ = _
      rw [List.flatten_singleton]
  | @token before depth u rest c label width after _ _ _ hrule _ _ ih =>
      obtain ⟨_, hfront, hblank, rfl⟩ := char_eq_some hrule
      obtain ⟨rfl, rfl⟩ := List.cons.inj hfront
      have hnone : (c :: rest).filter (!isBlank ·) = rest.filter (!isBlank ·) :=
        List.filter_cons_of_neg (by simp [hblank])
      show ((u :: after.segments).flatten).filter _ = _
      rw [List.flatten_cons, List.filter_append, List.filter_append, ih, hnone]
      rfl

/-- **The words are the text**, but for its blanks. -/
theorem filter_flatten_words (t : Text) :
    (topLevelWords t).flatten.filter (!isBlank ·) = t.filter (!isBlank ·) := by
  have hcut : CutsInto (Rule.char isBlank) none 0 t ((Rule.char isBlank).cut (.start t)) :=
    cutsInto_cutFrom (char_width_pos isBlank) none 0 t
  rw [topLevelWords, List.flatten_filter_ne_nil, filter_flatten_of_cutsInto hcut]

/-- **What a word inherits from its text**: it is as little split, and balanced if the text is. -/
theorem words_of_part {w : Text} (h : w ∈ topLevelWords t) :
    (Unsplit q t → Unsplit q w) ∧ (IsBalanced t → IsBalanced w) := by
  obtain ⟨_, hmem⟩ := mem_segments_of_mem_words h
  obtain ⟨x, y, ht, hx⟩ := (dividesInto_words t).exists_append hmem
  constructor
  · exact fun hunsplit => hunsplit.of_stretch ht hx
  · exact fun hbalanced => (dividesInto_words t).isBalanced hbalanced w hmem

/-! ## Unsplit texts joined -/

/-- What stands before a text does not matter for single characters. -/
theorem cutFrom_char (p : Char → Bool) (before : Option Char) (depth : Nat) (t : Text) :
    (Rule.char p).cutFrom before depth 0 t = (Rule.char p).cutFrom none depth 0 t := by
  cases t with
  | nil => rfl
  | cons c t => rfl

/-- **Behind an unsplit text that leaves nothing open**, a character of the class starts the next segment. -/
theorem Unsplit.segments_append_cons (hu : Unsplit p u) (hdepth : depthAfterText 0 u = 0) (hc : p c = true)
    (hparen : isParen c = false) (v : Text) :
    ((Rule.char p).cut (.start (u ++ c :: v))).segments = u :: ((Rule.char p).cut (.start v)).segments := by
  have hquiet : Quiet (Rule.char p) none 0 u (c :: v) := quiet_char_iff.mpr hu
  have htoken : Rule.char p ⟨lastOr none u, c :: v⟩ = some (c, 1) := if_pos hc
  have hbehind : depthAfterText 0 [c] = 0 :=
    depthAfterText_of_no_paren (List.forall_mem_singleton.mpr hparen) 0
  show ((Rule.char p).cutFrom none 0 0 (u ++ c :: v)).segments = _
  rw [cutFrom_quiet hquiet, hdepth, cutFrom_token hparen Nat.one_pos htoken, List.append_nil,
    List.take_succ_cons, List.take_zero, hbehind, cutFrom_char]
  rfl

/-- **Unsplit texts joined by a character of the class** are the segments again, if none but the last one is left
    open. -/
theorem segments_joinWith_of_closed {sep : String} (hsep : sep.toList = [c]) (hc : p c = true)
    (hparen : isParen c = false) {us : List Text} (hne : us ≠ []) (hunsplit : ∀ u ∈ us, Unsplit p u)
    (hclosed : ∀ u ∈ us.dropLast, depthAfterText 0 u = 0) :
    ((Rule.char p).cut (.start (joinWith sep us))).segments = us := by
  induction us with
  | nil => exact absurd rfl hne
  | cons u more ih =>
      obtain ⟨hu, hmore⟩ := List.forall_mem_cons.mp hunsplit
      cases more with
      | nil =>
          rw [joinWith_singleton]
          exact hu.segments_eq
      | cons v more =>
          rw [List.dropLast_cons_cons, List.forall_mem_cons] at hclosed
          obtain ⟨hend, hclosed⟩ := hclosed
          rw [joinWith_cons_cons, hsep, List.singleton_append, hu.segments_append_cons hend hc hparen,
            ih (List.cons_ne_nil v more) hmore hclosed]

/-- **Words with single blanks between them** are found again, if none but the last one is left open. -/
theorem topLevelWords_joinWith_of_closed {ws : List Text} (hword : ∀ w ∈ ws, w ≠ [] ∧ Unsplit isBlank w)
    (hclosed : ∀ w ∈ ws.dropLast, depthAfterText 0 w = 0) : topLevelWords (joinWith " " ws) = ws := by
  by_cases hnone : ws = []
  · rw [hnone]
    rfl
  · have hsegments : ((Rule.char isBlank).cut (.start (joinWith " " ws))).segments = ws :=
      segments_joinWith_of_closed rfl rfl rfl hnone (fun w hw => (hword w hw).2) hclosed
    rw [topLevelWords, hsegments, List.filter_eq_self]
    intro w hw
    simpa using (hword w hw).1

/-- **Parts joined by their separator** are the parts again, if none but the last one is left open. -/
theorem splitTopLevel_joinWith_of_closed {sep : Char} (hparen : isParen sep = false) {ps : List Text}
    (hpart : ∀ s ∈ ps, IsPart [sep] s) (hclosed : ∀ s ∈ ps.dropLast, depthAfterText 0 s = 0) :
    splitTopLevel [sep] (joinWith (String.singleton sep) ps) = ps := by
  by_cases hnone : ps = []
  · rw [hnone]
    rfl
  · have hsegments : ((Rule.char ([·] = [sep])).cut (.start (joinWith (String.singleton sep) ps))).segments = ps :=
      segments_joinWith_of_closed (String.toList_singleton sep) (decide_eq_true rfl) hparen hnone
        (fun s hs => (hpart s hs).unsplit) hclosed
    have htrim : ps.map trim = ps :=
      (List.map_congr_left fun s hs => (hpart s hs).trim_eq).trans (List.map_id' ps)
    rw [splitTopLevel, hsegments, htrim, List.filter_eq_self]
    intro s hs
    simpa using (hpart s hs).ne_nil

/-! ## What joined words inherit -/

/-- Words that leave nothing open are joined at depth zero. -/
theorem unsplit_joinWith {ws : List Text} (hspace : p ' ' = false) (h : ∀ w ∈ ws, Unsplit p w)
    (hdepth : ∀ w ∈ ws, depthAfterText 0 w = 0) : Unsplit p (joinWith " " ws) := by
  induction ws with
  | nil => trivial
  | cons w more ih =>
      obtain ⟨hw, hmore⟩ := List.forall_mem_cons.mp h
      obtain ⟨hwdepth, hmoredepth⟩ := List.forall_mem_cons.mp hdepth
      cases more with
      | nil =>
          rw [joinWith_singleton]
          exact hw
      | cons v more =>
          rw [joinWith_cons_cons, unsplit_append_iff hwdepth, unsplit_append_iff rfl]
          exact ⟨hw, quiet_char_of_all (List.forall_mem_singleton.mpr hspace) none 0 [], ih hmore hmoredepth⟩

theorem isBalanced_joinWith {ws : List Text} (h : ∀ w ∈ ws, IsBalanced w) : IsBalanced (joinWith " " ws) := by
  induction ws with
  | nil => exact isBalanced_of_no_paren (by simp [joinWith])
  | cons w more ih =>
      obtain ⟨hw, hmore⟩ := List.forall_mem_cons.mp h
      cases more with
      | nil =>
          rw [joinWith_singleton]
          exact hw
      | cons v more =>
          have hspace : IsBalanced " ".toList := isBalanced_of_no_paren (no_paren_of_all (by decide))
          rw [joinWith_cons_cons]
          exact hw.append (hspace.append (ih hmore))

end SqlSkim
