import SqlSkim.Proofs.Checked.Paren
import SqlSkim.Proofs.Checked.Phrase
import SqlSkim.Proofs.Scan.Quiet
import SqlSkim.Proofs.Statement.Segment
import SqlSkim.Statement.Table

/-!
# `Checked.Cut` — tokens and segments by their offsets

A search for tokens visits the offsets at depth zero one by one, leaves out those that the last token
reaches over, and notes where each token starts and stops. The stop is all that is known of a token later:
it is where the next segment, the next search or a name starts, whether it lies within the text or not.

## Contents
- `Checked.hits`, `hits_eq`: the tokens among the offsets at depth zero are the tokens of the cut.
- `segmentsOf`, `segmentsOf_hits`: the segments between tokens, as slices.
- `Rule.Fits`, `fits_ruleOf`: tokens that stop within the text.
- `Checked.keywordHits`, `Checked.findKeyword`, `Checked.upToKeyword`: searches for keywords;
  `findKeyword_cases`: the first one.
- `Checked.splitTopLevel`, `Checked.separators`, `Checked.statements`: dividing texts.
-/

namespace SqlSkim

variable {α : Type} {rule : Rule α}

/-! ## Places by their offset -/

theorem Place.at_zero (t : Text) : Place.at t 0 = .start t := rfl

/-- Going on from an offset leads to a later offset. -/
theorem Place.advance_at (t : Text) (pos n : Nat) : (Place.at t pos).advance n = .at t (pos + n) := by
  have hbefore : (t.take (pos + n)).getLast? = ((t.drop pos).take n).getLast?.or (t.take pos).getLast? := by
    rw [List.take_add, List.getLast?_append]
  rw [Place.at, Place.at, Place.advance, hbefore, List.drop_drop]

/-- The place behind one more character. -/
theorem getLast?_take_succ {t rest : Text} {pos : Nat} {c : Char} (h : t.drop pos = c :: rest) :
    (t.take (pos + 1)).getLast? = some c := by
  rw [List.take_add, h, List.getLast?_append]
  rfl

/-! ## Tokens by their offsets -/

namespace Checked

/-- The tokens among the given offsets, from `resume` on. Looking at an offset gives the label and the stop
    of the token that starts there. -/
def hits (look : Nat → Except OffsetError (Option (α × Nat))) (resume : Nat) :
    List Nat → Except OffsetError (List (Hit α))
  | [] => return []
  | i :: more =>
    if i < resume then hits look resume more
    else do
      match ← look i with
      | some (label, stop) => return ⟨i, stop, label⟩ :: (← hits look stop more)
      | none => hits look resume more

end Checked

/-- A character that starts no token comes before the first token of what follows it. -/
theorem hits_cons_head (start : Nat) (c : Char) (cut : Cut α) :
    (⟨c :: cut.head, cut.pieces⟩ : Cut α).hits start = cut.hits (start + 1) := by
  simp only [Cut.hits, List.length_cons]
  congr 1
  omega

/-- **One character of a cut** starts no token and belongs to the first segment, or starts one. What is cut
    behind it is the same text, some of which may belong to the token. -/
theorem cutFrom_cons_cases (hrule : rule.Moves) (before : Option Char) (depth : Nat) (c : Char)
    (rest : Text) (pos : Nat) :
    (∃ after, after = rule.cutFrom (some c) (depthAfter depth c) 0 rest ∧
        rule.cutFrom before depth 0 (c :: rest) = ⟨c :: after.head, after.pieces⟩ ∧
        (rule.cutFrom before depth 0 (c :: rest)).hits pos = after.hits (pos + 1)) ∨
      ∃ label width after, rule ⟨before, c :: rest⟩ = some (label, width + 1) ∧
        after = rule.cutFrom (some c) (depthAfter depth c) width rest ∧
        rule.cutFrom before depth 0 (c :: rest) = ⟨[], ⟨label, width + 1, after.head⟩ :: after.pieces⟩ ∧
        (rule.cutFrom before depth 0 (c :: rest)).hits pos =
          ⟨pos, pos + (width + 1), label⟩ :: after.hits (pos + 1 + width) := by
  rw [Rule.cutFrom]
  generalize hfire : (if depth = 0 ∧ !isParen c then rule ⟨before, c :: rest⟩ else none) = fired
  cases fired with
  | none => exact .inl ⟨_, rfl, rfl, hits_cons_head pos c _⟩
  | some found =>
      obtain ⟨label, width⟩ := found
      have htoken : rule ⟨before, c :: rest⟩ = some (label, width) := by
        split at hfire
        · exact hfire
        · exact absurd hfire (by simp)
      obtain ⟨width, rfl⟩ : ∃ n, width = n + 1 :=
        Nat.exists_eq_add_one_of_ne_zero (Nat.ne_of_gt (hrule _ _ _ htoken))
      refine .inr ⟨label, width, _, htoken, rfl, rfl, ?_⟩
      rw [Nat.add_right_comm pos 1 width]
      rfl

section Hits

variable {t : Text} {look : Nat → Except OffsetError (Option (α × Nat))}

/-- From any offset on, with the first `skip` characters still part of the last token. -/
theorem hits_topLevelFrom (hrule : rule.Moves)
    (hlook : ∀ i < t.length, look i = .ok ((rule (.at t i)).map fun found => (found.1, i + found.2)))
    {resume pos skip : Nat} (hskip : resume - pos = skip) (depth : Nat) {rest : Text}
    (hrest : t.drop pos = rest) :
    Checked.hits look resume (topLevelFrom pos depth rest) =
      .ok ((rule.cutFrom (t.take pos).getLast? depth skip rest).hits (pos + skip)) := by
  induction rest generalizing resume pos depth skip with
  | nil => rfl
  | cons c rest ih =>
      obtain ⟨hlt, _, hnext⟩ := itemAt_of_drop hrest
      have hplace : Place.at t pos = ⟨(t.take pos).getLast?, c :: rest⟩ := by rw [Place.at, hrest]
      have ih : ∀ resume skip : Nat, resume - (pos + 1) = skip →
          Checked.hits look resume (topLevelFrom (pos + 1) (depthAfter depth c) rest) =
            .ok ((rule.cutFrom (some c) (depthAfter depth c) skip rest).hits (pos + 1 + skip)) := by
        intro resume skip hskip
        rw [ih hskip (depthAfter depth c) hnext, getLast?_take_succ hrest]
      rw [topLevelFrom]
      cases skip with
      | succ skip =>
          -- the character belongs to the last token, at whatever depth it lies
          have hlater := ih resume skip (by omega)
          have hskipped : Checked.hits look resume
              (pos :: topLevelFrom (pos + 1) (depthAfter depth c) rest) =
                Checked.hits look resume (topLevelFrom (pos + 1) (depthAfter depth c) rest) := by
            rw [Checked.hits, if_pos (by omega)]
          rw [Rule.cutFrom, show pos + (skip + 1) = pos + 1 + skip by omega, ← hlater]
          split
          · exact hskipped
          · rfl
      | zero =>
          have hlater := ih resume 0 (by omega)
          rw [Nat.add_zero, Rule.cutFrom]
          by_cases htop : depth = 0 ∧ !isParen c
          · rw [if_pos htop, if_pos htop, Checked.hits, if_neg (by omega), hlook pos hlt, ok_bind, hplace]
            cases hfire : rule ⟨(t.take pos).getLast?, c :: rest⟩ with
            | none =>
                dsimp only [Option.map_none]
                rw [hlater, hits_cons_head]
            | some found =>
                obtain ⟨label, width⟩ := found
                -- going on at the stop of the token is leaving out what is left of it
                have hpos := hrule _ _ _ hfire
                have hlater := ih (pos + width) (width - 1) (by omega)
                rw [show pos + 1 + (width - 1) = pos + width by omega] at hlater
                dsimp only [Option.map_some]
                rw [hlater]
                rfl
          · rw [if_neg htop, if_neg htop, hlater]
            dsimp only
            rw [hits_cons_head]

/-- **The tokens at depth zero** are found without an error if looking within the text is none. -/
theorem hits_eq (hrule : rule.Moves)
    (hlook : ∀ i < t.length, look i = .ok ((rule (.at t i)).map fun found => (found.1, i + found.2)))
    (start : Nat) :
    Checked.hits look start (topLevel t start) = .ok ((rule.cut (.at t start)).hits start) :=
  hits_topLevelFrom hrule hlook (Nat.sub_self start) 0 rfl

end Hits

/-! ## Segments by offsets -/

/-- The segments of a text before, between and behind tokens, the first one starting at `last`. -/
def segmentsOf (t : Text) (last : Nat) : List (Hit α) → List Text
  | [] => [t.drop last]
  | hit :: more => slice t last hit.start :: segmentsOf t hit.stop more

section Segments

variable {t rest : Text} {pos : Nat}

/-- A character that starts no token is in the first segment. -/
theorem segmentsOf_cons_head {c : Char} {cut : Cut α} (h : t.drop pos = c :: rest)
    (hcut : segmentsOf t (pos + 1) (cut.hits (pos + 1)) = cut.segments) :
    segmentsOf t pos (cut.hits (pos + 1)) = (⟨c :: cut.head, cut.pieces⟩ : Cut α).segments := by
  obtain ⟨head, pieces⟩ := cut
  have hnext := (itemAt_of_drop h).2.2
  cases pieces with
  | nil =>
      have hhead : [t.drop (pos + 1)] = [head] := hcut
      rw [hnext] at hhead
      obtain rfl := (List.cons.inj hhead).1
      show [t.drop pos] = [c :: rest]
      rw [h]
  | cons piece pieces =>
      obtain ⟨hhead, hmore⟩ := List.cons.inj hcut
      have hslice : slice t pos (pos + 1 + head.length : Nat) = c :: head := by
        have hhead : slice t (pos + 1 : Nat) (pos + 1 + head.length : Nat) = head := hhead
        rw [slice_natCast, hnext, Nat.add_sub_cancel_left] at hhead
        rw [slice_natCast, h, show pos + 1 + head.length - pos = head.length + 1 by omega,
          List.take_succ_cons, hhead]
      exact List.cons.injEq .. ▸ ⟨hslice, hmore⟩

/-- From any offset on, with the first `skip` characters still part of the last token. -/
theorem segmentsOf_cutFrom (hrule : rule.Moves) (before : Option Char) (depth skip : Nat)
    (hrest : t.drop pos = rest) :
    segmentsOf t (pos + skip) ((rule.cutFrom before depth skip rest).hits (pos + skip)) =
      (rule.cutFrom before depth skip rest).segments := by
  induction rest generalizing pos before depth skip with
  | nil =>
      show [t.drop (pos + skip)] = [[]]
      rw [← List.drop_drop, hrest, List.drop_nil]
  | cons c rest ih =>
      have ih := fun skip => ih (some c) (depthAfter depth c) skip (itemAt_of_drop hrest).2.2
      cases skip with
      | succ skip =>
          rw [Rule.cutFrom, show pos + (skip + 1) = pos + 1 + skip by omega]
          exact ih skip
      | zero =>
          rcases cutFrom_cons_cases hrule before depth c rest pos with
            ⟨after, rfl, hcut, hhits⟩ | ⟨label, width, after, _, rfl, hcut, hhits⟩
          · rw [Nat.add_zero, hhits, hcut]
            exact segmentsOf_cons_head hrest (ih 0)
          · have hempty : slice t pos pos = [] := by
              rw [slice_natCast, Nat.sub_self, List.take_zero]
            rw [Nat.add_zero, hhits, hcut, segmentsOf, hempty, Nat.add_comm width 1, ← Nat.add_assoc]
            exact congrArg ([] :: ·) (ih width)

/-- **The segments between the tokens of a cut** are the slices between their offsets. -/
theorem segmentsOf_hits (hrule : rule.Moves) (t : Text) (start : Nat) :
    segmentsOf t start ((rule.cut (.at t start)).hits start) = (rule.cut (.at t start)).segments :=
  segmentsOf_cutFrom hrule _ 0 0 rfl

end Segments

/-! ## Tokens that stop within the text -/

/-- A rule whose tokens stop within the text. -/
def Rule.Fits (rule : Rule α) : Prop :=
  ∀ p label width, rule p = some (label, width) → width ≤ p.rest.length

/-- Keywords that no character can be longer than in upper case stop within the text. -/
theorem fits_ruleOf {keywords : List Text}
    (h : ∀ k ∈ keywords, ∀ w ∈ (Phrase.ofText k).words, IsKeyword w) : (Phrase.ruleOf keywords).Fits := by
  intro place p width hrule
  obtain ⟨hmem, hwidth⟩ := width?_of_longest? hrule
  obtain ⟨k, hk, rfl⟩ := List.mem_map.mp hmem
  obtain ⟨hne, _, hwidth⟩ := width?_eq_some_iff.mp hwidth
  exact (wordsWidth?_covers (h k hk) hne hwidth).2.1

/-! ## Searches -/

namespace Checked

variable {keywords : List Text} {t : Text} {start : Nat}

/-- The tokens of keywords from an offset on. -/
def keywordHits (keywords : List Text) (t : Text) (start : Nat) : Except OffsetError (List (Hit Phrase)) := do
  hits (keywordAt keywords t) start (← topLevel t start)

theorem keywordHits_eq (keywords : List Text) (t : Text) (start : Nat) :
    keywordHits keywords t start = .ok (((Phrase.ruleOf keywords).cut (.at t start)).hits start) := by
  rw [keywordHits, topLevel_eq, ok_bind]
  exact hits_eq (ruleOf_width_pos keywords)
    (fun i hi => keywordAt_of_le (Nat.le_of_lt hi) keywords) start

/-- The first token of keywords from an offset on. -/
def findKeyword (keywords : List Text) (t : Text) (start : Nat) :
    Except OffsetError (Option (Hit Phrase)) :=
  return (← keywordHits keywords t start).head?

/-- A token found by its offsets, and the same token found at a place: what stands before it and the place
    behind it agree. -/
structure FoundAt (t : Text) (found : Found Phrase) (hit : Hit Phrase) : Prop where
  start_eq : hit.start = found.lead.length
  lead_eq : slice t (0 : Nat) hit.start = found.lead
  after_eq : found.after = .at t hit.stop

/-- **The first token** is found both ways or in neither. -/
theorem findKeyword_cases (keywords : List Text) (t : Text) :
    ((Phrase.ruleOf keywords).find? (.start t) = none ∧ findKeyword keywords t 0 = .ok none) ∨
      ∃ found, ∃ hit ∈ ((Phrase.ruleOf keywords).cut (.start t)).hits 0,
        (Phrase.ruleOf keywords).find? (.start t) = some found ∧
          findKeyword keywords t 0 = .ok (some hit) ∧ FoundAt t found hit := by
  have hsegments := segmentsOf_hits (ruleOf_width_pos keywords) t 0
  rw [findKeyword, keywordHits_eq]
  rw [Place.at_zero] at hsegments ⊢
  unfold Rule.find?
  split
  · next hcut => exact .inl ⟨rfl, by rw [hcut]; rfl⟩
  · next head piece pieces hcut =>
      rw [hcut] at hsegments ⊢
      refine .inr ⟨_, _, List.mem_cons_self, rfl, rfl, Nat.zero_add _, (List.cons.inj hsegments).1, ?_⟩
      rw [← Place.at_zero, Place.advance_at, ← Nat.add_assoc]

/-- The same for a single keyword. -/
theorem findKeyword_single_cases (keyword : String) (t : Text) :
    ((keywordRule keyword).find? (.start t) = none ∧ findKeyword [keyword.toList] t 0 = .ok none) ∨
      ∃ found, ∃ hit ∈ ((keywordRule keyword).cut (.start t)).hits 0,
        (keywordRule keyword).find? (.start t) = some found ∧
          findKeyword [keyword.toList] t 0 = .ok (some hit) ∧ FoundAt t found hit :=
  findKeyword_cases [keyword.toList] t

/-- The text from an offset up to the first token of keywords, or to the end if there is none. -/
def upToKeyword (keywords : List Text) (t : Text) (start : Nat) : Except OffsetError Text := do
  match ← findKeyword keywords t start with
  | none => return t.drop start
  | some hit => return slice t start hit.start

theorem upToKeyword_eq (keywords : List Text) (t : Text) (start : Nat) :
    upToKeyword keywords t start = .ok ((Phrase.ruleOf keywords).upTo (.at t start)) := by
  have hsegments := segmentsOf_hits (ruleOf_width_pos keywords) t start
  rw [upToKeyword, findKeyword, keywordHits_eq, Rule.upTo]
  generalize (Phrase.ruleOf keywords).cut (.at t start) = cut at hsegments
  cases hhits : cut.hits start with
  | nil =>
      rw [hhits] at hsegments
      exact congrArg Except.ok (List.cons.inj hsegments).1
  | cons hit more =>
      rw [hhits] at hsegments
      exact congrArg Except.ok (List.cons.inj hsegments).1

/-- The trimmed parts of a text, without the empty ones. -/
def trimmedParts (parts : List Text) : List Text := (parts.map trim).filter (· ≠ [])

/-- The parts of a text between its top-level separators. -/
def splitTopLevel (sep t : Text) : Except OffsetError (List Text) := do
  let found ← hits (fun i => do
    let c ← itemAt t i
    return if [c] = sep then some (c, i + 1) else none) 0 (← topLevel t 0)
  return trimmedParts (segmentsOf t 0 found)

theorem splitTopLevel_eq (sep t : Text) : splitTopLevel sep t = .ok (SqlSkim.splitTopLevel sep t) := by
  have hrule : (Rule.char ([·] = sep)).Moves := char_width_pos _
  rw [splitTopLevel, topLevel_eq, ok_bind, hits_eq hrule ?_ 0, ok_bind, segmentsOf_hits hrule]
  · rfl
  · intro i hi
    rw [itemAt, List.getElem?_eq_getElem hi, ok_bind, Place.at, List.drop_eq_getElem_cons hi, Rule.char]
    dsimp only
    by_cases hsep : [t[i]] = sep
    · simp [hsep, pure_eq_ok]
    · simp [hsep, pure_eq_ok]

/-- What separates two statements at an offset: a semicolon or a union. -/
def separatorAt (t : Text) (i : Nat) : Except OffsetError (Option (Text × Nat)) := do
  if (← itemAt t i) = ';' then return some ([';'], i + 1)
  else return (← firstPhraseAt t i unionPhrases).map fun found => (found.1.toText, found.2)

theorem separatorAt_of_lt {i : Nat} (h : i < t.length) :
    separatorAt t i = .ok ((separatorRule (.at t i)).map fun found => (found.1, i + found.2)) := by
  have hrest : (Place.at t i).rest = t[i] :: t.drop (i + 1) := List.drop_eq_getElem_cons h
  have hlongest : ∀ place, Phrase.longest? place unionPhrases =
      unionPhrases.findSome? fun p => (p.width? place).map (p, ·) :=
    fun place => longest?_of_pairwise (by decide)
  rw [separatorAt, itemAt, List.getElem?_eq_getElem h, ok_bind]
  by_cases hsemi : t[i] = ';'
  · rw [if_pos hsemi, separatorRule, hrest, hsemi]
    rfl
  · have hne : (t.drop i).head? ≠ some ';' := by
      rw [List.drop_eq_getElem_cons h]
      exact fun heq => hsemi (Option.some.inj heq)
    rw [if_neg hsemi, firstPhraseAt_of_le (Nat.le_of_lt h), Place.at, separatorRule_of_ne hne, hlongest,
      Option.map_map]
    refine congrArg Except.ok ?_
    rw [List.map_findSome?, List.map_findSome?]
    refine congrArg (List.findSome? · unionPhrases) (funext fun p => ?_)
    simp only [Function.comp_apply, Option.map_map]
    rfl

/-- A cleaned query cut at its separators. -/
def separators (t : Text) : Except OffsetError (List (Hit Text)) := do
  hits (separatorAt t) 0 (← topLevel t 0)

theorem separators_eq (t : Text) : separators t = .ok ((SqlSkim.separators t).hits 0) := by
  rw [separators, topLevel_eq, ok_bind]
  exact hits_eq separatorRule_width_pos (fun i hi => separatorAt_of_lt hi) 0

/-- The statements of a cleaned query. -/
def statements (t : Text) : Except OffsetError (List Text) :=
  return trimmedParts (segmentsOf t 0 (← separators t))

theorem statements_eq (t : Text) : statements t = .ok (SqlSkim.statements t) := by
  have hsegments := segmentsOf_hits separatorRule_width_pos t 0
  rw [statements, separators_eq, ok_bind]
  rw [Place.at_zero] at hsegments
  rw [SqlSkim.separators, hsegments]
  rfl

/-- The number of blank segments before a separator. -/
def emptySegments (t : Text) : Except OffsetError Nat :=
  return (segmentsOf t 0 (← separators t)).dropLast.countP (trim · = [])

theorem emptySegments_eq (t : Text) : emptySegments t = .ok (SqlSkim.emptySegments t) := by
  have hsegments := segmentsOf_hits separatorRule_width_pos t 0
  rw [emptySegments, separators_eq, ok_bind]
  rw [Place.at_zero] at hsegments
  rw [SqlSkim.separators, hsegments]
  rfl

end Checked

end SqlSkim
