import SqlSkim.Proofs.Spelling.Text
import SqlSkim.Proofs.Scan.Behind
import SqlSkim.Proofs.Statement.Segment
import SqlSkim.Scan.Identifier

/-!
# `Spelling.Scan` — scans of alike texts

Every scan is a cut by a rule, and a cut looks at its text through the rule and the parentheses only. So it
is enough that a rule finds tokens of the same width at alike places: then two alike texts are cut at the
same offsets, into alike segments.

## Contents
- `wordsWidth?_alike`: keywords in alike texts.
- `Place.Alike`, `Rule.IgnoresSpelling`: alike places, and the rules that do not tell them apart.
- `ignoresSpelling_ruleOf`, `ignoresSpelling_separatorRule`, `ignoresSpelling_char`: the rules of the scans.
- `Cut.Alike`, `cut_alike`, with `find?_cases`, `upTo_alike`, `splitTopLevel_alike` and
  `topLevelWords_alike`: the views of a cut.
- `readIdentifier_alike`, `closingFrom_alike`: the steps between the cuts.
-/

namespace SqlSkim

open Phrase

variable {t t' : Text}

/-! ## Keywords -/

theorem continuesWord_alike (h : Alike t t') : continuesWord t = continuesWord t' := by
  cases h with
  | nil => rfl
  | cons hcd _ => exact hcd.isWordChar_eq

/-- **Unbroken keywords stand alike in alike texts.** -/
theorem wordsWidth?_alike {ws : List Text} (hws : Unbroken ws) (h : Alike t t') :
    wordsWidth? ws t = wordsWidth? ws t' := by
  induction ws generalizing t t' with
  | nil => rfl
  | cons w more ih =>
      have hword : Alike (t.take w.length) (t'.take w.length) := List.forall₂_take w.length h
      have hup := hword.upper_eq_iff (hws w (by simp))
      have hafter : Alike (t.drop w.length) (t'.drop w.length) := List.forall₂_drop w.length h
      have hgap := hafter.length_blanks
      have hmore := ih (fun v hv => hws v (List.mem_cons_of_mem w hv))
        (List.forall₂_drop ((t.drop w.length).takeWhile isBlank).length hafter)
      rw [wordsWidth?_cons, wordsWidth?_cons, continuesWord_alike hafter, hmore, hgap]
      simp only [ne_eq, hup]

/-- The words of a text are cut at its blanks, and upper case brings none about. -/
theorem unbroken_ofText (k : Text) : Unbroken (ofText k).words := by
  intro w hw
  obtain ⟨v, hv, rfl⟩ := List.mem_map.mp hw
  exact no_blank_upper fun c hc => ((mem_words hv).2 c hc).1

theorem unbroken_of_mem_map {ks : List Text} {q : Phrase} (hq : q ∈ ks.map ofText) : Unbroken q.words := by
  obtain ⟨k, _, rfl⟩ := List.mem_map.mp hq
  exact unbroken_ofText k

/-! ## Places and rules -/

/-- **Alike places** in alike texts. -/
structure Place.Alike (p p' : Place) : Prop where
  before : Option.Rel AlikeChar p.before p'.before
  rest : SqlSkim.Alike p.rest p'.rest

theorem Place.Alike.start (h : SqlSkim.Alike t t') : (Place.start t).Alike (Place.start t') :=
  ⟨.none, h⟩

theorem getLast?_alike (h : Alike t t') : Option.Rel AlikeChar t.getLast? t'.getLast? := by
  rw [← List.head?_reverse, ← List.head?_reverse]
  have hback : Alike t.reverse t'.reverse := List.rel_reverse h
  generalize t.reverse = u at hback
  generalize t'.reverse = u' at hback
  cases hback with
  | nil => exact .none
  | cons hcd _ => exact .some hcd

theorem Place.Alike.advance {p p' : Place} (h : p.Alike p') (n : Nat) :
    (p.advance n).Alike (p'.advance n) := by
  refine ⟨?_, List.forall₂_drop n h.rest⟩
  have hlast := getLast?_alike (List.forall₂_take n h.rest)
  unfold Place.advance
  dsimp only
  generalize (p.rest.take n).getLast? = last at hlast
  generalize (p'.rest.take n).getLast? = last' at hlast
  cases hlast with
  | none => exact h.before
  | some hcd => exact .some hcd

/-- A phrase stands alike at alike places. -/
theorem Place.Alike.width?_eq {p p' : Place} (h : p.Alike p') {q : Phrase}
    (hq : Unbroken q.words) : q.width? p = q.width? p' := by
  obtain ⟨before, t⟩ := p
  obtain ⟨before', t'⟩ := p'
  have hbefore : before.any isWordChar = before'.any isWordChar := by
    cases h.before with
    | none => rfl
    | some hcd => exact hcd.isWordChar_eq
  unfold width?
  rw [hbefore, wordsWidth?_alike hq h.rest]

/-- **A rule that ignores spelling** finds tokens of the same width at alike places. -/
def Rule.IgnoresSpelling {α : Type} (rule : Rule α) : Prop :=
  ∀ p p', p.Alike p' → (rule p).map (·.2) = (rule p').map (·.2)

/-- Keywords ignore spelling, whatever they are. -/
theorem ignoresSpelling_ruleOf (keywords : List Text) : (ruleOf keywords).IgnoresSpelling := by
  intro p p' h
  have hsame : ruleOf keywords p = ruleOf keywords p' :=
    longest?_congr fun q hq => h.width?_eq (unbroken_of_mem_map hq)
  rw [hsame]

/-- Separators ignore spelling. -/
theorem ignoresSpelling_separatorRule : separatorRule.IgnoresSpelling := by
  rintro ⟨before, t⟩ ⟨before', t'⟩ h
  have hsemi : t.head? = some ';' ↔ t'.head? = some ';' := by
    cases h.rest with
    | nil => exact Iff.rfl
    | cons hcd _ =>
        rw [List.head?_cons, List.head?_cons, Option.some.injEq, Option.some.injEq]
        exact hcd.eq_iff (by decide) (by decide)
  by_cases ht : t.head? = some ';'
  · obtain ⟨rest, rfl⟩ := List.head?_eq_some_iff.mp ht
    obtain ⟨rest', rfl⟩ := List.head?_eq_some_iff.mp (hsemi.mp ht)
    rfl
  · rw [separatorRule_of_ne ht, separatorRule_of_ne (mt hsemi.mpr ht)]
    have hsame : longest? ⟨before, t⟩ unionPhrases = longest? ⟨before', t'⟩ unionPhrases := by
      refine longest?_congr fun q hq => h.width?_eq fun w hw => ?_
      have hcapital := ((isKeyword_of_mem_unionPhrases hq).1 w hw).capital
      intro c hc
      have hletter : c.isAlpha = true := Bool.or_eq_true_iff.mpr (.inl (hcapital c hc))
      exact isBlank_of_isWordChar (isWordChar_of_isAlpha hletter)
    rw [hsame]

/-- Classes of characters ignore spelling if they do not tell alike characters apart. -/
theorem ignoresSpelling_char {p : Char → Bool} (hp : ∀ c d, AlikeChar c d → p c = p d) :
    (Rule.char p).IgnoresSpelling := by
  rintro ⟨before, t⟩ ⟨before', t'⟩ h
  cases h.rest with
  | nil => rfl
  | @cons c d t t' hcd _ =>
      simp only [Rule.char, hp c d hcd]
      split <;> rfl

/-! ## Cuts -/

variable {α : Type} {rule : Rule α}

/-- **Alike cuts** have tokens of the same widths, and alike segments. -/
structure Cut.Alike (c c' : Cut α) : Prop where
  head : SqlSkim.Alike c.head c'.head
  pieces : List.Forall₂ (fun p p' : Piece α => p.width = p'.width ∧ SqlSkim.Alike p.segment p'.segment)
    c.pieces c'.pieces

theorem depthAfter_alike {c d : Char} (h : AlikeChar c d) (depth : Nat) :
    depthAfter depth c = depthAfter depth d := by
  have hopen := h.eq_iff (x := '(') (by decide) (by decide)
  have hclose := h.eq_iff (x := ')') (by decide) (by decide)
  simp only [depthAfter, hopen, hclose]

theorem isParen_alike {c d : Char} (h : AlikeChar c d) : isParen c = isParen d := by
  have hopen := h.eq_iff (x := '(') (by decide) (by decide)
  have hclose := h.eq_iff (x := ')') (by decide) (by decide)
  simp only [isParen, hopen, hclose]

/-- One step: with the same token or none at alike places, and alike cuts behind them, the cuts are alike. -/
theorem cutFrom_alike (hrule : rule.IgnoresSpelling) (h : Alike t t') {before before' : Option Char}
    (hbefore : Option.Rel AlikeChar before before') (depth skip : Nat) :
    (rule.cutFrom before depth skip t).Alike (rule.cutFrom before' depth skip t') := by
  induction h generalizing before before' depth skip with
  | nil => exact ⟨.nil, .nil⟩
  | @cons c d t t' hcd h ih =>
      have hnext : ∀ skip, (rule.cutFrom (some c) (depthAfter depth c) skip t).Alike
          (rule.cutFrom (some d) (depthAfter depth d) skip t') := by
        intro skip
        rw [← depthAfter_alike hcd]
        exact ih (.some hcd) _ skip
      cases skip with
      | succ skip => exact hnext skip
      | zero =>
          have hplace : Place.Alike ⟨before, c :: t⟩ ⟨before', d :: t'⟩ := ⟨hbefore, .cons hcd h⟩
          have hwidth := hrule _ _ hplace
          rw [Rule.cutFrom, Rule.cutFrom, ← isParen_alike hcd]
          by_cases htop : depth = 0 ∧ !isParen c
          · rw [if_pos htop, if_pos htop]
            cases hc : rule ⟨before, c :: t⟩ with
            | none =>
                rw [hc, Option.map_none, eq_comm, Option.map_eq_none_iff] at hwidth
                rw [hwidth]
                exact ⟨.cons hcd (hnext 0).head, (hnext 0).pieces⟩
            | some found =>
                rw [hc, Option.map_some, eq_comm, Option.map_eq_some_iff] at hwidth
                obtain ⟨found', hd, hsame⟩ := hwidth
                obtain ⟨label, width⟩ := found
                obtain ⟨label', width'⟩ := found'
                obtain rfl : width' = width := hsame
                rw [hd]
                exact ⟨.nil, .cons ⟨rfl, (hnext (width' - 1)).head⟩ (hnext (width' - 1)).pieces⟩
          · rw [if_neg htop, if_neg htop]
            exact ⟨.cons hcd (hnext 0).head, (hnext 0).pieces⟩

/-- **Alike texts are cut alike**, by a rule that ignores spelling. -/
theorem cut_alike (hrule : rule.IgnoresSpelling) {p p' : Place} (h : p.Alike p') :
    (rule.cut p).Alike (rule.cut p') := cutFrom_alike hrule h.rest h.before 0 0

theorem Cut.Alike.segments {c c' : Cut α} (h : c.Alike c') :
    List.Forall₂ SqlSkim.Alike c.segments c'.segments :=
  .cons h.head (List.rel_map (fun _ _ hp => hp.2) h.pieces)

/-- **Alike tokens found**: what stands before them is alike, and so is the place behind them. -/
structure Found.Alike (f f' : Found α) : Prop where
  lead : SqlSkim.Alike f.lead f'.lead
  after : f.after.Alike f'.after

/-- **The first tokens** of alike texts are alike, or there is none in either. -/
theorem find?_cases (hrule : rule.IgnoresSpelling) {p p' : Place} (h : p.Alike p') :
    (rule.find? p = none ∧ rule.find? p' = none) ∨
      ∃ f f', rule.find? p = some f ∧ rule.find? p' = some f' ∧ f.Alike f' := by
  obtain ⟨hhead, hpieces⟩ := cut_alike hrule h
  unfold Rule.find?
  generalize rule.cut p = c at hhead hpieces
  generalize rule.cut p' = c' at hhead hpieces
  obtain ⟨head, pieces⟩ := c
  obtain ⟨head', pieces'⟩ := c'
  cases hpieces with
  | nil => exact .inl ⟨rfl, rfl⟩
  | cons hpiece _ =>
      refine .inr ⟨_, _, rfl, rfl, hhead, ?_⟩
      rw [← hhead.length_eq, ← hpiece.1]
      exact h.advance _

theorem upTo_alike (hrule : rule.IgnoresSpelling) {p p' : Place} (h : p.Alike p') :
    Alike (rule.upTo p) (rule.upTo p') := (cut_alike hrule h).head

/-! ## Splitting at single characters -/

/-- The texts of a list that are not empty are alike if the lists are. -/
theorem filter_ne_nil_alike {ts ts' : List Text} (h : List.Forall₂ Alike ts ts') :
    List.Forall₂ Alike (ts.filter (· ≠ [])) (ts'.filter (· ≠ [])) := by
  refine List.rel_filter (fun u u' hu => ?_) h
  show decide (u ≠ []) = true ↔ decide (u' ≠ []) = true
  rw [decide_eq_true_eq, decide_eq_true_eq, ne_eq, ne_eq, Alike.eq_nil_iff hu]

theorem trim_filter_alike {ts ts' : List Text} (h : List.Forall₂ Alike ts ts') :
    List.Forall₂ Alike ((ts.map trim).filter (· ≠ [])) ((ts'.map trim).filter (· ≠ [])) :=
  filter_ne_nil_alike (List.rel_map (fun _ _ hu => hu.trim) h)

theorem ignoresSpelling_comma : (Rule.char ([·] = [','])).IgnoresSpelling := by
  refine ignoresSpelling_char fun c d hcd => decide_eq_decide.mpr ?_
  rw [List.cons.injEq, List.cons.injEq, hcd.eq_iff (by decide) (by decide)]

/-- **Alike lists have alike entries.** -/
theorem splitTopLevel_alike (h : Alike t t') :
    List.Forall₂ Alike (splitTopLevel [','] t) (splitTopLevel [','] t') :=
  trim_filter_alike (cut_alike ignoresSpelling_comma (.start h)).segments

theorem topLevelWords_alike (h : Alike t t') :
    List.Forall₂ Alike (topLevelWords t) (topLevelWords t') := by
  have hblank : (Rule.char isBlank).IgnoresSpelling :=
    ignoresSpelling_char fun _ _ hcd => hcd.isBlank_eq
  exact filter_ne_nil_alike (cut_alike hblank (.start h)).segments

/-! ## Names and groups -/

theorem endsIdentifier_alike {c d : Char} (h : AlikeChar c d) : endsIdentifier c = endsIdentifier d := by
  unfold endsIdentifier
  rw [h.isBlank_eq, h.contains_eq (by decide)]

/-- Names are read alike, and are equally wide. -/
theorem readIdentifier_alike (h : Alike t t') :
    Alike (readIdentifier t).1 (readIdentifier t').1 ∧ (readIdentifier t).2 = (readIdentifier t').2 := by
  have hname : Alike (readIdentifier t).1 (readIdentifier t').1 :=
    forall₂_takeWhile (fun c d hcd => by rw [endsIdentifier_alike hcd]) h.trimLeft
  refine ⟨hname, ?_⟩
  show _ + (readIdentifier t).1.length = _ + (readIdentifier t').1.length
  rw [h.length_blanks, hname.length_eq]

theorem identifier?_alike (h : Alike t t') : Option.Rel Alike (identifier? t) (identifier? t') := by
  have hname := (readIdentifier_alike h).1
  unfold identifier?
  generalize (readIdentifier t).1 = name at hname
  generalize (readIdentifier t').1 = name' at hname
  cases hname with
  | nil => exact .none
  | cons hcd hrest => exact .some (.cons hcd hrest)

theorem Place.Alike.skipBlanks {p p' : Place} (h : p.Alike p') : p.skipBlanks.Alike p'.skipBlanks := by
  unfold Place.skipBlanks
  rw [h.rest.length_blanks]
  exact h.advance _

/-- The search for the end of a group sees the parentheses only. -/
theorem closingFrom_alike (h : Alike t t') (pos : Nat) (balance : Int) :
    closingFrom pos balance t = closingFrom pos balance t' := by
  induction h generalizing pos balance with
  | nil => rfl
  | @cons c d t t' hcd _ ih =>
      have hopen := hcd.eq_iff (x := '(') (by decide) (by decide)
      have hclose := hcd.eq_iff (x := ')') (by decide) (by decide)
      simp only [closingFrom, hopen, hclose, ih]

end SqlSkim
