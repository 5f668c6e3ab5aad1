import SqlSkim.Proofs.Scan.Behind
import SqlSkim.Proofs.Scan.Group
import SqlSkim.Proofs.Statement.Separator

/-!
# `Scan.Outside` — scans that cannot look into groups

A keyword is compared with a slice of the raw text, and the slice may well reach into a group. It cannot
match there, though: a slice with a parenthesis in it has one in upper case too, and no keyword does. So
the rules of this library answer alike for two texts that are the same outside groups, and a cut by such
a rule is the same outside groups, token by token.

## Contents
- `Rule.SkipsGroups`: the rules that cannot look into groups.
- `skipsGroups_ruleOf`, `skipsGroups_separatorRule`, `skipsGroups_char`: the rules of the scans.
- `segments_sameOutside`, `behind_sameOutside`: their cuts.
-/

namespace SqlSkim

open Phrase

variable {t t' : Text}

/-! ## Keywords -/

/-- What has no parenthesis in upper case has none. -/
theorem no_paren_of_upper_eq {w : Text} (hw : ∀ c ∈ w, isParen c = false) (h : upper t = w) :
    ∀ c ∈ t, isParen c = false := by
  intro c hc
  cases hp : isParen c with
  | false => rfl
  | true =>
      have hcase : c = '(' ∨ c = ')' := by simpa [isParen] using hp
      have hself : upperChar c = [c] := by rcases hcase with rfl | rfl <;> rfl
      have hmem : c ∈ w := by
        rw [← h]
        exact (upperChar_infix_upper hc).subset (by simp [hself])
      rw [hw c hmem] at hp
      exact absurd hp (by decide)

/-- Upper case brings no parenthesis about. -/
theorem no_paren_upper (ht : ∀ c ∈ t, isParen c = false) : ∀ c ∈ upper t, isParen c = false := by
  intro d hd
  obtain ⟨c, hc, hd⟩ := List.mem_flatMap.mp hd
  cases hp : isParen d with
  | false => rfl
  | true =>
      have hcase : d = '(' ∨ d = ')' := by simpa [isParen] using hp
      have hself : d = c := by
        rcases hcase with rfl | rfl
        · exact eq_of_mem_upperChar_ascii hd (by decide) (by decide) (by decide)
        · exact eq_of_mem_upperChar_ascii hd (by decide) (by decide) (by decide)
      rw [hself, ht c hc] at hp
      exact absurd hp (by decide)

/-- A phrase written without parentheses has none. -/
theorem no_paren_of_mem_words_ofText {k w : Text} (hk : ∀ c ∈ k, isParen c = false)
    (hw : w ∈ (ofText k).words) : ∀ c ∈ w, isParen c = false := by
  obtain ⟨v, hv, rfl⟩ := List.mem_map.mp hw
  exact no_paren_upper fun c hc => hk c ((mem_words hv).2 c hc).2

/-- No match reaches into a group. -/
theorem wordsWidth?_no_paren {ws : List Text} (hws : ∀ w ∈ ws, ∀ c ∈ w, isParen c = false) {n : Nat}
    (h : wordsWidth? ws t = some n) : ∀ c ∈ t.take n, isParen c = false := by
  induction ws generalizing t n with
  | nil =>
      obtain rfl := Option.some.inj h
      simp
  | cons w more ih =>
      obtain ⟨hup, _, hcases⟩ := wordsWidth?_cons_cases h
      have hword := no_paren_of_upper_eq (hws w (by simp)) hup
      rcases hcases with ⟨_, rfl⟩ | ⟨_, gap, m, hgap, _, hm, rfl⟩
      · exact hword
      · have hmore := ih (fun v hv => hws v (List.mem_cons_of_mem w hv)) hm
        intro c hc
        rw [List.take_add, List.take_add, List.append_assoc] at hc
        rcases List.mem_append.mp hc with hc | hc
        · exact hword c hc
        · rcases List.mem_append.mp hc with hc | hc
          · rw [hgap, ← List.prefix_iff_eq_take.mp (List.takeWhile_prefix isBlank)] at hc
            exact isParen_eq_false_of_word_or_blank (.inr (List.mem_takeWhile_imp hc))
          · exact hmore c hc

/-- **A match sees no group.** -/
theorem wordsWidth?_sameOutside {ws : List Text} (hws : ∀ w ∈ ws, ∀ c ∈ w, isParen c = false)
    (h : SameOutside t t') : wordsWidth? ws t = wordsWidth? ws t' := by
  induction ws generalizing t t' with
  | nil => rfl
  | cons w more ih =>
      have hw := hws w (by simp)
      rw [wordsWidth?_cons, wordsWidth?_cons]
      by_cases hup : upper (t.take w.length) = w
      · -- the slice holds no parenthesis, so it is the same slice in both texts
        obtain ⟨htake, hdrop⟩ := h.take_drop (no_paren_of_upper_eq hw hup)
        have hend : continuesWord (t.drop w.length) = continuesWord (t'.drop w.length) := by
          unfold continuesWord
          rw [hdrop.head?_eq]
        have hgap := hdrop.takeWhile_eq (p := isBlank) (by decide)
        have hrest := (hdrop.take_drop (n := ((t.drop w.length).takeWhile isBlank).length)
          fun c hc => by
            rw [← List.prefix_iff_eq_take.mp (List.takeWhile_prefix isBlank)] at hc
            exact isParen_eq_false_of_word_or_blank (.inr (List.mem_takeWhile_imp hc))).2
        rw [htake, hend, ih (fun v hv => hws v (List.mem_cons_of_mem w hv)) hrest, hgap]
      · have hup' : upper (t'.take w.length) ≠ w := fun hup' => by
          rw [(h.symm.take_drop (no_paren_of_upper_eq hw hup')).1] at hup
          exact hup hup'
        rw [if_pos (.inl hup), if_pos (.inl hup')]

theorem width?_sameOutside {p : Phrase} (hp : ∀ w ∈ p.words, ∀ c ∈ w, isParen c = false)
    (before : Option Char) (h : SameOutside t t') :
    p.width? ⟨before, t⟩ = p.width? ⟨before, t'⟩ := by
  unfold width?
  rw [wordsWidth?_sameOutside hp h]

theorem width?_no_paren {p : Phrase} (hp : ∀ w ∈ p.words, ∀ c ∈ w, isParen c = false)
    {before : Option Char} {n : Nat} (h : p.width? ⟨before, t⟩ = some n) :
    ∀ c ∈ t.take n, isParen c = false :=
  wordsWidth?_no_paren hp (width?_eq_some_iff.mp h).2.2

/-! ## Rules that skip groups -/

/-- **A rule that skips groups** finds the same token at the front of two texts that are the same outside
    groups, and its tokens hold no parenthesis. -/
structure Rule.SkipsGroups {α : Type} (rule : Rule α) : Prop where
  congr : ∀ before {t t' : Text}, SameOutside t t' → rule ⟨before, t⟩ = rule ⟨before, t'⟩
  no_paren : ∀ before t label width, rule ⟨before, t⟩ = some (label, width) →
    ∀ c ∈ t.take width, isParen c = false

/-- Keywords written without parentheses skip groups. -/
theorem skipsGroups_ruleOf {keywords : List Text}
    (h : ∀ k ∈ keywords, ∀ c ∈ k, isParen c = false) : (ruleOf keywords).SkipsGroups := by
  have hwords : ∀ p ∈ keywords.map ofText, ∀ w ∈ p.words, ∀ c ∈ w, isParen c = false := by
    intro p hp w hw
    obtain ⟨k, hk, rfl⟩ := List.mem_map.mp hp
    exact no_paren_of_mem_words_ofText (h k hk) hw
  constructor
  · intro before t t' ht
    exact longest?_congr fun p hp => width?_sameOutside (hwords p hp) before ht
  · intro before t label width hfound
    obtain ⟨hmem, hwidth⟩ := width?_of_longest? hfound
    exact width?_no_paren (hwords label hmem) hwidth

/-- Single characters other than parentheses skip groups. -/
theorem skipsGroups_char {p : Char → Bool} (hp : ∀ c, p c = true → isParen c = false) :
    (Rule.char p).SkipsGroups := by
  constructor
  · intro before t t' ht
    cases ht with
    | nil => rfl
    | char c _ => rfl
    | group _ _ _ => rfl
  · intro before t label width hfound c hc
    obtain ⟨rest, rfl, hlabel, rfl⟩ := char_eq_some hfound
    obtain rfl : c = label := by simpa using hc
    exact hp c hlabel

/-- Commas skip groups. -/
theorem skipsGroups_comma : (Rule.char ([·] = [','])).SkipsGroups := by
  refine skipsGroups_char fun c hc => ?_
  obtain rfl : c = ',' := by simpa using hc
  rfl

/-- Blanks skip groups. -/
theorem skipsGroups_blank : (Rule.char isBlank).SkipsGroups :=
  skipsGroups_char fun _ hc => isParen_eq_false_of_word_or_blank (.inr hc)

theorem no_paren_of_mem_unionPhrases {p : Phrase} (hp : p ∈ unionPhrases) :
    ∀ w ∈ p.words, ∀ c ∈ w, isParen c = false := by
  intro w hw c hc
  have hcap := ((isKeyword_of_mem_unionPhrases hp).1 w hw).capital c hc
  cases hparen : isParen c with
  | false => rfl
  | true =>
      have hcase : c = '(' ∨ c = ')' := by simpa [isParen] using hparen
      rcases hcase with rfl | rfl <;> exact absurd hcap (by decide)

/-- The separators skip groups. -/
theorem skipsGroups_separatorRule : separatorRule.SkipsGroups := by
  constructor
  · intro before t t' ht
    by_cases hsemi : t.head? = some ';'
    · obtain ⟨rest, rfl⟩ := List.head?_eq_some_iff.mp hsemi
      obtain ⟨rest', rfl⟩ := List.head?_eq_some_iff.mp (ht.head?_eq ▸ hsemi)
      rfl
    · rw [separatorRule_of_ne hsemi, separatorRule_of_ne (ht.head?_eq ▸ hsemi)]
      refine congrArg _ (longest?_congr fun p hp => ?_)
      exact width?_sameOutside (no_paren_of_mem_unionPhrases hp) before ht
  · intro before t label width hfound
    exact (separatorAt_of_rule hfound).no_paren

/-! ## Cuts outside groups -/

variable {α : Type} {rule : Rule α}

/-- The same place outside groups. -/
structure Place.SameOutside (p p' : Place) : Prop where
  before_eq : p.before = p'.before
  rest : SqlSkim.SameOutside p.rest p'.rest

/-- Going on within what both texts have in common leads to the same place. -/
theorem Place.SameOutside.advance {p p' : Place} (h : p.SameOutside p') {n : Nat}
    (hn : ∀ c ∈ p.rest.take n, isParen c = false) : (p.advance n).SameOutside (p'.advance n) := by
  obtain ⟨htake, hdrop⟩ := h.rest.take_drop hn
  constructor
  · show lastOr p.before (p.rest.take n) = lastOr p'.before (p'.rest.take n)
    rw [htake, h.before_eq]
  · exact hdrop

/-- A rule that skips groups does not stop inside one. -/
theorem segments_group {b : Text} (hb : IsBalanced b) (before : Option Char) (depth : Nat)
    (tail : Text) :
    (rule.cutFrom before depth 0 (inParens b ++ tail)).segments =
      (inParens b ++ (rule.cutFrom (some ')') depth 0 tail).head) ::
        (rule.cutFrom (some ')') depth 0 tail).pieces.map (·.segment) := by
  rw [cutFrom_quiet (hb.quiet_inParens before depth tail), lastOr_inParens,
    hb.depthAfterText_inParens]
  rfl

/-- **The segments of a cut** by a rule that skips groups are the same outside groups, one by one. -/
theorem segments_sameOutside (hrule : rule.SkipsGroups) (h : SameOutside t t')
    (before : Option Char) (depth skip : Nat) (hskip : ∀ c ∈ t.take skip, isParen c = false) :
    List.Forall₂ SameOutside (rule.cutFrom before depth skip t).segments
      (rule.cutFrom before depth skip t').segments := by
  induction h generalizing before depth skip with
  | nil => exact .cons .nil .nil
  | @char c t t' h ih =>
      cases skip with
      | succ skip =>
          exact ih (some c) (depthAfter depth c) skip fun d hd => hskip d (List.mem_cons_of_mem c hd)
      | zero =>
          have hsame : (if depth = 0 ∧ !isParen c then rule ⟨before, c :: t⟩ else none) =
              if depth = 0 ∧ !isParen c then rule ⟨before, c :: t'⟩ else none := by
            rw [hrule.congr before (.char c h)]
          rw [Rule.cutFrom, Rule.cutFrom, ← hsame]
          generalize hfire : (if depth = 0 ∧ !isParen c then rule ⟨before, c :: t⟩ else none) = fired
          cases fired with
          | some found =>
              obtain ⟨label, width⟩ := found
              have hfound : rule ⟨before, c :: t⟩ = some (label, width) := by
                split at hfire
                · exact hfire
                · exact absurd hfire (by simp)
              have htoken := hrule.no_paren _ _ _ _ hfound
              exact .cons .nil (ih (some c) (depthAfter depth c) (width - 1) fun d hd => by
                cases width with
                | zero => exact absurd hd (by simp)
                | succ width => exact htoken d (List.mem_cons_of_mem c hd))
          | none =>
              obtain ⟨hhead, hmore⟩ := List.forall₂_cons.mp
                (ih (some c) (depthAfter depth c) 0 fun d hd => absurd hd (by simp))
              exact .cons (.char c hhead) hmore
  | @group b b' t t' hb hb' h ih =>
      cases skip with
      | succ skip => exact absurd (hskip '(' (by simp [inParens])) (by decide)
      | zero =>
          rw [segments_group hb, segments_group hb']
          obtain ⟨hhead, hmore⟩ := List.forall₂_cons.mp
            (ih (some ')') depth 0 fun d hd => absurd hd (by simp))
          exact .cons (.group hb hb' hhead) hmore

/-- **The places behind the tokens** of a rule that skips groups are the same outside groups, one by
    one. -/
theorem behindFrom_sameOutside (hrule : rule.SkipsGroups) (h : SameOutside t t')
    (before : Option Char) (depth skip : Nat) (hskip : ∀ c ∈ t.take skip, isParen c = false) :
    List.Forall₂ Place.SameOutside (rule.behindFrom before depth skip t)
      (rule.behindFrom before depth skip t') := by
  induction h generalizing before depth skip with
  | nil => exact .nil
  | @char c t t' h ih =>
      cases skip with
      | succ skip =>
          exact ih (some c) (depthAfter depth c) skip fun d hd => hskip d (List.mem_cons_of_mem c hd)
      | zero =>
          have hsame : (if depth = 0 ∧ !isParen c then rule ⟨before, c :: t⟩ else none) =
              if depth = 0 ∧ !isParen c then rule ⟨before, c :: t'⟩ else none := by
            rw [hrule.congr before (.char c h)]
          rw [Rule.behindFrom, Rule.behindFrom, ← hsame]
          generalize hfire : (if depth = 0 ∧ !isParen c then rule ⟨before, c :: t⟩ else none) = fired
          cases fired with
          | some found =>
              obtain ⟨label, width⟩ := found
              have hfound : rule ⟨before, c :: t⟩ = some (label, width) := by
                split at hfire
                · exact hfire
                · exact absurd hfire (by simp)
              have htoken := hrule.no_paren _ _ _ _ hfound
              have hplace : Place.SameOutside ⟨before, c :: t⟩ ⟨before, c :: t'⟩ := ⟨rfl, .char c h⟩
              exact .cons (hplace.advance htoken)
                (ih (some c) (depthAfter depth c) (width - 1) fun d hd => by
                  cases width with
                  | zero => exact absurd hd (by simp)
                  | succ width => exact htoken d (List.mem_cons_of_mem c hd))
          | none => exact ih (some c) (depthAfter depth c) 0 fun d hd => absurd hd (by simp)
  | @group b b' t t' hb hb' h ih =>
      cases skip with
      | succ skip => exact absurd (hskip '(' (by simp [inParens])) (by decide)
      | zero =>
          rw [behindFrom_quiet (hb.quiet_inParens before depth t),
            behindFrom_quiet (hb'.quiet_inParens before depth t'), lastOr_inParens, lastOr_inParens,
            hb.depthAfterText_inParens, hb'.depthAfterText_inParens]
          exact ih (some ')') depth 0 fun d hd => absurd hd (by simp)

theorem behind_sameOutside (hrule : rule.SkipsGroups) {p p' : Place} (h : p.SameOutside p') :
    List.Forall₂ Place.SameOutside (rule.behind p) (rule.behind p') := by
  unfold Rule.behind
  rw [h.before_eq]
  exact behindFrom_sameOutside hrule h.rest _ 0 0 fun c hc => absurd hc (by simp)

end SqlSkim
