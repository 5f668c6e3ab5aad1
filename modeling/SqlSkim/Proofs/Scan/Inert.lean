import SqlSkim.Proofs.Comment.FixedPoint
import SqlSkim.Proofs.Scan.Group
import SqlSkim.Proofs.Statement.Separator

/-!
# `Scan.Inert` — texts that are put together from words and groups

A scan looks for keywords and for single characters. A text of whole words and groups with gaps between
them holds none of its tokens if no word of it starts a keyword and no gap of it is such a character. This
is a property that is kept by putting texts together, and it says nothing about any one scan: `Inert`
describes the text, `Rule.Spares` the scan, and the two meet in `Inert.quiet`.

## Contents
- `IsWord`, `IsGap`, `IsSpacing`: the parts of a text besides groups.
- `Inert`: texts of words, groups and gaps. Its index lists the groups.
- `Rule.Spares`, `Inert.quiet`: no token of a rule starts in a text that it spares.
- `Inert.isBalanced`, `Inert.isClean`: what holds of the text for every scan.
-/

namespace SqlSkim

open Phrase

/-! ## Words and gaps -/

/-- **A word**: word characters, and at least one. -/
structure IsWord (w : Text) : Prop where
  ne_nil : w ≠ []
  isWordChar : ∀ c ∈ w, isWordChar c = true

instance (w : Text) : Decidable (IsWord w) :=
  decidable_of_iff (w ≠ [] ∧ w.all SqlSkim.isWordChar = true)
    ⟨fun ⟨hne, hw⟩ => ⟨hne, List.all_eq_true.mp hw⟩, fun ⟨hne, hw⟩ => ⟨hne, List.all_eq_true.mpr hw⟩⟩

/-- **A gap** ends words, and is part of no group, quote or comment. -/
structure IsGap (c : Char) : Prop where
  not_word : isWordChar c = false
  not_paren : isParen c = false
  not_quote : isQuote c = false
  not_opener : c ≠ '/' ∧ c ≠ '*'

instance (c : Char) : Decidable (IsGap c) :=
  decidable_of_iff (isWordChar c = false ∧ isParen c = false ∧ isQuote c = false ∧ c ≠ '/' ∧ c ≠ '*')
    ⟨fun ⟨hw, hp, hq, ho⟩ => ⟨hw, hp, hq, ho⟩, fun ⟨hw, hp, hq, ho⟩ => ⟨hw, hp, hq, ho⟩⟩

/-- **A spacing**: gaps, the blank among them. -/
structure IsSpacing (gaps : List Char) : Prop where
  space : ' ' ∈ gaps
  isGap : ∀ c ∈ gaps, IsGap c

theorem IsWord.no_paren {w : Text} (hw : IsWord w) : ∀ c ∈ w, isParen c = false := fun c hc =>
  isParen_eq_false_of_word_or_blank (.inl (hw.isWordChar c hc))

/-- What stands behind a word and ends it starts no word. -/
theorem IsWord.continuesWord_eq {w tail : Text} (hw : IsWord w) {before : Option Char}
    (h : AtBoundary (lastOr before w) tail) : continuesWord tail = false := by
  obtain ⟨c, hc, hlast⟩ := exists_lastOr before hw.ne_nil
  apply h
  rw [hlast]
  exact hw.isWordChar c hc

theorem continuesWord_blank (t : Text) : continuesWord (' ' :: t) = false :=
  continuesWord_gap (by decide) t

theorem lastOr_blank (before : Option Char) (u : Text) :
    (lastOr before (u ++ [' '])).any isWordChar = false := by
  rw [lastOr_concat]
  decide

/-! ## Inert texts -/

/-- **An inert text**: words, none of which is one of `heads` in upper case, and groups, apart from each
    other by some of the `gaps`. The index lists the contents of the groups in their order. -/
inductive Inert (gaps : List Char) (heads : List Text) : List Text → Text → Prop where
  | nil : Inert gaps heads [] []
  | word {w : Text} : IsWord w → upper w ∉ heads → Inert gaps heads [] w
  | group {b : Text} : IsBalanced b → Inert gaps heads [b] (inParens b)
  | apart {bs bs' : List Text} {c : Char} {u v : Text} : c ∈ gaps → IsGap c → Inert gaps heads bs u →
      Inert gaps heads bs' v → Inert gaps heads (bs ++ bs') (u ++ c :: v)

namespace Inert

variable {gaps gaps' : List Char} {heads heads' : List Text} {bs bs' : List Text} {t u v : Text}

/-- Fewer keywords and more gaps keep a text inert. -/
theorem mono (h : Inert gaps heads bs t) (hgaps : gaps ⊆ gaps') (hheads : heads' ⊆ heads) :
    Inert gaps' heads' bs t := by
  induction h with
  | nil => exact .nil
  | word hw hfree => exact .word hw fun hmem => hfree (hheads hmem)
  | group hb => exact .group hb
  | apart hc hgap _ _ ihu ihv => exact .apart (hgaps hc) hgap ihu ihv

/-- A gap in front. -/
theorem gap_cons {c : Char} (hgaps : IsSpacing gaps) (hc : c ∈ gaps) (h : Inert gaps heads bs t) :
    Inert gaps heads bs (c :: t) := .apart hc (hgaps.isGap c hc) .nil h

theorem blank_cons (hgaps : IsSpacing gaps) (h : Inert gaps heads bs t) :
    Inert gaps heads bs (' ' :: t) := h.gap_cons hgaps hgaps.space

/-- A blank behind. -/
theorem blank_concat (hgaps : IsSpacing gaps) (h : Inert gaps heads bs t) :
    Inert gaps heads bs (t ++ [' ']) := by
  have hboth := Inert.apart hgaps.space (hgaps.isGap _ hgaps.space) h .nil
  rwa [List.append_nil] at hboth

/-- A part without groups, a blank, and another part. -/
theorem spaced (hgaps : IsSpacing gaps) (hu : Inert gaps heads [] u) (hv : Inert gaps heads bs v) :
    Inert gaps heads bs (u ++ ' ' :: v) :=
  .apart hgaps.space (hgaps.isGap _ hgaps.space) hu hv

/-- **Inert texts one after another**, the second of which starts with a gap. -/
theorem append (hu : Inert gaps heads bs u) (hv : Inert gaps heads bs' v)
    (hfront : ∀ c ∈ v.head?, IsGap c) : Inert gaps heads (bs ++ bs') (u ++ v) := by
  induction hv with
  | nil => rwa [List.append_nil, List.append_nil]
  | @word w hw _ =>
      -- a word starts with no gap
      obtain ⟨c, w, rfl⟩ := List.exists_cons_of_ne_nil hw.ne_nil
      have hc := hw.isWordChar c (by simp)
      rw [(hfront c (by simp)).not_word] at hc
      exact absurd hc (by simp)
  | group _ => exact absurd (hfront '(' (by simp [inParens])).not_paren (by decide)
  | @apart bs₁ bs₂ c v₁ v₂ hc hgap hv₁ hv₂ ih _ =>
      have hboth : Inert gaps heads (bs ++ bs₁) (u ++ v₁) := by
        cases v₁ with
        | nil => exact ih (by simp)
        | cons d v₁ => exact ih fun e he => hfront e (by simpa using he)
      have hall := Inert.apart hc hgap hboth hv₂
      rwa [List.append_assoc, List.append_assoc] at hall

/-- **An inert text is balanced.** -/
theorem isBalanced (h : Inert gaps heads bs t) : IsBalanced t := by
  induction h with
  | nil => exact isBalanced_of_no_paren (by simp)
  | word hw _ => exact isBalanced_of_no_paren hw.no_paren
  | group hb => exact isBalanced_inParens hb
  | apart _ hgap _ _ ihu ihv =>
      have hsingle : IsBalanced [_] := isBalanced_of_no_paren (List.forall_mem_singleton.mpr hgap.not_paren)
      exact ihu.append (hsingle.append ihv)

/-- **An inert text with clean groups is clean.** -/
theorem isClean (h : Inert gaps heads bs t) (hbs : ∀ b ∈ bs, IsClean false b) : IsClean false t := by
  induction h with
  | nil => exact isClean_nil false
  | word hw _ =>
      refine isClean_of_no_opener fun c hc => ?_
      have hword := hw.isWordChar c hc
      constructor
      · rw [isQuote_eq_false_iff]
        refine ⟨?_, ?_, ?_⟩ <;> rintro rfl <;> exact absurd hword (by decide)
      · rintro rfl
        exact absurd hword (by decide)
  | group _ =>
      -- no comment opens across a parenthesis
      have hb := hbs _ (List.mem_singleton_self _)
      have hrest := hb.append_apart (c := ')') (by decide) (by decide) (by simp) (isClean_nil false)
      exact (isClean_nil false).append_apart (c := '(') (by decide) (by decide) (by simp) hrest
  | apart _ hgap _ _ ihu ihv =>
      have hu := ihu fun b hb => hbs b (List.mem_append_left _ hb)
      have hv := ihv fun b hb => hbs b (List.mem_append_right _ hb)
      exact hu.append_apart hgap.not_quote hgap.not_opener (by simp) hv

end Inert

/-! ## Rules that spare a text -/

variable {α : Type} {rule : Rule α} {gaps : List Char} {heads : List Text}

/-- **A rule that spares** these gaps, and all words but `heads`: no token starts at such a gap, at such a
    word or inside any word. -/
structure Rule.Spares (rule : Rule α) (gaps : List Char) (heads : List Text) : Prop where
  gap : ∀ {before c t}, c ∈ gaps → rule ⟨before, c :: t⟩ = none
  word : ∀ {before w tail}, IsWord w → upper w ∉ heads → continuesWord tail = false →
    rule ⟨before, w ++ tail⟩ = none
  inside : ∀ {before c t}, before.any isWordChar = true → isWordChar c = true →
    rule ⟨before, c :: t⟩ = none

/-- No token starts inside a word. -/
theorem Rule.Spares.quiet_inside (hrule : rule.Spares gaps heads) {w : Text}
    (hw : ∀ c ∈ w, isWordChar c = true) {before : Option Char} (hbefore : before.any isWordChar = true)
    (depth : Nat) (tail : Text) : Quiet rule before depth w tail := by
  induction w generalizing before depth with
  | nil => trivial
  | cons c w ih =>
      have hc : (some c).any isWordChar = true := hw c (by simp)
      exact ⟨fun _ _ => hrule.inside hbefore hc, ih (fun d hd => hw d (List.mem_cons_of_mem c hd)) hc _⟩

/-- **No token of a rule starts in a text that it spares**, if the last word of the text ends there. -/
theorem Inert.quiet (hrule : rule.Spares gaps heads) {bs : List Text} {u : Text}
    (h : Inert gaps heads bs u) (before : Option Char) (depth : Nat) {tail : Text}
    (htail : AtBoundary (lastOr before u) tail) : Quiet rule before depth u tail := by
  induction h generalizing before depth tail with
  | nil => trivial
  | @word w hw hfree =>
      have hend := hw.continuesWord_eq htail
      cases w with
      | nil => exact absurd rfl hw.ne_nil
      | cons c w =>
          refine ⟨fun _ _ => hrule.word hw hfree hend, ?_⟩
          apply hrule.quiet_inside (fun d hd => hw.isWordChar d (List.mem_cons_of_mem c hd))
          exact hw.isWordChar c (by simp)
  | group hb => exact hb.quiet_inParens before depth tail
  | @apart bs bs' c u v hc hgap _ _ ihu ihv =>
      rw [quiet_append_iff]
      constructor
      · exact ihu before depth fun _ => continuesWord_gap hgap.not_word _
      · refine ⟨fun _ _ => hrule.gap hc, ihv (some c) _ ?_⟩
        rwa [lastOr_append, lastOr_cons] at htail

/-- Single characters other than word characters are tokens that spare all words. -/
theorem spares_char {p : Char → Bool} (hword : ∀ c, isWordChar c = true → p c = false)
    (hgaps : ∀ c ∈ gaps, p c = false) (heads : List Text) : (Rule.char p).Spares gaps heads := by
  constructor
  · intro before c t hc
    exact char_eq_none_iff.mpr (hgaps c hc)
  · intro before w tail hw _ _
    cases w with
    | nil => exact absurd rfl hw.ne_nil
    | cons c w => exact char_eq_none_iff.mpr (hword c (hw.isWordChar c (by simp)))
  · intro before c t _ hc
    exact char_eq_none_iff.mpr (hword c hc)

end SqlSkim
