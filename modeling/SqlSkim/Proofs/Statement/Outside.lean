import Mathlib.Data.List.Forall2
import SqlSkim.Proofs.Scan.Outside
import SqlSkim.Proofs.Statement.Name

/-!
# `Statement.Outside` — nothing inside a group shows outside it

Tables, joins and the division into statements are found by scans at depth zero, so they should not
depend on what stands in parentheses. Each scan restarts where the one before it ended, reads ahead for
keywords, skips blanks and reads names; none of these steps enters a group, wherever the group lies:
nested in another one, behind a stray `)` or behind a `(` that is never closed.

## Contents
- `nameAfter?_sameOutside`, `listedNames_sameOutside`, `joinedNames_sameOutside`: the tables.
- `blankSegments_sameOutside`: which segments are blank.
- `group_opaque`: the main result.
-/

namespace SqlSkim

open Phrase

variable {t t' : Text}

/-! ## Related lists -/

section Related

variable {α β γ : Type} {R : α → β → Prop} {xs : List α} {ys : List β}

theorem map_eq_of_forall₂ (h : List.Forall₂ R xs ys) {f : α → γ} {g : β → γ}
    (hfg : ∀ a b, R a b → f a = g b) : xs.map f = ys.map g := by
  induction h with
  | nil => rfl
  | cons hab _ ih => rw [List.map_cons, List.map_cons, hfg _ _ hab, ih]

theorem filterMap_eq_of_forall₂ (h : List.Forall₂ R xs ys) {f : α → Option γ} {g : β → Option γ}
    (hfg : ∀ a b, R a b → f a = g b) : xs.filterMap f = ys.filterMap g := by
  induction h with
  | nil => rfl
  | cons hab _ ih => rw [List.filterMap_cons, List.filterMap_cons, hfg _ _ hab, ih]

theorem head?_bind_eq_of_forall₂ (h : List.Forall₂ R xs ys) {f : α → Option γ} {g : β → Option γ}
    (hfg : ∀ a b, R a b → f a = g b) : xs.head?.bind f = ys.head?.bind g := by
  cases h with
  | nil => rfl
  | cons hab _ => exact hfg _ _ hab

theorem findSome?_congr {f g : α → Option γ} (h : ∀ a ∈ xs, f a = g a) :
    xs.findSome? f = xs.findSome? g := by
  induction xs with
  | nil => rfl
  | cons a xs ih =>
      rw [List.findSome?_cons, List.findSome?_cons, h a (by simp),
        ih fun b hb => h b (List.mem_cons_of_mem a hb)]

end Related

/-! ## Tables -/

/-- No name reaches into a group. -/
theorem identifier?_sameOutside (h : SameOutside t t') : identifier? t = identifier? t' := by
  have hname : (readIdentifier t).1 = (readIdentifier t').1 :=
    (h.dropWhile (by decide)).takeWhile_eq (by decide)
  rw [identifier?, identifier?, hname]

theorem Place.SameOutside.skipBlanks {p p' : Place} (h : p.SameOutside p') :
    p.skipBlanks.SameOutside p'.skipBlanks := by
  unfold Place.skipBlanks
  rw [← h.rest.takeWhile_eq (p := isBlank) (by decide)]
  refine h.advance fun c hc => ?_
  rw [← List.prefix_iff_eq_take.mp (List.takeWhile_prefix isBlank)] at hc
  exact isParen_eq_false_of_word_or_blank (.inr (List.mem_takeWhile_imp hc))

theorem Place.SameOutside.width?_eq {p p' : Place} (h : p.SameOutside p') {q : Phrase}
    (hq : ∀ w ∈ q.words, ∀ c ∈ w, isParen c = false) : q.width? p = q.width? p' := by
  obtain ⟨before, t⟩ := p
  obtain ⟨before', t'⟩ := p'
  obtain rfl : before = before' := h.before_eq
  exact width?_sameOutside hq before h.rest

/-- Skipping a phrase leads to the same place outside groups. -/
theorem Place.SameOutside.skipPhrase {p p' : Place} (h : p.SameOutside p') {phrases : List Phrase}
    (hphrases : ∀ q ∈ phrases, ∀ w ∈ q.words, ∀ c ∈ w, isParen c = false) :
    (p.skipPhrase phrases).SameOutside (p'.skipPhrase phrases) := by
  have hblanks := h.skipBlanks
  have hfound : phrases.findSome? (·.width? p.skipBlanks) =
      phrases.findSome? (·.width? p'.skipBlanks) :=
    findSome?_congr fun q hq => hblanks.width?_eq (hphrases q hq)
  unfold Place.skipPhrase
  rw [← hfound]
  cases hskip : phrases.findSome? (·.width? p.skipBlanks) with
  | none => exact h
  | some width =>
      obtain ⟨q, hq, hqw⟩ := List.exists_of_findSome?_eq_some hskip
      exact hblanks.advance (width?_no_paren (hphrases q hq) hqw)

/-- **The name behind the first keyword** does not depend on what is inside groups. -/
theorem nameAfter?_sameOutside {keyword : String} {skipped : List Phrase}
    (hkeyword : ∀ c ∈ keyword.toList, isParen c = false)
    (hskipped : ∀ q ∈ skipped, ∀ w ∈ q.words, ∀ c ∈ w, isParen c = false) (h : SameOutside t t') :
    nameAfter? keyword skipped t = nameAfter? keyword skipped t' := by
  rw [nameAfter?_eq, nameAfter?_eq]
  have hrule : (keywordRule keyword).SkipsGroups := skipsGroups_ruleOf fun k hk => by
    obtain rfl := List.mem_singleton.mp hk
    exact hkeyword
  have hstart : (Place.start t).SameOutside (Place.start t') := ⟨rfl, h⟩
  refine head?_bind_eq_of_forall₂ (behind_sameOutside hrule hstart) fun p p' hp => ?_
  rw [identifier?_sameOutside (hp.skipPhrase hskipped).rest]

/-- The names of the `FROM` list do not depend on what is inside groups. -/
theorem listedNames_sameOutside {joins : List Text}
    (hjoins : ∀ k ∈ joins, ∀ c ∈ k, isParen c = false) (h : SameOutside t t') :
    listedNames joins t = listedNames joins t' := by
  have hfrom : (keywordRule "FROM").SkipsGroups :=
    skipsGroups_ruleOf (List.forall_mem_singleton.mpr (no_paren_of_all (by decide)))
  have hends : (ruleOf (fromTerminators ++ joins)).SkipsGroups := by
    refine skipsGroups_ruleOf fun k hk => ?_
    rcases List.mem_append.mp hk with hk | hk
    · have hall : ∀ k ∈ fromTerminators, k.all (!isParen ·) = true := by decide
      exact no_paren_of_all (hall k hk)
    · exact hjoins k hk
  have hstart : (Place.start t).SameOutside (Place.start t') := ⟨rfl, h⟩
  have hplaces := behind_sameOutside hfrom hstart
  unfold listedNames
  generalize (keywordRule "FROM").behind (.start t) = places at hplaces
  generalize (keywordRule "FROM").behind (.start t') = places' at hplaces
  cases hplaces with
  | nil => rfl
  | @cons p p' _ _ hp _ =>
      -- the list ends at the same keyword, and is cut at the same commas
      have hlist : SameOutside ((ruleOf (fromTerminators ++ joins)).upTo p)
          ((ruleOf (fromTerminators ++ joins)).upTo p') := by
        have hsegments := segments_sameOutside hends hp.rest p.before 0 0 (by simp)
        unfold Rule.upTo Rule.cut
        rw [← hp.before_eq]
        exact (List.forall₂_cons.mp hsegments).1
      exact filterMap_eq_of_forall₂ (segments_sameOutside skipsGroups_comma hlist none 0 0 (by simp))
        fun s s' hs => identifier?_sameOutside hs

/-- The names behind joins do not depend on what is inside groups. -/
theorem joinedNames_sameOutside {joins : List Text}
    (hjoins : ∀ k ∈ joins, ∀ c ∈ k, isParen c = false) (h : SameOutside t t') :
    joinedNames joins t = joinedNames joins t' := by
  have hstart : (Place.start t).SameOutside (Place.start t') := ⟨rfl, h⟩
  exact filterMap_eq_of_forall₂ (behind_sameOutside (skipsGroups_ruleOf hjoins) hstart)
    fun p p' hp => identifier?_sameOutside hp.rest

/-- **The tables of a statement** do not depend on what is inside groups. -/
theorem ofStatement_sameOutside {joins : List Text}
    (hjoins : ∀ k ∈ joins, ∀ c ∈ k, isParen c = false) (h : SameOutside t t')
    (command : Option Command) :
    Tables.ofStatement joins command t = Tables.ofStatement joins command t' := by
  have hname : ∀ keyword : String, keyword.toList.all (!isParen ·) = true →
      nameAfter? keyword [] t = nameAfter? keyword [] t' := fun keyword hk =>
    nameAfter?_sameOutside (no_paren_of_all hk) (fun q hq => absurd hq (by simp)) h
  have hinto := hname "INTO" (by decide)
  have hupdate := hname "UPDATE" (by decide)
  have hfrom := hname "FROM" (by decide)
  have htable := hname "TABLE" (by decide)
  have htruncate := hname "TRUNCATE" (by decide)
  have hon := hname "ON" (by decide)
  have hwords : ∀ q ∈ existenceTests, ∀ w ∈ q.words, w.all (!isParen ·) = true := by decide
  have htests : nameAfter? "TABLE" existenceTests t = nameAfter? "TABLE" existenceTests t' :=
    nameAfter?_sameOutside (no_paren_of_all (by decide))
      (fun q hq w hw => no_paren_of_all (hwords q hq w hw)) h
  cases command with
  | none => rfl
  | some c =>
      cases c with
      | select =>
          show Tables.ofSelect joins t = Tables.ofSelect joins t'
          rw [ofSelect_eq, ofSelect_eq, listedNames_sameOutside hjoins h,
            joinedNames_sameOutside hjoins h]
      | insert => simp only [Tables.ofStatement, hinto]
      | update => simp only [Tables.ofStatement, hupdate]
      | delete => simp only [Tables.ofStatement, hfrom]
      | createTable => simp only [Tables.ofStatement, htests]
      | drop => simp only [Tables.ofStatement, htests]
      | alter => simp only [Tables.ofStatement, htests]
      | truncate => simp only [Tables.ofStatement, htable, htruncate]
      | createIndex => simp only [Tables.ofStatement, hon]

theorem hasJoin_sameOutside {joins : List Text}
    (hjoins : ∀ k ∈ joins, ∀ c ∈ k, isParen c = false) (h : SameOutside t t') :
    hasJoin joins t = hasJoin joins t' := by
  have hstart : (Place.start t).SameOutside (Place.start t') := ⟨rfl, h⟩
  have hplaces := behind_sameOutside (skipsGroups_ruleOf hjoins) hstart
  rw [hasJoin_eq, hasJoin_eq]
  generalize (ruleOf joins).behind (.start t) = places at hplaces
  generalize (ruleOf joins).behind (.start t') = places' at hplaces
  cases hplaces <;> rfl

/-! ## Statements -/

/-- A text is blank if the other one is: a group is not blank, whatever is inside. -/
theorem trim_eq_nil_sameOutside (h : SameOutside t t') : trim t = [] ↔ trim t' = [] := by
  rw [trim_eq_nil_iff, trim_eq_nil_iff]
  exact (h.dropWhile (by decide)).eq_nil_iff

/-- Which segments of a cleaned query are blank. -/
def blankSegments (t : Text) : List Bool := (separators t).segments.map fun s => trim s = []

/-- **Which segments are blank** does not depend on what is inside groups. -/
theorem blankSegments_sameOutside (h : SameOutside t t') : blankSegments t = blankSegments t' :=
  map_eq_of_forall₂ (segments_sameOutside skipsGroups_separatorRule h none 0 0 (by simp))
    fun s s' hs => decide_eq_decide.mpr (trim_eq_nil_sameOutside hs)

/-- There are as many statements as segments that are not blank. -/
theorem length_statements (t : Text) : (statements t).length = (blankSegments t).count false := by
  rw [statements, ← List.countP_eq_length_filter, List.countP_map, blankSegments, List.count,
    List.countP_map]
  refine List.countP_congr fun s _ => ?_
  simp

theorem emptySegments_eq (t : Text) : emptySegments t = (blankSegments t).dropLast.count true := by
  rw [emptySegments, blankSegments, ← List.map_dropLast, List.count, List.countP_map]
  refine List.countP_congr fun s _ => ?_
  simp

/-! ## The main result -/

/-- **Nothing inside a group shows outside it.** Whatever stands before and behind a group, its content
    can be replaced by any other balanced text: the tables of the statement, whatever its command, its
    having a join, the number of statements and the number of empty ones stay the same, for all join
    keywords that hold no parenthesis. -/
theorem group_opaque (p q : Text) {b b' : Text} (hb : IsBalanced b) (hb' : IsBalanced b')
    (command : Option Command) {joins : List Text}
    (hjoins : ∀ k ∈ joins, ∀ c ∈ k, isParen c = false) :
    let t := p ++ '(' :: (b ++ ')' :: q)
    let t' := p ++ '(' :: (b' ++ ')' :: q)
    Tables.ofStatement joins command t = Tables.ofStatement joins command t' ∧
      hasJoin joins t = hasJoin joins t' ∧
      (statements t).length = (statements t').length ∧
      emptySegments t = emptySegments t' := by
  intro t t'
  have h : SameOutside t t' := by
    have hgroup := SameOutside.of_group hb hb' p q
    simpa only [inParens, List.cons_append, List.append_assoc, List.nil_append] using hgroup
  refine ⟨ofStatement_sameOutside hjoins h command, hasJoin_sameOutside hjoins h, ?_, ?_⟩
  · rw [length_statements, length_statements, blankSegments_sameOutside h]
  · rw [emptySegments_eq, emptySegments_eq, blankSegments_sameOutside h]

/-- A separator, a join and a clause inside the group, which itself stands behind a stray `)`. -/
theorem group_opaque_nested_statement :
    let p := "SELECT a) FROM t, ".toList
    let q := " u LEFT JOIN v;".toList
    let b := "SELECT x FROM y WHERE (z) UNION SELECT x; JOIN w".toList
    let b' := "1".toList
    let joins := ["LEFT JOIN".toList]
    (IsBalanced b ∧ IsBalanced b' ∧ ∀ k ∈ joins, ∀ c ∈ k, isParen c = false) ∧
      Tables.ofStatement joins (some .select) (p ++ '(' :: (b ++ ')' :: q)) =
        Tables.ofStatement joins (some .select) (p ++ '(' :: (b' ++ ')' :: q)) ∧
      hasJoin joins (p ++ '(' :: (b ++ ')' :: q)) = hasJoin joins (p ++ '(' :: (b' ++ ')' :: q)) ∧
      (statements (p ++ '(' :: (b ++ ')' :: q))).length =
        (statements (p ++ '(' :: (b' ++ ')' :: q))).length ∧
      emptySegments (p ++ '(' :: (b ++ ')' :: q)) =
        emptySegments (p ++ '(' :: (b' ++ ')' :: q)) := by
  intro p q b b' joins
  have hb : IsBalanced b := by decide
  have hb' : IsBalanced b' := by decide
  have hjoins : ∀ k ∈ joins, ∀ c ∈ k, isParen c = false :=
    List.forall_mem_singleton.mpr (no_paren_of_all (by decide))
  exact ⟨⟨hb, hb', hjoins⟩, group_opaque p q hb hb' (some .select) hjoins⟩

end SqlSkim
