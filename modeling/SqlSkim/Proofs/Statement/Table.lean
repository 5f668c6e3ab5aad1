import SqlSkim.Proofs.Statement.ClauseKeyword

/-!
# `Statement.Table` — the tables of a statement are names in it

Whatever the command, and on whichever way a table is found, it is read off the statement as a name: a
stretch that ends at a blank or at one of `( ) , ;`. The names of the `FROM` list are read off entries that
were cut out of the statement and trimmed, those behind a join off the rest of the statement behind a token
that may even reach past its end; both stand in the statement as they are.

## Contents
- `IsNameIn`, `isNameIn_of_identifier?`: names that stand in a text.
- `isSuffix_of_mem_behind`, `isInfix_of_mem_segments`: what a scan reads names off.
- `isNameIn_of_mem_all`, `head?_all_of_target`: the tables of a statement, and the first of them.
- `hasJoin_of_joined_ne_nil`: joined tables are found behind joins.
-/

namespace SqlSkim

/-! ## Names in a text -/

/-- **A name in a text**: a stretch of it that is not empty and holds nothing that ends a name. -/
structure IsNameIn (t name : Text) : Prop where
  ne_nil : name ≠ []
  no_end : ∀ c ∈ name, endsIdentifier c = false
  isInfix : name <:+: t

theorem IsNameIn.of_isInfix {s t name : Text} (h : IsNameIn s name) (hs : s <:+: t) : IsNameIn t name :=
  ⟨h.ne_nil, h.no_end, h.isInfix.trans hs⟩

/-- The name at the front of a text is a name in it. -/
theorem isNameIn_of_identifier? {t name : Text} (h : identifier? t = some name) : IsNameIn t name := by
  obtain ⟨blanks, rest, ht, _, hne, _⟩ := exists_of_identifier? h
  refine ⟨hne, fun c hc => ?_, ⟨blanks, rest, by rw [ht, List.append_assoc]⟩⟩
  have hname : (readIdentifier t).1 = name := by
    unfold identifier? at h
    split at h
    · exact absurd h (by simp)
    · exact Option.some.inj h
  have hc : c ∈ (trimLeft t).takeWhile (!endsIdentifier ·) := by rwa [← hname] at hc
  simpa using List.mem_takeWhile_imp hc

/-! ## What names are read off -/

variable {α : Type} {rule : Rule α}

theorem isSuffix_of_mem_behindFrom {before : Option Char} {depth skip : Nat} {t : Text} {place : Place}
    (h : place ∈ rule.behindFrom before depth skip t) : place.rest <:+ t := by
  induction t generalizing before depth skip with
  | nil => exact absurd h (by simp [Rule.behindFrom])
  | cons c t ih =>
      have hlater : ∀ {skip}, place ∈ rule.behindFrom (some c) (depthAfter depth c) skip t →
          place.rest <:+ c :: t := fun h => (ih h).trans (List.suffix_cons c t)
      cases skip with
      | succ skip => exact hlater h
      | zero =>
          rw [Rule.behindFrom] at h
          split at h
          · rcases List.mem_cons.mp h with rfl | hmore
            · exact List.drop_suffix _ _
            · exact hlater hmore
          · exact hlater h

/-- What stands behind a token ends the text. -/
theorem isSuffix_of_mem_behind {p place : Place} (h : place ∈ rule.behind p) : place.rest <:+ p.rest :=
  isSuffix_of_mem_behindFrom h

/-- The text from a place up to a token is part of what follows the place. -/
theorem upTo_isPrefix (keywords : List Text) (p : Place) :
    (Phrase.ruleOf keywords).upTo p <+: p.rest := by
  obtain ⟨tail, hrest, _⟩ := exists_behind_upTo keywords p
  rw [hrest]
  exact List.prefix_append _ tail

/-- The entries of a list stand in it. -/
theorem isInfix_of_mem_entries {t s : Text}
    (h : s ∈ ((Rule.char ([·] = [','])).cut (.start t)).segments) : s <:+: t := by
  obtain ⟨u, v, ht, _⟩ :=
    exists_of_mem_entries (cutsInto_cutFrom (char_width_pos ([·] = [','])) none 0 t) s h
  exact ⟨u, v, by rw [ht, List.append_assoc]⟩

theorem skipPhrase_isSuffix (phrases : List Phrase) (p : Place) :
    (p.skipPhrase phrases).rest <:+ p.rest := by
  unfold Place.skipPhrase
  split
  · exact (List.drop_suffix _ _).trans (List.drop_suffix _ _)
  · exact List.suffix_rfl

/-! ## The tables of a statement -/

variable {joins : List Text} {statement name : Text}

theorem isNameIn_of_nameAfter? {keyword : String} {skipped : List Phrase}
    (h : nameAfter? keyword skipped statement = some name) : IsNameIn statement name := by
  rw [nameAfter?_eq, Option.bind_eq_some_iff] at h
  obtain ⟨place, hplace, hname⟩ := h
  have hread := isNameIn_of_identifier? (Option.filter_eq_some_iff.mp hname).1
  have hrest : (place.skipPhrase skipped).rest <:+ statement :=
    (skipPhrase_isSuffix skipped place).trans (isSuffix_of_mem_behind (List.mem_of_mem_head? hplace))
  exact hread.of_isInfix hrest.isInfix

theorem isNameIn_of_mem_joinedNames (h : name ∈ joinedNames joins statement) :
    IsNameIn statement name := by
  obtain ⟨place, hplace, hname⟩ := List.mem_filterMap.mp h
  exact (isNameIn_of_identifier? hname).of_isInfix (isSuffix_of_mem_behind hplace).isInfix

theorem isNameIn_of_mem_listedNames (h : name ∈ listedNames joins statement) :
    IsNameIn statement name := by
  unfold listedNames at h
  split at h
  · exact absurd h (by simp)
  · next place hplace =>
      obtain ⟨s, hs, hname⟩ := List.mem_filterMap.mp h
      have hlist := upTo_isPrefix (fromTerminators ++ joins) place
      have hrest := isSuffix_of_mem_behind (List.mem_of_mem_head? hplace)
      have hentry := (isInfix_of_mem_entries hs).trans (hlist.isInfix.trans hrest.isInfix)
      exact (isNameIn_of_identifier? hname).of_isInfix hentry

/-- Statements that are no selections have at most the one table that they are about. -/
theorem exists_target_of_ne_select (joins : List Text) {command : Option Command} (h : command ≠ some .select) :
    ∃ target, Tables.ofStatement joins command statement = ⟨target, [], []⟩ ∧
      ∀ name, target = some name → IsNameIn statement name := by
  cases command with
  | none => exact ⟨none, rfl, by simp⟩
  | some c =>
      cases c with
      | select => exact absurd rfl h
      | truncate =>
          refine ⟨_, rfl, fun name hname => ?_⟩
          rcases Option.or_eq_some_iff.mp hname with htable | ⟨_, htruncate⟩
          · exact isNameIn_of_nameAfter? htable
          · exact isNameIn_of_nameAfter? htruncate
      | createTable | createIndex | insert | update | delete | drop | alter =>
          exact ⟨_, rfl, fun name hname => isNameIn_of_nameAfter? hname⟩

/-- **The tables of a statement are names in it**, whatever its command. -/
theorem isNameIn_of_mem_all {command : Option Command}
    (h : name ∈ (Tables.ofStatement joins command statement).all) : IsNameIn statement name := by
  by_cases hcommand : command = some .select
  · subst hcommand
    rcases mem_all_ofSelect_iff.mp h with hlisted | hjoined
    · exact isNameIn_of_mem_listedNames hlisted
    · exact isNameIn_of_mem_joinedNames hjoined
  · obtain ⟨target, htables, hname⟩ := exists_target_of_ne_select joins hcommand
    rw [htables] at h
    exact hname name (mem_all_of_target h)

/-- **The table that a statement is about** is the first of its tables. -/
theorem head?_all_of_target {command : Option Command}
    (h : (Tables.ofStatement joins command statement).target = some name) :
    (Tables.ofStatement joins command statement).all.head? = some name := by
  have hne : name ≠ [] := by
    by_cases hcommand : command = some .select
    · subst hcommand
      rw [Tables.ofStatement, ofSelect_eq, head?_eraseDups] at h
      exact (isNameIn_of_mem_listedNames (List.mem_of_mem_head? h)).ne_nil
    · obtain ⟨target, htables, hname⟩ := exists_target_of_ne_select joins hcommand
      rw [htables] at h
      exact (hname name h).ne_nil
  rw [Tables.all, head?_eraseDups, h]
  simp [hne]

/-- Joined tables are among the tables. -/
theorem joined_subset_all (tables : Tables) : tables.joined ⊆ tables.all := by
  intro name h
  rw [Tables.all, List.mem_eraseDups]
  exact List.mem_append_right _ h

/-- **Joined tables are found behind joins**, so a statement that has some has a join. -/
theorem hasJoin_of_joined_ne_nil {command : Option Command}
    (h : (Tables.ofStatement joins command statement).joined ≠ []) : hasJoin joins statement = true := by
  by_cases hcommand : command = some .select
  · subst hcommand
    rw [Tables.ofStatement, ofSelect_eq] at h
    rw [hasJoin_eq, Option.isSome_iff_ne_none, ne_eq, List.head?_eq_none_iff]
    intro hnone
    refine h ?_
    show (joinedNames joins statement).eraseDups = []
    rw [joinedNames, hnone]
    rfl
  · obtain ⟨target, htables, _⟩ := exists_target_of_ne_select joins hcommand
    rw [htables] at h
    exact absurd rfl h

end SqlSkim
