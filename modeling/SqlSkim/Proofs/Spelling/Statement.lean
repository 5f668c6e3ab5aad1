import SqlSkim.Proofs.Spelling.Scan
import SqlSkim.Proofs.Statement.Column
import SqlSkim.Proofs.Statement.Command
import SqlSkim.Proofs.Statement.Outside

/-!
# `Spelling.Statement` — letter case and kinds of blanks do not matter

Alike texts are divided into alike statements, start with the same command, have joins or not alike, and
name alike tables and columns. Each finding is a chain of scans, and every scan of the chain goes on at the
place behind the one before it; as each of them is found alike, so are the findings.

The joined tables and the list of all tables are another matter. They are listed once each, and two names
that are alike are two names.

## Contents
- `statements_alike`, `ofStatement?_alike`, `hasJoin_alike`: statements, commands and joins.
- `nameAfter?_alike`, `target_alike`: the table a statement is about.
- `stripAlias_alike`, `columns_alike`: columns.
- `spelling_ignored`: the main result.
-/

namespace SqlSkim

open Phrase

variable {t t' : Text}

/-! ## Statements, commands and joins -/

theorem statements_alike (h : Alike t t') : List.Forall₂ Alike (statements t) (statements t') :=
  trim_filter_alike (cut_alike ignoresSpelling_separatorRule (.start h)).segments

/-- **Alike statements start with the same command.** -/
theorem ofStatement?_alike (h : Alike t t') : Command.ofStatement? t = Command.ofStatement? t' := by
  ext c
  have hwidth : wordsWidth? c.phrase.words (trimLeft t) = wordsWidth? c.phrase.words (trimLeft t') :=
    wordsWidth?_alike (unbroken_ofText c.text) h.trimLeft
  rw [ofStatement?_eq_some_iff, ofStatement?_eq_some_iff, hwidth]

theorem hasJoin_alike (joins : List Text) (h : Alike t t') : hasJoin joins t = hasJoin joins t' := by
  unfold hasJoin
  rcases find?_cases (ignoresSpelling_ruleOf joins) (.start h) with
    ⟨hnone, hnone'⟩ | ⟨f, f', hfound, hfound', _⟩
  · rw [hnone, hnone']
  · rw [hfound, hfound']
    rfl

/-- The first keyword of a statement is found in alike statements, or in neither. -/
theorem keyword_cases (keyword : String) (h : Alike t t') :
    ((keywordRule keyword).find? (.start t) = none ∧ (keywordRule keyword).find? (.start t') = none) ∨
      ∃ f f', (keywordRule keyword).find? (.start t) = some f ∧
        (keywordRule keyword).find? (.start t') = some f' ∧ f.Alike f' :=
  find?_cases (ignoresSpelling_ruleOf _) (.start h)

/-! ## Tables -/

theorem Place.Alike.skipPhrase {p p' : Place} (h : p.Alike p') {phrases : List Phrase}
    (hphrases : ∀ q ∈ phrases, Unbroken q.words) :
    (p.skipPhrase phrases).Alike (p'.skipPhrase phrases) := by
  have hfound : phrases.findSome? (·.width? p.skipBlanks) =
      phrases.findSome? (·.width? p'.skipBlanks) :=
    findSome?_congr fun q hq => h.skipBlanks.width?_eq (hphrases q hq)
  unfold Place.skipPhrase
  rw [hfound]
  split
  · exact h.skipBlanks.advance _
  · exact h

/-- What is kept of two options by tests that agree on alike texts is alike. -/
theorem filter_alike {name name' : Option Text} (h : Option.Rel Alike name name') {p : Text → Bool}
    (hp : ∀ u u', Alike u u' → p u = p u') :
    Option.Rel Alike (name.filter p) (name'.filter p) := by
  cases h with
  | none => exact .none
  | @some u u' hu =>
      rw [Option.filter_some, Option.filter_some, ← hp u u' hu]
      split
      · exact .some hu
      · exact .none

/-- The tests for a clause keyword agree on alike names. -/
theorem clauseKeywords_alike (h : Alike t t') :
    clauseKeywords.contains (upper t) = clauseKeywords.contains (upper t') := by
  have hall : Unbroken clauseKeywords := unbroken_of_all (by decide)
  exact h.contains_upper_eq hall

/-- **The name behind the first keyword** is found alike. -/
theorem nameAfter?_alike (keyword : String) {skipped : List Phrase}
    (hskipped : ∀ q ∈ skipped, Unbroken q.words) (h : Alike t t') :
    Option.Rel Alike (nameAfter? keyword skipped t) (nameAfter? keyword skipped t') := by
  unfold nameAfter?
  rcases keyword_cases keyword h with ⟨hnone, hnone'⟩ | ⟨f, f', hfound, hfound', hf⟩
  · rw [hnone, hnone']
    exact .none
  · rw [hfound, hfound']
    apply filter_alike (identifier?_alike (hf.after.skipPhrase hskipped).rest)
    intro u u' hu
    rw [clauseKeywords_alike hu]

theorem or_alike {a a' b b' : Option Text} (ha : Option.Rel Alike a a') (hb : Option.Rel Alike b b') :
    Option.Rel Alike (a.or b) (a'.or b') := by
  cases ha with
  | none => exact hb
  | some hu => exact .some hu

theorem head?_alike {ts ts' : List Text} (h : List.Forall₂ Alike ts ts') :
    Option.Rel Alike ts.head? ts'.head? := by
  cases h with
  | nil => exact .none
  | cons hu _ => exact .some hu

/-- **The names of the `FROM` list** are alike, with their repetitions. -/
theorem listedNames_alike (joins : List Text) (h : Alike t t') :
    List.Forall₂ Alike (listedNames joins t) (listedNames joins t') := by
  unfold listedNames
  rw [← find?_map_after, ← find?_map_after]
  rcases keyword_cases "FROM" h with ⟨hnone, hnone'⟩ | ⟨f, f', hfound, hfound', hf⟩
  · rw [hnone, hnone']
    exact .nil
  · rw [hfound, hfound']
    have hlist := upTo_alike (ignoresSpelling_ruleOf (fromTerminators ++ joins)) hf.after
    apply List.rel_filterMap (fun _ _ hu => identifier?_alike hu)
    exact (cut_alike ignoresSpelling_comma (.start hlist)).segments

/-- **The table a statement is about** is named alike. -/
theorem target_alike (joins : List Text) (command : Option Command) (h : Alike t t') :
    Option.Rel Alike (Tables.ofStatement joins command t).target
      (Tables.ofStatement joins command t').target := by
  have hname : ∀ keyword : String, Option.Rel Alike (nameAfter? keyword [] t) (nameAfter? keyword [] t') :=
    fun keyword => nameAfter?_alike keyword (fun q hq => absurd hq (by simp)) h
  have htests : Option.Rel Alike (nameAfter? "TABLE" existenceTests t)
      (nameAfter? "TABLE" existenceTests t') := by
    apply nameAfter?_alike "TABLE" _ h
    intro q hq
    have hq : q ∈ ["IF NOT EXISTS".toList, "IF EXISTS".toList].map ofText := hq
    exact unbroken_of_mem_map hq
  cases command with
  | none => exact .none
  | some c =>
      cases c with
      | select =>
          show Option.Rel Alike (Tables.ofSelect joins t).target (Tables.ofSelect joins t').target
          rw [ofSelect_eq, ofSelect_eq, head?_eraseDups, head?_eraseDups]
          exact head?_alike (listedNames_alike joins h)
      | insert => exact hname "INTO"
      | update => exact hname "UPDATE"
      | delete => exact hname "FROM"
      | createTable => exact htests
      | drop => exact htests
      | alter => exact htests
      | truncate => exact or_alike (hname "TABLE") (hname "TRUNCATE")
      | createIndex => exact hname "ON"

/-! ## Columns -/

/-- Alike words are names of aliases or not alike. -/
theorem isAliasName_alike (h : Alike t t') : isAliasName t = isAliasName t' := by
  have hsymbol : ∀ {c d x : Char}, AlikeChar c d → x.isAlpha = false → isBlank x = false →
      decide (c = x) = decide (d = x) := fun hcd hletter hblank =>
    decide_eq_decide.mpr (hcd.eq_iff hletter hblank)
  cases h with
  | nil => rfl
  | @cons c d rest rest' hcd hrest =>
      simp only [isAliasName]
      rw [hcd.isAlpha_eq, hsymbol hcd (by decide) (by decide)]
      congr 1
      induction hrest with
      | nil => rfl
      | cons hef _ ih =>
          rw [List.all_cons, List.all_cons, ih, hef.isAlphanum_eq, hsymbol hef (by decide) (by decide),
            hsymbol hef (by decide) (by decide)]

theorem isBareAlias_alike {previous previous' last last' : Text} (hprevious : Alike previous previous')
    (hlast : Alike last last') : isBareAlias previous last = isBareAlias previous' last' := by
  have htails : Unbroken reservedTails := unbroken_of_all (by decide)
  have hwords : Unbroken expressionWords := unbroken_of_all (by decide)
  have hoperator : previous.getLast?.any operatorChars.contains =
      previous'.getLast?.any operatorChars.contains := by
    have hend := getLast?_alike hprevious
    generalize previous.getLast? = c at hend
    generalize previous'.getLast? = d at hend
    cases hend with
    | none => rfl
    | some hcd => exact hcd.contains_eq (by decide)
  unfold isBareAlias
  rw [isAliasName_alike hlast, hlast.contains_upper_eq htails, hprevious.contains_upper_eq hwords,
    hoperator]

theorem joinWith_alike (sep : String) {ts ts' : List Text} (h : List.Forall₂ Alike ts ts') :
    Alike (joinWith sep ts) (joinWith sep ts') := by
  induction h with
  | nil => exact .nil
  | @cons u u' ts ts' hu h ih =>
      cases h with
      | nil => rwa [joinWith_singleton, joinWith_singleton]
      | cons _ _ =>
          rw [joinWith_cons_cons, joinWith_cons_cons]
          exact List.rel_append hu (List.rel_append (Alike.refl _) ih)

theorem withoutBareAlias_alike {parts parts' : List Text} (hparts : List.Forall₂ Alike parts parts')
    (h : Alike t t') : Alike (withoutBareAlias parts t) (withoutBareAlias parts' t') := by
  have hinit : List.Forall₂ Alike parts.dropLast parts'.dropLast := by
    rw [List.dropLast_eq_take, List.dropLast_eq_take, hparts.length_eq]
    exact List.forall₂_take _ hparts
  have hback : List.Forall₂ Alike parts.reverse parts'.reverse := List.rel_reverse hparts
  unfold withoutBareAlias
  generalize parts.reverse = back at hback
  generalize parts'.reverse = back' at hback
  cases hback with
  | nil => exact h.trim
  | cons hlast hbefore =>
      cases hbefore with
      | nil => exact h.trim
      | cons hprevious _ =>
          dsimp only
          rw [isBareAlias_alike hprevious hlast]
          split
          · exact joinWith_alike " " hinit
          · exact h.trim

/-- **The entries of a select list** lose alike aliases. -/
theorem stripAlias_alike (h : Alike t t') : Alike (stripAlias t) (stripAlias t') := by
  have hbare := withoutBareAlias_alike (topLevelWords_alike h) h
  rw [stripAlias_eq, stripAlias_eq]
  rcases keyword_cases "AS" h with ⟨hnone, hnone'⟩ | ⟨⟨lead, _, _⟩, ⟨lead', _, _⟩, hfound, hfound', hf⟩
  · rw [hnone, hnone']
    exact hbare
  · rw [hfound, hfound']
    have hlead : Alike lead lead' := hf.lead
    cases hlead with
    | nil => exact hbare
    | cons hcd hrest => exact Alike.trim (.cons hcd hrest)

theorem selectList?_alike (h : Alike t t') : Option.Rel Alike (selectList? t) (selectList? t') := by
  have hmodifiers : ∀ q ∈ selectModifiers, Unbroken q.words := by
    intro q hq
    have hq : q ∈ ["DISTINCT".toList, "ALL".toList].map ofText := hq
    exact unbroken_of_mem_map hq
  unfold selectList?
  rcases keyword_cases "SELECT" h with ⟨hnone, hnone'⟩ | ⟨f, f', hfound, hfound', hf⟩
  · rw [hnone, hnone']
    exact .none
  · rw [hfound, hfound']
    have hlist : Alike (trim ((keywordRule "FROM").upTo f.after))
        (trim ((keywordRule "FROM").upTo f'.after)) :=
      (upTo_alike (ignoresSpelling_ruleOf ["FROM".toList]) hf.after).trim
    have hmodifier := findSome?_congr fun q hq =>
      (Place.Alike.start hlist).width?_eq (hmodifiers q hq)
    dsimp only
    rw [hmodifier]
    split
    · exact .some (List.forall₂_drop _ hlist)
    · exact .some hlist

theorem selectColumns_alike (h : Alike t t') :
    List.Forall₂ Alike (selectColumns t) (selectColumns t') := by
  have hlist := selectList?_alike h
  unfold selectColumns
  generalize selectList? t = list at hlist
  generalize selectList? t' = list' at hlist
  cases hlist with
  | none => exact .nil
  | some hu => exact List.rel_map (fun _ _ he => stripAlias_alike he) (splitTopLevel_alike hu)

theorem groupEntries_alike (h : Alike t t') : List.Forall₂ Alike (groupEntries t) (groupEntries t') := by
  cases h with
  | nil => exact .nil
  | @cons c d rest rest' hcd hrest =>
      have hopen := hcd.eq_iff (x := '(') (by decide) (by decide)
      by_cases hc : c = '('
      · obtain rfl := hc
        obtain rfl := hopen.mp rfl
        have hclose : matchingParen? ('(' :: rest) 0 = matchingParen? ('(' :: rest') 0 :=
          closingFrom_alike (.cons hcd hrest) 0 0
        simp only [groupEntries, hclose]
        split
        · exact splitTopLevel_alike (List.forall₂_take _ hrest)
        · exact .nil
      · rw [groupEntries_of_ne hc, groupEntries_of_ne (mt hopen.mpr hc)]
        exact .nil

theorem insertColumns_alike (h : Alike t t') :
    List.Forall₂ Alike (insertColumns t) (insertColumns t') := by
  rw [insertColumns_eq, insertColumns_eq]
  rcases keyword_cases "INTO" h with ⟨hnone, hnone'⟩ | ⟨f, f', hfound, hfound', hf⟩
  · rw [hnone, hnone']
    exact .nil
  · rw [hfound, hfound']
    have hafter := hf.after.rest
    apply groupEntries_alike
    rw [← (readIdentifier_alike hafter).2]
    exact Alike.trimLeft (List.forall₂_drop _ hafter)

theorem assignedColumn?_alike (h : Alike t t') :
    Option.Rel Alike (assignedColumn? t) (assignedColumn? t') := by
  have hcolumn : Alike (trim (t.takeWhile (· ≠ '='))) (trim (t'.takeWhile (· ≠ '='))) := by
    refine Alike.trim (forall₂_takeWhile (fun c d hcd => ?_) h)
    rw [decide_not, decide_not, decide_eq_decide.mpr (hcd.eq_iff (by decide) (by decide))]
  unfold assignedColumn?
  dsimp only
  rw [h.contains_eq (by decide) (by decide)]
  simp only [ne_eq, hcolumn.eq_nil_iff]
  split
  · exact .some hcolumn
  · exact .none

theorem assignedColumns_alike (h : Alike t t') :
    List.Forall₂ Alike (assignedColumns t) (assignedColumns t') := by
  unfold assignedColumns
  rcases keyword_cases "SET" h with ⟨hnone, hnone'⟩ | ⟨f, f', hfound, hfound', hf⟩
  · rw [hnone, hnone']
    exact .nil
  · rw [hfound, hfound']
    have hlist := upTo_alike (ignoresSpelling_ruleOf setTerminators) hf.after
    apply List.rel_filterMap (fun _ _ ha => assignedColumn?_alike ha)
    exact splitTopLevel_alike hlist

/-- **The columns of alike statements are alike**, whatever the command. -/
theorem columns_alike (command : Option Command) (h : Alike t t') :
    List.Forall₂ Alike (columns command t) (columns command t') := by
  have hinsert : List.Forall₂ Alike (columns (some .insert) t) (columns (some .insert) t') := by
    have hlisted := insertColumns_alike h
    unfold columns
    dsimp only
    generalize insertColumns t = listed at hlisted
    generalize insertColumns t' = listed' at hlisted
    cases hlisted with
    | nil => exact assignedColumns_alike h
    | cons hu hrest => exact .cons hu hrest
  cases command with
  | none => exact .nil
  | some c =>
      cases c with
      | select => exact selectColumns_alike h
      | insert => exact hinsert
      | update => exact assignedColumns_alike h
      | delete | createTable | drop | alter | truncate | createIndex => exact .nil

/-! ## The main result -/

/-- **Letter case and kinds of blanks do not matter.** Alike texts start with the same command and have
    joins or not alike, for all join keywords. They are divided into as many statements, which are alike in
    turn; with any command, they list as many columns, which are alike, and the tables they are about are
    alike or missing in both. -/
theorem spelling_ignored {s s' : Text} (h : Alike s s') :
    Command.ofStatement? s = Command.ofStatement? s' ∧
      (∀ joins, hasJoin joins s = hasJoin joins s') ∧
      List.Forall₂ Alike (statements s) (statements s') ∧
      ∀ command,
        List.Forall₂ Alike (columns command s) (columns command s') ∧
        ∀ joins, Option.Rel Alike (Tables.ofStatement joins command s).target
          (Tables.ofStatement joins command s').target :=
  ⟨ofStatement?_alike h, fun joins => hasJoin_alike joins h, statements_alike h, fun command =>
    ⟨columns_alike command h, fun joins => target_alike joins command h⟩⟩

/-- Lower case, tabs and line ends in one text; upper case, blanks and a no-break space in the other. -/
theorem spelling_ignored_select :
    let s := "select\tdistinct (a + b)\tas c, d e\nfrom t left\njoin u; update\tv set w = 1".toList
    let s' := "SELECT DISTINCT (A + B) AS C, D\u00a0E FROM T LEFT JOIN U; UPDATE V SET W = 1".toList
    Alike s s' ∧
      Command.ofStatement? s = Command.ofStatement? s' ∧
      (∀ joins, hasJoin joins s = hasJoin joins s') ∧
      List.Forall₂ Alike (statements s) (statements s') ∧
      ∀ command,
        List.Forall₂ Alike (columns command s) (columns command s') ∧
        ∀ joins, Option.Rel Alike (Tables.ofStatement joins command s).target
          (Tables.ofStatement joins command s').target := by
  intro s s'
  have h : Alike s s' := by decide
  exact ⟨h, spelling_ignored h⟩

end SqlSkim
