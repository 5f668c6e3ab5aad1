import SqlSkim.Proofs.Statement.Command
import SqlSkim.Proofs.Statement.Name

/-!
# `Statement.ClauseKeyword` — clause keywords in the place of a table

A name behind the keyword of a command is dropped if it is a clause keyword: the name is missing, and the
next clause stands there. The names of a selection are not looked at that way, neither those of the `FROM`
list nor those behind joins. Of the list this much holds: it ends at the first `WHERE`, so that no entry of it
starts with that keyword.

## Contents
- `isClauseKeyword`, `nameAfter?_not_clauseKeyword`: the names that are dropped.
- `exists_of_mem_entries`: where the entries of a list stand.
- `upper_ne_of_mem_listedNames`: what ends the `FROM` list is not in it.
- `clauseKeyword_mem_all_iff`: the main result.
-/

namespace SqlSkim

open Phrase

/-! ## The names that are dropped -/

/-- Whether a name is a clause keyword, in any letter case. -/
def isClauseKeyword (name : Text) : Bool := clauseKeywords.contains (upper name)

theorem nameAfter?_not_clauseKeyword {keyword : String} {skipped : List Phrase} {statement name : Text}
    (h : nameAfter? keyword skipped statement = some name) : isClauseKeyword name = false := by
  rw [nameAfter?_eq, Option.bind_eq_some_iff] at h
  obtain ⟨place, _, hname⟩ := h
  have hkept := (Option.filter_eq_some_iff.mp hname).2
  rwa [Bool.not_eq_true'] at hkept

/-- The tables that a selection lists are those in its `FROM` list and those behind its joins. -/
theorem mem_all_ofSelect_iff {joins : List Text} {statement name : Text} :
    name ∈ (Tables.ofSelect joins statement).all ↔
      name ∈ listedNames joins statement ∨ name ∈ joinedNames joins statement := by
  rw [ofSelect_eq, Tables.all, List.mem_eraseDups, List.mem_append, List.mem_append, List.mem_eraseDups,
    List.mem_eraseDups, head?_eraseDups]
  refine or_congr_left ⟨?_, .inr⟩
  rintro (htarget | hlisted)
  · have hfirst := List.mem_of_mem_filter htarget
    exact List.mem_of_mem_head? (Option.mem_toList.mp hfirst)
  · exact hlisted

theorem mem_all_of_target {target : Option Text} {name : Text} (h : name ∈ (Tables.mk target [] []).all) :
    target = some name := by
  rw [Tables.all, List.mem_eraseDups, List.append_nil, List.append_nil] at h
  exact Option.mem_toList.mp (List.mem_of_mem_filter h)

/-- **Statements that are no selections** have one table at most, and no clause keyword for it. -/
theorem not_clauseKeyword_of_ne_select {joins : List Text} {command : Option Command} {statement name : Text}
    (hcommand : command ≠ some .select) (h : name ∈ (Tables.ofStatement joins command statement).all) :
    isClauseKeyword name = false := by
  cases command with
  | none => exact absurd (mem_all_of_target h) (by simp)
  | some c =>
      cases c with
      | select => exact absurd rfl hcommand
      | truncate =>
          rcases Option.or_eq_some_iff.mp (mem_all_of_target h) with htable | ⟨_, htruncate⟩
          · exact nameAfter?_not_clauseKeyword htable
          · exact nameAfter?_not_clauseKeyword htruncate
      | createTable | createIndex | insert | update | delete | drop | alter =>
          exact nameAfter?_not_clauseKeyword (mem_all_of_target h)

/-! ## Where things stand -/

/-- **Where an entry of a list stands**: at its start or behind a comma, and before its end or a comma. -/
theorem exists_of_mem_entries {before : Option Char} {depth : Nat} {t : Text} {cut : Cut Char}
    (h : CutsInto (Rule.char ([·] = [','])) before depth t cut) :
    ∀ s ∈ cut.segments, ∃ u v, t = u ++ (s ++ v) ∧
      (u = [] ∨ depthAfterText depth u = 0 ∧ u.getLast? = some ',') ∧
      (v = [] ∨ v.head? = some ',') := by
  induction h with
  | @last before depth u _ =>
      intro s hs
      obtain rfl : s = u := by simpa [Cut.segments] using hs
      exact ⟨[], [], by simp, .inl rfl, .inl rfl⟩
  | @token before depth u rest c label width after _ hdepth _ hrule _ _ ih =>
      obtain ⟨_, hfront, hlabel, rfl⟩ := char_eq_some hrule
      obtain ⟨rfl, rfl⟩ := List.cons.inj hfront
      obtain rfl : c = ',' := by simpa using hlabel
      intro s hs
      rcases List.mem_cons.mp hs with rfl | hs
      · exact ⟨[], ',' :: rest, rfl, .inl rfl, .inr rfl⟩
      · obtain ⟨u', v, hrest, hstart, hend⟩ := ih s hs
        have hcomma : depthAfterText depth (u ++ [',']) = 0 := by
          rw [depthAfterText_append, hdepth]
          rfl
        refine ⟨u ++ [','] ++ u', v, ?_, .inr ?_, hend⟩
        · rw [List.append_assoc, List.append_assoc, ← hrest]
          rfl
        · rcases hstart with rfl | ⟨hdepth', hlast⟩
          · rw [List.append_nil]
            exact ⟨hcomma, List.getLast?_concat⟩
          · refine ⟨?_, ?_⟩
            · rw [depthAfterText_append, hcomma]
              exact hdepth'
            · rw [List.getLast?_append, hlast]
              rfl

/-- **The text up to the first token** is quiet, and behind it stands a token or nothing. -/
theorem exists_behind_upTo (keywords : List Text) (p : Place) :
    ∃ tail, p.rest = (ruleOf keywords).upTo p ++ tail ∧
      Quiet (ruleOf keywords) p.before 0 ((ruleOf keywords).upTo p) tail ∧
      (tail = [] ∨ (lastOr p.before ((ruleOf keywords).upTo p)).any isWordChar = false) := by
  obtain ⟨before, t⟩ := p
  have hcut : CutsInto (ruleOf keywords) before 0 t ((ruleOf keywords).cut ⟨before, t⟩) :=
    cutsInto_cutFrom (ruleOf_width_pos keywords) before 0 t
  unfold Rule.upTo
  generalize (ruleOf keywords).cut ⟨before, t⟩ = cut at hcut
  cases hcut with
  | last hquiet => exact ⟨[], by simp, hquiet, .inl rfl⟩
  | @token _ _ u rest c q width after hquiet _ _ hrule _ _ =>
      refine ⟨c :: rest, rfl, hquiet, .inr ?_⟩
      -- a phrase stands only where no word runs on
      exact (width?_eq_some_iff.mp (width?_of_longest? hrule).2).2.1

/-- Behind a keyword no word goes on. -/
theorem not_continuesWord_of_mem_behind {keyword : String} (hwords : (ofText keyword.toList).words =
    [keyword.toList]) (hkeyword : IsKeyword keyword.toList) {p place : Place}
    (h : place ∈ (keywordRule keyword).behind p) : continuesWord place.rest = false := by
  obtain ⟨q, label, width, hrule, rfl⟩ := exists_of_mem_behind h
  obtain ⟨hmem, hwidth⟩ := width?_of_longest? hrule
  obtain rfl : label = ofText keyword.toList := by simpa using hmem
  obtain ⟨_, _, hwidth⟩ := width?_eq_some_iff.mp hwidth
  rw [hwords] at hwidth
  exact (wordsWidth?_covers (List.forall_mem_singleton.mpr hkeyword) (by simp) hwidth).2.2.2

/-! ## The `FROM` list -/

/-- What stands behind a name does not go on with a word. -/
theorem not_continuesWord_behind_name {before : Option Char} {u name rest v tail : Text}
    (hname : ∀ c ∈ name, isWordChar c = true) (hne : name ≠ [])
    (hrest : rest.head?.all endsIdentifier = true) (hv : v = [] ∨ v.head? = some ',')
    (htail : tail = [] ∨ (lastOr before (u ++ (name ++ (rest ++ v)))).any isWordChar = false) :
    continuesWord (rest ++ v ++ tail) = false := by
  cases rest with
  | cons c rest => exact isWordChar_of_endsIdentifier hrest
  | nil =>
      cases v with
      | cons c v =>
          obtain rfl : c = ',' := by simpa using hv
          rfl
      | nil =>
          -- the list ends with the name, whose last character no keyword may follow
          rcases htail with rfl | htail
          · rfl
          · obtain ⟨c, hc, hlast⟩ := exists_lastOr (lastOr before u) hne
            rw [List.append_nil, List.append_nil, lastOr_append, hlast] at htail
            rw [Option.any_some, hname c hc] at htail
            exact absurd htail (by decide)

/-- What stands before a name does not run on into it: a blank, a comma, or what ends a word. -/
theorem no_word_before_name {before : Option Char} {u blanks name behind : Text}
    (hname : ∀ c ∈ name, isWordChar c = true) (hne : name ≠ []) (hblanks : ∀ c ∈ blanks, isBlank c = true)
    (hu : u = [] ∨ u.getLast? = some ',')
    (hfront : continuesWord (u ++ (blanks ++ (name ++ behind))) = false) :
    (lastOr before (u ++ blanks)).any isWordChar = false := by
  by_cases hblank : blanks = []
  · subst hblank
    rw [List.append_nil]
    rcases hu with rfl | hlast
    · -- the name would go on with the word that stands before the whole list
      obtain ⟨c, more, rfl⟩ := List.exists_cons_of_ne_nil hne
      have hc : isWordChar c = false := hfront
      rw [hname c (by simp)] at hc
      exact absurd hc (by decide)
    · rw [lastOr, hlast]
      rfl
  · obtain ⟨c, hc, hlast⟩ := exists_lastOr (lastOr before u) hblank
    rw [lastOr_append, hlast]
    exact isWordChar_of_isBlank (hblanks c hc)

/-- No quiet stretch starts with a keyword of the rule between two ends of words. -/
theorem Quiet.upper_ne {keywords : List Text} {before : Option Char} {name more tail w : Text}
    (hquiet : Quiet (ruleOf keywords) before 0 (name ++ more) tail) (hw : IsKeyword w)
    (hwords : (ofText w).words = [w]) (hmem : w ∈ keywords) (hbefore : before.any isWordChar = false)
    (hbehind : continuesWord (more ++ tail) = false) : upper name ≠ w := by
  intro hup
  cases name with
  | nil => exact hw.ne_nil hup.symm
  | cons c name =>
      have hc := isWordChar_of_upper_eq hw.capital hup c (by simp)
      have hnone := hquiet.1 rfl (isParen_eq_false_of_word_or_blank (.inl hc))
      have hstands : (ofText w).width? ⟨before, c :: (name ++ more ++ tail)⟩ = some w.length := by
        unfold width?
        rw [hwords, if_neg (by simp [hbefore]), List.append_assoc]
        exact hw.wordsWidth?_of_upper_eq hup hbehind
      have hwidth := longest?_eq_none_iff.mp hnone _ (List.mem_map_of_mem hmem)
      exact absurd (hstands.symm.trans hwidth) (by simp)

/-- **What ends the `FROM` list is no name of it**, if it is a single word. -/
theorem upper_ne_of_mem_listedNames {joins : List Text} {statement name w : Text}
    (h : name ∈ listedNames joins statement) (hw : IsKeyword w) (hwords : (ofText w).words = [w])
    (hmem : w ∈ fromTerminators ++ joins) : upper name ≠ w := by
  intro hup
  have hfrom : IsKeyword "FROM".toList := isKeyword_of_all (by decide +kernel)
  have hword := isWordChar_of_upper_eq hw.capital hup
  unfold listedNames at h
  split at h
  · exact absurd h (by simp)
  · next place hplace =>
      have hfront := not_continuesWord_of_mem_behind (by decide) hfrom (List.mem_of_mem_head? hplace)
      obtain ⟨s, hs, hname⟩ := List.mem_filterMap.mp h
      obtain ⟨tail, hrest, hquiet, htail⟩ := exists_behind_upTo (fromTerminators ++ joins) place
      generalize (ruleOf (fromTerminators ++ joins)).upTo place = list at hs hrest hquiet htail
      have hcut := cutsInto_cutFrom (char_width_pos ([·] = [','])) none 0 list
      obtain ⟨u, v, rfl, hu, hv⟩ := exists_of_mem_entries hcut s hs
      obtain ⟨blanks, rest, rfl, hblanks, hne, hend⟩ := exists_of_identifier? hname
      have hstart : continuesWord (u ++ (blanks ++ (name ++ (rest ++ v ++ tail)))) = false := by
        rw [hrest] at hfront
        simpa only [List.append_assoc] using hfront
      have hbefore : (lastOr place.before (u ++ blanks)).any isWordChar = false :=
        no_word_before_name hword hne hblanks (hu.imp id (·.2)) hstart
      have hlast : tail = [] ∨
          (lastOr place.before ((u ++ blanks) ++ (name ++ (rest ++ v)))).any isWordChar = false := by
        simpa only [List.append_assoc] using htail
      have hbehind : continuesWord (rest ++ v ++ tail) = false :=
        not_continuesWord_behind_name hword hne hend hv hlast
      have hdepth : depthAfterText 0 (u ++ blanks) = 0 := by
        rw [depthAfterText_append, depthAfterText_of_no_paren (no_paren_of_blank hblanks)]
        rcases hu with rfl | ⟨hdepth, _⟩
        · rfl
        · exact hdepth
      -- from the name on, the list is a quiet stretch
      have hsplit : u ++ (blanks ++ (name ++ rest) ++ v) = (u ++ blanks) ++ (name ++ (rest ++ v)) := by
        simp only [List.append_assoc]
      rw [hsplit, quiet_append_iff, hdepth] at hquiet
      exact hquiet.2.upper_ne hw hwords hmem hbefore hbehind hup

/-! ## The main result -/

/-- **Where clause keywords pass for tables.** A clause keyword is among the tables of a statement only if the
    statement is a selection. There, it is a name behind a join, or one of the `FROM` list and not `WHERE`, at
    which that list ends; and every such name is among the tables. -/
theorem clauseKeyword_mem_all_iff (joins : List Text) (command : Option Command) (statement : Text)
    {name : Text} (hname : isClauseKeyword name = true) :
    name ∈ (Tables.ofStatement joins command statement).all ↔
      command = some .select ∧
        ((name ∈ listedNames joins statement ∧ upper name ≠ "WHERE".toList) ∨
          name ∈ joinedNames joins statement) := by
  have hwhere : ∀ {n : Text}, n ∈ listedNames joins statement → upper n ≠ "WHERE".toList := fun h =>
    upper_ne_of_mem_listedNames h (isKeyword_of_all (by decide +kernel)) (by decide)
      (List.mem_append_left joins (by decide))
  constructor
  · intro hmem
    have hselect : command = some .select := by
      by_contra hcommand
      rw [not_clauseKeyword_of_ne_select hcommand hmem] at hname
      exact absurd hname (by decide)
    subst hselect
    refine ⟨rfl, ?_⟩
    rcases mem_all_ofSelect_iff.mp hmem with hlisted | hjoined
    · exact .inl ⟨hlisted, hwhere hlisted⟩
    · exact .inr hjoined
  · rintro ⟨rfl, ⟨hlisted, _⟩ | hjoined⟩
    · exact mem_all_ofSelect_iff.mpr (.inl hlisted)
    · exact mem_all_ofSelect_iff.mpr (.inr hjoined)

/-- The keyword behind a join, in small letters. -/
theorem clauseKeyword_mem_all_join :
    let statement := "SELECT a FROM t, (b) c JOIN where x = 1".toList
    let name := "where".toList
    isClauseKeyword name = true ∧
      (name ∈ (Tables.ofStatement defaultJoinKeywords (some .select) statement).all ↔
        some Command.select = some .select ∧
          ((name ∈ listedNames defaultJoinKeywords statement ∧ upper name ≠ "WHERE".toList) ∨
            name ∈ joinedNames defaultJoinKeywords statement)) := by
  intro statement name
  have hname : isClauseKeyword name = true := by decide
  exact ⟨hname, clauseKeyword_mem_all_iff defaultJoinKeywords (some .select) statement hname⟩

/-- Behind a join even `WHERE` is given as a table, and in the `FROM` list `SET` is. -/
theorem clauseKeyword_reported :
    ("WHERE".toList ∈ (Tables.ofStatement defaultJoinKeywords (some .select)
        "SELECT a FROM t JOIN WHERE x = 1".toList).all ∧ isClauseKeyword "WHERE".toList = true) ∧
      ("SET".toList ∈ (Tables.ofStatement defaultJoinKeywords (some .select) "SELECT a FROM SET".toList).all ∧
        isClauseKeyword "SET".toList = true) := by
  decide +kernel

end SqlSkim
