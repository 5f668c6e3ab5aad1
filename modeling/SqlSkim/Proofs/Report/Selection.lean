import SqlSkim.Proofs.Report.Single
import SqlSkim.Proofs.Statement.Plain

/-!
# `Report.Selection` — a selection that is written out is read back

A selection of plain columns from plain tables, with joins and a condition in parentheses, is written out as
a text, and the report on that text says what was written: no alias is taken for a name, no name for a
keyword, and nothing in the condition is seen but its subqueries.

## Contents
- `Entry`, `JoinedTable`, `Selection`: selections, and how they are written.
- `stripAlias_entry`, `selectColumns_text`: the columns.
- `listedNames_text`, `joinedPlaces_text`: the tables.
- `report_selection`: the main result.
-/

namespace SqlSkim

open Phrase

/-! ## Selections -/

/-- **The alias of a name**, written with or without `AS`. Not every name can be a bare alias. -/
inductive Alias (canBeBare : Text → Bool) where
  | none
  | as (name : PlainName selectWords)
  | bare (name : PlainName selectWords) (h : canBeBare name.text = true)

def Alias.text {canBeBare : Text → Bool} : Alias canBeBare → Text
  | .none => []
  | .as name => ' ' :: ("AS".toList ++ ' ' :: name.text)
  | .bare name _ => ' ' :: name.text

/-- An entry of a list: a name with an alias. -/
structure Entry (canBeBare : Text → Bool) where
  name : PlainName selectWords
  renamed : Alias canBeBare

def Entry.text {canBeBare : Text → Bool} (e : Entry canBeBare) : Text := e.name.text ++ e.renamed.text

/-- A column: its bare alias is one that `stripAlias` knows. -/
abbrev SelectedColumn := Entry isAliasName

/-- A table: its bare alias is any plain name. -/
abbrev SelectedTable := Entry fun _ => true

/-- A joined table with the two sides of its condition. -/
structure JoinedTable where
  keyword : Text
  keyword_mem : keyword ∈ defaultJoinKeywords
  table : PlainName selectWords
  renamed : Option (PlainName selectWords)
  left : PlainName selectWords
  right : PlainName selectWords

namespace JoinedTable

def aliasText (j : JoinedTable) : Text := j.renamed.elim [] fun name => ' ' :: name.text

/-- What stands behind the keyword: `t a ON x = y`. -/
def body (j : JoinedTable) : Text :=
  j.table.text ++ (j.aliasText ++ ' ' :: ("ON".toList ++ ' ' ::
    (j.left.text ++ ' ' :: '=' :: ' ' :: j.right.text)))

def text (j : JoinedTable) : Text := j.keyword ++ ' ' :: j.body

end JoinedTable

/-- **A selection**: columns, tables, joins, and a condition in parentheses. -/
structure Selection where
  columns : List SelectedColumn
  columns_ne_nil : columns ≠ []
  tables : List SelectedTable
  tables_ne_nil : tables ≠ []
  joins : List JoinedTable
  condition : Option PlainGroup

namespace Selection

def columnList (s : Selection) : Text := joinWith ", " (s.columns.map (·.text))

def tableList (s : Selection) : Text := joinWith ", " (s.tables.map (·.text))

/-- The joins, with a blank before each. -/
def joinList (s : Selection) : Text := s.joins.flatMap fun j => ' ' :: j.text

def conditionText (s : Selection) : Text :=
  s.condition.elim [] fun group => ' ' :: ("WHERE".toList ++ ' ' :: inParens group.text)

/-- The groups of the selection. -/
def groups (s : Selection) : List Text := s.condition.toList.map (·.text)

/-- What stands behind `FROM`. -/
def source (s : Selection) : Text := s.tableList ++ (s.joinList ++ s.conditionText)

/-- `SELECT columns FROM tables joins WHERE (condition)`. -/
def text (s : Selection) : Text :=
  "SELECT".toList ++ ' ' :: (s.columnList ++ ' ' :: ("FROM".toList ++ ' ' :: s.source))

end Selection

/-! ## What the parts are inert for -/

/-- The words that end the parts of a selection. -/
def bodyHeads : List Text :=
  firstWords (fromTerminators ++ defaultJoinKeywords) ++ ["UNION".toList, "FROM".toList]

theorem bodyHeads_subset : bodyHeads ⊆ selectWords := by decide

theorem firstWords_from_subset : firstWords ["FROM".toList] ⊆ bodyHeads := by
  have hfirst : firstWords ["FROM".toList] = ["FROM".toList] := by rfl
  rw [hfirst]
  simp [bodyHeads]

theorem joinHeads_subset : joinHeads ⊆ bodyHeads := by decide

theorem inert_as : Inert wordGaps bodyHeads [] "AS".toList :=
  inert_capital (by decide)

theorem Entry.inert {canBeBare : Text → Bool} (e : Entry canBeBare) :
    Inert wordGaps bodyHeads [] e.text := by
  have hname : ∀ name : PlainName selectWords, Inert wordGaps bodyHeads [] name.text := fun name =>
    name.inert wordGaps bodyHeads_subset
  obtain ⟨name, renamed⟩ := e
  show Inert wordGaps bodyHeads [] (name.text ++ renamed.text)
  cases renamed with
  | none =>
      show Inert wordGaps bodyHeads [] (name.text ++ [])
      rw [List.append_nil]
      exact hname name
  | as other =>
      exact .spaced isSpacing_wordGaps (hname name) (.spaced isSpacing_wordGaps inert_as (hname other))
  | bare other _ => exact .spaced isSpacing_wordGaps (hname name) (hname other)

/-- The name of an entry is the one at its front. -/
theorem Entry.identifier?_text {canBeBare : Text → Bool} (e : Entry canBeBare) :
    identifier? e.text = some e.name.text := by
  refine identifier?_word e.name.isWord ?_
  cases e.renamed <;> rfl

theorem Entry.isSolid {canBeBare : Text → Bool} (e : Entry canBeBare) : IsSolid e.text := by
  obtain ⟨name, renamed⟩ := e
  show IsSolid (name.text ++ renamed.text)
  cases renamed with
  | none =>
      show IsSolid (name.text ++ [])
      rw [List.append_nil]
      exact name.isWord.isSolid
  | as other =>
      have htext : (Alias.as other : Alias canBeBare).text = " AS ".toList ++ other.text := rfl
      rw [htext]
      exact name.isWord.isSolid.append other.isWord.isSolid _
  | bare other _ => exact name.isWord.isSolid.append other.isWord.isSolid [' ']

/-- A list of entries is inert and solid. -/
theorem inert_entries {canBeBare : Text → Bool} (entries : List (Entry canBeBare)) :
    Inert listGaps bodyHeads [] (joinWith ", " (entries.map (·.text))) := by
  refine inert_list fun t ht => ?_
  obtain ⟨e, _, rfl⟩ := List.mem_map.mp ht
  exact e.inert.mono wordGaps_subset_listGaps (List.Subset.refl _)

theorem isSolid_entries {canBeBare : Text → Bool} {entries : List (Entry canBeBare)}
    (hne : entries ≠ []) : IsSolid (joinWith ", " (entries.map (·.text))) := by
  refine isSolid_joinWith (by simpa using hne) fun t ht => ?_
  obtain ⟨e, _, rfl⟩ := List.mem_map.mp ht
  exact e.isSolid

/-- The entries of a list are found again, with any blanks around the list. -/
theorem splitTopLevel_entries {canBeBare : Text → Bool} {entries : List (Entry canBeBare)}
    (hne : entries ≠ []) {x y : Text} (hx : ∀ c ∈ x, isBlank c = true)
    (hy : ∀ c ∈ y, isBlank c = true) :
    splitTopLevel [','] (x ++ (joinWith ", " (entries.map (·.text)) ++ y)) = entries.map (·.text) := by
  have hinert : ∀ t ∈ entries.map (·.text), ∃ bs, Inert wordGaps bodyHeads bs t := by
    intro t ht
    obtain ⟨e, _, rfl⟩ := List.mem_map.mp ht
    exact ⟨[], e.inert⟩
  have hsolid : ∀ t ∈ entries.map (·.text), IsSolid t := by
    intro t ht
    obtain ⟨e, _, rfl⟩ := List.mem_map.mp ht
    exact e.isSolid
  exact splitTopLevel_joinWith (by simpa using hne) hinert hsolid hx hy

theorem JoinedTable.inert_body (j : JoinedTable) : Inert listGaps joinHeads [] j.body := by
  have hname : ∀ name : PlainName selectWords, Inert listGaps joinHeads [] name.text := fun name =>
    name.inert listGaps fun _ h => bodyHeads_subset (joinHeads_subset h)
  have hon : Inert listGaps joinHeads [] "ON".toList :=
    inert_capital (by decide)
  have hsides : Inert listGaps joinHeads [] (j.left.text ++ ' ' :: '=' :: ' ' :: j.right.text) := by
    refine .spaced isSpacing_listGaps (hname j.left) ?_
    exact ((hname j.right).blank_cons isSpacing_listGaps).gap_cons isSpacing_listGaps (by decide)
  have hcondition := Inert.spaced isSpacing_listGaps hon hsides
  unfold body aliasText
  cases j.renamed with
  | none => exact .spaced isSpacing_listGaps (hname j.table) hcondition
  | some name =>
      refine .spaced isSpacing_listGaps (hname j.table) ?_
      exact .spaced isSpacing_listGaps (hname name) hcondition

theorem Selection.inert_conditionText (s : Selection) :
    Inert listGaps joinHeads s.groups s.conditionText := by
  have hwhere : Inert listGaps joinHeads [] "WHERE".toList :=
    inert_capital (by decide)
  unfold groups conditionText
  cases s.condition with
  | none => exact .nil
  | some group =>
      refine .blank_cons isSpacing_listGaps ?_
      exact .spaced isSpacing_listGaps hwhere (.group group.balanced)

/-! ## The keywords of a selection -/

theorem isLexicon_select : IsLexicon ["SELECT".toList] := by decide

theorem isLexicon_from : IsLexicon ["FROM".toList] := by decide

theorem isLexicon_as : IsLexicon ["AS".toList] := by decide

theorem firstWords_as_subset : firstWords ["AS".toList] ⊆ selectWords := by
  have hfirst : firstWords ["AS".toList] = ["AS".toList] := by rfl
  rw [hfirst]
  simp [selectWords]

theorem isLexicon_modifiers : IsLexicon ["DISTINCT".toList, "ALL".toList] := by decide

theorem isLexicon_fromTerminators : IsLexicon (fromTerminators ++ defaultJoinKeywords) := by
  decide

/-! ## Columns -/

/-- A plain name behind a plain name is an alias of it, if it is written like one. -/
theorem isBareAlias_of_plain (previous : PlainName selectWords) {last : PlainName selectWords}
    (h : isAliasName last.text = true) : isBareAlias previous.text last.text = true := by
  have htail : reservedTails.contains (upper last.text) = false :=
    last.contains_eq_false fun w hw => by simp [selectWords, hw]
  have hexpression : expressionWords.contains (upper previous.text) = false :=
    previous.contains_eq_false fun w hw => by simp [selectWords, hw]
  have hoperator : previous.text.getLast?.any operatorChars.contains = false := by
    rw [List.getLast?_eq_some_getLast previous.isWord.ne_nil, Option.any_some, List.contains_eq_mem,
      decide_eq_false_iff_not]
    intro hmem
    have hword := previous.isWord.isWordChar _ (List.getLast_mem previous.isWord.ne_nil)
    have hnone : operatorChars.all (!isWordChar ·) = true := by decide
    have hlast := List.all_eq_true.mp hnone _ hmem
    simp [hword] at hlast
  rw [isBareAlias, h, htail, hexpression, hoperator]
  rfl

/-- **The alias of a column** is taken off again. -/
theorem stripAlias_entry (e : SelectedColumn) : stripAlias e.text = e.name.text := by
  obtain ⟨name, renamed⟩ := e
  have hplain : ∀ n : PlainName selectWords, Inert wordGaps (firstWords ["AS".toList]) [] n.text :=
    fun n => n.inert wordGaps firstWords_as_subset
  have hname := hplain name
  have hwords : ∀ w ∈ [name.text], IsWord w := List.forall_mem_singleton.mpr name.isWord
  show stripAlias (name.text ++ renamed.text) = name.text
  cases renamed with
  | none =>
      -- one word is left as it is
      have hfind : (keywordRule "AS").find? (.start name.text) = none :=
        find?_of_quiet (hname.quiet (isLexicon_as.spares isSpacing_wordGaps) none 0
          (atBoundary_nil _))
      have hparts : topLevelWords name.text = [name.text] := by
        have hparts := topLevelWords_joinWith hwords
        rwa [joinWith_singleton] at hparts
      show stripAlias (name.text ++ []) = name.text
      rw [List.append_nil, stripAlias, hfind, hparts]
      exact name.isWord.isSolid.trim_eq
  | as other =>
      -- what stands before `AS` is the name and a blank
      have hfind := isLexicon_as.find?_spaced (List.mem_singleton_self _) isSpacing_wordGaps hname none
        other.text
      have htext : name.text ++ (Alias.as other : Alias isAliasName).text =
          name.text ++ ' ' :: ("AS".toList ++ ' ' :: other.text) := rfl
      have htrim := name.isWord.isSolid.trim_blank_concat
      rw [htext, stripAlias, keywordRule, Place.start, hfind]
      obtain ⟨c, rest, hrest⟩ := List.exists_cons_of_ne_nil name.isWord.ne_nil
      rw [hrest, List.cons_append] at htrim ⊢
      exact htrim
  | bare other h =>
      -- the last of two words is a bare alias
      have hboth := Inert.spaced isSpacing_wordGaps hname (hplain other)
      have hfind : (keywordRule "AS").find? (.start (name.text ++ ' ' :: other.text)) = none :=
        find?_of_quiet (hboth.quiet (isLexicon_as.spares isSpacing_wordGaps) none 0
          (atBoundary_nil _))
      have hparts : topLevelWords (name.text ++ ' ' :: other.text) = [name.text, other.text] := by
        have hboth : ∀ w ∈ [name.text, other.text], IsWord w :=
          List.forall_mem_cons.mpr ⟨name.isWord, List.forall_mem_singleton.mpr other.isWord⟩
        have hparts := topLevelWords_joinWith hboth
        rwa [joinWith_cons_cons, joinWith_singleton] at hparts
      have hbare := isBareAlias_of_plain name h
      show stripAlias (name.text ++ ' ' :: other.text) = name.text
      rw [stripAlias, hfind, hparts]
      show (if isBareAlias name.text other.text = true then joinWith " " [name.text] else _) = _
      rw [if_pos hbare, joinWith_singleton]

/-- A list of entries starts with the name of the first one. -/
theorem exists_entries_eq {canBeBare : Text → Bool} (e : Entry canBeBare)
    (more : List (Entry canBeBare)) :
    ∃ rest, joinWith ", " ((e :: more).map (·.text)) = e.name.text ++ rest ∧
      continuesWord rest = false := by
  have hrenamed : ∀ t, continuesWord t = false → continuesWord (e.renamed.text ++ t) = false := by
    intro t ht
    cases e.renamed with
    | none => exact ht
    | as _ => exact continuesWord_blank _
    | bare _ _ => exact continuesWord_blank _
  cases more with
  | nil =>
      refine ⟨e.renamed.text ++ [], ?_, hrenamed [] rfl⟩
      rw [List.append_nil]
      exact joinWith_singleton ", " e.text
  | cons d more =>
      refine ⟨e.renamed.text ++ (", ".toList ++ joinWith ", " ((d :: more).map (·.text))), ?_,
        hrenamed _ (continuesWord_gap (c := ',') (by decide) _)⟩
      rw [← List.append_assoc]
      exact joinWith_cons_cons ", " e.text d.text (more.map (·.text))

namespace Selection

variable (s : Selection)

/-- A select list of plain columns starts with no modifier. -/
theorem selectModifiers_columnList :
    selectModifiers.findSome? (·.width? (.start s.columnList)) = none := by
  obtain ⟨c, more, hcolumns⟩ := List.exists_cons_of_ne_nil s.columns_ne_nil
  obtain ⟨rest, hrest, hend⟩ := exists_entries_eq c more
  have hspares := isLexicon_modifiers.spares isSpacing_wordGaps
  have hnone : ruleOf ["DISTINCT".toList, "ALL".toList] ⟨none, c.name.text ++ rest⟩ = none := by
    refine hspares.word c.name.isWord (fun hmem => c.name.not_reserved ?_) hend
    have hmodifier : upper c.name.text ∈ selectModifiers.flatMap (·.words) := hmem
    simp [selectWords, hmodifier]
  rw [columnList, hcolumns, hrest]
  exact List.findSome?_eq_none_iff.mpr (longest?_eq_none_iff.mp hnone)

/-- The columns are found again. -/
theorem splitTopLevel_columnList :
    splitTopLevel [','] s.columnList = s.columns.map (·.text) := by
  have hblank : ∀ c ∈ ([] : Text), isBlank c = true := fun c hc => absurd hc (by simp)
  have hsplit := splitTopLevel_entries s.columns_ne_nil hblank hblank
  rwa [List.nil_append, List.append_nil] at hsplit

/-- Behind `SELECT` stands the rest of the text. -/
theorem find?_select : (keywordRule "SELECT").find? (.start s.text) =
    some ⟨[], ofText "SELECT".toList, ⟨"SELECT".toList.getLast?,
      ' ' :: (s.columnList ++ ' ' :: ("FROM".toList ++ ' ' :: s.source))⟩⟩ :=
  isLexicon_select.find?_eq (k := "SELECT".toList) (u := []) (List.mem_singleton_self _)
    isSpacing_listGaps .nil rfl _

/-- The text up to `FROM`, from any place before the columns. -/
theorem upTo_from (before : Option Char) : (keywordRule "FROM").upTo
    ⟨before, ' ' :: (s.columnList ++ ' ' :: ("FROM".toList ++ ' ' :: s.source))⟩ =
      ' ' :: s.columnList ++ [' '] := by
  have hcolumns := (inert_entries s.columns).mono (List.Subset.refl _) firstWords_from_subset
  exact isLexicon_from.upTo_spaced (List.mem_singleton_self _) isSpacing_listGaps
    (hcolumns.blank_cons isSpacing_listGaps) before s.source

/-- **The select list** is what was written between `SELECT` and `FROM`. -/
theorem selectList?_text : selectList? s.text = some s.columnList := by
  have htrim : trim (' ' :: s.columnList ++ [' ']) = s.columnList := by
    have hpad := trim_pad (x := [' ']) (t := s.columnList) (y := [' '])
      (List.forall_mem_singleton.mpr rfl) (List.forall_mem_singleton.mpr rfl)
    exact hpad.trans (isSolid_entries s.columns_ne_nil).trim_eq
  rw [selectList?, s.find?_select]
  dsimp only
  rw [s.upTo_from, htrim, s.selectModifiers_columnList]

/-- **The columns** are the names that were written. -/
theorem selectColumns_text : selectColumns s.text = s.columns.map (·.name.text) := by
  rw [selectColumns, s.selectList?_text]
  dsimp only
  rw [s.splitTopLevel_columnList, List.map_map]
  exact List.map_congr_left fun e _ => stripAlias_entry e

/-! ## Tables -/

/-- What stands behind the `FROM` list starts with a keyword that ends it. -/
theorem exists_clause : s.joinList ++ s.conditionText = [] ∨
    ∃ k ∈ fromTerminators ++ defaultJoinKeywords, ∃ tail,
      s.joinList ++ s.conditionText = ' ' :: (k ++ ' ' :: tail) := by
  unfold joinList conditionText
  cases hjoins : s.joins with
  | cons j more =>
      refine .inr ⟨j.keyword, List.mem_append_right _ j.keyword_mem, ?_⟩
      exact ⟨j.body ++ ((more.flatMap fun j => ' ' :: j.text) ++ s.conditionText), by
        simp [JoinedTable.text, conditionText]⟩
  | nil =>
      cases s.condition with
      | none => exact .inl rfl
      | some group => exact .inr ⟨"WHERE".toList, by decide, inParens group.text, rfl⟩

/-- What stands before the tables. -/
theorem inert_lead : Inert listGaps bodyHeads [] ("SELECT".toList ++ ' ' :: s.columnList) :=
  .spaced isSpacing_listGaps (inert_capital (by decide)) (inert_entries s.columns)

/-- Behind `FROM` stand the tables. -/
theorem find?_from : (keywordRule "FROM").find? (.start s.text) =
    some ⟨"SELECT".toList ++ ' ' :: (s.columnList ++ [' ']), ofText "FROM".toList,
      ⟨"FROM".toList.getLast?, ' ' :: s.source⟩⟩ := by
  have hlead : Inert listGaps (firstWords ["FROM".toList]) [] ("SELECT".toList ++ ' ' :: s.columnList) :=
    s.inert_lead.mono (List.Subset.refl _) firstWords_from_subset
  have hfind := isLexicon_from.find?_spaced (List.mem_singleton_self _) isSpacing_listGaps hlead none
    s.source
  rw [List.append_assoc, List.append_assoc] at hfind
  exact hfind

/-- The tables are found again, with or without a blank behind them. -/
theorem splitTopLevel_tableList {y : Text} (hy : ∀ c ∈ y, isBlank c = true) :
    splitTopLevel [','] (' ' :: s.tableList ++ y) = s.tables.map (·.text) := by
  have hspace : ∀ c ∈ [' '], isBlank c = true := List.forall_mem_singleton.mpr rfl
  have hsplit := splitTopLevel_entries s.tables_ne_nil hspace hy
  rwa [← List.append_assoc] at hsplit

/-- **The tables of the list** are the names that were written. -/
theorem listedNames_text : listedNames defaultJoinKeywords s.text = s.tables.map (·.name.text) := by
  have htables : Inert listGaps (firstWords (fromTerminators ++ defaultJoinKeywords)) []
      (' ' :: s.tableList) :=
    ((inert_entries s.tables).mono (List.Subset.refl _)
      (List.subset_append_left _ _)).blank_cons isSpacing_listGaps
  obtain ⟨y, hy, hlist⟩ := isLexicon_fromTerminators.upTo_of_clause isSpacing_listGaps htables
    s.exists_clause "FROM".toList.getLast?
  rw [listedNames, ← find?_map_after, s.find?_from, Option.map_some]
  dsimp only
  rw [source, ← List.cons_append, hlist, ← filterMap_identifier?_splitTopLevel,
    s.splitTopLevel_tableList hy, List.filterMap_map]
  -- each entry starts with its name
  rw [← List.filterMap_eq_map]
  exact List.filterMap_congr fun e _ => e.identifier?_text

end Selection

/-! ## Joins -/

/-- The name behind a join keyword is the table. -/
theorem JoinedTable.identifier?_body (j : JoinedTable) (t : Text) :
    identifier? (' ' :: (j.body ++ t)) = some j.table.text := by
  rw [identifier?_blank_cons, body, List.append_assoc]
  refine identifier?_word j.table.isWord ?_
  unfold aliasText
  cases j.renamed <;> rfl

/-- **The names behind the joins** are the tables that were written, whatever inert text stands before the
    first join and behind the last one. -/
theorem joinedPlaces_map (joins : List JoinedTable) {bs : List Text} {u v : Text}
    (hu : Inert listGaps (firstWords defaultJoinKeywords) [] u)
    (hv : Inert listGaps (firstWords defaultJoinKeywords) bs v) (hfront : ∀ c ∈ v.head?, IsGap c)
    (before : Option Char) :
    ((ruleOf defaultJoinKeywords).behindFrom before 0 0
        (u ++ ((joins.flatMap fun j => ' ' :: j.text) ++ v))).map (fun place => identifier? place.rest) =
      joins.map fun j => some j.table.text := by
  induction joins generalizing u before with
  | nil =>
      have hquiet := (hu.append hv hfront).quiet (isLexicon_joins.spares isSpacing_listGaps) before 0
        (atBoundary_nil _)
      show ((ruleOf defaultJoinKeywords).behindFrom before 0 0 (u ++ v)).map _ = []
      rw [behindFrom_of_quiet hquiet, List.map_nil]
  | cons j more ih =>
      -- behind the keyword stands the body of the join, in front of the other joins
      have hbody := (j.inert_body.mono (List.Subset.refl _)
        (List.subset_append_left (firstWords defaultJoinKeywords) _)).blank_cons isSpacing_listGaps
      have hplaces := isLexicon_joins.behindFrom_spaced j.keyword_mem isSpacing_listGaps hu before
        (j.body ++ ((more.flatMap fun j => ' ' :: j.text) ++ v))
      have htext : u ++ (((j :: more).flatMap fun j => ' ' :: j.text) ++ v) =
          u ++ ' ' :: (j.keyword ++ ' ' :: (j.body ++ ((more.flatMap fun j => ' ' :: j.text) ++ v))) := by
        simp [JoinedTable.text]
      rw [htext, hplaces, List.map_cons, List.map_cons, j.identifier?_body]
      exact congrArg (some j.table.text :: ·) (ih hbody j.keyword.getLast?)

/-- No word of a join keyword separates statements. -/
theorem not_union_of_mem_joins {k : Text} (hk : k ∈ defaultJoinKeywords) :
    ∀ w ∈ (ofText k).words, w ∉ ["UNION".toList] := by
  have hall : ∀ k ∈ defaultJoinKeywords, ∀ w ∈ (ofText k).words, w ∉ ["UNION".toList] := by
    decide
  exact hall k hk

namespace Selection

variable (s : Selection)

/-- What stands before the joins. -/
theorem inert_beforeJoins : Inert listGaps joinHeads []
    ("SELECT".toList ++ ' ' :: (s.columnList ++ ' ' :: ("FROM".toList ++ ' ' :: s.tableList))) := by
  have hcolumns := (inert_entries s.columns).mono (List.Subset.refl _) joinHeads_subset
  have htables := (inert_entries s.tables).mono (List.Subset.refl _) joinHeads_subset
  refine .spaced isSpacing_listGaps (inert_capital (by decide)) ?_
  refine .spaced isSpacing_listGaps hcolumns ?_
  exact .spaced isSpacing_listGaps (inert_capital (by decide)) htables

/-- A condition stands behind a blank. -/
theorem head?_conditionText : ∀ c ∈ s.conditionText.head?, IsGap c := by
  unfold conditionText
  intro c hc
  cases hcondition : s.condition with
  | none => simp [hcondition] at hc
  | some group =>
      rw [hcondition] at hc
      obtain rfl := Option.some.inj hc
      exact isGap_space

theorem joinedPlaces_text :
    ((ruleOf defaultJoinKeywords).behind (.start s.text)).map (fun place => identifier? place.rest) =
      s.joins.map fun j => some j.table.text := by
  have hplaces := joinedPlaces_map s.joins
    (s.inert_beforeJoins.mono (List.Subset.refl _) (List.subset_append_left _ _))
    (s.inert_conditionText.mono (List.Subset.refl _) (List.subset_append_left _ _))
    s.head?_conditionText none
  simp only [List.append_assoc, List.cons_append] at hplaces
  exact hplaces

theorem joinedNames_text : joinedNames defaultJoinKeywords s.text = s.joins.map (·.table.text) := by
  have hnames := congrArg (List.filterMap id) s.joinedPlaces_text
  rw [List.filterMap_map, List.filterMap_map] at hnames
  refine Eq.trans hnames ?_
  exact congrFun List.filterMap_eq_map s.joins

theorem hasJoin_text : hasJoin defaultJoinKeywords s.text = !s.joins.isEmpty := by
  have hempty := congrArg List.isEmpty s.joinedPlaces_text
  rw [List.isEmpty_map, List.isEmpty_map] at hempty
  rw [hasJoin_eq, ← hempty]
  cases (ruleOf defaultJoinKeywords).behind (.start s.text) <;> rfl

/-! ## The report -/

/-- The joins are inert for the separators. -/
theorem inert_joinList : Inert listGaps ["UNION".toList] [] s.joinList := by
  have hunion : ["UNION".toList] ⊆ joinHeads := List.subset_append_right _ _
  unfold joinList
  induction s.joins with
  | nil => exact .nil
  | cons j more ih =>
      have hkeyword : Inert listGaps ["UNION".toList] [] j.keyword :=
        isLexicon_joins.inert j.keyword_mem isSpacing_listGaps (not_union_of_mem_joins j.keyword_mem)
      have hjoin : Inert listGaps ["UNION".toList] [] (' ' :: j.text) :=
        (hkeyword.spaced isSpacing_listGaps
          (j.inert_body.mono (List.Subset.refl _) hunion)).blank_cons isSpacing_listGaps
      rw [List.flatMap_cons]
      refine hjoin.append ih fun c hc => ?_
      cases more with
      | nil => exact absurd hc (by simp)
      | cons d more =>
          obtain rfl : ' ' = c := by simpa using hc
          exact isGap_space

/-- **The text of a selection** is inert for the separators, and its groups are those of the selection. -/
theorem inert_text : Inert listGaps ["UNION".toList] s.groups s.text := by
  have hunion : ["UNION".toList] ⊆ joinHeads := List.subset_append_right _ _
  have hlead := s.inert_beforeJoins.mono (List.Subset.refl _) hunion
  have hcondition := s.inert_conditionText.mono (List.Subset.refl _) hunion
  have hclauses := s.inert_joinList.append hcondition s.head?_conditionText
  have hall := hlead.append hclauses fun c hc => by
    rcases s.exists_clause with hnil | ⟨k, _, tail, hclause⟩
    · rw [hnil] at hc
      exact absurd hc (by simp)
    · rw [hclause] at hc
      obtain rfl : ' ' = c := by simpa using hc
      exact isGap_space
  simp only [List.append_assoc, List.cons_append, List.nil_append] at hall
  exact hall

theorem isSolid_text : IsSolid s.text := by
  have hselect : IsSolid "SELECT".toList := ⟨by decide, by decide⟩
  have hjoins : EndsSolid s.joinList := by
    unfold joinList
    induction s.joins with
    | nil => exact rfl
    | cons j more ih =>
        rw [List.flatMap_cons]
        refine EndsSolid.append ?_ ih
        have hright := j.right.isWord.isSolid.endsSolid (' ' :: j.keyword ++ ' ' :: (j.table.text ++
          (j.aliasText ++ ' ' :: ("ON".toList ++ ' ' :: (j.left.text ++ [' ', '=', ' '])))))
        simpa [JoinedTable.text, JoinedTable.body] using hright
  have hcondition : EndsSolid s.conditionText := by
    unfold conditionText
    cases s.condition with
    | none => exact rfl
    | some group => exact (isSolid_inParens group.text).endsSolid (' ' :: "WHERE".toList ++ [' '])
  have hlead := hselect.append (isSolid_entries s.tables_ne_nil)
    (' ' :: (s.columnList ++ ' ' :: ("FROM".toList ++ [' '])))
  have hall := hlead.append_of_endsSolid (hjoins.append hcondition)
  simp only [List.append_assoc, List.cons_append, List.nil_append] at hall
  exact hall

end Selection

/-- The first of some names, and all of them, are those names. -/
theorem Tables.all_of_listed {name : Text} (hname : name ≠ []) (more joined : List Text) :
    Tables.all ⟨some name, (name :: more).eraseDups, joined.eraseDups⟩ =
      (name :: more ++ joined).eraseDups := by
  have htarget : (some name).toList.filter (· ≠ []) = [name] := by simp [hname]
  show ((some name).toList.filter (· ≠ []) ++ (name :: more).eraseDups ++
    joined.eraseDups).eraseDups = _
  rw [htarget, ← eraseDups_append_eraseDups (name :: more), List.eraseDups_cons]
  -- the table comes first in the list already
  simp only [List.cons_append, List.nil_append]
  rw [List.eraseDups_cons, List.filter_cons_of_neg (by simp), ← List.eraseDups_cons]

/-- **A selection is read back.** The report on its text, with the default settings, holds one statement,
    the columns and the tables that were written, no alias, no name twice among the tables, the subqueries
    of the condition, and no diagnostic. -/
theorem report_selection (s : Selection) :
    Report.ofQuery {} s.text =
      { query := s.text
        statements := [s.text]
        command := "SELECT".toList
        table := (s.tables.map (·.name.text)).head?
        tables := (s.tables.map (·.name.text) ++ s.joins.map (·.table.text)).eraseDups
        joinTables := (s.joins.map (·.table.text)).eraseDups
        columns := s.columns.map (·.name.text)
        subqueries := (s.condition.toList.flatMap fun g => subqueries (inParens g.text)).eraseDups
        hasJoin := !s.joins.isEmpty
        hasSubquery := !(s.condition.toList.flatMap fun g => subqueries (inParens g.text)).isEmpty
        diagnostics := [] } := by
  have hclean : ∀ b ∈ s.groups, IsClean false b := by
    intro b hb
    obtain ⟨group, _, rfl⟩ := List.mem_map.mp hb
    exact group.clean
  have hcommand : Command.ofStatement? s.text = some .select := by rfl
  have htables : Tables.ofStatement defaultJoinKeywords (some .select) s.text =
      ⟨(s.tables.map (·.name.text)).head?, (s.tables.map (·.name.text)).eraseDups,
        (s.joins.map (·.table.text)).eraseDups⟩ := by
    show Tables.ofSelect defaultJoinKeywords s.text = _
    rw [ofSelect_eq, s.listedNames_text, s.joinedNames_text, head?_eraseDups]
  have hall : Tables.all ⟨(s.tables.map (·.name.text)).head?, (s.tables.map (·.name.text)).eraseDups,
      (s.joins.map (·.table.text)).eraseDups⟩ =
        (s.tables.map (·.name.text) ++ s.joins.map (·.table.text)).eraseDups := by
    obtain ⟨t, more, htables⟩ := List.exists_cons_of_ne_nil s.tables_ne_nil
    rw [htables]
    exact Tables.all_of_listed t.name.isWord.ne_nil _ _
  have hnamed : (s.tables.map (·.name.text) ++ s.joins.map (·.table.text)).eraseDups ≠ [] := by
    obtain ⟨t, more, htables⟩ := List.exists_cons_of_ne_nil s.tables_ne_nil
    rw [htables, List.map_cons, List.cons_append, List.eraseDups_cons]
    simp
  have hreport := report_single s.inert_text hclean s.isSolid_text hcommand htables (by rwa [hall])
  have hgroups : (s.groups.flatMap fun b => subqueries (inParens b)) =
      s.condition.toList.flatMap fun g => subqueries (inParens g.text) := List.flatMap_map ..
  have hcolumns : columns (some .select) s.text = s.columns.map (·.name.text) :=
    s.selectColumns_text
  rw [hreport, hall, hgroups, s.hasJoin_text, eraseDups_eraseDups, hcolumns]
  rfl

/-- A selection, written out and read back. Names of columns, tables and aliases may be the same. -/
theorem report_selection_same_names :
    Report.ofQuery {} "SELECT a AS t, b a FROM t a, u JOIN t ON a = t WHERE (a IN (SELECT b))".toList =
      { query := "SELECT a AS t, b a FROM t a, u JOIN t ON a = t WHERE (a IN (SELECT b))".toList
        statements := ["SELECT a AS t, b a FROM t a, u JOIN t ON a = t WHERE (a IN (SELECT b))".toList]
        command := "SELECT".toList
        table := some "t".toList
        tables := ["t".toList, "u".toList]
        joinTables := ["t".toList]
        columns := ["a".toList, "b".toList]
        subqueries := ["SELECT b".toList]
        hasJoin := true
        hasSubquery := true
        diagnostics := [] } := by
  obtain ⟨s, htext, hcolumns, htables, hjoins, hjoined, hsubqueries⟩ : ∃ s : Selection,
      s.text = "SELECT a AS t, b a FROM t a, u JOIN t ON a = t WHERE (a IN (SELECT b))".toList ∧
        s.columns.map (·.name.text) = ["a".toList, "b".toList] ∧
        s.tables.map (·.name.text) = ["t".toList, "u".toList] ∧
        s.joins.map (·.table.text) = ["t".toList] ∧ s.joins ≠ [] ∧
        (s.condition.toList.flatMap fun g => subqueries (inParens g.text)) = ["SELECT b".toList] := by
    let a : PlainName selectWords := ⟨"a".toList, by decide, by decide⟩
    let b : PlainName selectWords := ⟨"b".toList, by decide, by decide⟩
    let t : PlainName selectWords := ⟨"t".toList, by decide, by decide⟩
    let u : PlainName selectWords := ⟨"u".toList, by decide, by decide⟩
    let join : JoinedTable := ⟨"JOIN".toList, by decide, t, none, a, t⟩
    let condition : PlainGroup := ⟨"a IN (SELECT b)".toList, by decide, by decide⟩
    let columns : List SelectedColumn := [⟨a, .as t⟩, ⟨b, .bare a rfl⟩]
    let tables : List SelectedTable := [⟨t, .bare a rfl⟩, ⟨u, .none⟩]
    exact ⟨⟨columns, by simp [columns], tables, by simp [tables], [join], some condition⟩, rfl, rfl, rfl, rfl,
      List.cons_ne_nil join [], rfl⟩
  have hreport := report_selection s
  rw [htext, hcolumns, htables, hjoins, hsubqueries, List.isEmpty_eq_false_iff.mpr hjoined] at hreport
  exact hreport

end SqlSkim
