import SqlSkim.Proofs.Report.Single
import SqlSkim.Proofs.Statement.Column
import SqlSkim.Proofs.Statement.Plain

/-!
# `Report.Change` — insertions and updates that are written out are read back

An insertion of a group of values into plain columns, and an update of plain columns to plain values or
groups, are written out as texts, and the report on such a text says what was written. Any balanced text may
stand in the groups, with commas, equals signs, separators and keywords of its own.

## Contents
- `Insertion`, `Assignment`, `Update`: changes, and how they are written.
- `nameAfter?_of_plain`: the table.
- `insertColumns_text`, `assignedColumns_text`: the columns.
- `report_change`: the main result.
-/

namespace SqlSkim

open Phrase

/-! ## Changes -/

/-- **An insertion** of a group of values. The names of its columns stand in a group of their own, so they can
    be any words, as long as that group is no selection. -/
structure Insertion where
  table : PlainName statementWords
  columns : List Text
  columns_ne_nil : columns ≠ []
  isWord : ∀ c ∈ columns, IsWord c
  no_select : ∀ c ∈ columns.head?, upper c ≠ "SELECT".toList
  values : PlainGroup

namespace Insertion

def columnList (i : Insertion) : Text := joinWith ", " i.columns

/-- `VALUES (values)`. -/
def valueList (i : Insertion) : Text := "VALUES".toList ++ ' ' :: inParens i.values.text

/-- What stands behind `INTO`. -/
def target (i : Insertion) : Text :=
  i.table.text ++ ' ' :: (inParens i.columnList ++ ' ' :: i.valueList)

/-- `INSERT INTO table (columns) VALUES (values)`. -/
def text (i : Insertion) : Text := "INSERT".toList ++ ' ' :: ("INTO".toList ++ ' ' :: i.target)

end Insertion

/-- A value: a plain name or a group. -/
inductive AssignedValue where
  | name (name : PlainName statementWords)
  | group (group : PlainGroup)

namespace AssignedValue

def text : AssignedValue → Text
  | .name n => n.text
  | .group g => inParens g.text

def groups : AssignedValue → List Text
  | .name _ => []
  | .group g => [g.text]

end AssignedValue

/-- An assignment of a value to a column. -/
structure Assignment where
  column : PlainName statementWords
  value : AssignedValue

/-- `column = value`. -/
def Assignment.text (a : Assignment) : Text := a.column.text ++ ' ' :: ('=' :: ' ' :: a.value.text)

/-- **An update** under a condition. -/
structure Update where
  table : PlainName statementWords
  assignments : List Assignment
  assignments_ne_nil : assignments ≠ []
  condition : PlainName statementWords

namespace Update

def assignmentList (u : Update) : Text := joinWith ", " (u.assignments.map (·.text))

/-- The groups of all values. -/
def groups (u : Update) : List Text := u.assignments.flatMap (·.value.groups)

/-- What stands behind `SET`. -/
def body (u : Update) : Text :=
  u.assignmentList ++ ' ' :: ("WHERE".toList ++ ' ' :: u.condition.text)

/-- `UPDATE table SET assignments WHERE condition`. -/
def text (u : Update) : Text :=
  "UPDATE".toList ++ ' ' :: (u.table.text ++ ' ' :: ("SET".toList ++ ' ' :: u.body))

end Update

/-! ## The keywords of changes -/

theorem isLexicon_into : IsLexicon ["INTO".toList] := by decide

theorem isLexicon_update : IsLexicon ["UPDATE".toList] := by decide

theorem isLexicon_set : IsLexicon ["SET".toList] := by decide

theorem isLexicon_setTerminators : IsLexicon setTerminators := by decide

/-- The words that the parts of a change are searched for. -/
def changeHeads : List Text := joinHeads ++ (clauseKeywords ++ firstWords setTerminators)

theorem changeHeads_subset : changeHeads ⊆ statementWords := by decide

theorem joinHeads_subset_statementWords : joinHeads ⊆ statementWords := fun _ h =>
  changeHeads_subset (List.mem_append_left _ h)

theorem clauseKeywords_subset : clauseKeywords ⊆ statementWords := fun _ h =>
  changeHeads_subset (List.mem_append_right _ (List.mem_append_left _ h))

theorem firstWords_setTerminators_subset : firstWords setTerminators ⊆ statementWords := fun _ h =>
  changeHeads_subset (List.mem_append_right _ (List.mem_append_right _ h))

theorem firstWords_set_subset : firstWords ["SET".toList] ⊆ statementWords := by
  have hfirst : firstWords ["SET".toList] = ["SET".toList] := by rfl
  rw [hfirst]
  intro w hw
  obtain rfl := List.mem_singleton.mp hw
  exact clauseKeywords_subset List.mem_cons_self

/-- The name behind a keyword is the table, if it is plain. -/
theorem nameAfter?_of_plain {keyword : String} {t lead u : Text} {label : Phrase}
    {before : Option Char} (name : PlainName statementWords)
    (hfind : (keywordRule keyword).find? (.start t) =
      some ⟨lead, label, ⟨before, ' ' :: (name.text ++ ' ' :: u)⟩⟩) :
    nameAfter? keyword [] t = some name.text := by
  have hnot := name.contains_eq_false clauseKeywords_subset
  have hname : identifier? (' ' :: (name.text ++ ' ' :: u)) = some name.text := by
    rw [identifier?_blank_cons]
    exact identifier?_word name.isWord rfl
  rw [nameAfter?, hfind]
  show (identifier? (' ' :: (name.text ++ ' ' :: u))).filter _ = _
  rw [hname, Option.filter_some, hnot]
  exact if_pos rfl

/-! ## Insertions -/

namespace Insertion

variable (i : Insertion)

/-- The list of columns is inert for all keywords: it stands in a group. -/
theorem inert_columnList : Inert listGaps [] [] i.columnList := by
  refine inert_list fun c hc => ?_
  exact .word (i.isWord c hc) List.not_mem_nil

theorem isSolid_columnList : IsSolid i.columnList :=
  isSolid_joinWith i.columns_ne_nil fun c hc => (i.isWord c hc).isSolid

/-- **The text of an insertion** is inert for joins and separators, and has two groups. -/
theorem inert_text : Inert listGaps joinHeads [i.columnList, i.values.text] i.text := by
  have htable : Inert listGaps joinHeads [] i.table.text :=
    i.table.inert listGaps joinHeads_subset_statementWords
  have hvalues : Inert listGaps joinHeads [i.values.text] i.valueList :=
    .spaced isSpacing_listGaps (inert_capital (by decide)) (.group i.values.balanced)
  have hcolumns : Inert listGaps joinHeads [i.columnList, i.values.text]
      (inParens i.columnList ++ ' ' :: i.valueList) :=
    .apart isSpacing_listGaps.space isGap_space (.group i.inert_columnList.isBalanced) hvalues
  refine .spaced isSpacing_listGaps (inert_capital (by decide)) ?_
  refine .spaced isSpacing_listGaps (inert_capital (by decide)) ?_
  exact .spaced isSpacing_listGaps htable hcolumns

theorem isSolid_text : IsSolid i.text := by
  have hinsert : IsSolid "INSERT".toList := ⟨by decide, by decide⟩
  have hall := hinsert.append (isSolid_inParens i.values.text) (' ' :: ("INTO".toList ++ ' ' ::
    (i.table.text ++ ' ' :: (inParens i.columnList ++ ' ' :: ("VALUES".toList ++ [' '])))))
  simp only [List.append_assoc, List.cons_append, List.nil_append] at hall
  exact hall

/-- Behind `INTO` stands the rest of the text. -/
theorem find?_into : (keywordRule "INTO").find? (.start i.text) =
    some ⟨"INSERT".toList ++ [' '], ofText "INTO".toList, ⟨"INTO".toList.getLast?, ' ' :: i.target⟩⟩ := by
  have hinsert : Inert listGaps (firstWords ["INTO".toList]) [] "INSERT".toList :=
    inert_capital (by decide)
  exact isLexicon_into.find?_spaced (List.mem_singleton_self _) isSpacing_listGaps hinsert none i.target

/-- **The table** is the name that was written. -/
theorem nameAfter?_into : nameAfter? "INTO" [] i.text = some i.table.text :=
  nameAfter?_of_plain i.table i.find?_into

/-- The columns are found again. -/
theorem splitTopLevel_columnList : splitTopLevel [','] i.columnList = i.columns := by
  have hblank : ∀ c ∈ ([] : Text), isBlank c = true := fun c hc => absurd hc (by simp)
  have hword : ∀ c ∈ i.columns, ∃ bs, Inert wordGaps [] bs c := fun c hc =>
    ⟨[], .word (i.isWord c hc) List.not_mem_nil⟩
  have hsplit := splitTopLevel_joinWith i.columns_ne_nil hword (fun c hc => (i.isWord c hc).isSolid)
    hblank hblank
  rwa [List.nil_append, List.append_nil] at hsplit

/-- What stands behind the table. -/
theorem behindName_target :
    BehindName (' ' :: i.target) (inParens i.columnList ++ ' ' :: i.valueList) := by
  have hblank : ∀ c ∈ [' '], isBlank c = true := List.forall_mem_singleton.mpr rfl
  refine ⟨[' '], i.table.text, [' '], by simp [target], hblank, fun c hc => ?_, hblank⟩
  exact endsIdentifier_of_word (i.table.isWord.isWordChar c hc)

/-- **The columns** are the words that were written. -/
theorem insertColumns_text : insertColumns i.text = i.columns := by
  rw [insertColumns_eq, i.find?_into]
  dsimp only
  -- the group of columns is closed by its own parenthesis, whatever the values hold
  have hgroup : trimLeft _ = inParens i.columnList ++ ' ' :: i.valueList := i.behindName_target.trimLeft_eq
  rw [hgroup, groupEntries_inParens i.inert_columnList.isBalanced, i.splitTopLevel_columnList]

/-- The list of columns is no subquery. -/
theorem subqueries_columnList : subqueries (inParens i.columnList) = [] := by
  obtain ⟨c, more, hcolumns⟩ := List.exists_cons_of_ne_nil i.columns_ne_nil
  have hparen : ∀ d ∈ i.columnList, isParen d = false := fun d hd => by
    rcases mem_joinWith hd with hd | ⟨c, hc, hd⟩
    · exact no_paren_of_all (by decide) d hd
    · exact (i.isWord c hc).no_paren d hd
  -- its first word is not `SELECT`
  have hword : IsWord c := i.isWord c (by simp [hcolumns])
  have hother : upper c ≠ "SELECT".toList := i.no_select c (by simp [hcolumns])
  obtain ⟨rest, hrest, hend⟩ : ∃ rest, i.columnList = c ++ rest ∧ continuesWord rest = false := by
    rw [columnList, hcolumns]
    cases more with
    | nil => exact ⟨[], by rw [joinWith_singleton, List.append_nil], rfl⟩
    | cons d more =>
        exact ⟨_, joinWith_cons_cons ", " c d more, continuesWord_gap (c := ',') (by decide) _⟩
  have hcommand : Command.ofStatement? i.columnList ≠ some .select := by
    intro hselect
    -- the phrase of the command found stands at the front
    have hwidth := List.find?_some hselect
    have hnone : wordsWidth? ["SELECT".toList] (c ++ rest) = none :=
      wordsWidth?_eq_none_of_word (List.all_eq_true.mp (by decide)) hword hother hend []
    rw [i.isSolid_columnList.trimLeft_eq, hrest] at hwidth
    change (wordsWidth? ["SELECT".toList] (c ++ rest)).isSome = true at hwidth
    rw [hnone] at hwidth
    exact absurd hwidth (by simp)
  rw [subqueries_inParens i.inert_columnList.isBalanced, i.isSolid_columnList.trim_eq,
    if_neg hcommand, subqueries_of_no_paren hparen, List.append_nil]

end Insertion

/-! ## Updates -/

/-- An assignment is inert up to the comma behind it. -/
theorem Assignment.inert (a : Assignment) {heads : List Text} (hheads : heads ⊆ statementWords) :
    Inert wordGaps heads a.value.groups a.text := by
  have hvalue : Inert wordGaps heads a.value.groups a.value.text := by
    cases a.value with
    | name name => exact name.inert wordGaps hheads
    | group group => exact .group group.balanced
  refine .spaced isSpacing_wordGaps (a.column.inert wordGaps hheads) ?_
  exact (hvalue.blank_cons isSpacing_wordGaps).gap_cons isSpacing_wordGaps (by decide)

theorem Assignment.isSolid (a : Assignment) : IsSolid a.text := by
  have hvalue : IsSolid a.value.text := by
    cases a.value with
    | name name => exact name.isWord.isSolid
    | group group => exact isSolid_inParens group.text
  exact a.column.isWord.isSolid.append hvalue [' ', '=', ' ']

/-- **The column of an assignment** stands before its first `=`. -/
theorem Assignment.assignedColumn?_text (a : Assignment) :
    assignedColumn? a.text = some a.column.text := by
  have hcolumn : ∀ c ∈ a.column.text, decide (c ≠ '=') = true := by
    intro c hc
    rw [decide_eq_true_iff]
    rintro rfl
    exact absurd (a.column.isWord.isWordChar '=' hc) (by decide)
  -- a word holds no `=`, so the first one is the sign of the assignment
  have hleft : a.text.takeWhile (· ≠ '=') = a.column.text ++ [' '] := by
    rw [Assignment.text, List.takeWhile_append_of_pos hcolumn, List.takeWhile_cons_of_pos (by decide),
      List.takeWhile_cons_of_neg (by decide)]
  have hsign : a.text.contains '=' = true := by
    rw [List.contains_eq_mem, decide_eq_true_iff]
    simp [Assignment.text]
  rw [assignedColumn?, hleft, a.column.isWord.isSolid.trim_blank_concat]
  exact if_pos ⟨hsign, a.column.isWord.ne_nil⟩

namespace Update

variable (u : Update)

theorem inert_assignmentList {heads : List Text} (hheads : heads ⊆ statementWords) :
    Inert listGaps heads u.groups u.assignmentList :=
  inert_joinWith Assignment.text (·.value.groups) fun a _ =>
    (a.inert hheads).mono wordGaps_subset_listGaps (List.Subset.refl _)

/-- **The text of an update** is inert for joins and separators, and its groups are those of the values. -/
theorem inert_text : Inert listGaps joinHeads u.groups u.text := by
  have hheads : joinHeads ⊆ statementWords := joinHeads_subset_statementWords
  have hcondition : Inert listGaps joinHeads [] ("WHERE".toList ++ ' ' :: u.condition.text) :=
    .spaced isSpacing_listGaps (inert_capital (by decide))
      (u.condition.inert listGaps hheads)
  have hbody : Inert listGaps joinHeads u.groups u.body := by
    have hboth := Inert.apart isSpacing_listGaps.space isGap_space (u.inert_assignmentList hheads)
      hcondition
    rwa [List.append_nil] at hboth
  refine .spaced isSpacing_listGaps (inert_capital (by decide)) ?_
  refine .spaced isSpacing_listGaps (u.table.inert listGaps hheads) ?_
  exact .spaced isSpacing_listGaps (inert_capital (by decide)) hbody

theorem isSolid_text : IsSolid u.text := by
  have hupdate : IsSolid "UPDATE".toList := ⟨by decide, by decide⟩
  have hall := hupdate.append u.condition.isWord.isSolid (' ' :: (u.table.text ++ ' ' ::
    ("SET".toList ++ ' ' :: (u.assignmentList ++ ' ' :: ("WHERE".toList ++ [' '])))))
  simp only [List.append_assoc, List.cons_append, List.nil_append] at hall
  exact hall

/-- Behind `UPDATE` stands the rest of the text. -/
theorem find?_update : (keywordRule "UPDATE").find? (.start u.text) =
    some ⟨[], ofText "UPDATE".toList, ⟨"UPDATE".toList.getLast?,
      ' ' :: (u.table.text ++ ' ' :: ("SET".toList ++ ' ' :: u.body))⟩⟩ :=
  isLexicon_update.find?_eq (k := "UPDATE".toList) (u := []) (List.mem_singleton_self _)
    isSpacing_listGaps .nil rfl _

/-- **The table** is the name that was written. -/
theorem nameAfter?_update : nameAfter? "UPDATE" [] u.text = some u.table.text :=
  nameAfter?_of_plain u.table u.find?_update

/-- Behind `SET` stands the rest of the text. -/
theorem find?_set : (keywordRule "SET").find? (.start u.text) =
    some ⟨"UPDATE".toList ++ ' ' :: (u.table.text ++ [' ']), ofText "SET".toList,
      ⟨"SET".toList.getLast?, ' ' :: u.body⟩⟩ := by
  have hlead : Inert listGaps (firstWords ["SET".toList]) [] ("UPDATE".toList ++ ' ' :: u.table.text) :=
    .spaced isSpacing_listGaps (inert_capital (by decide))
      (u.table.inert listGaps firstWords_set_subset)
  have hfind := isLexicon_set.find?_spaced (List.mem_singleton_self _) isSpacing_listGaps hlead none u.body
  rw [List.append_assoc, List.append_assoc] at hfind
  exact hfind

/-- The assignments end before `WHERE`. -/
theorem upTo_setTerminators (before : Option Char) :
    (ruleOf setTerminators).upTo ⟨before, ' ' :: u.body⟩ = [' '] ++ (u.assignmentList ++ [' ']) := by
  have hlist := u.inert_assignmentList firstWords_setTerminators_subset
  exact isLexicon_setTerminators.upTo_spaced (k := "WHERE".toList) (by decide) isSpacing_listGaps
    (hlist.blank_cons isSpacing_listGaps) before u.condition.text

/-- **The columns** are those of the assignments. -/
theorem assignedColumns_text : assignedColumns u.text = u.assignments.map (·.column.text) := by
  have hblank : ∀ c ∈ [' '], isBlank c = true := List.forall_mem_singleton.mpr rfl
  have hinert : ∀ t ∈ u.assignments.map (·.text), ∃ bs, Inert wordGaps [] bs t := by
    intro t ht
    obtain ⟨a, _, rfl⟩ := List.mem_map.mp ht
    exact ⟨a.value.groups, a.inert (List.nil_subset _)⟩
  have hsolid : ∀ t ∈ u.assignments.map (·.text), IsSolid t := by
    intro t ht
    obtain ⟨a, _, rfl⟩ := List.mem_map.mp ht
    exact a.isSolid
  have hsplit := splitTopLevel_joinWith (by simpa using u.assignments_ne_nil) hinert hsolid hblank hblank
  rw [assignedColumns, u.find?_set]
  dsimp only
  rw [u.upTo_setTerminators, assignmentList, hsplit, List.filterMap_map, ← List.filterMap_eq_map]
  exact List.filterMap_congr fun a _ => a.assignedColumn?_text

end Update

/-! ## The report -/

/-- A text that is inert for joins has none. -/
theorem Inert.hasJoin_eq_false {bs : List Text} {t : Text} (h : Inert listGaps joinHeads bs t) :
    hasJoin defaultJoinKeywords t = false := by
  have hjoins := h.mono (List.Subset.refl _) (List.subset_append_left (firstWords defaultJoinKeywords) _)
  have hquiet := hjoins.quiet (isLexicon_joins.spares isSpacing_listGaps) none 0 (atBoundary_nil _)
  rw [hasJoin, Place.start, find?_of_quiet hquiet, Option.isSome_none]

/-- **The report on one statement** of words and clean groups that names one table and joins none. -/
theorem report_of_target {bs : List Text} {t : Text} (hinert : Inert listGaps joinHeads bs t)
    (hclean : ∀ b ∈ bs, IsClean false b) (hsolid : IsSolid t) {c : Command}
    (hcommand : Command.ofStatement? t = some c) {name : Text} (hname : name ≠ [])
    (htables : Tables.ofStatement defaultJoinKeywords (some c) t = ⟨some name, [], []⟩) :
    Report.ofQuery {} t =
      { query := t
        statements := [t]
        command := c.text
        table := some name
        tables := [name]
        joinTables := []
        columns := columns (some c) t
        subqueries := (bs.flatMap fun b => subqueries (inParens b)).eraseDups
        hasJoin := false
        hasSubquery := !(bs.flatMap fun b => subqueries (inParens b)).isEmpty
        diagnostics := [] } := by
  have hunion : Inert listGaps ["UNION".toList] bs t :=
    hinert.mono (List.Subset.refl _) (List.subset_append_right _ _)
  have hall : Tables.all ⟨some name, [], []⟩ = [name] := by
    have htarget : (some name).toList.filter (· ≠ []) = [name] := by simp [hname]
    show ((some name).toList.filter (· ≠ []) ++ [] ++ []).eraseDups = [name]
    rw [htarget]
    rfl
  have hreport := report_single hunion hclean hsolid hcommand htables (by rw [hall]; simp)
  rw [hreport, hall, hinert.hasJoin_eq_false]
  rfl

/-- An insertion or an update. -/
inductive Change where
  | insertion (insertion : Insertion)
  | update (update : Update)

namespace Change

def text : Change → Text
  | .insertion i => i.text
  | .update u => u.text

def command : Change → Command
  | .insertion _ => .insert
  | .update _ => .update

def table : Change → Text
  | .insertion i => i.table.text
  | .update u => u.table.text

/-- The columns that are written to. -/
def columns : Change → List Text
  | .insertion i => i.columns
  | .update u => u.assignments.map (·.column.text)

/-- The contents of the groups of values. -/
def groups : Change → List Text
  | .insertion i => [i.values.text]
  | .update u => u.groups

end Change

/-- The columns of an insertion are those of its list, which is not empty. -/
theorem columns_insertion (i : Insertion) : columns (some .insert) i.text = i.columns := by
  obtain ⟨c, more, hcolumns⟩ := List.exists_cons_of_ne_nil i.columns_ne_nil
  have hinsert : insertColumns i.text = c :: more := by rw [i.insertColumns_text, hcolumns]
  simp only [columns, hinsert, hcolumns]

/-- Every group of values of an update is clean. -/
theorem Update.isClean_of_mem_groups (u : Update) {b : Text} (hb : b ∈ u.groups) : IsClean false b := by
  obtain ⟨a, _, hb⟩ := List.mem_flatMap.mp hb
  cases hvalue : a.value with
  | name name => simp [hvalue, AssignedValue.groups] at hb
  | group group =>
      obtain rfl : b = group.text := by simpa [hvalue, AssignedValue.groups] using hb
      exact group.clean

/-- **A change is read back.** The report on the text of an insertion or an update, with the default
    settings, holds one statement, the one table, the columns in the order in which they were written, the
    subqueries of the groups of values, no join and no diagnostic. -/
theorem report_change (change : Change) :
    Report.ofQuery {} change.text =
      { query := change.text
        statements := [change.text]
        command := change.command.text
        table := some change.table
        tables := [change.table]
        joinTables := []
        columns := change.columns
        subqueries := (change.groups.flatMap fun b => subqueries (inParens b)).eraseDups
        hasJoin := false
        hasSubquery := !(change.groups.flatMap fun b => subqueries (inParens b)).isEmpty
        diagnostics := [] } := by
  cases change with
  | insertion i =>
      have hclean : ∀ b ∈ [i.columnList, i.values.text], IsClean false b :=
        List.forall_mem_cons.mpr ⟨i.inert_columnList.isClean fun b hb => absurd hb List.not_mem_nil,
          List.forall_mem_singleton.mpr i.values.clean⟩
      have hcommand : Command.ofStatement? i.text = some .insert := by rfl
      have htables : Tables.ofStatement defaultJoinKeywords (some .insert) i.text =
          ⟨some i.table.text, [], []⟩ := by
        show (⟨nameAfter? "INTO" [] i.text, [], []⟩ : Tables) = _
        rw [i.nameAfter?_into]
      have hreport := report_of_target i.inert_text hclean i.isSolid_text hcommand
        i.table.isWord.ne_nil htables
      -- the list of columns adds no subquery
      rw [List.flatMap_cons, i.subqueries_columnList, List.nil_append, columns_insertion i] at hreport
      exact hreport
  | update u =>
      have hcommand : Command.ofStatement? u.text = some .update := by rfl
      have htables : Tables.ofStatement defaultJoinKeywords (some .update) u.text =
          ⟨some u.table.text, [], []⟩ := by
        show (⟨nameAfter? "UPDATE" [] u.text, [], []⟩ : Tables) = _
        rw [u.nameAfter?_update]
      have hcolumns : columns (some .update) u.text = u.assignments.map (·.column.text) :=
        u.assignedColumns_text
      have hreport := report_of_target u.inert_text (fun _ => u.isClean_of_mem_groups) u.isSolid_text
        hcommand u.table.isWord.ne_nil htables
      rw [hcolumns] at hreport
      exact hreport

/-- Both kinds of change, written out and read back. The columns of an insertion may be keywords, and a group of
    values may hold a selection. -/
theorem report_change_keyword_columns :
    (Report.ofQuery {} "INSERT INTO t (set, a) VALUES ((SELECT b), c)".toList =
      { query := "INSERT INTO t (set, a) VALUES ((SELECT b), c)".toList
        statements := ["INSERT INTO t (set, a) VALUES ((SELECT b), c)".toList]
        command := "INSERT".toList
        table := some "t".toList
        tables := ["t".toList]
        joinTables := []
        columns := ["set".toList, "a".toList]
        subqueries := ["SELECT b".toList]
        hasJoin := false
        hasSubquery := true
        diagnostics := [] }) ∧
    Report.ofQuery {} "UPDATE t SET t = ((SELECT b), c), a = b WHERE a".toList =
      { query := "UPDATE t SET t = ((SELECT b), c), a = b WHERE a".toList
        statements := ["UPDATE t SET t = ((SELECT b), c), a = b WHERE a".toList]
        command := "UPDATE".toList
        table := some "t".toList
        tables := ["t".toList]
        joinTables := []
        columns := ["t".toList, "a".toList]
        subqueries := ["SELECT b".toList]
        hasJoin := false
        hasSubquery := true
        diagnostics := [] } := by
  let a : PlainName statementWords := ⟨"a".toList, by decide, by decide⟩
  let b : PlainName statementWords := ⟨"b".toList, by decide, by decide⟩
  let t : PlainName statementWords := ⟨"t".toList, by decide, by decide⟩
  let values : PlainGroup := ⟨"(SELECT b), c".toList, by decide, by decide⟩
  have hsubqueries : ["(SELECT b), c".toList].flatMap (fun b => subqueries (inParens b)) = ["SELECT b".toList] := by
    rfl
  constructor
  · obtain ⟨i, htext, htable, hcolumns, hvalues⟩ : ∃ i : Insertion,
        i.text = "INSERT INTO t (set, a) VALUES ((SELECT b), c)".toList ∧ i.table.text = "t".toList ∧
          i.columns = ["set".toList, "a".toList] ∧ i.values.text = "(SELECT b), c".toList := by
      have hfirst : ∀ c ∈ ["set".toList, "a".toList].head?, upper c ≠ "SELECT".toList := by
        rintro c ⟨⟩
        decide
      exact ⟨⟨t, ["set".toList, "a".toList], by simp, by decide, hfirst, values⟩, rfl, rfl, rfl, rfl⟩
    have hreport := report_change (.insertion i)
    simp only [Change.text, Change.command, Change.table, Change.columns, Change.groups, htext, htable, hcolumns,
      hvalues, hsubqueries] at hreport
    exact hreport
  · obtain ⟨u, htext, htable, hcolumns, hgroups⟩ : ∃ u : Update,
        u.text = "UPDATE t SET t = ((SELECT b), c), a = b WHERE a".toList ∧ u.table.text = "t".toList ∧
          u.assignments.map (·.column.text) = ["t".toList, "a".toList] ∧ u.groups = ["(SELECT b), c".toList] :=
      ⟨⟨t, [⟨t, .group values⟩, ⟨a, .name b⟩], by simp, a⟩, rfl, rfl, rfl, rfl⟩
    have hreport := report_change (.update u)
    simp only [Change.text, Change.command, Change.table, Change.columns, Change.groups, htext, htable, hcolumns,
      hgroups, hsubqueries] at hreport
    exact hreport

end SqlSkim
