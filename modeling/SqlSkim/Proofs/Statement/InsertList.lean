import SqlSkim.Proofs.Statement.Command
import SqlSkim.Proofs.Statement.SelectList
import SqlSkim.Proofs.Statement.Subquery

/-!
# `Statement.InsertList` — the group behind the name of an `INSERT`

The columns of an `INSERT` are the entries of the group behind the name of its table, and if there is no such
group, the assigned columns. The group is found by its parentheses alone, and what it holds is not looked at.
A query in it is a subquery of the statement, but it is cut at its commas like a list, and its pieces are given
as columns.

## Contents
- `IsInsertGroup`, `IsInsertGroup.mem_subqueries_iff`, `insertColumns_cases`: the group of an `INSERT`.
- `exists_first_entry`: the first entry of a selection.
- `IsReadAsList`, `insert_reads_group`: the main result.
-/

namespace SqlSkim

open Phrase

variable {statement b : Text}

/-! ## The group of an `INSERT` -/

/-- **The group of an `INSERT`** stands behind its first `INTO` at depth zero and a name. -/
def IsInsertGroup (statement b : Text) : Prop :=
  ∃ start stop tail, StandsFirst "INTO" statement 0 start stop ∧
    BehindName (statement.drop stop) (inParens b ++ tail) ∧ IsBalanced b

/-- The group is a subquery of the statement if it holds a selection. -/
theorem IsInsertGroup.mem_subqueries_iff (h : IsInsertGroup statement b) :
    trim b ∈ subqueries statement ↔ Command.ofStatement? (trim b) = some .select := by
  obtain ⟨start, stop, tail, _, ⟨lead, name, gap, hrest, _⟩, hb⟩ := h
  have hsplit : statement = (statement.take stop ++ (lead ++ (name ++ gap))) ++ (inParens b ++ tail) := by
    conv_lhs => rw [← List.take_append_drop stop statement, hrest]
    simp only [List.append_assoc]
  rw [SqlSkim.mem_subqueries_iff]
  exact ⟨And.right, fun hselect => ⟨⟨_, b, tail, hsplit, hb, rfl⟩, hselect⟩⟩

/-- **The entries of the group are listed**, and none if there is no group. -/
theorem insertColumns_cases (statement : Text) :
    (∀ b, IsInsertGroup statement b → insertColumns statement = splitTopLevel [','] b) ∧
      ((∀ b, ¬ IsInsertGroup statement b) → insertColumns statement = []) := by
  have hinto : (ofText "INTO".toList).words ≠ [] := by decide
  rw [insertColumns_eq]
  rcases find?_stands hinto statement with ⟨hfind, habsent⟩ | ⟨found, start, stop, hfind, hfirst, hafter⟩
  · rw [hfind]
    refine ⟨fun b hb => ?_, fun _ => rfl⟩
    obtain ⟨start, stop, tail, hfirst, _⟩ := hb
    exact absurd habsent hfirst.not_isAbsent
  · rw [hfind]
    dsimp only
    rw [hafter, Place.at]
    constructor
    · rintro b ⟨start', stop', tail, hfirst', hbehind, hb⟩
      obtain ⟨rfl, rfl⟩ := hfirst.unique hfirst'
      have hgroup : trimLeft _ = inParens b ++ tail := hbehind.trimLeft_eq
      rw [hgroup, groupEntries_inParens hb]
    · intro hnone
      refine groupEntries_eq_nil fun b tail hb heq => hnone b ⟨start, stop, tail, hfirst, ?_, hb⟩
      rw [← heq]
      exact behindName_trimLeft _

/-! ## Selections in a list -/

/-- A keyword at the front of a list stands at the front of the first segment, for a comma ends words. -/
theorem IsKeyword.wordsWidth?_head {w : Text} (hw : IsKeyword w) (b : Text) :
    wordsWidth? [w] (trimLeft ((Rule.char ([·] = [','])).cut (.start b)).head) =
      wordsWidth? [w] (trimLeft b) := by
  have hcut : CutsInto (Rule.char ([·] = [','])) none 0 b ((Rule.char ([·] = [','])).cut (.start b)) :=
    cutsInto_cutFrom (char_width_pos _) none 0 b
  generalize (Rule.char ([·] = [','])).cut (.start b) = cut at hcut
  cases hcut with
  | last _ => rfl
  | @token _ _ u rest c label width after _ _ _ hrule _ _ =>
      obtain ⟨_, hrest, hcomma, _⟩ := char_eq_some hrule
      obtain ⟨rfl, _⟩ := List.cons.inj hrest
      obtain rfl : c = ',' := by simpa using hcomma
      rw [trimLeft_append_cons (by decide), hw.wordsWidth?_append (continuesWord_gap (by decide) rest)]

/-- **The first entry of a selection** is a selection. -/
theorem exists_first_entry (h : Command.ofStatement? (trim b) = some .select) :
    ∃ first more, splitTopLevel [','] b = first :: more ∧ Command.ofStatement? first = some .select := by
  have hselect : IsKeyword "SELECT".toList := isKeyword_of_command .select _ (by decide)
  have hsame := hselect.wordsWidth?_head b
  generalize hu : ((Rule.char ([·] = [','])).cut (.start b)).head = u at hsame
  have hfirst : Command.ofStatement? (trim u) = some .select := by
    rw [ofStatement?_eq_select_iff, trimLeft_trim, hselect.wordsWidth?_trim] at h ⊢
    rwa [hsame]
  have hne : trim u ≠ [] := by
    intro hnil
    rw [hnil] at hfirst
    exact absurd hfirst (by decide)
  refine ⟨trim u, ((((Rule.char ([·] = [','])).cut (.start b)).pieces.map (·.segment)).map trim).filter
    (· ≠ []), ?_, hfirst⟩
  rw [splitTopLevel, Cut.segments, hu, List.map_cons, List.filter_cons_of_pos (by simpa using hne)]

/-! ## The main result -/

/-- **A group that is read as a list of columns**, whatever it holds. -/
structure IsReadAsList (statement b : Text) : Prop where
  /-- The columns are its entries, or the assigned columns if it has none. -/
  columns_eq : columns (some .insert) statement =
    if splitTopLevel [','] b = [] then assignedColumns statement else splitTopLevel [','] b
  /-- It is a subquery of the statement if it holds a selection. -/
  mem_subqueries_iff : trim b ∈ subqueries statement ↔ Command.ofStatement? (trim b) = some .select
  /-- The pieces of a subquery are the columns, and the first of them is a selection. -/
  pieces_of_mem_subqueries : trim b ∈ subqueries statement → ∃ first more,
    splitTopLevel [','] b = first :: more ∧ columns (some .insert) statement = first :: more ∧
      Command.ofStatement? first = some .select

/-- The columns of an `INSERT` are those of its group, if there are any. -/
theorem columns_insert (statement : Text) :
    columns (some .insert) statement =
      if insertColumns statement = [] then assignedColumns statement else insertColumns statement := by
  rw [columns]
  cases insertColumns statement with
  | nil => rfl
  | cons first more => rfl

/-- **The group of an `INSERT` is read as a list of columns**, a subquery like any other; without one, the
    columns are the assigned ones. -/
theorem insert_reads_group (statement : Text) :
    (∀ b, IsInsertGroup statement b → IsReadAsList statement b) ∧
      ((∀ b, ¬ IsInsertGroup statement b) →
        columns (some .insert) statement = assignedColumns statement) := by
  obtain ⟨hlisted, hnone⟩ := insertColumns_cases statement
  constructor
  · intro b hb
    have hcolumns : columns (some .insert) statement =
        if splitTopLevel [','] b = [] then assignedColumns statement else splitTopLevel [','] b := by
      rw [columns_insert, hlisted b hb]
    refine ⟨hcolumns, hb.mem_subqueries_iff, fun hmem => ?_⟩
    obtain ⟨first, more, hentries, hfirst⟩ := exists_first_entry (hb.mem_subqueries_iff.mp hmem)
    refine ⟨first, more, hentries, ?_, hfirst⟩
    rw [hcolumns, hentries]
    rfl
  · intro h
    rw [columns_insert, hnone h]
    rfl

/-- A query with a group of its own, behind a name with a dot. -/
theorem insert_reads_group_selection :
    let statement := "insert into s.t ( select a, (b) from u ) set x = 1".toList
    let b := " select a, (b) from u ".toList
    IsInsertGroup statement b ∧ IsReadAsList statement b ∧
      columns (some .insert) statement = ["select a".toList, "(b) from u".toList] := by
  intro statement b
  have hinto : StandsFirst "INTO" statement 0 7 (7 + 4) :=
    standsFirst_of_width? (by decide) (by decide +kernel) (by decide +kernel)
  have htext : statement.drop 11 =
      [' '] ++ ("s.t".toList ++ ([' '] ++ (inParens b ++ " set x = 1".toList))) := by decide +kernel
  have hgroup : IsInsertGroup statement b :=
    ⟨7, 11, _, hinto, behindName_of_all htext (by decide) (by decide) (by decide), by decide +kernel⟩
  exact ⟨hgroup, (insert_reads_group statement).1 b hgroup, by decide +kernel⟩

/-- The pieces of a subquery are given as columns, although nothing is assigned. -/
theorem insert_subquery_listed :
    let statement := "INSERT INTO t (SELECT a, b FROM u)".toList
    let b := "SELECT a, b FROM u".toList
    Command.ofStatement? statement = some .insert ∧ IsInsertGroup statement b ∧ trim b ∈ subqueries statement ∧
      columns (some .insert) statement = ["SELECT a".toList, "b FROM u".toList] ∧
        assignedColumns statement = [] := by
  intro statement b
  have hinto : StandsFirst "INTO" statement 0 7 (7 + 4) :=
    standsFirst_of_width? (by decide) (by decide +kernel) (by decide +kernel)
  have htext : statement.drop 11 = [' '] ++ ("t".toList ++ ([' '] ++ (inParens b ++ []))) := by
    decide +kernel
  have hgroup : IsInsertGroup statement b :=
    ⟨7, 11, [], hinto, behindName_of_all htext (by decide) (by decide) (by decide), by decide +kernel⟩
  exact ⟨by decide +kernel, hgroup, by decide +kernel⟩

end SqlSkim
