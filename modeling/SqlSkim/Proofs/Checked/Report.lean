import SqlSkim.Proofs.Checked.Column
import SqlSkim.Proofs.Checked.Comment
import SqlSkim.Query.Report

/-!
# `Checked.Report` — analysis and diagnostics by offsets

Statements are analysed one by one, and looked at one by one for diagnostics. Of lists only a first or a last
entry is asked for: the first word of a statement, the last offset of a quoting character.

## Contents
- `Checked.analyse`: the analysed statements.
- `Checked.checkQuotes`, `Checked.checkEmptyStatements`, `Checked.checkCommand`: the checks that ask for
  something by its offset; `Checked.diagnose`: all diagnostics.
- `Checked.anyJoin`, `Checked.allSubqueries`: what is said of all statements.
-/

namespace SqlSkim

open Diagnostic

namespace Checked

/-! ## Analysed statements -/

/-- The analysis of a statement. -/
def analyseStatement (config : Config) (t : Text) : Except OffsetError Statement := do
  let command ← commandOf? t
  return ⟨t, command, ← tablesOf config.joinKeywords command t⟩

theorem analyseStatement_eq (config : Config) (t : Text) :
    analyseStatement config t = .ok (.ofText config t) := by
  rw [analyseStatement, commandOf?_eq, ok_bind, tablesOf_eq]
  rfl

/-- The analysed statements of a cleaned query. -/
def analyse (config : Config) (cleaned : Text) : Except OffsetError (List Statement) := do
  (← statements cleaned).mapM (analyseStatement config)

theorem analyse_eq (config : Config) (cleaned : Text) :
    analyse config cleaned = .ok (SqlSkim.analyse config cleaned) := by
  rw [analyse, statements_eq, ok_bind]
  exact mapM_ok fun t _ => analyseStatement_eq config t

/-- Whether some statement has a join. Behind the first one that has, none is looked at. -/
def anyJoin (joins : List Text) : List Statement → Except OffsetError Bool
  | [] => return false
  | s :: more => do
    if ← hasJoin joins s.text then return true else anyJoin joins more

theorem anyJoin_eq (config : Config) (all : List Statement) :
    anyJoin config.joinKeywords all = .ok (Statements.hasJoin config all) := by
  rw [Statements.hasJoin]
  induction all with
  | nil => rfl
  | cons s more ih =>
      rw [anyJoin, hasJoin_eq, ok_bind, List.any_cons, ih]
      cases SqlSkim.hasJoin config.joinKeywords s.text <;> rfl

/-- The subqueries of all statements. -/
def allSubqueries (all : List Statement) : Except OffsetError (List Text) :=
  return (← all.mapM fun s => subqueries s.text).flatten.eraseDups

theorem allSubqueries_eq (all : List Statement) :
    allSubqueries all = .ok (Statements.subqueries all) := by
  rw [allSubqueries, mapM_ok fun s _ => subqueries_eq s.text, ok_bind, ← List.flatMap_def]
  rfl

/-! ## Diagnostics -/

/-- The diagnostic of the first of several quoting characters that stands an odd number of times among the
    given characters. -/
def unbalancedAmong (outside : List (Nat × Char)) : List Char → Except OffsetError (Option Diagnostic)
  | [] => return none
  | mark :: more => do
    let offsets := (outside.filter (·.2 = mark)).map (·.1)
    if offsets.length % 2 = 1 then
      let last ← itemAt offsets (offsets.length - 1)
      return some <| (warning .unbalancedQuote ("unbalanced ".toList ++ mark :: " quote".toList))
        |>.marking last (last + 1) (some "no matching quote".toList)
        |>.noting ("quote characters are stripped, so the literal merges " ++
            "with the surrounding text").toList
    else unbalancedAmong outside more

/-- Warns of a quoting character that stands an odd number of times outside block comments. -/
def checkQuotes (query : Text) : Except OffsetError (Option Diagnostic) := do
  unbalancedAmong (← outsideComments query) quoteChars

theorem checkQuotes_eq (query : Text) : checkQuotes query = .ok (SqlSkim.checkQuotes query) := by
  rw [checkQuotes, outsideComments_eq, ok_bind, SqlSkim.checkQuotes]
  dsimp only
  induction quoteChars with
  | nil => rfl
  | cons mark more ih =>
      rw [unbalancedAmong, List.findSome?_cons]
      generalize ((SqlSkim.outsideComments query).filter (·.2 = mark)).map (·.1) = offsets
      rcases List.eq_nil_or_concat offsets with rfl | ⟨front, last, rfl⟩
      · exact ih
      · have hlast : itemAt (front.concat last) ((front.concat last).length - 1) = .ok last := by
          rw [itemAt, List.length_concat, Nat.add_sub_cancel, List.concat_eq_append]
          simp
        rw [hlast, List.concat_eq_append, List.getLast?_concat]
        dsimp only
        by_cases hodd : (front ++ [last]).length % 2 = 1
        · rw [if_pos hodd, if_pos hodd]
          rfl
        · rw [if_neg hodd, if_neg hodd]
          exact ih

/-- Tells of empty statements. -/
def checkEmptyStatements (cleaned : Text) : Except OffsetError (Option Diagnostic) := do
  match ← emptySegments cleaned with
  | 0 => return none
  | empty + 1 =>
    return some (info .emptyStatement
      (decimal ((empty + 1 : Nat) : Int) ++ " empty statement(s) skipped".toList))

theorem checkEmptyStatements_eq (cleaned : Text) :
    checkEmptyStatements cleaned = .ok (SqlSkim.checkEmptyStatements cleaned) := by
  rw [checkEmptyStatements, emptySegments_eq, ok_bind, SqlSkim.checkEmptyStatements]
  cases SqlSkim.emptySegments cleaned <;> rfl

/-- Reports a statement that starts with no known command. -/
def checkCommand (statement : Text) (command : Option Command) : Except OffsetError (Option Diagnostic) := do
  match command with
  | some _ => return none
  | none =>
    let head := (← headAt (words statement)).getD []
    return some <| (error .unknownCommand ("unrecognized statement: ".toList ++ head.take 32))
      |>.noting ("recognized: ".toList ++ joinWith ", " (Command.all.map (·.text)))

theorem checkCommand_eq (statement : Text) (command : Option Command) :
    checkCommand statement command = .ok (SqlSkim.checkCommand statement command) := by
  cases command with
  | some c => rfl
  | none =>
      rw [checkCommand, headAt_eq, ok_bind, SqlSkim.checkCommand, List.headD_eq_head?_getD]
      rfl

/-- The diagnostics of one analysed statement. -/
def diagnoseStatement (s : Statement) : Except OffsetError (List Diagnostic) := do
  let command ← checkCommand s.text s.command
  return [checkParens s.text, command, checkTable s.command s.tables].filterMap id

theorem diagnoseStatement_eq (s : Statement) : diagnoseStatement s = .ok s.diagnose := by
  rw [diagnoseStatement, checkCommand_eq]
  rfl

/-- The diagnostics of statements that are counted from `index` on. -/
def diagnoseFrom (index : Nat) : List Statement → Except OffsetError (List Diagnostic)
  | [] => return []
  | s :: more => do
    let ds ← diagnoseStatement s
    return ds.map (·.atStatement index) ++ (← diagnoseFrom (index + 1) more)

theorem diagnoseFrom_eq (index : Nat) (all : List Statement) :
    diagnoseFrom index all =
      .ok (all.mapIdx fun i s => s.diagnose.map (·.atStatement ((index + i : Nat) : Int))).flatten := by
  induction all generalizing index with
  | nil => rfl
  | cons s more ih =>
      rw [diagnoseFrom, diagnoseStatement_eq, ok_bind, ih, ok_bind, List.mapIdx_cons, List.flatten_cons]
      simp only [Nat.add_zero, Nat.add_right_comm index 1, Nat.add_assoc]
      rfl

/-- The diagnostics of a query. -/
def diagnose (query cleaned : Text) (all : List Statement) : Except OffsetError (List Diagnostic) := do
  let quotes ← checkQuotes query
  let empty ← checkEmptyStatements cleaned
  return [checkComment query, quotes, empty].filterMap id ++ (← diagnoseFrom 0 all)

theorem diagnose_eq (query cleaned : Text) (all : List Statement) :
    diagnose query cleaned all = .ok (SqlSkim.diagnose query cleaned all) := by
  rw [diagnose, checkQuotes_eq, ok_bind, checkEmptyStatements_eq, ok_bind, diagnoseFrom_eq]
  simp only [Nat.zero_add]
  rfl

end Checked

end SqlSkim
