import SqlSkim.Statement.Table

/-!
# `Statement.Column` — the columns and expressions a statement lists

## Contents
- `stripAlias`: an entry of a select list without its alias.
- `selectColumns`, `insertColumns`, `assignedColumns`: the three kinds of list.
- `columns`: the columns of a statement with a given command.
-/

namespace SqlSkim

/-! ## Aliases -/

/-- Words after which a name goes on with the expression. -/
def expressionWords : List Text :=
  ["AND".toList, "OR".toList, "NOT".toList, "IS".toList, "IN".toList, "LIKE".toList,
    "ILIKE".toList, "BETWEEN".toList, "CASE".toList, "WHEN".toList, "THEN".toList, "ELSE".toList,
    "DISTINCT".toList, "INTERVAL".toList, "COLLATE".toList, "ESCAPE".toList]

/-- Words that end an expression and are never an alias. -/
def reservedTails : List Text :=
  ["END".toList, "NULL".toList, "TRUE".toList, "FALSE".toList, "ASC".toList, "DESC".toList]

/-- Characters after which an expression goes on. -/
def operatorChars : Text := "+-*/%=<>!|&^~".toList

/-- A bare alias: an ASCII letter or `_`, then ASCII letters, digits, `_` and `$`. -/
def isAliasName : Text → Bool
  | [] => false
  | c :: rest => (c.isAlpha || c = '_') && rest.all fun d => d.isAlphanum || d = '_' || d = '$'

/-- Whether the last of two neighbouring words is an alias of what stands before it. -/
def isBareAlias (previous last : Text) : Bool :=
  isAliasName last && !reservedTails.contains (upper last) &&
    !expressionWords.contains (upper previous) && !previous.getLast?.any operatorChars.contains

/-- An entry of a select list without `AS alias` or a bare trailing alias. -/
def stripAlias (entry : Text) : Text :=
  match (keywordRule "AS").find? (.start entry) with
  | some ⟨c :: lead, _, _⟩ => trim (c :: lead)
  | _ =>
    let parts := topLevelWords entry
    match parts.reverse with
    | last :: previous :: _ =>
      if isBareAlias previous last then joinWith " " parts.dropLast else trim entry
    | _ => trim entry

/-! ## Lists -/

/-- The words that may stand before a select list. -/
def selectModifiers : List Phrase := [.ofText "DISTINCT".toList, .ofText "ALL".toList]

/-- The keywords that end a list of assignments. -/
def setTerminators : List Text :=
  ["WHERE".toList, "ORDER BY".toList, "LIMIT".toList, "ON DUPLICATE KEY UPDATE".toList,
    "RETURNING".toList]

/-- The text of the select list: between `SELECT`, with a modifier, and `FROM` or the end. -/
def selectList? (statement : Text) : Option Text :=
  match (keywordRule "SELECT").find? (.start statement) with
  | none => none
  | some found =>
    let list := trim ((keywordRule "FROM").upTo found.after)
    match selectModifiers.findSome? (·.width? (.start list)) with
    | some width => some (list.drop width)
    | none => some list

/-- The entries of the select list without their aliases. -/
def selectColumns (statement : Text) : List Text :=
  match selectList? statement with
  | none => []
  | some list => (splitTopLevel [','] list).map stripAlias

/-- The entries of the parenthesised list behind the name of the table of an `INSERT`. -/
def insertColumns (statement : Text) : List Text :=
  match (keywordRule "INTO").find? (.start statement) with
  | none => []
  | some found =>
    let after := found.after.rest
    match trimLeft (after.drop (readIdentifier after).2) with
    | '(' :: rest =>
      match matchingParen? ('(' :: rest) 0 with
      | some close => splitTopLevel [','] (rest.take (close - 1))
      | none => []
    | _ => []

/-- The left side of an assignment, if it has one. -/
def assignedColumn? (assignment : Text) : Option Text :=
  let column := trim (assignment.takeWhile (· ≠ '='))
  if assignment.contains '=' ∧ column ≠ [] then some column else none

/-- The left sides of the assignments behind `SET`. -/
def assignedColumns (statement : Text) : List Text :=
  match (keywordRule "SET").find? (.start statement) with
  | none => []
  | some found =>
    (splitTopLevel [','] ((Phrase.ruleOf setTerminators).upTo found.after)).filterMap
      assignedColumn?

/-- **The columns of a statement** with the given command, in the order of the text and with
    repetitions. -/
def columns (command : Option Command) (statement : Text) : List Text :=
  match command with
  | some .select => selectColumns statement
  | some .insert =>
    match insertColumns statement with
    | [] => assignedColumns statement
    | listed => listed
  | some .update => assignedColumns statement
  | _ => []

end SqlSkim
