import SqlSkim.Scan.Identifier
import SqlSkim.Statement.Command

/-!
# `Statement.Table` — the tables a statement names

Only the first name of each entry is read, so aliases are never reported; an entry that starts with
a parenthesis (a derived table) names none.

## Contents
- `Tables`: the tables of a statement by role; `Tables.all`.
- `nameAfter?`: the name behind a keyword.
- `Tables.ofSelect`, `Tables.ofStatement`, `hasJoin`.
-/

namespace SqlSkim

/-- The tables of one statement. -/
structure Tables where
  /-- The table the statement is about. -/
  target : Option Text := none
  /-- The tables of the `FROM` list. -/
  listed : List Text := []
  /-- The tables behind join keywords. -/
  joined : List Text := []

/-- All tables, without repetition, in the order in which they are first named. -/
def Tables.all (tables : Tables) : List Text :=
  (tables.target.toList.filter (· ≠ []) ++ tables.listed ++ tables.joined).eraseDups

/-- The join keywords of the default configuration. -/
def defaultJoinKeywords : List Text :=
  ["JOIN".toList, "INNER JOIN".toList, "LEFT JOIN".toList, "RIGHT JOIN".toList,
    "OUTER JOIN".toList]

/-- The keywords that end a `FROM` list, joins apart. -/
def fromTerminators : List Text :=
  ["WHERE".toList, "GROUP BY".toList, "ORDER BY".toList, "HAVING".toList, "LIMIT".toList]

/-- What may stand between `TABLE` and the name of the table. -/
def existenceTests : List Phrase :=
  [.ofText "IF NOT EXISTS".toList, .ofText "IF EXISTS".toList]

/-- Keywords that follow a command whose table name is missing. -/
def clauseKeywords : List Text :=
  ["SET".toList, "VALUES".toList, "WHERE".toList, "SELECT".toList, "FROM".toList,
    "TABLE".toList]

/-- The rule for a single keyword. -/
def keywordRule (keyword : String) : Rule Phrase := Phrase.ruleOf [keyword.toList]

/-- The place behind the first of the phrases that stands behind the blanks here; this place itself
    if none of them does. -/
def Place.skipPhrase (phrases : List Phrase) (p : Place) : Place :=
  match phrases.findSome? (·.width? p.skipBlanks) with
  | some width => p.skipBlanks.advance width
  | none => p

/-- The name behind the first top-level keyword, and behind one of the phrases `skipped` if such a
    phrase follows the keyword. A clause keyword is no name. -/
def nameAfter? (keyword : String) (skipped : List Phrase) (statement : Text) : Option Text :=
  match (keywordRule keyword).find? (.start statement) with
  | none => none
  | some found =>
    (identifier? (found.after.skipPhrase skipped).rest).filter fun name =>
      !clauseKeywords.contains (upper name)

/-- The tables of a `SELECT`: the first name of every entry of the `FROM` list, which ends at a
    clause or a join, and the name behind every join keyword. -/
def Tables.ofSelect (joins : List Text) (statement : Text) : Tables :=
  let entries := match (keywordRule "FROM").find? (.start statement) with
    | none => []
    | some found =>
      splitTopLevel [','] ((Phrase.ruleOf (fromTerminators ++ joins)).upTo found.after)
  let listed := (entries.filterMap identifier?).eraseDups
  let hits := ((Phrase.ruleOf joins).cut (.start statement)).hits 0
  let joined := (hits.filterMap fun hit => identifier? (statement.drop hit.stop)).eraseDups
  ⟨listed.head?, listed, joined⟩

/-- **The tables of a statement** with the given command. -/
def Tables.ofStatement (joins : List Text) (command : Option Command) (statement : Text) :
    Tables :=
  match command with
  | some .select => .ofSelect joins statement
  | some .insert => ⟨nameAfter? "INTO" [] statement, [], []⟩
  | some .update => ⟨nameAfter? "UPDATE" [] statement, [], []⟩
  | some .delete => ⟨nameAfter? "FROM" [] statement, [], []⟩
  | some .createTable | some .drop | some .alter =>
    ⟨nameAfter? "TABLE" existenceTests statement, [], []⟩
  | some .truncate =>
    ⟨(nameAfter? "TABLE" [] statement).or (nameAfter? "TRUNCATE" [] statement), [], []⟩
  | some .createIndex => ⟨nameAfter? "ON" [] statement, [], []⟩
  | none => ⟨none, [], []⟩

/-- Whether a statement has a join keyword at depth zero. -/
def hasJoin (joins : List Text) (statement : Text) : Bool :=
  ((Phrase.ruleOf joins).find? (.start statement)).isSome

end SqlSkim
