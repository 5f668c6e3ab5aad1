import SqlSkim.Scan.Phrase

/-!
# `Statement.Command` — the leading keyword of a statement

## Contents
- `Command`, with its keyword `Command.text`.
- `Command.ofStatement?`: the command that a statement starts with.
-/

namespace SqlSkim

/-- The commands a statement can start with. -/
inductive Command where
  | createTable
  | createIndex
  | select
  | insert
  | update
  | delete
  | drop
  | alter
  | truncate
  deriving DecidableEq

namespace Command

/-- Every command. The phrases exclude each other, so the order decides nothing. -/
def all : List Command :=
  [createTable, createIndex, select, insert, update, delete, drop, alter, truncate]

/-- The keyword phrase of a command. -/
def text : Command → Text
  | createTable => "CREATE TABLE".toList
  | createIndex => "CREATE INDEX".toList
  | select => "SELECT".toList
  | insert => "INSERT".toList
  | update => "UPDATE".toList
  | delete => "DELETE".toList
  | drop => "DROP".toList
  | alter => "ALTER".toList
  | truncate => "TRUNCATE".toList

/-- The phrase to look for. -/
def phrase (c : Command) : Phrase := .ofText c.text

/-- The text of a command that may be missing. -/
def textOf : Option Command → Text
  | some c => c.text
  | none => []

/-- **The command of a statement**: the one whose phrase stands at its first character that is not
    blank. `CREATE` followed by anything but `TABLE` or `INDEX` is no command. -/
def ofStatement? (statement : Text) : Option Command :=
  all.find? fun c => (c.phrase.width? (.start (trimLeft statement))).isSome

/-- The command with the given keyword, if there is one. The empty text stands for no command. -/
def ofText? (t : Text) : Option (Option Command) :=
  if t = [] then some none else (all.find? (·.text = t)).map some

end Command

end SqlSkim
