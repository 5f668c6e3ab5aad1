import SqlSkim.Toml.Basic

/-!
# `Toml.Document` — tables under construction

A document is built from assignments and table headers. Which of them may still extend a table
depends on how the table came about: a table opened by a header, or by a dotted key of an earlier
section, is not opened again, and what was written as one value is not extended at all.

## Contents
- `Path`, `modifyAt`: changing the table behind a path.
- `Document`, with `assign`, `assignMember`, `openTable` and `openTableArray`.
-/

namespace SqlSkim.Toml

/-- The keys that lead to a value. -/
abbrev Path := List Text

/-- Replaces the value of a key that the table has. -/
def setKey (table : Table) (key : Text) (value : Setting) : Table :=
  table.map fun (k, v) => if k = key then (k, value) else (k, v)

/-- Changes the table behind a path. Missing tables are made on the way; behind an array of tables
    the path goes on in its last one. -/
def modifyAt (change : Table → Except Fault Table) : Path → Table → Except Fault Table
  | [], table => change table
  | key :: path, table =>
    match table.lookup key with
    | none => do return table ++ [(key, .table (← modifyAt change path []))]
    | some (.table inner) => do
      return setKey table key (.table (← modifyAt change path inner))
    | some (.array items) =>
      match items.getLast? with
      | some (.table inner) => do
        let inner ← modifyAt change path inner
        return setKey table key (.array (items.dropLast ++ [.table inner]))
      | _ => .error .valueOverwritten
    | some _ => .error .valueOverwritten

/-- A document as far as it is built. -/
structure Document where
  data : Table := []
  /-- The tables that no header and no dotted key may open again. -/
  opened : List Path := []
  /-- The tables opened by dotted keys of the current section; they count as opened when it ends. -/
  dotted : List Path := []
  /-- The inline tables and arrays; nothing in them is extended. -/
  closed : List Path := []
  /-- The path of the current section. -/
  current : Path := []

namespace Document

/-- Whether a path is, or leads into, a value that is not extended. -/
def isClosed (doc : Document) (path : Path) : Bool := doc.closed.any (·.isPrefixOf path)

/-- Adds a value behind a path. A name that is taken is the given fault. -/
def insert (doc : Document) (path : Path) (value : Setting) (taken : Text → Fault) :
    Except Fault Document := do
  let add (table : Table) : Except Fault Table :=
    let name := path.getLast?.getD []
    match table.lookup name with
    | some _ => .error (taken name)
    | none => .ok (table ++ [(name, value)])
  let data ← modifyAt add path.dropLast doc.data
  let closed := if value.isContainer then path :: doc.closed else doc.closed
  return { doc with data, closed }

/-- Gives a key of the current section its value. -/
def assign (doc : Document) (key : Path) (value : Setting) : Except Fault Document := do
  let through := (List.range key.length).tail.map fun n => doc.current ++ key.take n
  if let some path := through.find? doc.opened.contains then throw (.redefined path)
  let path := doc.current ++ key
  if doc.isClosed path.dropLast then throw (.immutable path.dropLast)
  let doc ← doc.insert path value fun _ => .valueOverwritten
  return { doc with dotted := through ++ doc.dotted }

/-- Gives a key of an inline table its value. -/
def assignMember (doc : Document) (key : Path) (value : Setting) : Except Fault Document := do
  if doc.isClosed key then throw (.immutable key)
  doc.insert key value .duplicateMember

/-- The document at the end of its current section. -/
def endSection (doc : Document) : Document :=
  { doc with opened := doc.dotted ++ doc.opened, dotted := [] }

/-- Starts the section of a table. -/
def openTable (doc : Document) (path : Path) : Except Fault Document := do
  let doc := doc.endSection
  if doc.opened.contains path ∨ doc.isClosed path then throw (.declaredTwice path)
  let data ← modifyAt pure path doc.data
  return { doc with data, opened := path :: doc.opened, current := path }

/-- Starts the section of a new table at the end of an array of tables. What was said of the tables
    inside the last one does not hold inside the new one. -/
def openTableArray (doc : Document) (path : Path) : Except Fault Document := do
  let doc := doc.endSection
  if doc.isClosed path then throw (.immutable path)
  let add (table : Table) : Except Fault Table :=
    let name := path.getLast?.getD []
    match table.lookup name with
    | none => .ok (table ++ [(name, .array [.table []])])
    | some (.array items) => .ok (setKey table name (.array (items ++ [.table []])))
    | some _ => .error .valueOverwritten
  let data ← modifyAt add path.dropLast doc.data
  let outside (p : Path) : Bool := !path.isPrefixOf p
  return { doc with
    data, opened := path :: doc.opened.filter outside, closed := doc.closed.filter outside,
    current := path }

end Document

end SqlSkim.Toml
