import SqlSkim.Text.Basic

/-!
# `Scan.Identifier` — names

A name is a run of characters up to a blank or one of `( ) , ;`.

## Contents
- `readIdentifier`: the name at the front of a text and how far it reaches.
-/

namespace SqlSkim

/-- The characters at which a name ends. -/
def endsIdentifier (c : Char) : Bool := isBlank c || "(),;".toList.contains c

/-- The name at the front of a text, behind any blanks, and the width of both together. The name may
    be empty. -/
def readIdentifier (t : Text) : Text × Nat :=
  let name := (trimLeft t).takeWhile (!endsIdentifier ·)
  (name, (t.takeWhile isBlank).length + name.length)

/-- The name at the front of a text, if there is one. -/
def identifier? (t : Text) : Option Text :=
  match (readIdentifier t).1 with
  | [] => none
  | name => some name

end SqlSkim
