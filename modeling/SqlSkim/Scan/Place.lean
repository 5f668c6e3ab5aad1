import SqlSkim.Text.Basic

/-!
# `Scan.Place` — places in a text

Whether a keyword stands somewhere depends on the character before it and on the text from there on.
A place is just that; no offset is needed to go on from it.

## Contents
- `Place`, `Place.start`, `Place.at`: places, at the start of a text and at an offset.
- `Place.advance`, `Place.skipBlanks`: going on.
-/

namespace SqlSkim

/-- A place in a text: the character before it, if any, and all that follows it. -/
structure Place where
  before : Option Char
  rest : Text

/-- The place at the start of a text. -/
def Place.start (t : Text) : Place := ⟨none, t⟩

/-- The place at an offset of a text. -/
def Place.at (t : Text) (pos : Nat) : Place := ⟨(t.take pos).getLast?, t.drop pos⟩

/-- The place `n` characters further on. -/
def Place.advance (p : Place) (n : Nat) : Place :=
  ⟨(p.rest.take n).getLast?.or p.before, p.rest.drop n⟩

/-- The first place from here on that is not before a blank. -/
def Place.skipBlanks (p : Place) : Place := p.advance (p.rest.takeWhile isBlank).length

end SqlSkim
