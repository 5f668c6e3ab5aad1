import SqlSkim.Scan.Phrase

/-!
# `Statement.Basic` — statements of a cleaned query

A cleaned query is a list of statements between separators: `;`, `UNION` and `UNION ALL`, at depth
zero.

## Contents
- `separators`: the query cut at its separators.
- `statements`: the statements; `emptySegments`: how many are empty.
-/

namespace SqlSkim

/-- The phrases that separate statements. -/
def unionPhrases : List Phrase := [.ofText "UNION ALL".toList, .ofText "UNION".toList]

/-- What separates two statements: a semicolon or a union. -/
def separatorRule : Rule Text := fun place =>
  match place.rest with
  | ';' :: _ => some ([';'], 1)
  | _ => (Phrase.longest? place unionPhrases).map fun (phrase, width) => (phrase.toText, width)

/-- A cleaned query cut at its separators. -/
def separators (t : Text) : Cut Text := separatorRule.cut (.start t)

/-- **The statements of a cleaned query**: the segments between separators, trimmed, without the
    empty ones. -/
def statements (t : Text) : List Text := ((separators t).segments.map trim).filter (· ≠ [])

/-- The number of blank segments before a separator. What follows the last separator does not count,
    so a single trailing `;` leaves no empty segment. -/
def emptySegments (t : Text) : Nat := (separators t).segments.dropLast.countP (trim · = [])

end SqlSkim
