import SqlSkim.Diagnostic.Basic
import SqlSkim.Text.Quoted
import SqlSkim.Json

/-!
# `Diagnostic.Printer` — diagnostics as text and as data

## Contents
- `Sources`: the texts that marks point into; `Diagnostic.source?`.
- `Diagnostic.lines`, `renderDiagnostics`: the text form.
- `Diagnostic.toJson`: the data form.
-/

namespace SqlSkim

/-- The texts that diagnostics are about, as far as they are at hand. -/
structure Sources where
  query : Option Text := none
  statements : Option (List Text) := none

namespace Diagnostic

/-- The text that the marks of the diagnostic point into. -/
def source? (d : Diagnostic) (sources : Sources) : Option Text :=
  match d.statement with
  | none => sources.query
  | some (.ofNat index) => sources.statements.bind (·[index]?)
  | some (.negSucc _) => none

/-- What a mark covers, cut off behind 37 characters if it has more than 40. -/
def excerpt (m : Mark) (source : Text) : Text :=
  let covered := slice source m.start m.stop
  if 40 < covered.length then covered.take 37 ++ "...".toList else covered

/-- The line of a mark: what it covers if the source is at hand, and its bounds otherwise. -/
def markLine (source : Option Text) (m : Mark) : Text :=
  let label := m.label.getD []
  let place := match source with
    | some t => ": ".toList ++ quoted (excerpt m t)
    | none => "..".toList ++ decimal m.stop
  trimRight ("  --> ".toList ++ decimal m.start ++ place ++ ' ' :: label)

/-- The first line of a diagnostic. Statements are counted from one. -/
def headLine (d : Diagnostic) : Text :=
  let tail := match d.statement with
    | some index => " (statement ".toList ++ decimal (index + 1) ++ [')']
    | none => []
  d.severity.name ++ '[' :: d.code.text ++ "]: ".toList ++ d.message ++ tail

/-- The lines of a diagnostic: its head, its marks, its notes. -/
def lines (sources : Sources) (d : Diagnostic) : List Text :=
  d.headLine :: d.marks.map (markLine (d.source? sources)) ++
    d.notes.map ("  = note: ".toList ++ ·)

/-- The data form of a mark. -/
def markToJson (m : Mark) : Json :=
  .object [("start", .int m.start), ("end", .int m.stop), ("label", .ofOption m.label)]

/-- The data form of a diagnostic. Marks come with the name of the text they point into. -/
def toJson (d : Diagnostic) : Json :=
  let marks := if d.marks.isEmpty then [] else
    [("spans", .array (d.marks.map markToJson)),
      ("spans_in", .text (if d.statement.isNone then "query".toList else "statement".toList))]
  let statement := match d.statement with
    | some index => [("statement", .int index)]
    | none => []
  .object ([("level", .text d.severity.name), ("code", .text d.code.text),
    ("message", .text d.message), ("notes", .texts d.notes)] ++ marks ++ statement)

end Diagnostic

/-- The text form of several diagnostics, line by line. -/
def renderDiagnostics (sources : Sources) (ds : List Diagnostic) : Text :=
  joinWith "\n" (ds.flatMap (·.lines sources))

end SqlSkim
