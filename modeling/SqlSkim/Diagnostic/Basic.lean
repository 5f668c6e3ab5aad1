import SqlSkim.Text.Basic

/-!
# `Diagnostic.Basic` — what is odd about a query

Scanning never fails: on malformed text it finds less. Diagnostics say why.

## Contents
- `Severity`, `Code`, `Mark`, `Diagnostic`.
- The builders `Diagnostic.info`, `.warning`, `.error`, `.marking`, `.noting`, `.atStatement`.
- `maxSeverity`.
-/

namespace SqlSkim

/-- How grave a diagnostic is. -/
inductive Severity where
  | info
  | warning
  | error
  deriving DecidableEq

namespace Severity

/-- The rank in the order of gravity. -/
def rank : Severity → Nat
  | info => 0
  | warning => 1
  | error => 2

/-- The name shown to users. -/
def name : Severity → Text
  | info => "info".toList
  | warning => "warning".toList
  | error => "error".toList

end Severity

/-- The number of a kind of diagnostic: `1xx` for comments and quotes, `2xx` for structure, `3xx`
    for what statements mean. -/
structure Code where
  number : Int
  deriving DecidableEq

namespace Code

def unterminatedComment : Code := ⟨101⟩
def unbalancedQuote : Code := ⟨102⟩
def unbalancedParentheses : Code := ⟨201⟩
def emptyStatement : Code := ⟨202⟩
def unknownCommand : Code := ⟨301⟩
def noTable : Code := ⟨302⟩

/-- The code as it is shown: `L` and the number in at least four characters, its sign included. -/
def text (c : Code) : Text :=
  'L' :: match c.number with
    | .ofNat n => padZeros 4 (decimal n)
    | .negSucc n => '-' :: padZeros 3 (decimal (n + 1))

end Code

/-- A marked part of a source text, with an explanation. -/
structure Mark where
  start : Int
  stop : Int
  label : Option Text := none

/-- A diagnostic. Its marks are offsets into the statement it is tied to, or else into the query. -/
structure Diagnostic where
  severity : Severity
  code : Code
  message : Text
  marks : List Mark := []
  notes : List Text := []
  /-- The index of the statement that the diagnostic is tied to. -/
  statement : Option Int := none

namespace Diagnostic

/-! ## Builders -/

def info (code : Code) (message : Text) : Diagnostic := { severity := .info, code, message }
def warning (code : Code) (message : Text) : Diagnostic := { severity := .warning, code, message }
def error (code : Code) (message : Text) : Diagnostic := { severity := .error, code, message }

/-- The diagnostic with one more labelled mark. -/
def marking (d : Diagnostic) (start stop : Int) (label : Option Text) : Diagnostic :=
  { d with marks := d.marks ++ [⟨start, stop, label⟩] }

/-- The diagnostic with one more note. -/
def noting (d : Diagnostic) (note : Text) : Diagnostic := { d with notes := d.notes ++ [note] }

/-- The diagnostic tied to a statement. -/
def atStatement (d : Diagnostic) (index : Int) : Diagnostic := { d with statement := some index }

/-! ## Severity -/

/-- Whether the diagnostic is an error. -/
def isError (d : Diagnostic) : Bool := d.severity = .error

/-- The gravest severity among diagnostics, if there are any. -/
def maxSeverity (ds : List Diagnostic) : Option Severity :=
  (ds.map (·.severity)).maxOn? Severity.rank

end Diagnostic

end SqlSkim
