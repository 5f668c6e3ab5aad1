import SqlSkim.Toml.Quoted

/-!
# `Toml.Number` — numbers, dates and times

Of these values only the extent matters here, so each form is described by the width of its longest
match at the front of a text.

## Contents
- `numberWidth?`, `integerDigits?`: integers and floats.
- `timeWidth?`, `dateWidth?`: times, dates, and dates with a time.
- `literalWidth`: any of them.
-/

namespace SqlSkim.Toml

/-! ## Numbers -/

/-- The width of digits that follow a digit; a `_` may stand before each of them. -/
def moreDigits (isDigit : Char → Bool) : Text → Nat
  | '_' :: d :: rest => if isDigit d then moreDigits isDigit rest + 2 else 0
  | d :: rest => if isDigit d then moreDigits isDigit rest + 1 else 0
  | [] => 0

/-- The width of one or more digits. -/
def digitsWidth? (isDigit : Char → Bool) : Text → Option Nat
  | d :: rest => if isDigit d then some (moreDigits isDigit rest + 1) else none
  | [] => none

/-- The width of a sign that may be missing. -/
def signWidth : Text → Nat
  | c :: _ => if c = '+' ∨ c = '-' then 1 else 0
  | [] => 0

/-- The width of the fraction of a float, zero if there is none. -/
def fractionWidth : Text → Nat
  | '.' :: rest => ((digitsWidth? Char.isDigit rest).map (· + 1)).getD 0
  | _ => 0

/-- The width of the exponent of a float, zero if there is none. -/
def exponentWidth : Text → Nat
  | e :: rest =>
    let sign := signWidth rest
    if e = 'e' ∨ e = 'E' then
      ((digitsWidth? Char.isDigit (rest.drop sign)).map (· + sign + 1)).getD 0
    else 0
  | [] => 0

/-- The width of the whole part of a decimal number. No digit follows a leading zero. -/
def wholeWidth? : Text → Option Nat
  | '0' :: _ => some 1
  | t => digitsWidth? Char.isDigit t

/-- The width of a decimal integer or float. -/
def decimalWidth? (t : Text) : Option Nat :=
  let sign := signWidth t
  (wholeWidth? (t.drop sign)).map fun whole =>
    let fraction := fractionWidth (t.drop (sign + whole))
    sign + whole + fraction + exponentWidth (t.drop (sign + whole + fraction))

/-- The width of an integer in base 16, 8 or 2. -/
def basedWidth? : Text → Option Nat
  | '0' :: 'x' :: rest => (digitsWidth? isHexDigit rest).map (· + 2)
  | '0' :: 'o' :: rest => (digitsWidth? (fun c => '0' ≤ c && c ≤ '7') rest).map (· + 2)
  | '0' :: 'b' :: rest => (digitsWidth? (fun c => c = '0' || c = '1') rest).map (· + 2)
  | _ => none

/-- The width of an integer or a float. -/
def numberWidth? (t : Text) : Option Nat := (basedWidth? t).or (decimalWidth? t)

/-- The number of digits of the number at the front of a text, if it is a decimal integer. -/
def integerDigits? (t : Text) : Option Nat :=
  let sign := signWidth t
  match basedWidth? t, wholeWidth? (t.drop sign) with
  | none, some whole =>
    if decimalWidth? t = some (sign + whole) then
      some (((t.drop sign).take whole).filter Char.isDigit).length
    else none
  | _, _ => none

/-! ## Dates and times -/

/-- The number written in exactly `width` decimal digits at the front of a text, if it lies between
    two bounds. -/
def fixedNumber? (width low high : Nat) (t : Text) : Option Nat :=
  let digits := t.take width
  let n := digitsValue 10 digits
  if digits.length = width ∧ digits.all Char.isDigit ∧ low ≤ n ∧ n ≤ high then some n else none

/-- The width of a fraction of a second, zero if there is none. -/
def secondFractionWidth : Text → Nat
  | '.' :: rest =>
    match (rest.takeWhile Char.isDigit).length with
    | 0 => 0
    | n => n + 1
  | _ => 0

/-- The width of a time of day. -/
def timeWidth? (t : Text) : Option Nat := do
  let _ ← fixedNumber? 2 0 23 t
  let _ ← fixedNumber? 2 0 59 (t.drop 3)
  let _ ← fixedNumber? 2 0 59 (t.drop 6)
  if t[2]? = some ':' ∧ t[5]? = some ':' then some (8 + secondFractionWidth (t.drop 8)) else none

/-- The width of an offset from universal time, zero if there is none. -/
def offsetWidth : Text → Nat
  | [] => 0
  | sign :: rest =>
    if sign = 'Z' ∨ sign = 'z' then 1
    else if (sign = '+' ∨ sign = '-') ∧ (fixedNumber? 2 0 23 rest).isSome ∧ rest[2]? = some ':' ∧
        (fixedNumber? 2 0 59 (rest.drop 3)).isSome then 6
    else 0

/-- The width of a time behind a date, its separator included, zero if there is none. -/
def clockWidth : Text → Nat
  | [] => 0
  | sep :: rest =>
    if sep = 'T' ∨ sep = 't' ∨ sep = ' ' then
      ((timeWidth? rest).map fun w => w + 1 + offsetWidth (rest.drop w)).getD 0
    else 0

/-- The number of days of a month. -/
def monthLength (year month : Nat) : Nat :=
  if month = 2 then
    if year % 4 = 0 ∧ (year % 100 ≠ 0 ∨ year % 400 = 0) then 29 else 28
  else if month = 4 ∨ month = 6 ∨ month = 9 ∨ month = 11 then 30
  else 31

/-- The width of a date, with a time or alone, and whether the calendar has it; the calendar starts
    with the year 1. -/
def dateWidth? (t : Text) : Option (Nat × Bool) := do
  let year ← fixedNumber? 4 0 9999 t
  let month ← fixedNumber? 2 1 12 (t.drop 5)
  let day ← fixedNumber? 2 1 31 (t.drop 8)
  if t[4]? = some '-' ∧ t[7]? = some '-' then
    some (10 + clockWidth (t.drop 10), 0 < year && day ≤ monthLength year month)
  else none

/-! ## Literals -/

/-- The names of the special floats. -/
def specialFloats : List Text :=
  ["inf".toList, "nan".toList, "-inf".toList, "+inf".toList, "-nan".toList, "+nan".toList]

/-- The width of the number at the front of a text. Long integers are refused. -/
def numberWidth (t : Text) : Except Fault Nat :=
  match numberWidth? t, integerDigits? t with
  | none, _ =>
    match specialFloats.find? (·.isPrefixOf t) with
    | some name => .ok name.length
    | none => .error .invalidValue
  | some width, none => .ok width
  | some width, some digits =>
    if maxDigits < digits then .error (.exceeds (.digits digits)) else .ok width

/-- The width of the number, date or time at the front of a text. -/
def literalWidth (t : Text) : Except Fault Nat :=
  match dateWidth? t, timeWidth? t with
  | some (width, true), _ => .ok width
  | some (_, false), _ => .error .invalidDate
  | none, some width => .ok width
  | none, none => numberWidth t

end SqlSkim.Toml
