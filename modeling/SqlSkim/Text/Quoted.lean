import SqlSkim.Text.Basic
import SqlSkim.Text.Printable

/-!
# `Text.Quoted` — texts quoted for messages

A quoted text stands on one line: line breaks and everything unprintable is escaped.

## Contents
- `quoteMark`, `escapeChar`, and `quoted`, the quoted text.
- `quotedTuple`: several quoted texts.
-/

namespace SqlSkim

/-- The quote around a text: single, unless the text holds single quotes and no double one. -/
def quoteMark (t : Text) : Char :=
  if t.contains '\x27' ∧ !t.contains '\x22' then '\x22' else '\x27'

/-- An unprintable character by its code, in the shortest of the three forms that holds it. -/
def escapeCode (n : Nat) : Text :=
  if n < 0x100 then "\\x".toList ++ hexDigits 2 n
  else if n < 0x10000 then "\\u".toList ++ hexDigits 4 n
  else "\\U".toList ++ hexDigits 8 n

/-- A character as it stands between quotes of the given kind. -/
def escapeChar (mark c : Char) : Text :=
  if c = mark ∨ c = '\x5c' then ['\x5c', c]
  else if c = '\n' then "\\n".toList
  else if c = '\r' then "\\r".toList
  else if c = '\t' then "\\t".toList
  else if isPrintable c then [c]
  else escapeCode c.toNat

/-- The text between quotes, with the quote itself and everything unprintable escaped. -/
def quoted (t : Text) : Text :=
  let mark := quoteMark t
  mark :: t.flatMap (escapeChar mark) ++ [mark]

/-- Texts in parentheses, quoted. A single one is followed by a comma. -/
def quotedTuple : List Text → Text
  | [t] => '(' :: quoted t ++ ",)".toList
  | ts => '(' :: joinWith ", " (ts.map quoted) ++ [')']

end SqlSkim
