import SqlSkim.Text.Blank

/-!
# `Text.Basic` — texts and the cuts made in them

A text is the list of its characters, so every offset and length counts code points.

## Contents
- `Text`, `trim`, `words`: trimming and plain splitting.
- `slice`: the part of a text between two bounds that may be negative or out of range.
- `inOrder`: the order of texts by code point.
- `decimal`, `hexDigits`: numbers as text.
-/

namespace SqlSkim

/-- A text, as the list of its characters. -/
abbrev Text := List Char

/-! ## Trimming and splitting -/

/-- The text without the blanks at its front. -/
def trimLeft (t : Text) : Text := t.dropWhile isBlank

/-- The text without the blanks at its end. -/
def trimRight (t : Text) : Text := (t.reverse.dropWhile isBlank).reverse

/-- The text without the blanks at either end. -/
def trim (t : Text) : Text := trimRight (trimLeft t)

/-- The blank-separated words of a text. -/
def words (t : Text) : List Text := (t.splitOnP isBlank).filter (· ≠ [])

/-- The texts one after another, with `sep` between neighbours. -/
def joinWith (sep : String) (parts : List Text) : Text := sep.toList.intercalate parts

/-! ## Slices -/

/-- An offset that may count from the end: negative bounds have the length added, and what is still
    out of range moves to the nearer end. -/
def clampOffset (length : Nat) (bound : Int) : Nat :=
  if bound < 0 then (bound + length).toNat else min bound.toNat length

/-- The part of the text from `start` up to `stop`; empty if the bounds are in the wrong order. -/
def slice (t : Text) (start stop : Int) : Text :=
  let first := clampOffset t.length start
  (t.drop first).take (clampOffset t.length stop - first)

/-! ## Order -/

/-- Whether a text stands before or at another one in the order of code points. -/
def inOrder : Text → Text → Bool
  | [], _ => true
  | _ :: _, [] => false
  | c :: t, d :: u => if c = d then inOrder t u else c.toNat < d.toNat

/-! ## Numbers -/

/-- The decimal text of an integer. -/
def decimal : Int → Text
  | .ofNat n => Nat.toDigits 10 n
  | .negSucc n => '-' :: Nat.toDigits 10 (n + 1)

/-- The text with zeros in front, so that it has at least `width` characters. -/
def padZeros (width : Nat) (digits : Text) : Text :=
  List.replicate (width - digits.length) '0' ++ digits

/-- The lower-case hexadecimal text of a number, with at least `width` digits. -/
def hexDigits (width n : Nat) : Text := padZeros width (Nat.toDigits 16 n)

end SqlSkim
