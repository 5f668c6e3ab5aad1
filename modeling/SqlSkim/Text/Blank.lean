import SqlSkim.Text.Range

/-!
# `Text.Blank` — white space

The characters that separate words: the Unicode white space together with the four ASCII
information separators `U+001C`–`U+001F`.

## Contents
- `blankRanges`, the code points, and `isBlank`, the test.
-/

namespace SqlSkim

/-- The code points of white space, in increasing order. -/
def blankRanges : List (Nat × Nat) := [
  (9, 0xD), (0x1C, 0x20), (0x85, 0x85), (0xA0, 0xA0), (0x1680, 0x1680), (0x2000, 0x200A),
  (0x2028, 0x2029), (0x202F, 0x202F), (0x205F, 0x205F), (0x3000, 0x3000)]

/-- White space: what separates words and is trimmed off the ends of a text. -/
def isBlank (c : Char) : Bool := inRanges blankRanges c.toNat

end SqlSkim
