import SqlSkim.Text.Basic

/-!
# `Query.Comment` — comments, quotes and the cleaned query

A raw query may hold block comments `/* … */`, line comments `-- …` and three kinds of quote. Scans
work on the *cleaned* query, which holds none of them. Taking out a quote or a comment can bring a
`/` next to a `*`, so a pass is repeated until it changes nothing.

## Contents
- `cleanPass`: one pass; `clean`: the repeated pass, with the measure that ends it.
- `openComment?`: the block comment that is never closed.
- `outsideComments`: the characters outside block comments, with their offsets.
-/

namespace SqlSkim

/-- The quoting characters: backtick, single and double quote. -/
def isQuote (c : Char) : Bool := c = '\x60' || c = '\x27' || c = '\x22'

/-! ## The cleaned query -/

/-- What a pass is inside of. -/
inductive Region where
  | code
  | blockComment
  | lineComment
  deriving DecidableEq

/-- One pass: drops quotes and block comments, and line comments up to the end of their line if
    `lineComments` is set. A comment that is never closed reaches to the end. -/
def cleanPass (lineComments : Bool) : Region → Text → Text
  | _, [] => []
  | .code, '/' :: '*' :: rest => cleanPass lineComments .blockComment rest
  | .code, '-' :: '-' :: rest =>
    if lineComments then cleanPass lineComments .lineComment rest
    else '-' :: cleanPass lineComments .code ('-' :: rest)
  | .code, c :: rest =>
    if isQuote c then cleanPass lineComments .code rest
    else c :: cleanPass lineComments .code rest
  | .blockComment, '*' :: '/' :: rest => cleanPass lineComments .code rest
  | .blockComment, _ :: rest => cleanPass lineComments .blockComment rest
  | .lineComment, '\n' :: rest => '\n' :: cleanPass lineComments .code rest
  | .lineComment, _ :: rest => cleanPass lineComments .lineComment rest

/-- A pass only drops characters. -/
theorem cleanPass_sublist (lineComments : Bool) (region : Region) (t : Text) :
    (cleanPass lineComments region t).Sublist t := by
  fun_induction cleanPass lineComments region t with
  | case1 => exact .slnil
  | case2 _ ih => exact (ih.cons _).cons _
  | case3 _ _ ih => exact (ih.cons _).cons _
  | case4 _ _ ih => exact ih.cons_cons _
  | case5 _ _ _ _ _ ih => exact ih.cons _
  | case6 _ _ _ _ _ ih => exact ih.cons_cons _
  | case7 _ ih => exact (ih.cons _).cons _
  | case8 _ _ _ ih => exact ih.cons _
  | case9 _ ih => exact ih.cons_cons _
  | case10 _ _ _ ih => exact ih.cons _

/-- A pass that changes the text makes it shorter. -/
theorem cleanPass_length_lt {lineComments : Bool} {t : Text}
    (h : cleanPass lineComments .code t ≠ t) :
    (cleanPass lineComments .code t).length < t.length := by
  have hs := cleanPass_sublist lineComments .code t
  exact Nat.lt_of_le_of_ne hs.length_le fun he => h (hs.eq_of_length he)

/-- **The cleaned query**: passes repeated until one changes nothing. -/
def clean (lineComments : Bool) (t : Text) : Text :=
  let passed := cleanPass lineComments .code t
  if passed = t then t else clean lineComments passed
termination_by t.length
decreasing_by exact cleanPass_length_lt ‹_›

/-! ## Block comments of the raw query -/

/-- The start of the block comment that is open at the end of the text. `opened` is the start of the
    comment open at its front, and the text starts at offset `pos`. -/
def openCommentFrom (pos : Nat) : Option Nat → Text → Option Nat
  | opened, [] => opened
  | none, '/' :: '*' :: rest => openCommentFrom (pos + 2) (some pos) rest
  | none, _ :: rest => openCommentFrom (pos + 1) none rest
  | some _, '*' :: '/' :: rest => openCommentFrom (pos + 2) none rest
  | some start, _ :: rest => openCommentFrom (pos + 1) (some start) rest

/-- The offset of the `/*` that is never closed, if there is one. -/
def openComment? (t : Text) : Option Nat := openCommentFrom 0 none t

/-- The characters outside block comments of a text that starts at offset `pos`, inside a comment or
    not. -/
def outsideCommentsFrom (pos : Nat) : Bool → Text → List (Nat × Char)
  | _, [] => []
  | false, '/' :: '*' :: rest => outsideCommentsFrom (pos + 2) true rest
  | false, c :: rest => (pos, c) :: outsideCommentsFrom (pos + 1) false rest
  | true, '*' :: '/' :: rest => outsideCommentsFrom (pos + 2) false rest
  | true, _ :: rest => outsideCommentsFrom (pos + 1) true rest

/-- Every character that is in no block comment, with its offset. A comment that is never closed
    hides the rest of the text. -/
def outsideComments (t : Text) : List (Nat × Char) := outsideCommentsFrom 0 false t

end SqlSkim
