import SqlSkim.Text.Basic

/-!
# `Scan.Paren` — nesting depth and matching parentheses

Texts are scanned after quotes and comments are gone, so matching parentheses is plain counting. A
stray `)` never takes the depth below zero.

## Contents
- `depthAfter`, `topLevel`: the offsets at depth zero.
- `matchingParen?`: the `)` that closes the group opened at an offset.
- `parenSpans`: all balanced pairs, in the order in which they open.
-/

namespace SqlSkim

/-! ## Depth -/

/-- The two characters that change the depth. -/
def isParen (c : Char) : Bool := c = '(' || c = ')'

/-- The depth after one more character. A `)` at depth zero is stray and leaves it at zero. -/
def depthAfter (depth : Nat) (c : Char) : Nat :=
  if c = '(' then depth + 1 else if c = ')' then depth - 1 else depth

/-- The depth after a whole text. -/
def depthAfterText (depth : Nat) (t : Text) : Nat := t.foldl depthAfter depth

/-- Offsets at depth zero of the text that starts at offset `pos` and at the given depth. -/
def topLevelFrom (pos depth : Nat) : Text → List Nat
  | [] => []
  | c :: rest =>
    let more := topLevelFrom (pos + 1) (depthAfter depth c) rest
    if depth = 0 ∧ !isParen c then pos :: more else more

/-- The offsets from `start` on that lie at depth zero, counted from `start`. The parentheses
    themselves are not among them. -/
def topLevel (t : Text) (start : Nat) : List Nat := topLevelFrom start 0 (t.drop start)

/-! ## Matching -/

/-- The first `)` that takes the running balance to zero. The balance may be negative. -/
def closingFrom (pos : Nat) (balance : Int) : Text → Option Nat
  | [] => none
  | c :: rest =>
    if c = '(' then closingFrom (pos + 1) (balance + 1) rest
    else if c = ')' then
      if balance = 1 then some pos else closingFrom (pos + 1) (balance - 1) rest
    else closingFrom (pos + 1) balance rest

/-- The offset of the `)` that closes the group opened at `start`, if there is one. -/
def matchingParen? (t : Text) (start : Nat) : Option Nat := closingFrom start 0 (t.drop start)

/-! ## Spans -/

/-- The balanced pairs of the text that starts at offset `pos`, and the offsets of its `)` that no
    `(` of it opens, both in increasing order. -/
def parenSpansFrom (pos : Nat) : Text → List (Nat × Nat) × List Nat
  | [] => ([], [])
  | c :: rest =>
    let (spans, unopened) := parenSpansFrom (pos + 1) rest
    if c = '(' then
      match unopened with
      | [] => (spans, [])
      | close :: outer => ((pos, close) :: spans, outer)
    else if c = ')' then (spans, pos :: unopened)
    else (spans, unopened)

/-- The offsets of every balanced pair of parentheses, in the order in which they open. An unmatched
    parenthesis of either kind is in no pair. -/
def parenSpans (t : Text) : List (Nat × Nat) := (parenSpansFrom 0 t).1

end SqlSkim
