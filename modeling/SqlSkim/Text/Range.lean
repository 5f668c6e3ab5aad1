/-!
# `Text.Range` — tables of code point ranges

A class of characters is given by a list of closed ranges of code points in increasing order; the
list of the standard's ranges is data, the look-up is here.

## Contents
- `inRanges`, the look-up.
-/

namespace SqlSkim

/-- Whether `n` lies in one of the ranges. The ranges are in increasing order, so the search ends at
    the first range above `n`. -/
def inRanges : List (Nat × Nat) → Nat → Bool
  | [], _ => false
  | (first, last) :: more, n =>
    if n < first then false else if n ≤ last then true else inRanges more n

end SqlSkim
