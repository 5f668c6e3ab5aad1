import SqlSkim.Text.Basic

/-!
# `Text.Similarity` — which texts are close to a given one

Two texts are matched at the longest run of characters that they share, then on either side of it in
the same way. They are close if the matched characters make up at least three fifths of both texts
together. The measure is not symmetric, as ties between runs go to the one that starts first in the
left text.

## Contents
- `SharedRun`, `longestRun`: the longest run that two texts share.
- `matchedLength`: how many characters of two texts are matched.
- `closeMatches`: the closest of several texts.
-/

namespace SqlSkim

/-! ## Shared runs -/

/-- A run of characters that two texts share: where it starts in each, and how long it is. -/
structure SharedRun where
  left : Nat
  right : Nat
  length : Nat

namespace SharedRun

/-- The run in texts that have one more character in front of the left one. -/
def shiftLeft (r : SharedRun) : SharedRun := { r with left := r.left + 1 }

/-- The run in texts that have one more character in front of the right one. -/
def shiftRight (r : SharedRun) : SharedRun := { r with right := r.right + 1 }

/-- The longer of two runs. The first wins a tie. -/
def longer (r q : SharedRun) : SharedRun := if r.length < q.length then q else r

end SharedRun

/-- How many characters two texts share at their fronts. -/
def commonLength : Text → Text → Nat
  | c :: s, d :: t => if c = d then commonLength s t + 1 else 0
  | _, _ => 0

/-- The longest run from the front of `s` that `t` shares. The first of equal length wins. -/
def longestRunFromFront (s : Text) : Text → SharedRun
  | [] => ⟨0, 0, 0⟩
  | d :: t => .longer ⟨0, 0, commonLength s (d :: t)⟩ (longestRunFromFront s t).shiftRight

/-- **The longest run that two texts share.** Of equal length, the one that starts first in the left
    text wins, and then the one that starts first in the right text. -/
def longestRun : Text → Text → SharedRun
  | [], _ => ⟨0, 0, 0⟩
  | c :: s, t => .longer (longestRunFromFront (c :: s) t) (longestRun s t).shiftLeft

theorem commonLength_le (s t : Text) : commonLength s t ≤ s.length := by
  fun_induction commonLength s t with
  | case1 s c t ih => exact Nat.succ_le_succ ih
  | case2 => exact Nat.zero_le _
  | case3 => exact Nat.zero_le _

/-- A run from the front stays in the left text. -/
theorem longestRunFromFront_end_le (s t : Text) :
    (longestRunFromFront s t).left + (longestRunFromFront s t).length ≤ s.length := by
  induction t with
  | nil => exact Nat.zero_le _
  | cons d t ih =>
    rw [longestRunFromFront, SharedRun.longer]
    split
    · exact ih
    · rw [Nat.zero_add]
      exact commonLength_le s (d :: t)

/-- The longest run stays in the left text. -/
theorem longestRun_end_le (s t : Text) :
    (longestRun s t).left + (longestRun s t).length ≤ s.length := by
  induction s with
  | nil => exact Nat.zero_le _
  | cons c s ih =>
    rw [longestRun, SharedRun.longer]
    split
    · change (longestRun s t).left + 1 + (longestRun s t).length ≤ s.length + 1
      rw [Nat.add_right_comm]
      exact Nat.succ_le_succ ih
    · exact longestRunFromFront_end_le (c :: s) t

/-! ## Matched characters -/

/-- A part in front of a run is shorter than the text. -/
theorem length_take_lt {s : Text} {start length : Nat} (within : start + length ≤ s.length)
    (nonempty : length ≠ 0) : (s.take start).length < s.length := by
  rw [List.length_take]
  omega

/-- A part behind a run is shorter than the text. -/
theorem length_drop_lt {s : Text} {start length : Nat} (within : start + length ≤ s.length)
    (nonempty : length ≠ 0) : (s.drop (start + length)).length < s.length := by
  rw [List.length_drop]
  omega

/-- **How many characters of two texts are matched:** those of the longest run that they share, and
    those matched in front of it and behind it. -/
def matchedLength (s t : Text) : Nat :=
  let run := longestRun s t
  if _h : run.length = 0 then 0
  else
    matchedLength (s.take run.left) (t.take run.right) + run.length +
      matchedLength (s.drop (run.left + run.length)) (t.drop (run.right + run.length))
termination_by s.length
decreasing_by
  · exact length_take_lt (longestRun_end_le s t) _h
  · exact length_drop_lt (longestRun_end_le s t) _h

/-! ## Close texts -/

/-- Whether a candidate is close to a text: three fifths of their characters or more are matched. -/
def isClose (candidate t : Text) : Bool :=
  3 * (candidate.length + t.length) ≤ 10 * matchedLength candidate t

/-- Whether one candidate is at least as close to `t` as another. Of equally close ones the one that
    is later in the order of code points counts as closer. -/
def isCloser (t candidate other : Text) : Bool :=
  let here := matchedLength candidate t * (other.length + t.length)
  let there := matchedLength other t * (candidate.length + t.length)
  there < here || there = here && inOrder other candidate

/-- **The candidates that are close to a text,** at most three of them, the closest first. -/
def closeMatches (candidates : List Text) (t : Text) : List Text :=
  ((candidates.filter (isClose · t)).mergeSort (isCloser t)).take 3

end SqlSkim
