import SqlSkim.Scan.Paren
import SqlSkim.Scan.Place

/-!
# `Scan.Cut` — cutting a text at its top-level tokens

Every scan of this library looks for tokens at depth zero: separators, keywords, commas, blanks. A
`Rule` says whether a token starts at a `Place`; `Rule.cut` cuts a text at all the tokens of a rule,
and everything else (the offsets of the tokens, the segments between them, the first token) is read
off that one cut.

## Contents
- `Rule`, `Rule.char`: recognisers of tokens.
- `Rule.cut`, with `Cut.segments` and `Cut.hits`, the two views of a cut.
- `Rule.find?`, `Rule.upTo`: the first token, and the text before it.
- `splitTopLevel`, `topLevelWords`: splitting at single characters.
-/

namespace SqlSkim

/-! ## Rules -/

/-- Whether a token starts at a place: its label and its width in characters. -/
abbrev Rule (α : Type) := Place → Option (α × Nat)

/-- The rule whose tokens are the single characters that satisfy `p`. -/
def Rule.char (p : Char → Bool) : Rule Char := fun place =>
  match place.rest with
  | c :: _ => if p c then some (c, 1) else none
  | [] => none

/-! ## Cuts -/

/-- A token, and the segment between it and the next one. -/
structure Piece (α : Type) where
  label : α
  width : Nat
  segment : Text

/-- A text cut at tokens: what comes before the first one, and the tokens with their segments. -/
structure Cut (α : Type) where
  head : Text
  pieces : List (Piece α)

/-- A token found at an offset. -/
structure Hit (α : Type) where
  start : Nat
  stop : Nat
  label : α

variable {α : Type}

/-- Cuts the text that follows `before`, at the given depth. The next `skip` characters still belong
    to the token found last: they are in no segment and start no token, but they count for the
    depth. -/
def Rule.cutFrom (rule : Rule α) (before : Option Char) (depth skip : Nat) : Text → Cut α
  | [] => ⟨[], []⟩
  | c :: rest =>
    match skip with
    | skip + 1 => Rule.cutFrom rule (some c) (depthAfter depth c) skip rest
    | 0 =>
      match if depth = 0 ∧ !isParen c then rule ⟨before, c :: rest⟩ else none with
      | some (label, width) =>
        let after := Rule.cutFrom rule (some c) (depthAfter depth c) (width - 1) rest
        ⟨[], ⟨label, width, after.head⟩ :: after.pieces⟩
      | none =>
        let after := Rule.cutFrom rule (some c) (depthAfter depth c) 0 rest
        ⟨c :: after.head, after.pieces⟩

/-- Cuts what follows a place at every token that starts at depth zero, depth being counted from
    that place. The search for the next token goes on behind the last one. -/
def Rule.cut (rule : Rule α) (p : Place) : Cut α := Rule.cutFrom rule p.before 0 0 p.rest

/-- The segments before, between and behind the tokens: one more than there are tokens. -/
def Cut.segments (c : Cut α) : List Text := c.head :: c.pieces.map (·.segment)

/-- The tokens of consecutive pieces, the first of which starts at offset `pos`. -/
def hitsFrom (pos : Nat) : List (Piece α) → List (Hit α)
  | [] => []
  | p :: more =>
    ⟨pos, pos + p.width, p.label⟩ :: hitsFrom (pos + p.width + p.segment.length) more

/-- The tokens of a cut with their offsets; the cut text starts at offset `start`. -/
def Cut.hits (c : Cut α) (start : Nat) : List (Hit α) := hitsFrom (start + c.head.length) c.pieces

/-! ## The first token -/

/-- The first token behind a place: what comes before it, its label, and the place behind it. -/
structure Found (α : Type) where
  lead : Text
  label : α
  after : Place

/-- The first token at depth zero from a place on. -/
def Rule.find? (rule : Rule α) (p : Place) : Option (Found α) :=
  match rule.cut p with
  | ⟨_, []⟩ => none
  | ⟨head, piece :: _⟩ => some ⟨head, piece.label, p.advance (head.length + piece.width)⟩

/-- The text from a place up to the first token, or to the end if there is none. -/
def Rule.upTo (rule : Rule α) (p : Place) : Text := (rule.cut p).head

/-! ## Splitting at single characters -/

/-- The parts of a text between its top-level separators, trimmed, without the empty ones. A
    separator that is not a single character occurs nowhere. -/
def splitTopLevel (sep : Text) (t : Text) : List Text :=
  (((Rule.char ([·] = sep)).cut (.start t)).segments.map trim).filter (· ≠ [])

/-- The parts of a text between its top-level blanks. A parenthesised group stays whole. -/
def topLevelWords (t : Text) : List Text :=
  ((Rule.char isBlank).cut (.start t)).segments.filter (· ≠ [])

end SqlSkim
