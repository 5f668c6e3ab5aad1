import SqlSkim.Scan.Cut
import SqlSkim.Text.Alphanumeric
import SqlSkim.Text.Uppercase

/-!
# `Scan.Phrase` — keywords of one or more words

A phrase such as `ORDER BY` is matched word by word, in any letter case, on whole words, with at
least one blank between its words.

## Contents
- `isWordChar`: the characters that make up words.
- `Phrase`, `Phrase.width?`: a phrase, and its match at a place.
- `Phrase.longest?`, `Phrase.rule`: the longest of several phrases, and the rule for a set of them.
- `Phrase.matchAt`: the match at an offset that may lie outside the text.
-/

namespace SqlSkim

/-- The characters of identifiers and keywords. -/
def isWordChar (c : Char) : Bool := isAlphanumeric c || "_$.@#".toList.contains c

/-- A keyword phrase, as its words in upper case. -/
structure Phrase where
  words : List Text
  deriving DecidableEq

/-- Why a match at an offset can fail to be looked for. -/
inductive OffsetError where
  /-- The offset lies behind the end of the text. -/
  | behindEnd
  /-- The offset lies behind the end of every text. -/
  | tooLarge

/-- The largest offset of a character, 2^63 - 1. -/
def maxOffset : Nat := 9223372036854775807

namespace OffsetError

/-- What is wrong with an offset that lies behind the end of a text. The character before it is
    looked at first. -/
def ofOffset (pos : Nat) : OffsetError := if maxOffset < pos - 1 then tooLarge else behindEnd

/-- The wording of an offset error. -/
def message : OffsetError → Text
  | behindEnd => "string index out of range".toList
  | tooLarge => "cannot fit 'int' into an index-sized integer".toList

end OffsetError

namespace Phrase

/-- The phrase written in a text, in any case and with any blanks. -/
def ofText (t : Text) : Phrase := ⟨(SqlSkim.words t).map upper⟩

/-- The words with single blanks between them. -/
def toText (p : Phrase) : Text := joinWith " " p.words

/-- The length that decides between phrases that match at the same place: that of all words, with
    one more character for each. -/
def length (p : Phrase) : Nat := p.words.foldr (fun w n => w.length + 1 + n) 0

/-! ## Matching at a place -/

/-- Whether a word character stands at the front of the text. -/
def continuesWord (t : Text) : Bool := t.head?.any isWordChar

/-- The width of the words at the front of a text. Each must agree, in upper case, with as many
    characters as it has, and must end where a word ends; blanks must stand between two words. -/
def wordsWidth? : List Text → Text → Option Nat
  | [], _ => some 0
  | w :: more, t =>
    let after := t.drop w.length
    if upper (t.take w.length) ≠ w ∨ continuesWord after then none
    else if more = [] then some w.length
    else
      let gap := (after.takeWhile isBlank).length
      if gap = 0 then none
      else (wordsWidth? more (after.drop gap)).map (w.length + gap + ·)

/-- The width of the phrase at a place, if it stands there as whole words. -/
def width? (p : Phrase) (place : Place) : Option Nat :=
  if p.words = [] ∨ place.before.any isWordChar then none else wordsWidth? p.words place.rest

/-- The longest of the phrases that stand at a place, with its width. -/
def longest? (place : Place) : List Phrase → Option (Phrase × Nat)
  | [] => none
  | p :: more =>
    match p.width? place, longest? place more with
    | none, best => best
    | some w, none => some (p, w)
    | some w, some (q, v) => if p.length < q.length then some (q, v) else some (p, w)

/-- The rule whose tokens are the phrases, the longest one winning. -/
def rule (phrases : List Phrase) : Rule Phrase := fun place => longest? place phrases

/-- The rule for phrases given as texts. -/
def ruleOf (keywords : List Text) : Rule Phrase := rule (keywords.map ofText)

/-! ## Matching at an offset -/

/-- The end of the phrase that stands at an offset of a text. Looking behind the end of the text is
    an error, unless the phrase is empty: that one stands nowhere and is never looked for. -/
def matchAt (p : Phrase) (t : Text) (pos : Nat) : Except OffsetError (Option Nat) :=
  if p.words ≠ [] ∧ t.length < pos then .error (.ofOffset pos)
  else .ok ((p.width? (.at t pos)).map (pos + ·))

end Phrase

end SqlSkim
