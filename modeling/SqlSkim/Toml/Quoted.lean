import SqlSkim.Toml.Basic

/-!
# `Toml.Quoted` — quoted texts

Basic texts stand between `"` and know escapes; literal texts stand between `'` and know none. Both
have a form for several lines, between tripled quotes.

## Contents
- `readBasic`: the body of a basic text up to its closing quotes.
- `readLiteral`, `readLiteralLines`: the bodies of literal texts.
- `readQuotedKey?`, `readQuoted?`: quoted texts as keys and as values.
-/

namespace SqlSkim.Toml

/-! ## Escapes -/

/-- The character that a backslash and this character stand for. -/
def simpleEscape? (c : Char) : Option Char :=
  if c = 'b' then some '\x08'
  else if c = 't' then some '\t'
  else if c = 'n' then some '\n'
  else if c = 'f' then some '\x0c'
  else if c = 'r' then some '\r'
  else if c = '\x22' ∨ c = '\x5c' then some c
  else none

/-- Hexadecimal digits. -/
def isHexDigit (c : Char) : Bool :=
  c.isDigit || ('a' ≤ c && c ≤ 'f') || ('A' ≤ c && c ≤ 'F')

/-- The value of a hexadecimal digit. -/
def digitValue (c : Char) : Nat :=
  if c.isDigit then c.toNat - '0'.toNat
  else if 'a' ≤ c then c.toNat - 'a'.toNat + 10
  else c.toNat - 'A'.toNat + 10

/-- The number with the given digits. -/
def digitsValue (base : Nat) (digits : Text) : Nat :=
  digits.foldl (fun n c => base * n + digitValue c) 0

/-- The character with the code written in `width` hexadecimal digits at the front of a text. -/
def hexChar (width : Nat) (t : Text) : Except SyntaxError Char :=
  let digits := t.take width
  if digits.length ≠ width ∨ !digits.all isHexDigit then .error ⟨.invalidHexValue, t⟩
  else if (digitsValue 16 digits).isValidChar then .ok (Char.ofNat (digitsValue 16 digits))
  else .error ⟨.notScalarValue, t.drop width⟩

/-! ## Basic texts -/

/-- What a backslash at the end of a line still waits for. -/
inductive Fold where
  /-- Nothing. -/
  | none
  /-- The end of its line. -/
  | lineEnd
  /-- The next character that is not blank. -/
  | nextText
  deriving DecidableEq

/-- Up to two more quotes behind three closing ones; they belong to the text. -/
def extraQuotes (mark : Char) : Text → Text
  | c :: d :: _ => if c ≠ mark then [] else if d ≠ mark then [c] else [c, d]
  | [c] => if c ≠ mark then [] else [c]
  | [] => []

/-- The end of a text of several lines, read behind its three closing quotes. -/
def closeLines (mark : Char) (s after : Text) (h : after.length < s.length) : Reading s Text :=
  let extra := extraQuotes mark after
  .ok ⟨extra, after.drop extra.length, Nat.lt_of_le_of_lt (length_drop_le _ _) h⟩

/-- The body of a basic text up to its closing quotes: one, or three if it may span `lines`. -/
def readBasic (lines : Bool) (fold : Fold) (s : Text) : Reading s Text :=
  match s with
  | [] => .error ⟨.unterminatedText, []⟩
  | c :: rest =>
    if fold = .nextText ∧ (isSpace c ∨ c = '\n') then
      (readBasic lines .nextText rest).lift (length_le_cons c rest) id
    else if fold = .lineEnd then
      if isSpace c then (readBasic lines .lineEnd rest).lift (length_le_cons c rest) id
      else if c = '\n' then (readBasic lines .nextText rest).lift (length_le_cons c rest) id
      else .error ⟨.invalidEscape, c :: rest⟩
    else if c = '\x22' then
      if lines then
        match rest with
        | d :: e :: after =>
          if d = c ∧ e = c then closeLines c _ after (Nat.lt_add_of_pos_right (by decide : 0 < 3))
          else (readBasic lines .none (d :: e :: after)).lift (length_le_cons c _) (c :: ·)
        | rest => (readBasic lines .none rest).lift (length_le_cons c rest) (c :: ·)
      else .ok ⟨[], rest, Nat.lt_succ_self _⟩
    else if c = '\x5c' then
      match rest with
      | [] => .error ⟨.invalidEscape, []⟩
      | e :: after =>
        if lines ∧ isSpace e then
          (readBasic lines .lineEnd after).lift (length_le_cons_cons c e after) id
        else if lines ∧ e = '\n' then
          (readBasic lines .nextText after).lift (length_le_cons_cons c e after) id
        else if e = 'u' ∨ e = 'U' then
          let width := if e = 'u' then 4 else 8
          match hexChar width after with
          | .ok d =>
            (readBasic lines .none (after.drop width)).lift
              (Nat.le_trans (length_drop_le _ _) (length_le_cons_cons c e after)) (d :: ·)
          | .error e => .error e
        else match simpleEscape? e with
          | some d =>
            (readBasic lines .none after).lift (length_le_cons_cons c e after) (d :: ·)
          | none => .error ⟨.invalidEscape, after⟩
    else if isControl c ∧ c ≠ '\t' ∧ !(lines ∧ c = '\n') then
      .error ⟨.illegalCharacter c, c :: rest⟩
    else (readBasic lines .none rest).lift (length_le_cons c rest) (c :: ·)
termination_by s.length

/-! ## Literal texts -/

/-- The quotes around a literal text on one line. -/
def literalMark : Text := ['\x27']

/-- The quotes around a literal text that may span lines. -/
def literalLinesMark : Text := ['\x27', '\x27', '\x27']

/-- Whether a mark stands somewhere in a text. -/
def hasMark (mark : Text) : Text → Bool
  | [] => false
  | c :: rest => mark.isPrefixOf (c :: rest) || hasMark mark rest

/-- The body of a literal text on one line. -/
def readLiteralBody (s : Text) : Reading s Text :=
  match s with
  | [] => .error ⟨.expectedMark literalMark, []⟩
  | c :: rest =>
    if c = '\x27' then .ok ⟨[], rest, Nat.lt_succ_self _⟩
    else if isControl c ∧ c ≠ '\t' then .error ⟨.invalidCharacter c, c :: rest⟩
    else (readLiteralBody rest).lift (length_le_cons c rest) (c :: ·)

/-- The body of a literal text that may span lines. -/
def readLiteralLinesBody (s : Text) : Reading s Text :=
  match s with
  | [] => .error ⟨.expectedMark literalLinesMark, []⟩
  | c :: rest =>
    if c = '\x27' ∧ rest.take 2 = [c, c] then
      closeLines c _ (rest.drop 2) (Nat.lt_succ_of_le (length_drop_le 2 rest))
    else if isControl c ∧ c ≠ '\t' ∧ c ≠ '\n' then .error ⟨.invalidCharacter c, c :: rest⟩
    else (readLiteralLinesBody rest).lift (length_le_cons c rest) (c :: ·)

/-- A literal text on one line, behind its opening quote. Missing closing quotes are found before a
    character that may not stand in the text. -/
def readLiteral (s : Text) : Reading s Text :=
  if hasMark literalMark s then readLiteralBody s else .error ⟨.expectedMark literalMark, []⟩

/-- A literal text that may span lines, behind its opening quotes. -/
def readLiteralLines (s : Text) : Reading s Text :=
  if hasMark literalLinesMark s then readLiteralLinesBody s
  else .error ⟨.expectedMark literalLinesMark, []⟩

/-! ## Quoted texts -/

/-- A line end directly behind the opening quotes is no part of the text. -/
def skipFirstLineEnd : Text → Text
  | '\n' :: rest => rest
  | t => t

theorem skipFirstLineEnd_length_le (t : Text) : (skipFirstLineEnd t).length ≤ t.length := by
  fun_cases skipFirstLineEnd t <;> simp

/-- A quoted text on one line, if one stands here. -/
def readQuotedKey? (s : Text) : Option (Reading s Text) :=
  match s with
  | '\x22' :: rest => some ((readBasic false .none rest).lift (length_le_cons _ rest) id)
  | '\x27' :: rest => some ((readLiteral rest).lift (length_le_cons _ rest) id)
  | _ => none

/-- A quoted text, if one stands here. -/
def readQuoted? (s : Text) : Option (Reading s Text) :=
  match s with
  | '\x22' :: '\x22' :: '\x22' :: rest =>
    some ((readBasic true .none (skipFirstLineEnd rest)).lift
      (Nat.le_trans (skipFirstLineEnd_length_le rest) (Nat.le_add_right _ 3)) id)
  | '\x27' :: '\x27' :: '\x27' :: rest =>
    some ((readLiteralLines (skipFirstLineEnd rest)).lift
      (Nat.le_trans (skipFirstLineEnd_length_le rest) (Nat.le_add_right _ 3)) id)
  | s => readQuotedKey? s

end SqlSkim.Toml
