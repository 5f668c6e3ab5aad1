import SqlSkim.Text.Quoted

/-!
# `Toml.Basic` — settings read from TOML, and how reading fails

## Contents
- `Setting`, `Table`: the values of a settings file.
- `Toml.Limit`: what the size of a value is limited to.
- `Toml.Fault`, `Toml.SyntaxError`: what is wrong with a text, and where.
- `Toml.Read`, `Toml.Reading`: a value read off the front of a text, with the shorter rest.
- `Toml.skipSpace`, `Toml.skipComment`, `Toml.skipLines`: what stands between values.
-/

namespace SqlSkim

/-- A value in a settings file. Numbers, dates and times are kept as they are written. -/
inductive Setting where
  | bool (b : Bool)
  | text (t : Text)
  | literal (lexeme : Text)
  | array (items : List Setting)
  | table (members : List (Text × Setting))
  deriving Inhabited

/-- A table of settings, in the order in which its keys are first given. -/
abbrev Table := List (Text × Setting)

/-- Whether a setting holds other settings. -/
def Setting.isContainer : Setting → Bool
  | .array _ | .table _ => true
  | _ => false

namespace Toml

/-! ## Limits -/

/-- The most digits that a decimal integer may have. -/
def maxDigits : Nat := 4300

/-- How many steps deep values may nest. -/
def maxNesting : Nat := 988

/-- The steps of nesting that an array takes. -/
def arraySteps : Nat := 2

/-- The steps of nesting that an inline table takes. -/
def tableSteps : Nat := 3

/-- A limit that a valid value goes beyond. -/
inductive Limit where
  /-- An integer has `count` digits. -/
  | digits (count : Nat)
  /-- Arrays and inline tables nest too deep. -/
  | nesting
  deriving DecidableEq

/-- The wording of a limit. -/
def Limit.message : Limit → Text
  | digits count =>
    "Exceeds the limit (".toList ++ decimal maxDigits ++
      " digits) for integer string conversion: value has ".toList ++ decimal count ++
      " digits; use sys.set_int_max_str_digits() to increase the limit".toList
  | nesting => "maximum recursion depth exceeded".toList

/-! ## Faults -/

/-- What can be wrong with a settings file. -/
inductive Fault where
  | invalidStatement
  | expectedLineEnd
  | expectedEquals
  | expectedTableEnd
  | expectedTableArrayEnd
  | invalidKey
  | invalidValue
  | invalidDate
  | unterminatedText
  /-- The quotes that end a literal text are missing. -/
  | expectedMark (mark : Text)
  /-- A control character stands in a basic text. -/
  | illegalCharacter (c : Char)
  /-- A control character stands in a literal text or a comment. -/
  | invalidCharacter (c : Char)
  | invalidEscape
  | invalidHexValue
  | notScalarValue
  | unclosedArray
  | unclosedInlineTable
  /-- A header names a table that a header or a value has made. -/
  | declaredTwice (path : List Text)
  /-- A dotted key leads through a table that another section has made. -/
  | redefined (path : List Text)
  /-- A key leads into an array or an inline table. -/
  | immutable (path : List Text)
  | duplicateMember (name : Text)
  | valueOverwritten
  | exceeds (limit : Limit)
  deriving DecidableEq

/-- The wording of a fault. -/
def Fault.message : Fault → Text
  | invalidStatement => "Invalid statement".toList
  | expectedLineEnd => "Expected newline or end of document after a statement".toList
  | expectedEquals => "Expected '=' after a key in a key/value pair".toList
  | expectedTableEnd => "Expected ']' at the end of a table declaration".toList
  | expectedTableArrayEnd => "Expected ']]' at the end of an array declaration".toList
  | invalidKey => "Invalid initial character for a key part".toList
  | invalidValue => "Invalid value".toList
  | invalidDate => "Invalid date or datetime".toList
  | unterminatedText => "Unterminated string".toList
  | expectedMark mark => "Expected ".toList ++ quoted mark
  | illegalCharacter c => "Illegal character ".toList ++ quoted [c]
  | invalidCharacter c => "Found invalid character ".toList ++ quoted [c]
  | invalidEscape => "Unescaped '\\' in a string".toList
  | invalidHexValue => "Invalid hex value".toList
  | notScalarValue => "Escaped character is not a Unicode scalar value".toList
  | unclosedArray => "Unclosed array".toList
  | unclosedInlineTable => "Unclosed inline table".toList
  | declaredTwice path => "Cannot declare ".toList ++ quotedTuple path ++ " twice".toList
  | redefined path => "Cannot redefine namespace ".toList ++ quotedTuple path
  | immutable path => "Cannot mutate immutable namespace ".toList ++ quotedTuple path
  | duplicateMember name => "Duplicate inline table key ".toList ++ quoted name
  | valueOverwritten => "Cannot overwrite a value".toList
  | exceeds limit => limit.message

/-- A fault, and the text that was still to be read when it was found. -/
structure SyntaxError where
  fault : Fault
  rest : Text

/-- Where an offset lies in a source: line and column, both from one. -/
def position (source : Text) (offset : Nat) : Text :=
  if source.length ≤ offset then "end of document".toList
  else
    let before := source.take offset
    let column := (before.reverse.takeWhile (· ≠ '\n')).length + 1
    "line ".toList ++ decimal (before.count '\n' + 1 : Nat) ++ ", column ".toList ++
      decimal column

/-- The wording of an error in the given source. -/
def SyntaxError.message (source : Text) (e : SyntaxError) : Text :=
  e.fault.message ++ " (at ".toList ++
    position source (source.length - e.rest.length) ++ [')']

/-! ## Reading from the front -/

/-- A value read off the front of `s`, and what remains of `s` behind it. -/
structure Read (s : Text) (α : Type) where
  value : α
  rest : Text
  shorter : rest.length < s.length

/-- The outcome of reading a value off the front of `s`. -/
abbrev Reading (s : Text) (α : Type) := Except SyntaxError (Read s α)

variable {s t : Text} {α β : Type}

/-- What was read from a later place, as read from an earlier one. -/
def Reading.lift (h : t.length ≤ s.length) (f : α → β) (reading : Reading t α) : Reading s β :=
  reading.map fun r => ⟨f r.value, r.rest, Nat.lt_of_lt_of_le r.shorter h⟩

/-! ## Lengths -/

theorem length_le_cons (c : Char) (t : Text) : t.length ≤ (c :: t).length := Nat.le_succ _

theorem length_le_cons_cons (c d : Char) (t : Text) : t.length ≤ (c :: d :: t).length :=
  Nat.le_add_right _ 2

theorem length_drop_le (n : Nat) (t : Text) : (t.drop n).length ≤ t.length :=
  (List.drop_sublist n t).length_le

theorem length_dropWhile_le (p : Char → Bool) (t : Text) : (t.dropWhile p).length ≤ t.length :=
  (List.dropWhile_sublist p).length_le

/-! ## Space and comments -/

/-- Blanks within a line. -/
def isSpace (c : Char) : Bool := c = ' ' || c = '\t'

/-- Control characters. Apart from tabs, and line ends in some places, they may stand nowhere. -/
def isControl (c : Char) : Bool := c.toNat < 0x20 || c.toNat = 0x7F

/-- What follows the blanks of a line. -/
def skipSpace (t : Text) : Text := t.dropWhile isSpace

theorem skipSpace_length_le (t : Text) : (skipSpace t).length ≤ t.length :=
  length_dropWhile_le _ t

theorem length_lt_of_skipSpace {t u : Text} {c : Char} (h : skipSpace t = c :: u) :
    u.length < t.length := by
  have := skipSpace_length_le t
  rw [h] at this
  exact this

/-- What follows blanks, line ends and comments. `inComment` says that a comment has begun. -/
def skipLines (inComment : Bool) : Text → Except SyntaxError Text
  | [] => .ok []
  | c :: rest =>
    if c = '\n' then skipLines false rest
    else if inComment then
      if isControl c ∧ c ≠ '\t' then .error ⟨.invalidCharacter c, c :: rest⟩
      else skipLines true rest
    else if isSpace c then skipLines false rest
    else if c = '#' then skipLines true rest
    else .ok (c :: rest)

theorem skipLines_length_le {inComment : Bool} {t u : Text}
    (h : skipLines inComment t = .ok u) : u.length ≤ t.length := by
  fun_induction skipLines inComment t <;> grind

/-- What follows a comment, if one stands here: the end of its line or of the text. -/
def skipComment : Text → Except SyntaxError Text
  | '#' :: rest =>
    match rest.dropWhile fun c => !isControl c || c = '\t' with
    | [] => .ok []
    | c :: after =>
      if c = '\n' then .ok (c :: after) else .error ⟨.invalidCharacter c, c :: after⟩
  | t => .ok t

theorem skipComment_length_le {t u : Text} (h : skipComment t = .ok u) :
    u.length ≤ t.length := by
  unfold skipComment at h
  split at h
  · rename_i rest
    have hrest := length_dropWhile_le (fun c => !isControl c || c = '\t') rest
    split at h
    · simp only [Except.ok.injEq] at h
      exact h ▸ Nat.zero_le _
    · rename_i c after hafter
      split at h
      · simp only [Except.ok.injEq] at h
        rw [hafter, h] at hrest
        exact Nat.le_trans hrest (length_le_cons _ _)
      · simp at h
  · simp only [Except.ok.injEq] at h
    exact h ▸ Nat.le_refl _

end Toml

end SqlSkim
