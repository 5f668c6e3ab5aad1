import SqlSkim.Toml.Value

/-!
# `Toml.Reader` — settings files

A settings file is TOML 1.0: one statement per line, each a key with its value or the header of a
table.

## Contents
- `readStatement`: a header or an assignment, applied to the document so far.
- `readLineEnd`: what may stand behind a statement.
- `Toml.read`: the table that a text describes.
-/

namespace SqlSkim.Toml

/-! ## Statements -/

/-- The header of a table (`depth` 1) or of a table in an array (`depth` 2), behind its opening
    brackets. -/
def readHeader (depth : Nat) (fault : Fault) (start : Path → Except Fault Document) (s : Text) :
    Reading s Document :=
  match readKey (skipSpace s) with
  | .error e => .error e
  | .ok key =>
    match start key.value with
    | .error fault => .error ⟨fault, key.rest⟩
    | .ok doc =>
      if key.rest.take depth = List.replicate depth ']' then
        .ok ⟨doc, key.rest.drop depth, Nat.lt_of_le_of_lt (length_drop_le _ _)
          (Nat.lt_of_lt_of_le key.shorter (skipSpace_length_le s))⟩
      else .error ⟨fault, key.rest⟩

/-- A key and its value. -/
def readAssignment (doc : Document) (s : Text) : Reading s Document :=
  match readKey s with
  | .error e => .error e
  | .ok key =>
    have hkey := key.shorter
    match h : key.rest with
    | '=' :: rest =>
      match readValue maxNesting (skipSpace rest) with
      | .error e => .error e
      | .ok value =>
        match doc.assign key.value value.value with
        | .error fault => .error ⟨fault, value.rest⟩
        | .ok doc =>
          have hrest : rest.length < key.rest.length := h ▸ Nat.lt_succ_self _
          .ok ⟨doc, value.rest, Nat.lt_trans
            (Nat.lt_of_lt_of_le value.shorter (skipSpace_length_le rest)) (Nat.lt_trans hrest hkey)⟩
    | rest => .error ⟨.expectedEquals, rest⟩

/-- One statement, applied to the document so far. -/
def readStatement (doc : Document) (s : Text) : Reading s Document :=
  match s with
  | '[' :: '[' :: rest =>
    (readHeader 2 .expectedTableArrayEnd doc.openTableArray rest).lift
      (length_le_cons_cons _ _ rest) id
  | '[' :: rest =>
    (readHeader 1 .expectedTableEnd doc.openTable rest).lift (length_le_cons _ rest) id
  | c :: rest =>
    if isKeyChar c ∨ c = '\x22' ∨ c = '\x27' then readAssignment doc (c :: rest)
    else .error ⟨.invalidStatement, c :: rest⟩
  | [] => .error ⟨.invalidStatement, []⟩

/-- The next line: only blanks and a comment may stand before it. -/
def readLineEnd (s : Text) : Except SyntaxError Text :=
  match skipComment (skipSpace s) with
  | .error e => .error e
  | .ok [] => .ok []
  | .ok (c :: rest) => if c = '\n' then .ok rest else .error ⟨.expectedLineEnd, c :: rest⟩

theorem readLineEnd_length {s u : Text} (h : readLineEnd s = .ok u) :
    u.length ≤ s.length ∧ (s ≠ [] → u.length < s.length) := by
  unfold readLineEnd at h
  have hs := skipSpace_length_le s
  split at h
  · simp at h
  · simp only [Except.ok.injEq] at h
    subst h
    exact ⟨Nat.zero_le _, fun hs => List.length_pos_iff.2 hs⟩
  · rename_i c rest hc
    have := skipComment_length_le hc
    split at h
    · simp only [Except.ok.injEq] at h
      subst h
      simp only [List.length_cons] at this
      exact ⟨by omega, fun _ => by omega⟩
    · simp at h

/-! ## Files -/

/-- The rest of a file, applied to the document so far. -/
def readStatements (doc : Document) (s : Text) : Except SyntaxError Document :=
  match hc : skipSpace s with
  | [] => .ok doc
  | c :: rest =>
    have hs : (c :: rest).length ≤ s.length := hc ▸ skipSpace_length_le s
    if c = '\n' ∨ c = '#' then
      match h : readLineEnd (c :: rest) with
      | .error e => .error e
      | .ok next =>
        have : next.length < s.length :=
          Nat.lt_of_lt_of_le ((readLineEnd_length h).2 (List.cons_ne_nil c rest)) hs
        readStatements doc next
    else
      match readStatement doc (c :: rest) with
      | .error e => .error e
      | .ok statement =>
        match h : readLineEnd statement.rest with
        | .error e => .error e
        | .ok next =>
          have : next.length < s.length :=
            Nat.lt_of_lt_of_le (Nat.lt_of_le_of_lt (readLineEnd_length h).1 statement.shorter) hs
          readStatements statement.value next
termination_by s.length

/-- **The settings** that a text describes. -/
def read (t : Text) : Except SyntaxError Table := (readStatements {} t).map (·.data)

end SqlSkim.Toml
