import SqlSkim.Toml.Document
import SqlSkim.Toml.Number

/-!
# `Toml.Value` — keys and values

## Contents
- `readKey`: a key, bare, quoted or dotted.
- `readValue`, with `readItems` and `readMembers` for arrays and inline tables.
-/

namespace SqlSkim.Toml

/-! ## Keys -/

/-- The characters of keys without quotes. -/
def isKeyChar (c : Char) : Bool := c.isAlphanum || c = '-' || c = '_'

/-- The number of characters at the front of a text that satisfy `p`, as a text and its rest. -/
def readWhile (p : Char → Bool) (fault : Fault) (s : Text) : Reading s Text :=
  match s with
  | [] => .error ⟨fault, []⟩
  | c :: rest =>
    if p c then
      .ok ⟨c :: rest.takeWhile p, rest.dropWhile p, Nat.lt_succ_of_le (length_dropWhile_le p rest)⟩
    else .error ⟨fault, c :: rest⟩

/-- A part of a key. -/
def readKeyPart (s : Text) : Reading s Text :=
  (readQuotedKey? s).getD (readWhile isKeyChar .invalidKey s)

/-- A key: parts with dots between them, and blanks around the dots. -/
def readKey (s : Text) : Reading s Path :=
  match readKeyPart s with
  | .error e => .error e
  | .ok part =>
    match h : skipSpace part.rest with
    | '.' :: rest =>
      have hrest : (skipSpace rest).length < s.length :=
        Nat.lt_of_le_of_lt (skipSpace_length_le rest)
          (Nat.lt_trans (length_lt_of_skipSpace h) part.shorter)
      (readKey (skipSpace rest)).lift (Nat.le_of_lt hrest) (part.value :: ·)
    | rest =>
      .ok ⟨[part.value], rest,
        Nat.lt_of_le_of_lt (h ▸ skipSpace_length_le part.rest) part.shorter⟩
termination_by s.length

/-! ## Values -/

/-- The first `width` characters of a text, at least one. -/
def readWidth (width : Nat) (s : Text) : Reading s Text :=
  match width, s with
  | more + 1, c :: rest =>
    .ok ⟨c :: rest.take more, rest.drop more, Nat.lt_succ_of_le (length_drop_le more rest)⟩
  | _, s => .error ⟨.invalidValue, s⟩

/-- A value that holds no other values. -/
def readScalar (s : Text) : Reading s Setting :=
  match readQuoted? s with
  | some reading => reading.lift (Nat.le_refl _) .text
  | none =>
    if "true".toList.isPrefixOf s then (readWidth 4 s).lift (Nat.le_refl _) fun _ => .bool true
    else if "false".toList.isPrefixOf s then
      (readWidth 5 s).lift (Nat.le_refl _) fun _ => .bool false
    else match literalWidth s with
      | .ok width => (readWidth width s).lift (Nat.le_refl _) .literal
      | .error fault => .error ⟨fault, s⟩

mutual

/-- A value, whose arrays and inline tables may take `room` steps of nesting. -/
def readValue (room : Nat) (s : Text) : Reading s Setting :=
  match s with
  | '[' :: rest =>
    if room < arraySteps then .error ⟨.exceeds .nesting, '[' :: rest⟩
    else match h : skipLines false rest with
      | .error e => .error e
      | .ok first =>
        have hfirst : first.length < ('[' :: rest).length :=
          Nat.lt_succ_of_le (skipLines_length_le h)
        (readItems (room - arraySteps) first).lift (Nat.le_of_lt hfirst) .array
  | '\x7b' :: rest =>
    if room < tableSteps then .error ⟨.exceeds .nesting, '\x7b' :: rest⟩
    else match h : skipSpace rest with
      | '\x7d' :: after =>
        .ok ⟨.table [], after, Nat.lt_succ_of_lt (length_lt_of_skipSpace h)⟩
      | first =>
        have hfirst : first.length < ('\x7b' :: rest).length :=
          Nat.lt_succ_of_le (h ▸ skipSpace_length_le rest)
        (readMembers (room - tableSteps) {} first).lift (Nat.le_of_lt hfirst) .table
  | s => readScalar s
termination_by (s.length, 0)

/-- The items of an array from here on, and its closing bracket. -/
def readItems (room : Nat) (s : Text) : Reading s (List Setting) :=
  match s with
  | ']' :: rest => .ok ⟨[], rest, Nat.lt_succ_self _⟩
  | s =>
    match readValue room s with
    | .error e => .error e
    | .ok item =>
      match h : skipLines false item.rest with
      | .error e => .error e
      | .ok [] => .error ⟨.unclosedArray, []⟩
      | .ok (c :: rest) =>
        have hrest : rest.length < s.length :=
          Nat.lt_trans (Nat.lt_of_succ_le (skipLines_length_le h)) item.shorter
        if c = ']' then .ok ⟨[item.value], rest, hrest⟩
        else if c = ',' then
          match h' : skipLines false rest with
          | .error e => .error e
          | .ok next =>
            have hnext : next.length < s.length :=
              Nat.lt_of_le_of_lt (skipLines_length_le h') hrest
            (readItems room next).lift (Nat.le_of_lt hnext) (item.value :: ·)
        else .error ⟨.unclosedArray, c :: rest⟩
termination_by (s.length, 1)

/-- The members of an inline table from here on, and its closing brace. -/
def readMembers (room : Nat) (doc : Document) (s : Text) : Reading s Table :=
  match readKey s with
  | .error e => .error e
  | .ok key =>
    match h : key.rest with
    | '=' :: rest =>
      have hrest : (skipSpace rest).length < s.length :=
        Nat.lt_of_le_of_lt (skipSpace_length_le rest)
          (Nat.lt_trans (h ▸ Nat.lt_succ_self _ : rest.length < key.rest.length) key.shorter)
      match readValue room (skipSpace rest) with
      | .error e => .error e
      | .ok value =>
        have hvalue := Nat.lt_trans value.shorter hrest
        match doc.assignMember key.value value.value with
        | .error fault => .error ⟨fault, value.rest⟩
        | .ok doc =>
          match h' : skipSpace value.rest with
          | '\x7d' :: after =>
            .ok ⟨doc.data, after, Nat.lt_trans (length_lt_of_skipSpace h') hvalue⟩
          | ',' :: after =>
            have hafter : (skipSpace after).length < s.length :=
              Nat.lt_of_le_of_lt (skipSpace_length_le after)
                (Nat.lt_trans (length_lt_of_skipSpace h') hvalue)
            (readMembers room doc (skipSpace after)).lift (Nat.le_of_lt hafter) id
          | after => .error ⟨.unclosedInlineTable, after⟩
    | rest => .error ⟨.expectedEquals, rest⟩
termination_by (s.length, 1)

end

end SqlSkim.Toml
