import SqlSkim.Text.Basic

/-!
# `Json` — values written as indented JSON

The written form is pure ASCII: everything outside the printable ASCII characters is escaped, above
`U+FFFF` as a pair of surrogates.

## Contents
- `Json`: values, objects with their members in order.
- `Json.quote`: the written form of a text.
- `Json.render`: the written form of a value, two blanks deeper at each level.
-/

namespace SqlSkim

/-- A value that can be written as JSON. The members of an object keep their order. -/
inductive Json where
  | null
  | bool (b : Bool)
  | int (n : Int)
  | text (t : Text)
  | array (items : List Json)
  | object (members : List (String × Json))

namespace Json

/-- A list of texts. -/
def texts (ts : List Text) : Json := .array (ts.map .text)

/-- A text, or null. -/
def ofOption : Option Text → Json
  | some t => .text t
  | none => .null

/-! ## Texts -/

/-- The escape of one 16-bit unit. -/
def escapeUnit (n : Nat) : Text := "\\u".toList ++ hexDigits 4 n

/-- A character between the quotes of a written text. -/
def escapeChar (c : Char) : Text :=
  if c = '\x22' ∨ c = '\x5c' then ['\x5c', c]
  else if c = '\n' then "\\n".toList
  else if c = '\r' then "\\r".toList
  else if c = '\t' then "\\t".toList
  else if c = '\x08' then "\\b".toList
  else if c = '\x0c' then "\\f".toList
  else if 0x20 ≤ c.toNat ∧ c.toNat < 0x7F then [c]
  else if c.toNat < 0x10000 then escapeUnit c.toNat
  else
    let n := c.toNat - 0x10000
    escapeUnit (0xD800 + n / 0x400) ++ escapeUnit (0xDC00 + n % 0x400)

/-- The written form of a text. -/
def quote (t : Text) : Text := '\x22' :: t.flatMap escapeChar ++ ['\x22']

/-! ## Values -/

/-- A new line at the given depth. -/
def newline (depth : Nat) : Text := '\n' :: List.replicate (2 * depth) ' '

mutual

/-- The written form of a value that stands at the given depth. -/
def renderAt (depth : Nat) : Json → Text
  | .null => "null".toList
  | .bool b => if b then "true".toList else "false".toList
  | .int n => decimal n
  | .text t => quote t
  | .array [] => "[]".toList
  | .array (item :: items) =>
    '[' :: newline (depth + 1) ++ renderAt (depth + 1) item ++ renderItems (depth + 1) items ++
      newline depth ++ [']']
  | .object [] => "\x7b\x7d".toList
  | .object (member :: members) =>
    '\x7b' :: newline (depth + 1) ++ renderMember (depth + 1) member ++
      renderMembers (depth + 1) members ++ newline depth ++ ['\x7d']

/-- The items behind the first one. -/
def renderItems (depth : Nat) : List Json → Text
  | [] => []
  | item :: items => ',' :: newline depth ++ renderAt depth item ++ renderItems depth items

/-- A member of an object. -/
def renderMember (depth : Nat) : String × Json → Text
  | (key, value) => quote key.toList ++ ": ".toList ++ renderAt depth value

/-- The members behind the first one. -/
def renderMembers (depth : Nat) : List (String × Json) → Text
  | [] => []
  | member :: members =>
    ',' :: newline depth ++ renderMember depth member ++ renderMembers depth members

end

/-- The written form of a value. -/
def render (value : Json) : Text := value.renderAt 0

end Json

end SqlSkim
