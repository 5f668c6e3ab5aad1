import SqlSkim.Text.Basic

/-!
# `Text.Utf8` — texts from bytes

UTF-8 is read byte by byte. Between characters nothing is pending; inside one, the bytes still owed
and the bounds of the next byte are known, so an error is found at the first byte that cannot stand
where it stands.

## Contents
- `Utf8.Error`, with its wording.
- `Utf8.decode`: the text of a list of bytes.
- `unifyLineEnds`: all line ends written as line feeds.
-/

namespace SqlSkim

namespace Utf8

/-- How bytes can fail to be UTF-8. -/
inductive Fault where
  | invalidStart
  | invalidContinuation
  | unexpectedEnd
  deriving DecidableEq

/-- A fault in the character that starts at `start`; the bytes before `stop` are at fault. -/
structure Error where
  fault : Fault
  lead : UInt8
  start : Nat
  stop : Nat

/-- The wording of a fault. -/
def Fault.message : Fault → Text
  | invalidStart => "invalid start byte".toList
  | invalidContinuation => "invalid continuation byte".toList
  | unexpectedEnd => "unexpected end of data".toList

/-- The wording of an error: a single byte is shown, several are given by their positions. -/
def Error.message (e : Error) : Text :=
  let range :=
    if e.stop = e.start + 1 then
      "byte 0x".toList ++ hexDigits 2 e.lead.toNat ++ " in position ".toList ++ decimal e.start
    else
      "bytes in position ".toList ++ decimal e.start ++ '-' :: decimal (e.stop - 1 : Nat)
  "'utf-8' codec can't decode ".toList ++ range ++ ": ".toList ++ e.fault.message

/-- A character that is not complete: its first byte and where it stands, the code so far, the
    number of bytes owed, and the bounds of the next one. -/
structure Pending where
  lead : UInt8
  start : Nat
  code : Nat
  owed : Nat
  low : Nat
  high : Nat

/-- The character that a byte above ASCII starts at an offset. -/
def start? (pos : Nat) (b : UInt8) : Option Pending :=
  let n := b.toNat
  if 0xC2 ≤ n ∧ n ≤ 0xDF then some ⟨b, pos, n - 0xC0, 1, 0x80, 0xBF⟩
  else if n = 0xE0 then some ⟨b, pos, n - 0xE0, 2, 0xA0, 0xBF⟩
  else if n = 0xED then some ⟨b, pos, n - 0xE0, 2, 0x80, 0x9F⟩
  else if 0xE1 ≤ n ∧ n ≤ 0xEF then some ⟨b, pos, n - 0xE0, 2, 0x80, 0xBF⟩
  else if n = 0xF0 then some ⟨b, pos, n - 0xF0, 3, 0x90, 0xBF⟩
  else if n = 0xF4 then some ⟨b, pos, n - 0xF0, 3, 0x80, 0x8F⟩
  else if 0xF1 ≤ n ∧ n ≤ 0xF3 then some ⟨b, pos, n - 0xF0, 3, 0x80, 0xBF⟩
  else none

/-- The text of the bytes from offset `pos` on. -/
def decodeFrom (pos : Nat) : Option Pending → List UInt8 → Except Error Text
  | none, [] => .ok []
  | some p, [] => .error ⟨.unexpectedEnd, p.lead, p.start, pos⟩
  | none, b :: rest =>
    if b.toNat < 0x80 then (decodeFrom (pos + 1) none rest).map (Char.ofNat b.toNat :: ·)
    else match start? pos b with
      | none => .error ⟨.invalidStart, b, pos, pos + 1⟩
      | some p => decodeFrom (pos + 1) (some p) rest
  | some p, b :: rest =>
    let code := p.code * 0x40 + (b.toNat - 0x80)
    if b.toNat < p.low ∨ p.high < b.toNat then
      .error ⟨.invalidContinuation, p.lead, p.start, pos⟩
    else if p.owed = 1 then (decodeFrom (pos + 1) none rest).map (Char.ofNat code :: ·)
    else decodeFrom (pos + 1) (some { p with code, owed := p.owed - 1, low := 0x80, high := 0xBF })
      rest

/-- **The text of a list of bytes.** -/
def decode (bytes : List UInt8) : Except Error Text := decodeFrom 0 none bytes

end Utf8

/-- The text with every line end, `\r\n` or a lone `\r`, written as a line feed. -/
def unifyLineEnds : Text → Text
  | [] => []
  | '\r' :: '\n' :: rest => '\n' :: unifyLineEnds rest
  | c :: rest => (if c = '\r' then '\n' else c) :: unifyLineEnds rest

end SqlSkim
