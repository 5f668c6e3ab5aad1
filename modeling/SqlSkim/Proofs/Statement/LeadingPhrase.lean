import SqlSkim.Proofs.Statement.Command
import SqlSkim.Proofs.Token.Written

/-!
# `Statement.LeadingPhrase` — the commands as a grammar

What a statement is classified by can be said without any matching: its text starts with the words of a
command, each with as many characters as it has, with blanks between them, and no word goes on behind. A
statement starts with one command at most, so the commands may be tried in any order.

## Contents
- `StartsWith`, `isSome_wordsWidth?_command_iff`, `StartsWith.unique`: how a statement starts with a command.
- `IsCommandGrammar`, `isCommandGrammar`: the main result.
-/

namespace SqlSkim

open Phrase

variable {c d : Command} {statement : Text}

/-! ## Statements that start with a command -/

/-- **A statement starts with a command** if behind its leading blanks the words of the command are written,
    and no word goes on behind them. -/
def StartsWith (c : Command) (statement : Text) : Prop :=
  ∃ u rest, trimLeft statement = u ++ rest ∧ Writes (words c.text) u ∧ continuesWord rest = false

/-- The keywords of the commands are in upper case. -/
theorem words_phrase_command (c : Command) : c.phrase.words = words c.text := by
  cases c <;> decide

/-- **The phrase of a command stands** at the start of the statements that start with the command. -/
theorem isSome_wordsWidth?_command_iff :
    (wordsWidth? c.phrase.words (trimLeft statement)).isSome = true ↔ StartsWith c statement := by
  have hkeyword := isKeyword_of_command c
  have hmany : c.phrase.words ≠ [] := by cases c <;> decide
  have hmatch : ∀ {n}, (wordsWidth? c.phrase.words (trimLeft statement) = some n ∧
      n ≤ (trimLeft statement).length) ↔ ∃ u rest, trimLeft statement = u ++ rest ∧ u.length = n ∧
        Writes c.phrase.words u ∧ continuesWord rest = false :=
    wordsWidth?_eq_some_iff hmany (fun w hw => (hkeyword w hw).ne_nil) (unbroken_ofText c.text)
  rw [StartsWith, ← words_phrase_command]
  constructor
  · intro h
    obtain ⟨n, hn⟩ := Option.isSome_iff_exists.mp h
    obtain ⟨u, rest, heq, _, hwrites, hend⟩ :=
      hmatch.mp ⟨hn, (wordsWidth?_covers hkeyword hmany hn).2.1⟩
    exact ⟨u, rest, heq, hwrites, hend⟩
  · rintro ⟨u, rest, heq, hwrites, hend⟩
    have hn := hmatch.mpr ⟨u, rest, heq, rfl, hwrites, hend⟩
    rw [hn.1]
    rfl

/-- A statement has the command that it starts with. -/
theorem ofStatement?_eq_some_iff_startsWith :
    Command.ofStatement? statement = some c ↔ StartsWith c statement :=
  ofStatement?_eq_some_iff.trans isSome_wordsWidth?_command_iff

/-- **A statement starts with one command at most.** -/
theorem StartsWith.unique (hc : StartsWith c statement) (hd : StartsWith d statement) : c = d := by
  rw [← ofStatement?_eq_some_iff_startsWith] at hc hd
  exact Option.some.inj (hc.symm.trans hd)

/-! ## The main result -/

/-- **The command of a statement is read off by a grammar.** -/
structure IsCommandGrammar (statement : Text) : Prop where
  /-- A statement has a command exactly if it starts with it, and none if it starts with none. -/
  some_iff : ∀ c, Command.ofStatement? statement = some c ↔ StartsWith c statement
  none_iff : Command.ofStatement? statement = none ↔ ∀ c, ¬ StartsWith c statement
  /-- It starts with one command at most. -/
  unique : ∀ c d, StartsWith c statement → StartsWith d statement → c = d
  /-- The commands can be tried in any order. -/
  order_ignored : ∀ order, order.Perm Command.all →
    Command.firstOf order statement = Command.ofStatement? statement

/-- **The grammar holds for every statement**, whatever characters it is made of. -/
theorem isCommandGrammar (statement : Text) : IsCommandGrammar statement := by
  constructor
  case some_iff => exact fun c => ofStatement?_eq_some_iff_startsWith
  case none_iff =>
    rw [Option.eq_none_iff_forall_ne_some]
    exact forall_congr' fun c => not_congr ofStatement?_eq_some_iff_startsWith
  case unique => exact fun c d hc hd => hc.unique hd
  case order_ignored =>
    intro order horder
    have hmem : ∀ c, c ∈ order := fun c => horder.mem_iff.mpr (mem_all_commands c)
    refine Option.ext fun c => ?_
    rw [firstOf_eq_some_iff hmem, ofStatement?_eq_some_iff]

/-- The long s is an S in upper case, and any blanks stand between two words. -/
example : Command.ofStatement? " create\n\tıNDEX(".toList = some .createIndex ∧
    Command.ofStatement? "ſelect.a".toList = none := by decide +kernel

end SqlSkim
