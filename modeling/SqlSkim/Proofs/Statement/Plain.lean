import SqlSkim.Proofs.Scan.Lexicon
import SqlSkim.Proofs.Scan.Listing
import SqlSkim.Proofs.Scan.Part
import SqlSkim.Proofs.Statement.Name
import SqlSkim.Statement.Column

/-!
# `Statement.Plain` — plain names, and groups that can stand for a value

A name is plain when it cannot be taken for a word of any keyword. What a statement needs besides plain names
are balanced groups without quotes and comments, which may hold anything else.

## Contents
- `statementWords`, `selectWords`, `joinHeads`: the words of keywords.
- `PlainName`, `PlainGroup`: the parts of well-formed statements.
- `identifier?_word`, `topLevelWords_joinWith`: words read back.
-/

namespace SqlSkim

open Phrase

/-! ## The words of keywords -/

/-- The words of the commands, of the joins and of all clauses. -/
def statementWords : List Text :=
  (Command.all.map Command.text ++ defaultJoinKeywords ++ fromTerminators ++ setTerminators ++
      clauseKeywords ++ ["UNION".toList, "ALL".toList, "INTO".toList, "ON".toList]).flatMap words ++
    existenceTests.flatMap (·.words)

/-- Those words, and the words that a select list knows. -/
def selectWords : List Text :=
  statementWords ++ (selectModifiers.flatMap (·.words) ++ expressionWords ++ reservedTails ++
    ["AS".toList, "FROM".toList])

/-- The words that every part of a statement is searched for: those that start a join or separate
    statements. -/
def joinHeads : List Text := firstWords defaultJoinKeywords ++ ["UNION".toList]

theorem isLexicon_joins : IsLexicon defaultJoinKeywords := by decide

/-! ## Plain names and groups -/

/-- **A plain name**: a word that is none of the reserved ones in upper case. -/
structure PlainName (reserved : List Text) where
  text : Text
  isWord : IsWord text
  not_reserved : upper text ∉ reserved

/-- **A plain group**, by its content: a balanced text without quoting characters and without `/*`. -/
structure PlainGroup where
  text : Text
  balanced : IsBalanced text
  clean : IsClean false text

theorem isBlank_eq_false_of_word {c : Char} (h : isWordChar c = true) : isBlank c = false := by
  cases hblank : isBlank c with
  | false => rfl
  | true =>
      rw [isWordChar_of_isBlank hblank] at h
      exact absurd h (by simp)

theorem IsWord.isSolid {w : Text} (hw : IsWord w) : IsSolid w :=
  .of_no_blank hw.ne_nil fun c hc => isBlank_eq_false_of_word (hw.isWordChar c hc)

theorem isSolid_inParens (b : Text) : IsSolid (inParens b) := by
  have hsolid : IsSolid ['('] ∧ IsSolid [')'] := by
    constructor <;> constructor <;> decide
  exact hsolid.1.append hsolid.2 b

namespace PlainName

variable {reserved : List Text}

/-- A plain name is inert for all reserved words. -/
theorem inert (name : PlainName reserved) (gaps : List Char) {heads : List Text}
    (hheads : heads ⊆ reserved) : Inert gaps heads [] name.text :=
  .word name.isWord fun hmem => name.not_reserved (hheads hmem)

/-- A plain name is none of the reserved words. -/
theorem contains_eq_false (name : PlainName reserved) {words : List Text} (hwords : words ⊆ reserved) :
    words.contains (upper name.text) = false := by
  rw [List.contains_eq_mem, decide_eq_false_iff_not]
  intro hmem
  exact name.not_reserved (hwords hmem)

end PlainName

/-! ## Words read back -/

theorem endsIdentifier_of_word {c : Char} (h : isWordChar c = true) : endsIdentifier c = false := by
  have hmark : "(),;".toList.contains c = false := by
    rw [List.contains_eq_mem, decide_eq_false_iff_not]
    intro hc
    have hnone : "(),;".toList.all (!isWordChar ·) = true := by decide
    have hc := List.all_eq_true.mp hnone c hc
    simp [h] at hc
  rw [endsIdentifier, isBlank_eq_false_of_word h, hmark]
  rfl

/-- A word at the front of a text is read up to what ends a name. -/
theorem readIdentifier_word {w t : Text} (hw : IsWord w) (ht : t.head?.all endsIdentifier = true) :
    readIdentifier (w ++ t) = (w, w.length) := by
  have hfront : (w ++ t).head?.any (!isBlank ·) = true := by
    rw [List.head?_append_of_ne_nil _ hw.ne_nil]
    exact hw.isSolid.head
  have hblanks : (w ++ t).takeWhile isBlank = [] ∧ trimLeft (w ++ t) = w ++ t := by
    cases htext : w ++ t with
    | nil => exact ⟨rfl, rfl⟩
    | cons c rest =>
        rw [htext] at hfront
        have hc : ¬ isBlank c = true := by simpa using hfront
        exact ⟨List.takeWhile_cons_of_neg hc, List.dropWhile_cons_of_neg hc⟩
  have hname : (w ++ t).takeWhile (!endsIdentifier ·) = w := by
    have hword : ∀ c ∈ w, (!endsIdentifier c) = true := fun c hc => by
      rw [endsIdentifier_of_word (hw.isWordChar c hc)]
      rfl
    rw [List.takeWhile_append_of_pos hword]
    cases t with
    | nil => simp
    | cons c t => rw [List.takeWhile_cons_of_neg (by simpa using ht), List.append_nil]
  rw [readIdentifier, hblanks.1, hblanks.2, hname, List.length_nil, Nat.zero_add]

theorem identifier?_word {w t : Text} (hw : IsWord w) (ht : t.head?.all endsIdentifier = true) :
    identifier? (w ++ t) = some w := by
  rw [identifier?, readIdentifier_word hw ht]
  cases w with
  | nil => exact absurd rfl hw.ne_nil
  | cons c w => rfl

/-- A blank in front of a name is passed over. -/
theorem identifier?_blank_cons (t : Text) : identifier? (' ' :: t) = identifier? t := rfl

/-- The words of a text of words are found again. -/
theorem topLevelWords_joinWith {ws : List Text} (hws : ∀ w ∈ ws, IsWord w) :
    topLevelWords (joinWith " " ws) = ws := by
  refine topLevelWords_joinWith_of_closed (fun w hw => ?_) fun w hw => ?_
  · have hword := hws w hw
    refine ⟨hword.ne_nil, quiet_char_of_all (fun c hc => ?_) none 0 []⟩
    exact isBlank_eq_false_of_word (hword.isWordChar c hc)
  · exact depthAfterText_of_no_paren (hws w (List.mem_of_mem_dropLast hw)).no_paren 0

end SqlSkim
