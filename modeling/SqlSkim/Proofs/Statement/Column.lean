import Mathlib.Data.List.TakeWhile
import SqlSkim.Proofs.Checked.Look
import SqlSkim.Proofs.Scan.Span
import SqlSkim.Statement.Column

/-!
# `Statement.Column` — what the columns of a statement are read from

An entry of a select list loses its alias by its first `AS`, or else by its last two words; the columns of an
`INSERT` are the entries of one group, which stands behind a name. Both last steps are functions of a text on
their own.

## Contents
- `withoutBareAlias`, `stripAlias_eq`: an entry without a bare alias.
- `BehindName`, `behindName_trimLeft`, `BehindName.trimLeft_eq`: what stands behind a name.
- `groupEntries`, `insertColumns_eq`: the entries of the group in front of a text.
- `groupEntries_inParens`, `groupEntries_eq_nil`: what they are.
-/

namespace SqlSkim

variable {b t rest : Text}

/-! ## Aliases -/

/-- An entry that is made of the given words, without a bare alias. -/
def withoutBareAlias (parts : List Text) (entry : Text) : Text :=
  match parts.reverse with
  | last :: previous :: _ =>
    if isBareAlias previous last then joinWith " " parts.dropLast else trim entry
  | _ => trim entry

theorem stripAlias_eq (entry : Text) :
    stripAlias entry = match (keywordRule "AS").find? (.start entry) with
      | some ⟨c :: lead, _, _⟩ => trim (c :: lead)
      | _ => withoutBareAlias (topLevelWords entry) entry := rfl

/-! ## Behind a name -/

/-- **What stands behind the name** at the front of a text: blanks, the name, which may be missing, and blanks
    again are passed over. -/
def BehindName (t rest : Text) : Prop :=
  ∃ lead name gap, t = lead ++ (name ++ (gap ++ rest)) ∧ (∀ c ∈ lead, isBlank c = true) ∧
    (∀ c ∈ name, endsIdentifier c = false) ∧ ∀ c ∈ gap, isBlank c = true

theorem behindName_of_all {lead name gap : Text} (ht : t = lead ++ (name ++ (gap ++ rest)))
    (hlead : lead.all isBlank = true) (hname : name.all (!endsIdentifier ·) = true)
    (hgap : gap.all isBlank = true) : BehindName t rest := by
  refine ⟨lead, name, gap, ht, List.all_eq_true.mp hlead, fun c hc => ?_, List.all_eq_true.mp hgap⟩
  simpa using List.all_eq_true.mp hname c hc

/-- Behind the name is behind the blanks and what does not end the name. -/
theorem drop_readIdentifier (t : Text) :
    t.drop (readIdentifier t).2 = (trimLeft t).dropWhile (!endsIdentifier ·) := by
  rw [readIdentifier, ← List.drop_drop, Checked.drop_blanks, Checked.drop_takeWhile_length]

/-- The text behind the name and the blanks behind it. -/
theorem behindName_trimLeft (t : Text) : BehindName t (trimLeft (t.drop (readIdentifier t).2)) := by
  have hname := List.takeWhile_append_dropWhile (p := (!endsIdentifier ·)) (l := trimLeft t)
  refine ⟨t.takeWhile isBlank, (readIdentifier t).1, (t.drop (readIdentifier t).2).takeWhile isBlank, ?_,
    fun c hc => List.mem_takeWhile_imp hc, fun c hc => ?_, fun c hc => List.mem_takeWhile_imp hc⟩
  · calc t = t.takeWhile isBlank ++ trimLeft t := List.takeWhile_append_dropWhile.symm
      _ = t.takeWhile isBlank ++ ((readIdentifier t).1 ++ t.drop (readIdentifier t).2) := by
        rw [drop_readIdentifier]
        exact congrArg (t.takeWhile isBlank ++ ·) hname.symm
      _ = _ := by
        rw [trimLeft, List.takeWhile_append_dropWhile]
  · have hc : c ∈ (trimLeft t).takeWhile (!endsIdentifier ·) := hc
    simpa using List.mem_takeWhile_imp hc

/-- A parenthesis behind the name is found there. -/
theorem BehindName.trimLeft_eq (h : BehindName t ('(' :: rest)) :
    trimLeft (t.drop (readIdentifier t).2) = '(' :: rest := by
  obtain ⟨lead, name, gap, rfl, hlead, hname, hgap⟩ := h
  have hopen : trimLeft ('(' :: rest) = '(' :: rest := List.dropWhile_cons_of_neg (by decide)
  have hbehind : trimLeft (gap ++ '(' :: rest) = '(' :: rest := by
    rw [trimLeft, List.dropWhile_append_of_pos hgap]
    exact hopen
  -- what follows the name ends it, be it a blank or the parenthesis
  have hend : (gap ++ '(' :: rest).dropWhile (!endsIdentifier ·) = gap ++ '(' :: rest := by
    cases gap with
    | nil => exact List.dropWhile_cons_of_neg (by decide)
    | cons d gap =>
        have hd : endsIdentifier d = true := by
          rw [endsIdentifier, hgap d List.mem_cons_self]
          rfl
        exact List.dropWhile_cons_of_neg (by simp [hd])
  have hfront : trimLeft (lead ++ (name ++ (gap ++ '(' :: rest))) = trimLeft (name ++ (gap ++ '(' :: rest)) :=
    List.dropWhile_append_of_pos hlead
  rw [drop_readIdentifier, hfront]
  cases name with
  | nil =>
      -- the blanks on both sides of a missing name are one run
      rw [List.nil_append, hbehind, List.dropWhile_cons_of_neg (by decide)]
      exact hopen
  | cons c name =>
      have hc : isBlank c = false := (Bool.or_eq_false_iff.mp (hname c List.mem_cons_self)).1
      have hsolid : trimLeft (c :: name ++ (gap ++ '(' :: rest)) = c :: name ++ (gap ++ '(' :: rest) :=
        List.dropWhile_cons_of_neg (by simp [hc])
      rw [hsolid, List.dropWhile_append_of_pos fun d hd => by simp [hname d hd], hend]
      exact hbehind

/-! ## The group in front of a text -/

/-- The entries of the group in front of a text. -/
def groupEntries : Text → List Text
  | '(' :: rest =>
    match matchingParen? ('(' :: rest) 0 with
    | some close => splitTopLevel [','] (rest.take (close - 1))
    | none => []
  | _ => []

theorem insertColumns_eq (statement : Text) :
    insertColumns statement = match (keywordRule "INTO").find? (.start statement) with
      | none => []
      | some found =>
        groupEntries (trimLeft (found.after.rest.drop (readIdentifier found.after.rest).2)) := rfl

theorem groupEntries_of_ne {c : Char} (hc : c ≠ '(') (rest : Text) : groupEntries (c :: rest) = [] := by
  unfold groupEntries
  split
  · rename_i hsame
    exact absurd (List.cons.inj hsame).1 hc
  · rfl

/-- The entries of a group in front of a text are those of what it encloses. -/
theorem groupEntries_inParens (hb : IsBalanced b) (tail : Text) :
    groupEntries (inParens b ++ tail) = splitTopLevel [','] b := by
  have htext : inParens b ++ tail = '(' :: (b ++ ')' :: tail) := by simp [inParens]
  have hclose := matchingParen?_inParens hb tail
  rw [htext] at hclose ⊢
  rw [groupEntries, hclose]
  dsimp only
  rw [Nat.add_sub_cancel, List.take_left]

/-- Without a group in front there are no entries. -/
theorem groupEntries_eq_nil (h : ∀ b tail, IsBalanced b → t ≠ inParens b ++ tail) : groupEntries t = [] := by
  cases t with
  | nil => rfl
  | cons c rest =>
      by_cases hc : c = '('
      · subst hc
        rw [groupEntries]
        cases hclose : matchingParen? ('(' :: rest) 0 with
        | none => rfl
        | some close =>
            obtain ⟨b, tail, heq, hb, _⟩ := exists_of_matchingParen? hclose
            exact absurd heq (h b tail hb)
      · exact groupEntries_of_ne hc rest

end SqlSkim
