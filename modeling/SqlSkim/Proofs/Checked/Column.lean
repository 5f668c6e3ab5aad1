import SqlSkim.Proofs.Checked.Table
import SqlSkim.Proofs.Statement.Column
import SqlSkim.Statement.Subquery

/-!
# `Checked.Column` — columns and subqueries by their offsets

What a list of columns is made of is cut out between offsets, and cutting cannot fail. What is asked for is
the character where a parenthesis may stand, and the last two words of an entry: the one only within the
text, the others only where there are two words.

## Contents
- `Checked.stripAlias`: an entry without its alias.
- `Checked.selectColumns`, `Checked.insertColumns`, `Checked.assignedColumns`, `Checked.columnsOf`.
- `Checked.subqueries`: the parenthesised selections.
-/

namespace SqlSkim

namespace Checked

/-! ## Aliases -/

/-- An entry without a bare trailing alias. -/
def stripBareAlias (entry : Text) : Except OffsetError Text := do
  let parts := topLevelWords entry
  if parts.length < 2 then return trim entry
  else
    let last ← itemAt parts (parts.length - 1)
    let previous ← itemAt parts (parts.length - 2)
    return if isBareAlias previous last then joinWith " " parts.dropLast else trim entry

/-- The last two words are asked for where there are two. -/
theorem stripBareAlias_eq (entry : Text) :
    stripBareAlias entry = .ok (withoutBareAlias (topLevelWords entry) entry) := by
  rw [stripBareAlias]
  generalize topLevelWords entry = parts
  obtain ⟨back, rfl⟩ : ∃ back : List Text, parts = back.reverse := ⟨parts.reverse, by simp⟩
  rw [withoutBareAlias, List.reverse_reverse, List.length_reverse]
  cases back with
  | nil => rfl
  | cons last back =>
      cases back with
      | nil => rfl
      | cons previous back =>
          have hlast : itemAt (last :: previous :: back).reverse (back.length + 1) = .ok last := by
            rw [itemAt, List.getElem?_reverse (by simp)]
            simp
          have hprevious : itemAt (last :: previous :: back).reverse back.length = .ok previous := by
            rw [itemAt, List.getElem?_reverse (by simp only [List.length_cons]; omega)]
            simp
          have hlength : (last :: previous :: back).length = back.length + 2 := rfl
          rw [hlength, if_neg (by omega), show back.length + 2 - 1 = back.length + 1 by omega,
            Nat.add_sub_cancel, hlast, ok_bind, hprevious, ok_bind]
          rfl

/-- An entry of a select list without `AS alias` or a bare trailing alias. -/
def stripAlias (entry : Text) : Except OffsetError Text := do
  match ← findKeyword ["AS".toList] entry 0 with
  | some hit => if 0 < hit.start then return trim (slice entry 0 hit.start) else stripBareAlias entry
  | none => stripBareAlias entry

theorem stripAlias_eq (entry : Text) : stripAlias entry = .ok (SqlSkim.stripAlias entry) := by
  rw [stripAlias, SqlSkim.stripAlias_eq]
  rcases findKeyword_single_cases "AS" entry with ⟨hfind, hnone⟩ | ⟨found, hit, _, hfind, hhit, hat⟩
  · rw [hfind, hnone]
    exact stripBareAlias_eq entry
  · obtain ⟨hstart, hlead, _⟩ := hat
    obtain ⟨lead, label, after⟩ := found
    rw [hfind, hhit, ok_bind]
    dsimp only at hstart hlead ⊢
    cases lead with
    | nil =>
        rw [hstart]
        exact stripBareAlias_eq entry
    | cons c lead =>
        rw [if_pos (by simp [hstart])]
        exact congrArg (fun u => Except.ok (trim u)) hlead

/-! ## Lists -/

/-- The text of the select list: between `SELECT`, with a modifier, and `FROM` or the end. -/
def selectList? (statement : Text) : Except OffsetError (Option Text) := do
  match ← findKeyword ["SELECT".toList] statement 0 with
  | none => return none
  | some hit =>
    let list := trim (← upToKeyword ["FROM".toList] statement hit.stop)
    match ← firstPhraseAt list 0 selectModifiers with
    | some (_, stop) => return some (list.drop stop)
    | none => return some list

theorem selectList?_eq (statement : Text) :
    selectList? statement = .ok (SqlSkim.selectList? statement) := by
  rw [selectList?, SqlSkim.selectList?]
  rcases findKeyword_single_cases "SELECT" statement with ⟨hfind, hnone⟩ | ⟨found, hit, _, hfind, hhit, hat⟩
  · rw [hfind, hnone]
    rfl
  · rw [hfind, hhit, ok_bind]
    dsimp only
    rw [upToKeyword_eq, ok_bind, hat.after_eq, keywordRule]
    generalize trim ((Phrase.ruleOf ["FROM".toList]).upTo (.at statement hit.stop)) = list
    rw [← Place.at_zero]
    rcases firstPhraseAt_cases (Nat.zero_le list.length) selectModifiers with
      ⟨hwidth, hfirst⟩ | ⟨p, width, hwidth, hfirst⟩
    · rw [hfirst, hwidth]
      rfl
    · rw [hfirst, hwidth, Nat.zero_add]
      rfl

/-- The entries of the select list without their aliases. -/
def selectColumns (statement : Text) : Except OffsetError (List Text) := do
  match ← selectList? statement with
  | none => return []
  | some list => (← splitTopLevel [','] list).mapM stripAlias

theorem selectColumns_eq (statement : Text) :
    selectColumns statement = .ok (SqlSkim.selectColumns statement) := by
  rw [selectColumns, SqlSkim.selectColumns, selectList?_eq, ok_bind]
  cases SqlSkim.selectList? statement with
  | none => rfl
  | some list =>
      dsimp only
      rw [splitTopLevel_eq, ok_bind]
      exact mapM_ok fun entry _ => stripAlias_eq entry

/-- The entries of the parenthesised list that opens at an offset. -/
def groupEntries (t : Text) (pos : Nat) : Except OffsetError (List Text) := do
  if t.length ≤ pos then return []
  else if (← itemAt t pos) ≠ '(' then return []
  else
    match ← matchingParen? t pos with
    | some close => splitTopLevel [','] (slice t (pos + 1 : Nat) close)
    | none => return []

theorem groupEntries_eq (t : Text) (pos : Nat) :
    groupEntries t pos = .ok (SqlSkim.groupEntries (t.drop pos)) := by
  rw [groupEntries]
  cases hrest : t.drop pos with
  | nil =>
      rw [if_pos (List.drop_eq_nil_iff.mp hrest)]
      rfl
  | cons c rest =>
      obtain ⟨hlt, hc, hnext⟩ := itemAt_of_drop hrest
      rw [if_neg (Nat.not_le.mpr hlt), hc, ok_bind]
      by_cases hopen : c = '('
      · subst hopen
        have hclose : SqlSkim.matchingParen? t pos =
            (SqlSkim.matchingParen? ('(' :: rest) 0).map (· + pos) := by
          have hshift := closingFrom_shift 0 pos 0 ('(' :: rest)
          rw [Nat.zero_add] at hshift
          rw [SqlSkim.matchingParen?, hrest, hshift]
          rfl
        rw [if_neg (not_not.mpr rfl), matchingParen?_eq, ok_bind, hclose, SqlSkim.groupEntries]
        cases SqlSkim.matchingParen? ('(' :: rest) 0 with
        | none => rfl
        | some close =>
            dsimp only [Option.map_some]
            rw [splitTopLevel_eq, slice_natCast, hnext, show close + pos - (pos + 1) = close - 1 by omega]
      · rw [if_pos hopen, groupEntries_of_ne hopen]
        rfl

/-- The entries of the parenthesised list behind the name of the table of an `INSERT`. -/
def insertColumns (statement : Text) : Except OffsetError (List Text) := do
  match ← findKeyword ["INTO".toList] statement 0 with
  | none => return []
  | some hit =>
    let (_, behind) ← readIdentifier statement hit.stop
    groupEntries statement (← runEnd isBlank statement behind)

theorem insertColumns_eq (statement : Text) :
    insertColumns statement = .ok (SqlSkim.insertColumns statement) := by
  rw [insertColumns, SqlSkim.insertColumns_eq]
  rcases findKeyword_single_cases "INTO" statement with ⟨hfind, hnone⟩ | ⟨found, hit, _, hfind, hhit, hat⟩
  · rw [hfind, hnone]
    rfl
  · have hrest : found.after.rest = statement.drop hit.stop := by rw [hat.after_eq, Place.at]
    rw [hfind, hhit, ok_bind]
    dsimp only
    rw [readIdentifier_eq, ok_bind, hrest]
    dsimp only
    rw [runEnd_eq, ok_bind, groupEntries_eq, ← List.drop_drop, drop_blanks, ← List.drop_drop]

/-- The left sides of the assignments behind `SET`. -/
def assignedColumns (statement : Text) : Except OffsetError (List Text) := do
  match ← findKeyword ["SET".toList] statement 0 with
  | none => return []
  | some hit =>
    let assignments ← splitTopLevel [','] (← upToKeyword setTerminators statement hit.stop)
    return assignments.filterMap assignedColumn?

theorem assignedColumns_eq (statement : Text) :
    assignedColumns statement = .ok (SqlSkim.assignedColumns statement) := by
  rw [assignedColumns, SqlSkim.assignedColumns]
  rcases findKeyword_single_cases "SET" statement with ⟨hfind, hnone⟩ | ⟨found, hit, _, hfind, hhit, hat⟩
  · rw [hfind, hnone]
    rfl
  · rw [hfind, hhit, ok_bind]
    dsimp only
    rw [upToKeyword_eq, ok_bind, splitTopLevel_eq, hat.after_eq]
    rfl

/-- The columns of a statement with the given command. -/
def columnsOf (command : Option Command) (statement : Text) : Except OffsetError (List Text) := do
  match command with
  | some .select => selectColumns statement
  | some .insert =>
    match ← insertColumns statement with
    | [] => assignedColumns statement
    | listed => return listed
  | some .update => assignedColumns statement
  | _ => return []

theorem columnsOf_eq (command : Option Command) (statement : Text) :
    columnsOf command statement = .ok (columns command statement) := by
  cases command with
  | none => rfl
  | some c =>
      cases c with
      | select => exact selectColumns_eq statement
      | insert =>
          rw [columnsOf, columns, insertColumns_eq, ok_bind, assignedColumns_eq]
          cases SqlSkim.insertColumns statement <;> rfl
      | update => exact assignedColumns_eq statement
      | createTable | createIndex | delete | drop | alter | truncate => rfl

/-! ## Subqueries -/

/-- Those of several texts that are a `SELECT`. -/
def selectionsAmong : List Text → Except OffsetError (List Text)
  | [] => return []
  | t :: more => do
    if (← commandOf? t) = some .select then return t :: (← selectionsAmong more)
    else selectionsAmong more

theorem selectionsAmong_eq (texts : List Text) :
    selectionsAmong texts = .ok (texts.filter (Command.ofStatement? · = some .select)) := by
  induction texts with
  | nil => rfl
  | cons t more ih =>
      rw [selectionsAmong, commandOf?_eq, ok_bind, List.filter_cons, ih]
      by_cases hselect : Command.ofStatement? t = some .select
      · simp [hselect, ok_bind, pure_eq_ok]
      · simp [hselect]

/-- The subqueries of a text. -/
def subqueries (t : Text) : Except OffsetError (List Text) := do
  selectionsAmong ((← parenSpans t).map fun s => trim (slice t (s.1 + 1 : Nat) s.2))

theorem subqueries_eq (t : Text) : subqueries t = .ok (SqlSkim.subqueries t) := by
  rw [subqueries, parenSpans_eq, ok_bind, selectionsAmong_eq, SqlSkim.subqueries, groups]
  simp only [slice_natCast]

end Checked

end SqlSkim
