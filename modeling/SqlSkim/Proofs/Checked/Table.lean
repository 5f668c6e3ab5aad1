import SqlSkim.Proofs.Statement.Command
import SqlSkim.Proofs.Token.Walk
import SqlSkim.Statement.Table

/-!
# `Checked.Table` — commands and tables by their offsets

Only one search starts where another one stopped without a look at the length of the text: the words that
may stand between `TABLE` and the name are looked for behind the keyword and its blanks. `TABLE` itself
stops within the text, so that offset does too. Join keywords can be anything, and may stop behind the end
of the text; all that is asked for behind them is a name.

## Contents
- `Checked.commandOf?`, `Checked.nameAfter?`: the command, and the name behind a keyword.
- `Checked.tablesOf`, `Checked.hasJoin`: the tables of a statement, and whether it has a join.
-/

namespace SqlSkim

namespace Checked

/-! ## The command -/

/-- The command of a statement. -/
def commandOf? (statement : Text) : Except OffsetError (Option Command) := do
  let t := trimLeft statement
  if t = [] then return none
  else return (← firstAt Command.phrase t 0 Command.all).map (·.1)

theorem commandOf?_eq (statement : Text) :
    commandOf? statement = .ok (Command.ofStatement? statement) := by
  have hfirst : ∀ (place : Place) (all : List Command),
      (all.findSome? fun c => (c.phrase.width? place).map fun w => (c, 0 + w)).map (·.1) =
        all.find? fun c => (c.phrase.width? place).isSome := by
    intro place all
    induction all with
    | nil => rfl
    | cons c all ih =>
        rw [List.findSome?_cons, List.find?_cons]
        cases c.phrase.width? place with
        | none => exact ih
        | some w => rfl
  rw [commandOf?, Command.ofStatement?]
  by_cases hnil : trimLeft statement = []
  · have hnone : Command.all.find? (fun c => (c.phrase.width? (.start [])).isSome) = none := by
      decide +kernel
    rw [if_pos hnil, hnil, hnone]
    rfl
  · rw [if_neg hnil, firstAt_of_le (Nat.zero_le _), ok_bind, hfirst]
    rfl

/-! ## Names behind keywords -/

/-- The offset behind the first of the phrases that stands behind the blanks here; this offset itself if
    none of them does. -/
def skipPhrase (phrases : List Phrase) (t : Text) (pos : Nat) : Except OffsetError Nat := do
  let start ← runEnd isBlank t pos
  match ← firstPhraseAt t start phrases with
  | some (_, stop) => return stop
  | none => return pos

theorem skipPhrase_of_le {phrases : List Phrase} {t : Text} {pos : Nat}
    (h : phrases = [] ∨ pos ≤ t.length) :
    ∃ stop, skipPhrase phrases t pos = .ok stop ∧ (Place.at t pos).skipPhrase phrases = .at t stop := by
  rw [skipPhrase, runEnd_eq, ok_bind, Place.skipPhrase]
  rcases h with rfl | hle
  · exact ⟨pos, rfl, rfl⟩
  · have hblanks : pos + ((t.drop pos).takeWhile isBlank).length ≤ t.length := by
      have hrun := (List.takeWhile_prefix isBlank (l := t.drop pos)).length_le
      rw [List.length_drop] at hrun
      omega
    have hskip : (Place.at t pos).skipBlanks = .at t (pos + ((t.drop pos).takeWhile isBlank).length) :=
      Place.advance_at t pos _
    rw [hskip]
    generalize pos + ((t.drop pos).takeWhile isBlank).length = start at hblanks
    rcases firstPhraseAt_cases hblanks phrases with ⟨hwidth, hfirst⟩ | ⟨p, width, hwidth, hfirst⟩
    · rw [hfirst, hwidth]
      exact ⟨pos, rfl, rfl⟩
    · rw [hfirst, hwidth]
      exact ⟨start + width, rfl, Place.advance_at t start width⟩

/-- The name behind the first top-level keyword, and behind one of the phrases `skipped` if such a phrase
    follows the keyword. -/
def nameAfter? (keyword : String) (skipped : List Phrase) (statement : Text) :
    Except OffsetError (Option Text) := do
  match ← findKeyword [keyword.toList] statement 0 with
  | none => return none
  | some hit =>
    let stop ← skipPhrase skipped statement hit.stop
    return (← identifier? statement stop).filter fun name => !clauseKeywords.contains (upper name)

/-- Behind a keyword that stops within the text any phrase can be looked for. -/
theorem nameAfter?_eq {keyword : String} {skipped : List Phrase}
    (h : skipped = [] ∨ (keywordRule keyword).Fits) (statement : Text) :
    nameAfter? keyword skipped statement = .ok (SqlSkim.nameAfter? keyword skipped statement) := by
  rw [nameAfter?, SqlSkim.nameAfter?]
  rcases findKeyword_single_cases keyword statement with ⟨hfind, hnone⟩ | ⟨found, hit, hmem, hfind, hhit, hat⟩
  · rw [hfind, hnone]
    rfl
  · have hstop : skipped = [] ∨ hit.stop ≤ statement.length :=
      h.imp_right fun hfits => stop_le_of_mem_hits (ruleOf_width_pos _) hfits hmem
    obtain ⟨stop, hskip, hplace⟩ := skipPhrase_of_le hstop
    rw [hfind, hhit, ok_bind]
    dsimp only
    rw [hskip, ok_bind, identifier?_eq, hat.after_eq, hplace]
    rfl

/-! ## Tables -/

/-- The entries of the `FROM` list. -/
def fromEntries (joins : List Text) (statement : Text) : Except OffsetError (List Text) := do
  match ← findKeyword ["FROM".toList] statement 0 with
  | none => return []
  | some hit => splitTopLevel [','] (← upToKeyword (fromTerminators ++ joins) statement hit.stop)

/-- The tables of a `SELECT` whose `FROM` list has the given entries. -/
def tablesOfEntries (joins : List Text) (statement : Text) (entries : List Text) :
    Except OffsetError Tables := do
  let listed := ((← entries.mapM (identifier? · 0)).filterMap id).eraseDups
  let found ← keywordHits joins statement 0
  let joined := ((← found.mapM fun hit => identifier? statement hit.stop).filterMap id).eraseDups
  return ⟨← headAt listed, listed, joined⟩

theorem tablesOfEntries_eq (joins : List Text) (statement : Text) (entries : List Text) :
    tablesOfEntries joins statement entries =
      (let listed := (entries.filterMap SqlSkim.identifier?).eraseDups
      let found := ((Phrase.ruleOf joins).cut (.start statement)).hits 0
      let joined := (found.filterMap fun hit => SqlSkim.identifier? (statement.drop hit.stop)).eraseDups
      .ok ⟨listed.head?, listed, joined⟩) := by
  have hlisted : entries.mapM (identifier? · 0) = .ok (entries.map SqlSkim.identifier?) :=
    mapM_ok fun entry _ => identifier?_eq entry 0
  have hjoined : ∀ found : List (Hit Phrase), found.mapM (fun hit => identifier? statement hit.stop) =
      .ok (found.map fun hit => SqlSkim.identifier? (statement.drop hit.stop)) :=
    fun found => mapM_ok fun hit _ => identifier?_eq statement hit.stop
  rw [tablesOfEntries, hlisted, ok_bind, keywordHits_eq, ok_bind, hjoined, ok_bind, headAt_eq]
  simp only [List.filterMap_map, Function.id_comp, Place.at_zero]
  rfl

/-- The tables of a `SELECT`. -/
def tablesOfSelect (joins : List Text) (statement : Text) : Except OffsetError Tables := do
  tablesOfEntries joins statement (← fromEntries joins statement)

theorem tablesOfSelect_eq (joins : List Text) (statement : Text) :
    tablesOfSelect joins statement = .ok (.ofSelect joins statement) := by
  rw [tablesOfSelect, fromEntries, Tables.ofSelect]
  rcases findKeyword_single_cases "FROM" statement with ⟨hfind, hnone⟩ | ⟨found, hit, _, hfind, hhit, hat⟩
  · rw [hfind, hnone]
    exact tablesOfEntries_eq joins statement []
  · rw [hfind, hhit, ok_bind]
    dsimp only
    rw [upToKeyword_eq, ok_bind, splitTopLevel_eq, ok_bind, hat.after_eq]
    exact tablesOfEntries_eq joins statement _

/-- The tables of a statement with the given command. -/
def tablesOf (joins : List Text) (command : Option Command) (statement : Text) :
    Except OffsetError Tables := do
  match command with
  | some .select => tablesOfSelect joins statement
  | some .insert => return ⟨← nameAfter? "INTO" [] statement, [], []⟩
  | some .update => return ⟨← nameAfter? "UPDATE" [] statement, [], []⟩
  | some .delete => return ⟨← nameAfter? "FROM" [] statement, [], []⟩
  | some .createTable | some .drop | some .alter =>
    return ⟨← nameAfter? "TABLE" existenceTests statement, [], []⟩
  | some .truncate =>
    match ← nameAfter? "TABLE" [] statement with
    | some name => return ⟨some name, [], []⟩
    | none => return ⟨← nameAfter? "TRUNCATE" [] statement, [], []⟩
  | some .createIndex => return ⟨← nameAfter? "ON" [] statement, [], []⟩
  | none => return ⟨none, [], []⟩

/-- `TABLE` stops within the text. -/
theorem fits_table : (keywordRule "TABLE").Fits := by
  refine fits_ruleOf fun k hk w hw => ?_
  obtain rfl := List.mem_singleton.mp hk
  have hwords : (Phrase.ofText "TABLE".toList).words = ["TABLE".toList] := by decide +kernel
  rw [hwords] at hw
  obtain rfl := List.mem_singleton.mp hw
  exact isKeyword_of_all (by decide +kernel)

theorem tablesOf_eq (joins : List Text) (command : Option Command) (statement : Text) :
    tablesOf joins command statement = .ok (.ofStatement joins command statement) := by
  have hname : ∀ keyword, nameAfter? keyword [] statement = .ok (SqlSkim.nameAfter? keyword [] statement) :=
    fun keyword => nameAfter?_eq (.inl rfl) statement
  cases command with
  | none => rfl
  | some c =>
      cases c with
      | select => exact tablesOfSelect_eq joins statement
      | truncate =>
          rw [tablesOf, hname, hname, ok_bind, Tables.ofStatement]
          cases SqlSkim.nameAfter? "TABLE" [] statement <;> rfl
      | createTable | drop | alter =>
          rw [tablesOf, nameAfter?_eq (.inr fits_table)]
          rfl
      | insert | update | delete | createIndex =>
          rw [tablesOf, hname]
          rfl

/-- Whether a statement has a join keyword at depth zero. -/
def hasJoin (joins : List Text) (statement : Text) : Except OffsetError Bool :=
  return (← findKeyword joins statement 0).isSome

theorem hasJoin_eq (joins : List Text) (statement : Text) :
    hasJoin joins statement = .ok (SqlSkim.hasJoin joins statement) := by
  rw [hasJoin, SqlSkim.hasJoin]
  rcases findKeyword_cases joins statement with ⟨hfind, hnone⟩ | ⟨found, hit, _, hfind, hhit, _⟩
  · rw [hfind, hnone]
    rfl
  · rw [hfind, hhit]
    rfl

end Checked

end SqlSkim
