import SqlSkim.Proofs.Scan.Behind
import SqlSkim.Proofs.Scan.Keyword
import SqlSkim.Proofs.Text.Trim
import SqlSkim.Statement.Table

/-!
# `Statement.Name` — the names behind keywords

The tables of a statement are the names that stand behind certain keywords, or at the front of the
entries of a list behind one. This module reads them off the places behind the keywords, so that no
later proof has to handle the offsets or the first piece of a cut.

## Contents
- `identifier?_trim`, `exists_of_identifier?`, `filterMap_identifier?_splitTopLevel`: the names at the front of
  a text, and of the entries of a list.
- `listedNames`, `joinedNames`, `ofSelect_eq`: the tables of a selection.
- `nameAfter?_eq`, `hasJoin_eq`: the name behind the first keyword, and whether there is a join.
-/

namespace SqlSkim

/-! ## Names at the front of a text -/

/-- Blanks end a name and do not start one, so trimming changes no name. -/
theorem readIdentifier_trim_fst (t : Text) : (readIdentifier (trim t)).1 = (readIdentifier t).1 := by
  show (trimLeft (trim t)).takeWhile (!endsIdentifier ·) = (trimLeft t).takeWhile (!endsIdentifier ·)
  rw [trimLeft_trim]
  have hsplit : trimLeft t = trim t ++ (trimLeft t).rtakeWhile isBlank :=
    List.rdropWhile_append_rtakeWhile.symm
  have hblanks : ((trimLeft t).rtakeWhile isBlank).takeWhile (!endsIdentifier ·) = [] := by
    cases hend : (trimLeft t).rtakeWhile isBlank with
    | nil => rfl
    | cons c rest =>
        have hc : isBlank c = true :=
          List.mem_rtakeWhile_imp (show c ∈ (trimLeft t).rtakeWhile isBlank by simp [hend])
        simp [endsIdentifier, hc]
  conv_rhs => rw [hsplit]
  rw [List.takeWhile_append, hblanks, List.append_nil]
  split
  · next hall => exact List.IsPrefix.eq_of_length (List.takeWhile_prefix _) hall
  · rfl

theorem identifier?_trim (t : Text) : identifier? (trim t) = identifier? t := by
  rw [identifier?, identifier?, readIdentifier_trim_fst]

theorem identifier?_nil : identifier? [] = none := rfl

/-- A name stands behind blanks, and ends at a character that is in no word. -/
theorem exists_of_identifier? {t name : Text} (h : identifier? t = some name) :
    ∃ blanks rest, t = blanks ++ (name ++ rest) ∧ (∀ c ∈ blanks, isBlank c = true) ∧ name ≠ [] ∧
      rest.head?.all endsIdentifier = true := by
  have hname : (readIdentifier t).1 = name ∧ name ≠ [] := by
    unfold identifier? at h
    split at h
    · exact absurd h (by simp)
    · next hne =>
        obtain rfl := Option.some.inj h
        exact ⟨rfl, hne⟩
  refine ⟨t.takeWhile isBlank, (trimLeft t).dropWhile (!endsIdentifier ·), ?_, ?_, hname.2, ?_⟩
  · rw [← hname.1]
    show t = t.takeWhile isBlank ++
      ((trimLeft t).takeWhile (!endsIdentifier ·) ++ (trimLeft t).dropWhile (!endsIdentifier ·))
    rw [List.takeWhile_append_dropWhile]
    exact List.takeWhile_append_dropWhile.symm
  · exact fun c hc => List.mem_takeWhile_imp hc
  · have hend := List.head?_dropWhile_not (!endsIdentifier ·) (trimLeft t)
    generalize ((trimLeft t).dropWhile (!endsIdentifier ·)).head? = c at hend
    cases c with
    | none => rfl
    | some c => simpa using hend

theorem isWordChar_of_endsIdentifier {c : Char} (h : endsIdentifier c = true) : isWordChar c = false := by
  rcases Bool.or_eq_true _ _ ▸ h with hblank | hmark
  · exact isWordChar_of_isBlank hblank
  · have hall : "(),;".toList.all (!isWordChar ·) = true := by decide
    simpa using List.all_eq_true.mp hall c (List.contains_iff_mem.mp hmark)

/-- The names of the entries of a list are those at the fronts of its segments. -/
theorem filterMap_identifier?_splitTopLevel (sep t : Text) :
    (splitTopLevel sep t).filterMap identifier? =
      ((Rule.char ([·] = sep)).cut (.start t)).segments.filterMap identifier? := by
  unfold splitTopLevel
  rw [List.filterMap_filter, List.filterMap_map]
  refine List.filterMap_congr fun s _ => ?_
  by_cases hs : trim s = []
  · -- an empty entry has no name
    simp only [Function.comp_apply, hs, ne_eq, not_true_eq_false, decide_false, Bool.false_eq_true,
      if_false]
    rw [← identifier?_trim, hs, identifier?_nil]
  · simp only [Function.comp_apply, ne_eq, hs, not_false_eq_true, decide_true, if_true]
    exact identifier?_trim s

/-! ## The tables of a selection -/

/-- The names at the fronts of the entries of the `FROM` list. -/
def listedNames (joins : List Text) (statement : Text) : List Text :=
  match ((keywordRule "FROM").behind (.start statement)).head? with
  | none => []
  | some place =>
    ((Rule.char ([·] = [','])).cut
      (.start ((Phrase.ruleOf (fromTerminators ++ joins)).upTo place))).segments.filterMap identifier?

/-- The names behind the join keywords. -/
def joinedNames (joins : List Text) (statement : Text) : List Text :=
  ((Phrase.ruleOf joins).behind (.start statement)).filterMap fun place => identifier? place.rest

/-- **The tables of a selection**, without offsets. -/
theorem ofSelect_eq (joins : List Text) (statement : Text) :
    Tables.ofSelect joins statement =
      ⟨(listedNames joins statement).eraseDups.head?, (listedNames joins statement).eraseDups,
        (joinedNames joins statement).eraseDups⟩ := by
  have hjoined : (((Phrase.ruleOf joins).cut (.start statement)).hits 0).filterMap
      (fun hit => identifier? (statement.drop hit.stop)) = joinedNames joins statement := by
    have hplaces := hits_map_drop (ruleOf_width_pos joins) statement
    unfold joinedNames
    rw [← Function.comp_def identifier? Place.rest, ← List.filterMap_map, ← hplaces,
      List.filterMap_map]
    rfl
  unfold Tables.ofSelect
  cases hfrom : (keywordRule "FROM").find? (.start statement) with
  | none =>
      have hlisted : listedNames joins statement = [] := by
        rw [listedNames, ← find?_map_after, hfrom]
        rfl
      dsimp only
      rw [hjoined, hlisted]
      rfl
  | some found =>
      have hlisted : listedNames joins statement = (splitTopLevel [',']
          ((Phrase.ruleOf (fromTerminators ++ joins)).upTo found.after)).filterMap identifier? := by
        rw [listedNames, ← find?_map_after, hfrom]
        exact (filterMap_identifier?_splitTopLevel _ _).symm
      dsimp only
      rw [hjoined, hlisted]

theorem head?_eraseDups (names : List Text) : names.eraseDups.head? = names.head? := by
  cases names with
  | nil => rfl
  | cons name more =>
      rw [List.eraseDups_cons]
      rfl

/-! ## The first keyword -/

/-- **The name behind the first keyword**, if that is not a keyword itself. -/
theorem nameAfter?_eq (keyword : String) (skipped : List Phrase) (statement : Text) :
    nameAfter? keyword skipped statement =
      ((keywordRule keyword).behind (.start statement)).head?.bind fun place =>
        (identifier? (place.skipPhrase skipped).rest).filter fun name =>
          !clauseKeywords.contains (upper name) := by
  unfold nameAfter?
  rw [← find?_map_after]
  cases (keywordRule keyword).find? (.start statement) with
  | none => rfl
  | some found => rfl

/-- There is a join when there is a place behind one. -/
theorem hasJoin_eq (joins : List Text) (statement : Text) :
    hasJoin joins statement = ((Phrase.ruleOf joins).behind (.start statement)).head?.isSome := by
  unfold hasJoin
  rw [← find?_map_after, Option.isSome_map]

end SqlSkim
