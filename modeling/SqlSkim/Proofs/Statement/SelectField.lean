import SqlSkim.Proofs.Diagnostic.Paren
import SqlSkim.Proofs.Scan.Listing
import SqlSkim.Proofs.Scan.Part
import SqlSkim.Proofs.Statement.SelectList

/-!
# `Statement.SelectField` — the columns of a selection are well formed

Each entry of the select list gives one column. It loses its alias in one of three ways: it is cut off at its
first `AS`, its last word is left out and the others are joined with single blanks, or it stays as it is. In the
first two the column is not a stretch of the entry that was split off, so what holds of an entry has to be shown
again: a cut at depth zero and words that leave nothing open bring neither a comma nor a parenthesis about.

## Contents
- `stripAlias_cases`: the three ways to lose an alias.
- `IsPart.stripAlias`, `IsBalanced.stripAlias`, `filter_stripAlias`: what a column inherits from its entry.
- `ListsFields`, `listsFields_columns`: the main result.
-/

namespace SqlSkim

/-! ## Aliases -/

/-- **An entry loses its alias** at a place that lies at depth zero, with its last word, or not at all. -/
theorem stripAlias_cases (entry : Text) :
    (∃ lead tail, entry = lead ++ tail ∧ lead ≠ [] ∧ depthAfterText 0 lead = 0 ∧
        stripAlias entry = trim lead) ∨
      ((topLevelWords entry).dropLast ≠ [] ∧
        stripAlias entry = joinWith " " (topLevelWords entry).dropLast) ∨
      stripAlias entry = trim entry := by
  rw [stripAlias_eq]
  split
  · next c lead label after hfind =>
      obtain ⟨token, hentry, hdepth, _⟩ :=
        exists_of_find? (ruleOf_width_pos _) (skipsGroups_keywordRule (by decide)) hfind
      exact .inl ⟨c :: lead, _, hentry, List.cons_ne_nil c lead, hdepth, rfl⟩
  · unfold withoutBareAlias
    split
    · next last previous more hback =>
        have hwords : topLevelWords entry = more.reverse ++ [previous] ++ [last] := by
          rw [← List.reverse_reverse (topLevelWords entry), hback]
          simp
        split
        · refine .inr (.inl ⟨?_, rfl⟩)
          rw [hwords, List.dropLast_concat]
          simp
        · exact .inr (.inr rfl)
    · exact .inr (.inr rfl)

/-! ## What a column inherits from its entry -/

/-- **A column is a part** of a list like its entry: not empty, trimmed, and with no comma of its own. -/
theorem IsPart.stripAlias {entry : Text} (h : IsPart [','] entry) :
    IsPart [','] (SqlSkim.stripAlias entry) := by
  rcases stripAlias_cases entry with ⟨lead, tail, rfl, hne, _, heq⟩ | ⟨hne, heq⟩ | heq
  · rw [heq]
    obtain ⟨c, lead, rfl⟩ := List.exists_cons_of_ne_nil hne
    have hc := isBlank_head_of_trim_eq h.trim_eq
    exact ⟨trim_cons_ne_nil hc lead, trim_trim _, h.unsplit.of_append.trim⟩
  · rw [heq]
    have hsolid : IsSolid (joinWith " " (topLevelWords entry).dropLast) :=
      isSolid_joinWith hne fun w hw => (isSolid_of_mem_words hw).1
    refine ⟨hsolid.ne_nil, hsolid.trim_eq, unsplit_joinWith (by decide) ?_ ?_⟩
    · intro w hw
      exact (words_of_part (List.mem_of_mem_dropLast hw)).1 h.unsplit
    · intro w hw
      exact (isSolid_of_mem_words hw).2
  · rw [heq, h.trim_eq]
    exact h

/-- **A column of a balanced entry** is balanced. -/
theorem IsBalanced.stripAlias {entry : Text} (h : IsBalanced entry) :
    IsBalanced (SqlSkim.stripAlias entry) := by
  rcases stripAlias_cases entry with ⟨lead, tail, rfl, _, hdepth, heq⟩ | ⟨_, heq⟩ | heq
  · rw [heq]
    exact (h.of_append hdepth).1.trim
  · rw [heq]
    refine isBalanced_joinWith fun w hw => ?_
    exact (words_of_part (q := isBlank) (List.mem_of_mem_dropLast hw)).2 h
  · rw [heq]
    exact h.trim

/-- **A column is the front of its entry**, but for blanks. -/
theorem filter_stripAlias (entry : Text) :
    (stripAlias entry).filter (!isBlank ·) <+: entry.filter (!isBlank ·) := by
  rcases stripAlias_cases entry with ⟨lead, tail, rfl, _, _, heq⟩ | ⟨_, heq⟩ | heq
  · rw [heq, filter_trim, List.filter_append]
    exact List.prefix_append _ _
  · rw [heq, filter_joinWith, ← filter_flatten_words entry]
    exact ((List.dropLast_prefix _).flatten).filter _
  · rw [heq, filter_trim]

/-! ## The columns of a selection -/

/-- **The columns of a selection**, by its select list.
    - A statement without a `SELECT` at depth zero has none, and any other one has a select list.
    - There is a column for each entry of that list, in the same order, and it is the front of its entry, blanks
      left aside.
    - A column is not empty, is trimmed, and is one entry if it is split again; and if the parentheses of the
      statement are balanced, so are those of the column. -/
structure ListsFields (statement : Text) (fields : List Text) : Prop where
  absent : IsAbsent "SELECT" statement 0 → fields = []
  exists_list : ¬ IsAbsent "SELECT" statement 0 → ∃ list, IsSelectList statement list
  length_eq : ∀ list, IsSelectList statement list → fields.length = (splitTopLevel [','] list).length
  fronts : ∀ list, IsSelectList statement list →
    List.Forall₂ (fun field entry => field.filter (!isBlank ·) <+: entry.filter (!isBlank ·)) fields
      (splitTopLevel [','] list)
  ne_nil : ∀ field ∈ fields, field ≠ []
  trimmed : ∀ field ∈ fields, trim field = field
  single : ∀ field ∈ fields, splitTopLevel [','] field = [field]
  balanced : checkParens statement = none → ∀ field ∈ fields, checkParens field = none

/-- The entries of a balanced list are balanced. -/
theorem isBalanced_of_mem_splitTopLevel {list entry : Text} (h : IsBalanced list)
    (hentry : entry ∈ splitTopLevel [','] list) : IsBalanced entry := by
  obtain ⟨_, segment, hsegment, rfl⟩ := mem_splitTopLevel_iff.mp hentry
  have hdivides : DividesInto list ((Rule.char ([·] = [','])).cut (.start list)).segments :=
    dividesInto_cut (char_width_pos _) skipsGroups_comma (.start list)
  exact (hdivides.isBalanced h segment hsegment).trim

/-- **Every selection lists its columns** in this way, whatever stands in the statement. -/
theorem listsFields_columns (statement : Text) :
    ListsFields statement (columns (some .select) statement) := by
  show ListsFields statement (selectColumns statement)
  rcases selectList?_cases statement with ⟨hnone, habsent⟩ | ⟨list, hlist, hselect⟩
  · have hempty : selectColumns statement = [] := by rw [selectColumns, hnone]
    have hno : ∀ list, ¬ IsSelectList statement list := by
      rintro list ⟨start, stop, _, hfirst, _⟩
      exact hfirst.not_isAbsent habsent
    rw [hempty]
    exact ⟨fun _ => rfl, fun hsome => absurd habsent hsome, fun list h => absurd h (hno list),
      fun list h => absurd h (hno list), by simp, by simp, by simp, by simp⟩
  · have hcolumns : selectColumns statement = (splitTopLevel [','] list).map stripAlias := by
      rw [selectColumns, hlist]
    have hpart : ∀ field ∈ selectColumns statement, IsPart [','] field := by
      rw [hcolumns]
      exact List.forall_mem_map.mpr fun entry hentry => (isPart_of_mem_splitTopLevel hentry).stripAlias
    constructor
    case absent =>
      obtain ⟨start, stop, _, hfirst, _⟩ := hselect
      exact fun habsent => absurd habsent hfirst.not_isAbsent
    case exists_list => exact fun _ => ⟨list, hselect⟩
    case length_eq =>
      intro list' hselect'
      rw [hcolumns, List.length_map, hselect.unique hselect']
    case fronts =>
      intro list' hselect'
      rw [hcolumns, ← hselect.unique hselect', List.forall₂_map_left_iff]
      exact List.forall₂_same.mpr fun entry _ => filter_stripAlias entry
    case ne_nil => exact fun field hfield => (hpart field hfield).ne_nil
    case trimmed => exact fun field hfield => (hpart field hfield).trim_eq
    case single => exact fun field hfield => (hpart field hfield).splitTopLevel_eq
    case balanced =>
      intro hstatement
      have hbalanced : IsBalanced list := (checkParens_eq_none_iff.mp hstatement).selectList hlist
      rw [hcolumns]
      refine List.forall_mem_map.mpr fun entry hentry => checkParens_eq_none_iff.mpr ?_
      exact (isBalanced_of_mem_splitTopLevel hbalanced hentry).stripAlias

/-- A stray `)` and a comma in parentheses divide nothing, and a group keeps its blanks. -/
example : selectColumns "SELECT ALL f(a,  b) AS x, ), n  + (1)  y, , z FROM t".toList =
    ["f(a,  b)".toList, ")".toList, "n + (1)".toList, "z".toList] := by decide +kernel

end SqlSkim
