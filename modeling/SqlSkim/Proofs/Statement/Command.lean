import SqlSkim.Proofs.Statement.Segment
import SqlSkim.Statement.Command

/-!
# `Statement.Command` — the command a text starts with

No phrase of a command begins like another one, so a text starts with one command at most, and the order
in which they are tried decides nothing. A command of one word is the command of the first statement, too:
no separator starts inside that word, or at its place.

## Contents
- `Command.firstOf`, `firstOf_eq_some_iff`, `ofStatement?_eq_some_iff`: a text has a command exactly if its
  phrase stands at the front, whatever the order.
- `wordsWidth?_of_separator`: a keyword at the front of a text stands before any separator.
- `exists_first_selection`: the first statement of a selection.
-/

namespace SqlSkim

open Phrase

/-! ## One command at most -/

/-- A word of capitals is a keyword if no expansion fits into it. -/
theorem isKeyword_of_all {w : Text} (h : w ≠ [] ∧ w.all Char.isUpper = true ∧ IsRigid w) :
    IsKeyword w := ⟨h.1, List.all_eq_true.mp h.2.1, h.2.2⟩

/-- The words of the commands are keywords. -/
theorem isKeyword_of_command (c : Command) : ∀ w ∈ c.phrase.words, IsKeyword w := by
  have hall : ∀ w ∈ c.phrase.words, w ≠ [] ∧ w.all Char.isUpper = true ∧ IsRigid w := by
    cases c <;> decide +kernel
  exact fun w hw => isKeyword_of_all (hall w hw)

/-- No phrase of a command begins another one. -/
theorem command_eq_of_isPrefix {c d : Command} (h : c.phrase.words <+: d.phrase.words) : c = d := by
  revert h
  cases c <;> cases d <;> decide

/-- The phrase of a command stands at the start of a text if its words do. -/
theorem width?_command (c : Command) (t : Text) :
    c.phrase.width? (.start t) = wordsWidth? c.phrase.words t := by
  have hne : c.phrase.words ≠ [] := by cases c <;> decide
  exact if_neg (by simp [hne, Place.start])

/-- The first command of a list whose phrase stands at the front of a statement. -/
def Command.firstOf (order : List Command) (statement : Text) : Option Command :=
  order.find? fun c => (c.phrase.width? (.start (trimLeft statement))).isSome

/-- **The commands can be tried in any order**: the first one found is the one whose phrase stands there. -/
theorem firstOf_eq_some_iff {order : List Command} (horder : ∀ c, c ∈ order) {c : Command} {t : Text} :
    Command.firstOf order t = some c ↔ (wordsWidth? c.phrase.words (trimLeft t)).isSome = true := by
  unfold Command.firstOf
  constructor
  · intro h
    have hfound := List.find?_some h
    rwa [width?_command] at hfound
  · intro h
    cases hfind : order.find? fun d => (d.phrase.width? (.start (trimLeft t))).isSome with
    | none =>
        have hnone := List.find?_eq_none.mp hfind c (horder c)
        rw [width?_command] at hnone
        exact absurd h hnone
    | some d =>
        have hd := List.find?_some hfind
        rw [width?_command] at hd
        rcases wordsWidth?_prefix_or (isKeyword_of_command c) (isKeyword_of_command d) h hd with
          hpre | hpre
        · rw [command_eq_of_isPrefix hpre]
        · rw [command_eq_of_isPrefix hpre]

theorem mem_all_commands (c : Command) : c ∈ Command.all := by cases c <;> decide

/-- **The command of a text** is the one whose phrase stands at its front; there is one at most. -/
theorem ofStatement?_eq_some_iff {c : Command} {t : Text} :
    Command.ofStatement? t = some c ↔ (wordsWidth? c.phrase.words (trimLeft t)).isSome = true :=
  firstOf_eq_some_iff mem_all_commands

/-! ## The first statement -/

/-- **A keyword at the front of a text stands before any separator**, unless it is one. -/
theorem wordsWidth?_of_separator {w u rest : Text} {c : Char} {label : Text} {width : Nat}
    (hw : IsKeyword w) (hother : w ≠ "UNION".toList)
    (hsep : separatorRule ⟨lastOr none u, c :: rest⟩ = some (label, width))
    (h : (wordsWidth? [w] (u ++ c :: rest)).isSome = true) : (wordsWidth? [w] u).isSome = true := by
  have hboundary := (separatorAt_of_rule hsep).boundary_before
  rcases List.eq_nil_or_concat u with rfl | ⟨u, d, rfl⟩
  · -- the separator is at the front itself, and no word that is a separator is `w`
    exfalso
    rw [List.nil_append] at h
    have hsome : separatorRule ⟨none, c :: rest⟩ ≠ none := by
      rw [← lastOr_nil none, hsep]
      simp
    by_cases hword : isWordChar c = true
    · have hsemi : (c :: rest).head? ≠ some ';' := by
        rintro heq
        obtain rfl := Option.some.inj heq
        exact absurd hword (by decide)
      have hunion : (wordsWidth? ["UNION".toList] (c :: rest)).isSome = true := by
        rw [ne_eq, separatorRule_eq_none_iff, not_and] at hsome
        have hsome := hsome hsemi
        rw [not_or] at hsome
        exact Option.isSome_iff_ne_none.mpr hsome.2
      rcases wordsWidth?_prefix_or (List.forall_mem_singleton.mpr hw)
        (List.forall_mem_singleton.mpr isKeyword_union) h hunion with hpre | hpre
      · exact hother (List.cons_prefix_cons.mp hpre).1
      · exact hother (List.cons_prefix_cons.mp hpre).1.symm
    · rw [hw.wordsWidth?_eq_none (continuesWord_gap (by simpa using hword) rest) []] at h
      exact absurd h (by simp)
  · rw [List.concat_eq_append] at hboundary h ⊢
    by_cases hword : isWordChar d = true
    · -- a word ends in front of the separator
      have hend : continuesWord (c :: rest) = false := hboundary (by rw [lastOr_concat]; exact hword)
      rwa [hw.wordsWidth?_append hend] at h
    · -- the keyword ends in front of `d` already
      have hgap := continuesWord_gap (c := d) (by simpa using hword)
      rw [List.append_assoc, List.singleton_append, hw.wordsWidth?_append (hgap _)] at h
      rwa [hw.wordsWidth?_append (hgap _)]

/-- A keyword at the front of a text is not trimmed off. -/
theorem IsKeyword.wordsWidth?_trim {w : Text} (hw : IsKeyword w) (t : Text) :
    wordsWidth? [w] (trim t) = wordsWidth? [w] (trimLeft t) := by
  have hsplit : trimLeft t = trim t ++ (trimLeft t).rtakeWhile isBlank :=
    List.rdropWhile_append_rtakeWhile.symm
  have hblank : continuesWord ((trimLeft t).rtakeWhile isBlank) = false := by
    cases hend : (trimLeft t).rtakeWhile isBlank with
    | nil => rfl
    | cons c rest =>
        have hc : c ∈ (trimLeft t).rtakeWhile isBlank := by simp [hend]
        exact continuesWord_gap (isWordChar_of_isBlank (List.mem_rtakeWhile_imp hc)) rest
  rw [hsplit, hw.wordsWidth?_append hblank]

theorem ofStatement?_eq_select_iff {t : Text} :
    Command.ofStatement? t = some .select ↔ (wordsWidth? ["SELECT".toList] (trimLeft t)).isSome = true :=
  ofStatement?_eq_some_iff

/-- **The first statement of a selection** is a selection. -/
theorem exists_first_selection {t : Text} (hfront : trimLeft t = t)
    (h : Command.ofStatement? t = some .select) :
    ∃ s more, statements t = s :: more ∧ Command.ofStatement? s = some .select := by
  have hselect : IsKeyword "SELECT".toList := isKeyword_of_command .select _ (by decide)
  rw [ofStatement?_eq_select_iff, hfront] at h
  -- the first segment starts with the keyword, whatever separator stands behind it
  have hhead : (wordsWidth? ["SELECT".toList] (separators t).head).isSome = true := by
    have hcut : CutsInto separatorRule none 0 t (separators t) :=
      cutsInto_cutFrom separatorRule_width_pos none 0 t
    generalize separators t = cut at hcut
    cases hcut with
    | last _ => exact h
    | token _ _ _ hsep _ _ => exact wordsWidth?_of_separator hselect (by decide) hsep h
  generalize hu : (separators t).head = u at hhead
  have hword : continuesWord u = true := by
    by_contra hend
    rw [hselect.wordsWidth?_eq_none (by simpa using hend) []] at hhead
    exact absurd hhead (by simp)
  have hsolid : trimLeft u = u := by
    cases u with
    | nil => rfl
    | cons c u =>
        have hc : isWordChar c = true := hword
        refine List.dropWhile_cons_of_neg fun hblank => ?_
        rw [isWordChar_of_isBlank hblank] at hc
        exact absurd hc (by decide)
  have hne : trim u ≠ [] := by
    rw [ne_eq, trim_eq_nil_iff, hsolid]
    rintro rfl
    exact absurd hword (by decide)
  refine ⟨trim u, (((separators t).pieces.map (·.segment)).map trim).filter (· ≠ []), ?_, ?_⟩
  · rw [statements, Cut.segments, hu, List.map_cons, List.filter_cons_of_pos (by simpa using hne)]
  · rw [ofStatement?_eq_select_iff, trimLeft_trim, hselect.wordsWidth?_trim, hsolid]
    exact hhead

end SqlSkim
