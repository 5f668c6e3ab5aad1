import SqlSkim.Proofs.Checked.Look
import SqlSkim.Proofs.Comment.Unclosed
import SqlSkim.Proofs.Diagnostic.Paren
import SqlSkim.Proofs.Diagnostic.Source

/-!
# `Diagnostic.Mark` — what marks cover

A mark is a pair of offsets, found by the scan of one text and shown against that text later. The checks of
the raw query and the check of parentheses walk along the text with an offset of their own. Here each offset
is tied to the character or the opener that was met there.

## Contents
- `Mark.LiesIn`, `Mark.covered`: marks within a text, and what they cover.
- `getElem?_of_mem_outsideCommentsFrom`, `getElem?_of_parenFaultFrom`: what stands at the offsets that scans
  give.
- `marks_of_checkComment`, `marks_of_checkQuotes`, `marks_of_checkParens`: the marks of each check.
-/

namespace SqlSkim

/-! ## Marks within a text -/

/-- **A mark within a text** is not empty and ends no later than the text. -/
structure Mark.LiesIn (m : Mark) (t : Text) : Prop where
  start_nonneg : 0 ≤ m.start
  start_lt_stop : m.start < m.stop
  stop_le_length : m.stop ≤ t.length

/-- What a mark covers. -/
def Mark.covered (m : Mark) (t : Text) : Text := slice t m.start m.stop

/-- A mark of one character covers that character. -/
theorem mark_single {t : Text} {offset : Nat} {c : Char} (h : t[offset]? = some c)
    (label : Option Text) :
    (⟨offset, offset + 1, label⟩ : Mark).LiesIn t ∧
      (⟨offset, offset + 1, label⟩ : Mark).covered t = [c] := by
  obtain ⟨hlt, hget⟩ := List.getElem?_eq_some_iff.mp h
  refine ⟨⟨Int.natCast_nonneg offset, Int.lt_succ offset, ?_⟩, ?_⟩
  · show (offset : Int) + 1 ≤ t.length
    omega
  · have hcover := slice_natCast t offset (offset + 1)
    rw [List.drop_eq_getElem_cons hlt, hget, Nat.add_sub_cancel_left] at hcover
    exact hcover

/-- A mark up to the end covers all that follows its start. -/
theorem mark_to_end (read : Text) {lost : Text} (hne : lost ≠ []) (label : Option Text) :
    (⟨read.length, (read ++ lost).length, label⟩ : Mark).LiesIn (read ++ lost) ∧
      (⟨read.length, (read ++ lost).length, label⟩ : Mark).covered (read ++ lost) = lost := by
  have hpos := List.length_pos_of_ne_nil hne
  have hlength : (read ++ lost).length = read.length + lost.length := List.length_append
  refine ⟨⟨by simp, ?_, Int.le_refl _⟩, ?_⟩
  · show (read.length : Int) < (read ++ lost).length
    omega
  · have hcover := slice_natCast (read ++ lost) read.length (read ++ lost).length
    rw [List.drop_left, hlength, Nat.add_sub_cancel_left, List.take_length] at hcover
    rw [Mark.covered, hlength]
    exact hcover

/-! ## The offsets that scans give -/

/-- What stands in a text stands so much further on with something in front. -/
theorem exists_getElem?_append (front : Text) {pos i : Nat} {c : Char} {rest : Text}
    (h : ∃ k, i = pos + front.length + k ∧ rest[k]? = some c) :
    ∃ k, i = pos + k ∧ (front ++ rest)[k]? = some c := by
  obtain ⟨k, hi, hget⟩ := h
  refine ⟨front.length + k, by omega, ?_⟩
  rw [List.getElem?_append_right (Nat.le_add_right _ _), Nat.add_sub_cancel_left]
  exact hget

/-- A character outside comments stands at its offset. -/
theorem getElem?_of_mem_outsideCommentsFrom {pos : Nat} {inside : Bool} {t : Text} {p : Nat × Char}
    (h : p ∈ outsideCommentsFrom pos inside t) : ∃ k, p.1 = pos + k ∧ t[k]? = some p.2 := by
  fun_induction outsideCommentsFrom pos inside t with
  | case1 => exact absurd h (by simp)
  | case2 pos rest ih => exact exists_getElem?_append ['/', '*'] (ih h)
  | case3 pos c rest _ ih =>
      rcases List.mem_cons.mp h with rfl | h
      · exact ⟨0, rfl, rfl⟩
      · exact exists_getElem?_append [c] (ih h)
  | case4 pos rest ih => exact exists_getElem?_append ['*', '/'] (ih h)
  | case5 pos c rest _ ih => exact exists_getElem?_append [c] (ih h)

/-- A `)` that closes nothing stands at its offset. -/
theorem getElem?_of_parenFaultFrom {pos depth offset : Nat} {t : Text}
    (h : parenFaultFrom pos depth t = some (.unmatched offset)) :
    ∃ k, offset = pos + k ∧ t[k]? = some ')' := by
  induction t generalizing pos depth with
  | nil =>
      rw [parenFaultFrom] at h
      split at h <;> exact absurd h (by simp)
  | cons c t ih =>
      have hlater : ∀ {depth}, parenFaultFrom (pos + 1) depth t = some (.unmatched offset) →
          ∃ k, offset = pos + k ∧ (c :: t)[k]? = some ')' :=
        fun h => exists_getElem?_append [c] (ih h)
      rw [parenFaultFrom] at h
      split at h
      · exact hlater h
      · split at h
        · next hclose =>
            split at h
            · obtain rfl : pos = offset := by simpa using h
              exact ⟨0, rfl, by rw [hclose]; rfl⟩
            · exact hlater h
        · exact hlater h

/-! ## The marks of each check -/

/-- **The warning of an unclosed comment** marks the text from the opener to the end. -/
theorem marks_of_checkComment {query : Text} {d : Diagnostic} (h : checkComment query = some d) :
    ∃ m, d.marks = [m] ∧ m.LiesIn query ∧ ['/', '*'] <+: m.covered query := by
  obtain ⟨start, _, label, _, hopen, rfl⟩ := exists_of_checkComment h
  obtain ⟨read, lost, rfl, rfl, _⟩ := openComment?_eq_some_iff.mp hopen
  obtain ⟨hin, hcovered⟩ := mark_to_end read (List.cons_ne_nil '/' ('*' :: lost)) (some label)
  refine ⟨_, rfl, hin, ?_⟩
  rw [hcovered]
  exact ⟨lost, rfl⟩

/-- **The warning of a quoting character** marks one, and names it. -/
theorem marks_of_checkQuotes {query : Text} {d : Diagnostic} (h : checkQuotes query = some d) :
    ∃ quote m, isQuote quote = true ∧ d.message = "unbalanced ".toList ++ quote :: " quote".toList ∧
      d.marks = [m] ∧ m.LiesIn query ∧ m.covered query = [quote] := by
  obtain ⟨quote, hquote, last, label, _, houtside, rfl⟩ := exists_of_checkQuotes h
  have hall : quoteChars.all isQuote = true := by decide
  -- the offset is counted from the front of the query, so it is the place of the character in it
  obtain ⟨k, hk, hget⟩ := getElem?_of_mem_outsideCommentsFrom houtside
  obtain rfl : last = k := by simpa using hk
  obtain ⟨hin, hcovered⟩ := mark_single hget (some label)
  exact ⟨quote, _, List.all_eq_true.mp hall _ hquote, rfl, rfl, hin, hcovered⟩

/-- **The warning of parentheses** marks nothing but a `)`. -/
theorem marks_of_checkParens {statement : Text} {d : Diagnostic} (h : checkParens statement = some d) :
    ∀ m ∈ d.marks, m.LiesIn statement ∧ m.covered statement = [')'] := by
  intro m hm
  rcases checkParens_cases h with ⟨offset, hfault, _, hmarks⟩ | ⟨count, _, _, hmarks⟩
  · rw [hmarks] at hm
    obtain rfl := List.mem_singleton.mp hm
    obtain ⟨k, hk, hget⟩ := getElem?_of_parenFaultFrom hfault
    rw [Nat.zero_add] at hk
    subst hk
    exact mark_single hget _
  · rw [hmarks] at hm
    exact absurd hm (by simp)

/-- The check of empty statements marks nothing. -/
theorem marks_of_checkEmptyStatements {cleaned : Text} {d : Diagnostic}
    (h : checkEmptyStatements cleaned = some d) : d.marks = [] := by
  obtain ⟨message, rfl⟩ := exists_of_checkEmptyStatements h
  rfl

/-- The check of the command marks nothing. -/
theorem marks_of_checkCommand {statement : Text} {command : Option Command} {d : Diagnostic}
    (h : checkCommand statement command = some d) : d.marks = [] := by
  obtain ⟨_, message, note, rfl⟩ := exists_of_checkCommand h
  rfl

/-- The check of the tables marks nothing. -/
theorem marks_of_checkTable {command : Option Command} {tables : Tables} {d : Diagnostic}
    (h : checkTable command tables = some d) : d.marks = [] := by
  obtain ⟨_, _, message, rfl⟩ := exists_of_checkTable h
  rfl

end SqlSkim
