import SqlSkim.Proofs.Checked.Look
import SqlSkim.Query.Comment

/-!
# `Checked.Comment` — comments by their offsets

A walk along a raw query goes on behind a comment at the offset where the search for its end stopped, or
at the end of the text if there is no such offset. The character at hand is asked for before anything else
is done with it.

## Contents
- `firstIn`, `findAt`: the first occurrence of a text from an offset on.
- `cleanPass_blockComment`, `cleanPass_lineComment`, `outsideCommentsFrom_inside`, `openCommentFrom_inside`: what
  is left behind a comment.
- `openCommentFrom_outside`: the first comment.
- `Checked.cleanPass`, `Checked.clean`, `Checked.outsideComments`, `Checked.openComment?`.
-/

namespace SqlSkim

/-! ## Searching for a text -/

/-- How many characters stand before the first occurrence of `part`. -/
def firstIn (part : Text) : Text → Option Nat
  | [] => none
  | c :: rest => if part <+: c :: rest then some 0 else (firstIn part rest).map (· + 1)

/-- The offset of the first occurrence of `part` from `i` on. -/
def findAt (part t : Text) (i : Nat) : Option Nat := (firstIn part (t.drop i)).map (i + ·)

theorem lt_of_firstIn {part t : Text} {n : Nat} (h : firstIn part t = some n) : n < t.length := by
  induction t generalizing n with
  | nil => exact absurd h (by simp [firstIn])
  | cons c rest ih =>
      rw [firstIn] at h
      split at h
      · obtain rfl := Option.some.inj h
        exact Nat.zero_lt_succ _
      · obtain ⟨m, hm, rfl⟩ := Option.map_eq_some_iff.mp h
        exact Nat.succ_lt_succ (ih hm)

theorem le_findAt {part t : Text} {i stop : Nat} (h : findAt part t i = some stop) : i ≤ stop := by
  obtain ⟨n, _, rfl⟩ := Option.map_eq_some_iff.mp h
  exact Nat.le_add_right i n

theorem lt_of_findAt {part t : Text} {i stop : Nat} (h : findAt part t i = some stop) : stop < t.length := by
  obtain ⟨n, hn, rfl⟩ := Option.map_eq_some_iff.mp h
  have hlt := lt_of_firstIn hn
  rw [List.length_drop] at hlt
  omega

/-- Two characters at the front of a text, taken off. -/
theorem exists_of_pair {a b c : Char} {rest : Text} (h : [a, b] <+: c :: rest) :
    ∃ tail, c = a ∧ rest = b :: tail := by
  obtain ⟨tail, htail⟩ := h
  obtain ⟨hc, hrest⟩ := List.cons.inj htail
  exact ⟨tail, hc.symm, hrest.symm⟩

/-- What is left behind two characters at an offset. -/
theorem drop_of_pair {a b : Char} {t : Text} {i : Nat} (h : [a, b] <+: t.drop i) :
    t.drop i = a :: b :: t.drop (i + 2) := by
  obtain ⟨rest, hrest⟩ := h
  rw [← List.drop_drop, ← hrest]
  rfl

/-! ## Behind a comment -/

section Behind

variable {lineComments : Bool} {t rest : Text} {c : Char}

/-- A block comment reaches to the first `*/`, and to the end without one. -/
theorem cleanPass_blockComment (lineComments : Bool) (t : Text) :
    cleanPass lineComments .blockComment t =
      ((firstIn ['*', '/'] t).map fun n => cleanPass lineComments .code (t.drop (n + 2))).getD [] := by
  induction t with
  | nil => rw [cleanPass]; rfl
  | cons c rest ih =>
      rw [firstIn]
      split
      · next hclose =>
          obtain ⟨tail, rfl, rfl⟩ := exists_of_pair hclose
          rw [cleanPass]
          rfl
      · next hgoes =>
          rw [cleanPass, ih, Option.map_map]
          · rfl
          · rintro tail rfl rfl
            exact hgoes ⟨tail, rfl⟩

/-- A line comment reaches to the end of its line. -/
theorem cleanPass_lineComment (lineComments : Bool) (t : Text) :
    cleanPass lineComments .lineComment t =
      ((firstIn ['\n'] t).map fun n => cleanPass lineComments .code (t.drop n)).getD [] := by
  induction t with
  | nil => rw [cleanPass]; rfl
  | cons c rest ih =>
      rw [firstIn]
      split
      · next hend =>
          obtain ⟨tail, htail⟩ := hend
          obtain ⟨rfl, rfl⟩ : '\n' = c ∧ tail = rest := by simpa using htail
          rw [cleanPass]
          show _ = cleanPass lineComments .code ('\n' :: tail)
          rw [cleanPass]
          · rfl
          · simp
          · simp
      · next hgoes =>
          rw [cleanPass, ih, Option.map_map]
          · rfl
          · rintro rfl
            exact hgoes ⟨rest, rfl⟩

/-- Where no comment opens, the character at hand is kept unless it is a quoting character. -/
theorem cleanPass_code_cons (hblock : ¬ ['/', '*'] <+: c :: rest)
    (hline : ¬ (lineComments = true ∧ ['-', '-'] <+: c :: rest)) :
    cleanPass lineComments .code (c :: rest) =
      if isQuote c then cleanPass lineComments .code rest
      else c :: cleanPass lineComments .code rest := by
  by_cases hdashes : ['-', '-'] <+: c :: rest
  · obtain ⟨tail, rfl, rfl⟩ := exists_of_pair hdashes
    have hoff : lineComments = false := by
      simpa using fun h => hline ⟨h, ⟨tail, rfl⟩⟩
    rw [cleanPass, hoff]
    rfl
  · rw [cleanPass]
    · rintro tail rfl rfl
      exact hblock ⟨tail, rfl⟩
    · rintro tail rfl rfl
      exact hdashes ⟨tail, rfl⟩

/-- Inside a block comment nothing is listed up to the first `*/`. -/
theorem outsideCommentsFrom_inside (pos : Nat) (t : Text) :
    outsideCommentsFrom pos true t =
      ((firstIn ['*', '/'] t).map fun n =>
        outsideCommentsFrom (pos + n + 2) false (t.drop (n + 2))).getD [] := by
  induction t generalizing pos with
  | nil => rw [outsideCommentsFrom]; rfl
  | cons c rest ih =>
      rw [firstIn]
      split
      · next hclose =>
          obtain ⟨tail, rfl, rfl⟩ := exists_of_pair hclose
          rw [outsideCommentsFrom]
          rfl
      · next hgoes =>
          rw [outsideCommentsFrom, ih, Option.map_map]
          · congr 2
            funext n
            show outsideCommentsFrom (pos + 1 + n + 2) false _ = outsideCommentsFrom (pos + (n + 1) + 2) false _
            rw [Nat.add_assoc pos 1 n, Nat.add_comm 1 n]
            rfl
          · rintro tail rfl rfl
            exact hgoes ⟨tail, rfl⟩

/-- Inside a block comment the scan for an unclosed one goes on at the first `*/`, and ends without one. -/
theorem openCommentFrom_inside (pos start : Nat) (t : Text) :
    openCommentFrom pos (some start) t =
      (firstIn ['*', '/'] t).elim (some start) fun n =>
        openCommentFrom (pos + n + 2) none (t.drop (n + 2)) := by
  induction t generalizing pos with
  | nil => rfl
  | cons c rest ih =>
      rw [firstIn]
      split
      · next hclose =>
          obtain ⟨tail, rfl, rfl⟩ := exists_of_pair hclose
          rfl
      · next hgoes =>
          rw [openCommentFrom, ih]
          · cases firstIn ['*', '/'] rest with
            | none => rfl
            | some n =>
                show openCommentFrom (pos + 1 + n + 2) none _ = openCommentFrom (pos + (n + 1) + 2) none _
                rw [Nat.add_assoc pos 1 n, Nat.add_comm 1 n]
                rfl
          · rintro tail rfl rfl
            exact hgoes ⟨tail, rfl⟩

/-- Outside of comments the scan goes on behind the first `/*`. -/
theorem openCommentFrom_outside (pos : Nat) (t : Text) :
    openCommentFrom pos none t =
      (firstIn ['/', '*'] t).bind fun n =>
        openCommentFrom (pos + n + 2) (some (pos + n)) (t.drop (n + 2)) := by
  induction t generalizing pos with
  | nil => rfl
  | cons c rest ih =>
      rw [firstIn]
      split
      · next hopen =>
          obtain ⟨tail, rfl, rfl⟩ := exists_of_pair hopen
          rfl
      · next hgoes =>
          rw [openCommentFrom, ih]
          · cases firstIn ['/', '*'] rest with
            | none => rfl
            | some n =>
                show openCommentFrom (pos + 1 + n + 2) (some (pos + 1 + n)) _ =
                  openCommentFrom (pos + (n + 1) + 2) (some (pos + (n + 1))) _
                rw [Nat.add_assoc pos 1 n, Nat.add_comm 1 n]
                rfl
          · rintro tail rfl rfl
            exact hgoes ⟨tail, rfl⟩

end Behind

namespace Checked

/-! ## The cleaned query -/

/-- One pass from an offset on that lies outside comments. -/
def cleanPass (lineComments : Bool) (t : Text) (i : Nat) : Except OffsetError Text :=
  if i < t.length then do
    let c ← itemAt t i
    if ['/', '*'] <+: t.drop i then
      match _h : findAt ['*', '/'] t (i + 2) with
      | none => return []
      | some stop => cleanPass lineComments t (stop + 2)
    else if lineComments ∧ ['-', '-'] <+: t.drop i then
      match _h : findAt ['\n'] t (i + 2) with
      | none => return []
      | some stop => cleanPass lineComments t stop
    else
      let more ← cleanPass lineComments t (i + 1)
      return if isQuote c then more else c :: more
  else return []
termination_by t.length - i
decreasing_by
  · have := le_findAt _h; omega
  · have := le_findAt _h; omega
  · omega

theorem cleanPass_eq (lineComments : Bool) (t : Text) (i : Nat) :
    cleanPass lineComments t i = .ok (SqlSkim.cleanPass lineComments .code (t.drop i)) := by
  -- by recursion as the pass itself: behind a comment it goes on where the search for its end stopped
  rw [cleanPass]
  cases hrest : t.drop i with
  | nil =>
      rw [if_neg (Nat.not_lt.mpr (List.drop_eq_nil_iff.mp hrest)), SqlSkim.cleanPass]
      rfl
  | cons c rest =>
      obtain ⟨hlt, hc, hnext⟩ := itemAt_of_drop hrest
      rw [if_pos hlt, hc, ok_bind, ← hrest]
      split
      · next hblock =>
          rw [drop_of_pair hblock, SqlSkim.cleanPass, cleanPass_blockComment]
          split
          · next hnone =>
              rw [Option.map_eq_none_iff.mp hnone]
              rfl
          · next stop hstop =>
              obtain ⟨n, hn, rfl⟩ := Option.map_eq_some_iff.mp hstop
              rw [cleanPass_eq, hn, Option.map_some, Option.getD_some, List.drop_drop, Nat.add_assoc (i + 2)]
      · next hblock =>
          split
          · next hline =>
              rw [drop_of_pair hline.2, SqlSkim.cleanPass, if_pos hline.1, cleanPass_lineComment]
              split
              · next hnone =>
                  rw [Option.map_eq_none_iff.mp hnone]
                  rfl
              · next stop hstop =>
                  obtain ⟨n, hn, rfl⟩ := Option.map_eq_some_iff.mp hstop
                  rw [cleanPass_eq, hn, Option.map_some, Option.getD_some, List.drop_drop]
          · next hline =>
              rw [hrest] at hblock hline
              rw [cleanPass_eq, hnext, ok_bind, hrest, cleanPass_code_cons hblock hline]
              rfl
termination_by t.length - i

/-- Passes over the text until one changes nothing. -/
def clean (lineComments : Bool) (t : Text) : Except OffsetError Text :=
  match _h : cleanPass lineComments t 0 with
  | .error e => .error e
  | .ok passed => if passed = t then .ok t else clean lineComments passed
termination_by t.length
decreasing_by
  rw [cleanPass_eq] at _h
  obtain rfl := Except.ok.inj _h
  exact cleanPass_length_lt ‹_›

theorem clean_eq (lineComments : Bool) (t : Text) :
    clean lineComments t = .ok (SqlSkim.clean lineComments t) := by
  -- a pass by offsets gives what a pass from the front gives, so both ways stop at the same text
  have hpass : ∀ t, cleanPass lineComments t 0 = .ok (SqlSkim.cleanPass lineComments .code t) :=
    fun t => cleanPass_eq lineComments t 0
  fun_induction SqlSkim.clean lineComments t with
  | case1 t passed h =>
      rw [clean]
      split
      · next e herror =>
          rw [hpass] at herror
          exact absurd herror (by simp)
      · next other hother =>
          obtain rfl := Except.ok.inj ((hpass t).symm.trans hother)
          rw [if_pos h]
  | case2 t passed h ih =>
      rw [clean]
      split
      · next e herror =>
          rw [hpass] at herror
          exact absurd herror (by simp)
      · next other hother =>
          obtain rfl := Except.ok.inj ((hpass t).symm.trans hother)
          rw [if_neg h]
          exact ih

/-! ## The raw query -/

/-- The characters outside block comments from an offset on that lies outside comments. -/
def outsideCommentsFrom (t : Text) (i : Nat) : Except OffsetError (List (Nat × Char)) :=
  if i < t.length then do
    if ['/', '*'] <+: t.drop i then
      match _h : findAt ['*', '/'] t (i + 2) with
      | none => return []
      | some stop => outsideCommentsFrom t (stop + 2)
    else
      let c ← itemAt t i
      return (i, c) :: (← outsideCommentsFrom t (i + 1))
  else return []
termination_by t.length - i
decreasing_by
  · have := le_findAt _h; omega
  · omega

theorem outsideCommentsFrom_eq (t : Text) (i : Nat) :
    outsideCommentsFrom t i = .ok (SqlSkim.outsideCommentsFrom i false (t.drop i)) := by
  rw [outsideCommentsFrom]
  cases hrest : t.drop i with
  | nil =>
      rw [if_neg (Nat.not_lt.mpr (List.drop_eq_nil_iff.mp hrest)), SqlSkim.outsideCommentsFrom]
      rfl
  | cons c rest =>
      obtain ⟨hlt, hc, hnext⟩ := itemAt_of_drop hrest
      rw [if_pos hlt, ← hrest]
      split
      · next hblock =>
          rw [drop_of_pair hblock, SqlSkim.outsideCommentsFrom, outsideCommentsFrom_inside]
          split
          · next hnone =>
              rw [Option.map_eq_none_iff.mp hnone]
              rfl
          · next stop hstop =>
              obtain ⟨n, hn, rfl⟩ := Option.map_eq_some_iff.mp hstop
              rw [outsideCommentsFrom_eq, hn, Option.map_some, Option.getD_some, List.drop_drop,
                Nat.add_assoc (i + 2)]
      · next hblock =>
          rw [hrest] at hblock
          rw [hc, ok_bind, outsideCommentsFrom_eq, hnext, hrest, SqlSkim.outsideCommentsFrom]
          · rfl
          · rintro tail rfl rfl
            exact hblock ⟨tail, rfl⟩
termination_by t.length - i

/-- Every character that is in no block comment, with its offset. -/
def outsideComments (t : Text) : Except OffsetError (List (Nat × Char)) := outsideCommentsFrom t 0

theorem outsideComments_eq (t : Text) : outsideComments t = .ok (SqlSkim.outsideComments t) :=
  outsideCommentsFrom_eq t 0

/-- The start of the first comment from an offset on that is never closed. Each search goes on where the last
    one stopped. -/
def openCommentFrom (t : Text) (i : Nat) : Option Nat :=
  match _hopen : findAt ['/', '*'] t i with
  | none => none
  | some start =>
    match _hclose : findAt ['*', '/'] t (start + 2) with
    | none => some start
    | some stop => openCommentFrom t (stop + 2)
termination_by t.length - i
decreasing_by
  have hopen := le_findAt _hopen
  have hclose := le_findAt _hclose
  have hend := lt_of_findAt _hclose
  omega

theorem openCommentFrom_eq (t : Text) (i : Nat) :
    openCommentFrom t i = SqlSkim.openCommentFrom i none (t.drop i) := by
  rw [openCommentFrom, openCommentFrom_outside]
  split
  · next hnone =>
      rw [Option.map_eq_none_iff.mp hnone]
      rfl
  · next start hopen =>
      obtain ⟨n, hn, rfl⟩ := Option.map_eq_some_iff.mp hopen
      rw [hn, Option.bind_some, openCommentFrom_inside, List.drop_drop, ← Nat.add_assoc]
      split
      · next hnone =>
          rw [Option.map_eq_none_iff.mp hnone]
          rfl
      · next stop hclose =>
          obtain ⟨m, hm, rfl⟩ := Option.map_eq_some_iff.mp hclose
          rw [openCommentFrom_eq, hm, Option.elim_some, List.drop_drop, Nat.add_assoc (i + n + 2)]
termination_by t.length - i
decreasing_by
  have hend := lt_of_findAt ‹findAt ['*', '/'] t _ = some _›
  omega

/-- The offset of the `/*` that is never closed, if there is one. -/
def openComment? (t : Text) : Option Nat := openCommentFrom t 0

theorem openComment?_eq (t : Text) : openComment? t = SqlSkim.openComment? t := openCommentFrom_eq t 0

end Checked

end SqlSkim
