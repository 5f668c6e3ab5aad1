import Mathlib.Data.List.Infix
import SqlSkim.Proofs.Checked.Comment
import SqlSkim.Proofs.Diagnostic.Mark

/-!
# `Comment.Agreement` — three scans, one reading of block comments

A block comment starts at the first `/*` that is in no other comment, and ends at the first `*/` behind that,
which may not overlap the opener: `/*/` is open. Three scans read a raw query in this way, to strip comments, to
list what is outside of them, and to find one that is never closed. Here that reading is a relation of its own.
Each scan follows it, so what one of them tells of a text can be told from the others.

## Contents
- `firstIn_eq_none_iff`, `firstIn_eq_some_iff`: where two characters occur first.
- `Commented`, `exists_commented`: how block comments divide a text.
- `Commented.cleanPass_eq`, `Commented.outsideComments_eq`, `Commented.openComment?_eq`: the three scans.
- `Commented.pairwise`, `Commented.getElem?_of_mem`: the offsets that are listed.
- `Commented.exists_opener`, `Commented.concat`: a comment that stays open, and one more character at the end.
- `CommentScansAgree`, `commentScansAgree`: the main result.
-/

namespace SqlSkim

variable {t : Text} {a b c : Char} {pos : Nat} {kept : List (Nat × Char)} {opened : Option Nat}

/-! ## The first closer -/

/-- A search finds nothing exactly where the two characters do not occur. -/
theorem firstIn_eq_none_iff : firstIn [a, b] t = none ↔ ¬ [a, b] <:+: t := by
  induction t with
  | nil => simp [firstIn]
  | cons c rest ih =>
      rw [firstIn, List.infix_cons_iff, not_or]
      split
      · next hfront => simp [hfront]
      · next hfront => simp [hfront, ih]

/-- **The first occurrence of two characters** is behind a stretch in which they do not occur, not even with the
    first of them at its end. -/
theorem firstIn_eq_some_iff {n : Nat} :
    firstIn [a, b] t = some n ↔
      ∃ inside rest, t = inside ++ a :: b :: rest ∧ n = inside.length ∧ ¬ [a, b] <:+: inside ++ [a] := by
  induction t generalizing n with
  | nil => simp [firstIn]
  | cons c rest ih =>
      rw [firstIn]
      split
      · next hfront =>
          constructor
          · intro hn
            obtain ⟨tail, rfl, rfl⟩ := exists_of_pair hfront
            refine ⟨[], tail, rfl, (Option.some.inj hn).symm, fun hin => ?_⟩
            exact absurd hin.length_le (by simp)
          · rintro ⟨inside, tail, ht, rfl, hnot⟩
            -- the pair at the front would be in a stretch that is not empty
            cases inside with
            | nil => rfl
            | cons d inside =>
                refine absurd (List.IsPrefix.isInfix ?_) hnot
                rw [ht, List.append_cons] at hfront
                exact List.prefix_of_prefix_length_le hfront (List.prefix_append _ _) (by simp)
      · next hfront =>
          rw [Option.map_eq_some_iff]
          constructor
          · rintro ⟨m, hm, rfl⟩
            obtain ⟨inside, tail, rfl, rfl, hnot⟩ := ih.mp hm
            refine ⟨c :: inside, tail, rfl, rfl, ?_⟩
            rw [List.cons_append, List.infix_cons_iff, not_or]
            refine ⟨fun hpair => hfront (hpair.trans ?_), hnot⟩
            exact ⟨b :: tail, by simp⟩
          · rintro ⟨inside, tail, ht, rfl, hnot⟩
            cases inside with
            | nil => exact absurd ⟨tail, ht.symm⟩ hfront
            | cons d inside =>
                obtain ⟨rfl, rfl⟩ := List.cons.inj ht
                rw [List.cons_append, List.infix_cons_iff, not_or] at hnot
                exact ⟨inside.length, ih.mpr ⟨inside, tail, rfl, rfl, hnot.2⟩, rfl⟩

/-! ## Block comments -/

/-- **How block comments divide a text** that starts at offset `pos` and in no comment. `kept` are the
    characters that are in none, and `opened` is where the one starts that is never closed. -/
inductive Commented : Nat → Text → List (Nat × Char) → Option Nat → Prop where
  | nil {pos : Nat} : Commented pos [] [] none
  | code {pos : Nat} {c : Char} {rest : Text} {kept : List (Nat × Char)} {opened : Option Nat} :
      ¬ ['/', '*'] <+: c :: rest → Commented (pos + 1) rest kept opened →
      Commented pos (c :: rest) ((pos, c) :: kept) opened
  | closed {pos : Nat} {inside rest : Text} {kept : List (Nat × Char)} {opened : Option Nat} :
      ¬ ['*', '/'] <:+: inside ++ ['*'] → Commented (pos + 2 + inside.length + 2) rest kept opened →
      Commented pos ('/' :: '*' :: (inside ++ '*' :: '/' :: rest)) kept opened
  | unclosed {pos : Nat} {lost : Text} :
      ¬ ['*', '/'] <:+: lost → Commented pos ('/' :: '*' :: lost) [] (some pos)

/-- **Every text is divided** by its block comments. -/
theorem exists_commented (pos : Nat) (t : Text) : ∃ kept opened, Commented pos t kept opened := by
  -- a comment takes more than one character away, so the induction is on the length
  induction hlen : t.length using Nat.strong_induction_on generalizing pos t with
  | h n ih =>
      subst hlen
      cases t with
      | nil => exact ⟨[], none, .nil⟩
      | cons c rest =>
          by_cases hopen : ['/', '*'] <+: c :: rest
          · obtain ⟨tail, rfl, rfl⟩ := exists_of_pair hopen
            cases hclose : firstIn ['*', '/'] tail with
            | none => exact ⟨[], some pos, .unclosed (firstIn_eq_none_iff.mp hclose)⟩
            | some k =>
                obtain ⟨inside, rest, rfl, -, hinside⟩ := firstIn_eq_some_iff.mp hclose
                have hshorter : rest.length < ('/' :: '*' :: (inside ++ '*' :: '/' :: rest)).length := by
                  simp only [List.length_cons, List.length_append]
                  omega
                obtain ⟨kept, opened, hrest⟩ := ih _ hshorter (pos + 2 + inside.length + 2) rest rfl
                exact ⟨kept, opened, .closed hinside hrest⟩
          · obtain ⟨kept, opened, hrest⟩ := ih rest.length (Nat.lt_succ_self _) (pos + 1) rest rfl
            exact ⟨(pos, c) :: kept, opened, .code hopen hrest⟩

/-! ## The three scans -/

/-- What is left behind a comment. -/
theorem firstIn_closer {inside rest : Text} (hinside : ¬ ['*', '/'] <:+: inside ++ ['*']) :
    firstIn ['*', '/'] (inside ++ '*' :: '/' :: rest) = some inside.length ∧
      (inside ++ '*' :: '/' :: rest).drop (inside.length + 2) = rest := by
  refine ⟨firstIn_eq_some_iff.mpr ⟨inside, rest, rfl, rfl, hinside⟩, ?_⟩
  rw [List.drop_length_add_append]
  rfl

/-- **A pass keeps** what is in no comment, but for the quoting characters. -/
theorem Commented.cleanPass_eq (h : Commented pos t kept opened) :
    cleanPass false .code t = (kept.map (·.2)).filter (!isQuote ·) := by
  induction h with
  | nil => rw [cleanPass]; rfl
  | code hopen _ ih =>
      rw [cleanPass_code_cons hopen (by simp), ih, List.map_cons, List.filter_cons]
      cases isQuote _ <;> rfl
  | closed hinside _ ih =>
      obtain ⟨hfirst, hrest⟩ := firstIn_closer hinside
      rw [cleanPass, cleanPass_blockComment, hfirst, Option.map_some, hrest, ih]
      rfl
  | unclosed hlost =>
      rw [cleanPass, cleanPass_blockComment, firstIn_eq_none_iff.mpr hlost]
      rfl

/-- **The listing** is of what is in no comment. -/
theorem Commented.outsideComments_eq (h : Commented pos t kept opened) :
    outsideCommentsFrom pos false t = kept := by
  induction h with
  | nil => rw [outsideCommentsFrom]
  | code hopen _ ih =>
      rw [outsideCommentsFrom, ih]
      rintro tail rfl rfl
      exact hopen ⟨tail, rfl⟩
  | closed hinside _ ih =>
      obtain ⟨hfirst, hrest⟩ := firstIn_closer hinside
      rw [outsideCommentsFrom, outsideCommentsFrom_inside, hfirst, Option.map_some, hrest, ih]
      rfl
  | unclosed hlost =>
      rw [outsideCommentsFrom, outsideCommentsFrom_inside, firstIn_eq_none_iff.mpr hlost]
      rfl

/-- **The scan for an open comment** finds where the one starts that is never closed. -/
theorem Commented.openComment?_eq (h : Commented pos t kept opened) :
    openCommentFrom pos none t = opened := by
  induction h with
  | nil => rfl
  | code hopen _ ih =>
      rw [openCommentFrom, ih]
      rintro tail rfl rfl
      exact hopen ⟨tail, rfl⟩
  | closed hinside _ ih =>
      obtain ⟨hfirst, hrest⟩ := firstIn_closer hinside
      rw [openCommentFrom, openCommentFrom_inside, hfirst, Option.elim_some, hrest, ih]
  | unclosed hlost =>
      rw [openCommentFrom, openCommentFrom_inside, firstIn_eq_none_iff.mpr hlost]
      rfl

/-! ## The offsets of the listing -/

/-- A character in no comment stands at its offset. -/
theorem Commented.getElem?_of_mem (h : Commented pos t kept opened) {p : Nat × Char} (hp : p ∈ kept) :
    ∃ k, p.1 = pos + k ∧ t[k]? = some p.2 := by
  rw [← h.outsideComments_eq] at hp
  exact getElem?_of_mem_outsideCommentsFrom hp

/-- The offsets increase. -/
theorem Commented.pairwise (h : Commented pos t kept opened) : kept.Pairwise (·.1 < ·.1) := by
  induction h with
  | nil => exact .nil
  | code _ hrest ih =>
      refine List.pairwise_cons.mpr ⟨fun p hp => ?_, ih⟩
      obtain ⟨k, hk, -⟩ := hrest.getElem?_of_mem hp
      show _ < p.1
      omega
  | closed _ _ ih => exact ih
  | unclosed _ => exact .nil

/-! ## The end of the text -/

/-- **A comment that stays open** hides nothing but itself: what is in front of it is divided as before. -/
theorem Commented.exists_opener (h : Commented pos t kept opened) {start : Nat} (hstart : opened = some start) :
    ∃ read lost, t = read ++ '/' :: '*' :: lost ∧ start = pos + read.length ∧
      ¬ ['*', '/'] <:+: lost ∧ Commented pos read kept none := by
  induction h with
  | nil => exact absurd hstart (by simp)
  | @code pos c rest kept opened hopen _ ih =>
      obtain ⟨read, lost, rfl, rfl, hlost, hread⟩ := ih hstart
      refine ⟨c :: read, lost, rfl, by rw [List.length_cons]; omega, hlost, .code (fun hfront => ?_) hread⟩
      exact hopen (hfront.trans (List.prefix_append (c :: read) _))
  | @closed pos inside rest kept opened hinside _ ih =>
      obtain ⟨read, lost, rfl, rfl, hlost, hread⟩ := ih hstart
      refine ⟨'/' :: '*' :: (inside ++ '*' :: '/' :: read), lost, by simp, ?_, hlost, .closed hinside hread⟩
      simp only [List.length_cons, List.length_append]
      omega
  | @unclosed pos lost hlost =>
      obtain rfl := Option.some.inj hstart
      exact ⟨[], lost, rfl, rfl, hlost, .nil⟩

/-- **One more character**, which is in no opener and in no closer, is listed unless a comment is open. -/
theorem Commented.concat (h : Commented pos t kept opened) (hstar : c ≠ '*') (hslash : c ≠ '/') :
    Commented pos (t ++ [c]) (kept ++ if opened = none then [(pos + t.length, c)] else []) opened := by
  induction h with
  | nil => exact .code (fun hfront => absurd hfront.length_le (by simp)) .nil
  | @code pos d rest kept opened hopen _ ih =>
      rw [List.length_cons, Nat.add_comm rest.length, ← Nat.add_assoc]
      refine .code (fun hfront => hopen ?_) ih
      -- the two characters at the front are there already, for `c` is not the second of them
      cases rest with
      | nil => exact absurd (List.cons_prefix_cons.mp (List.cons_prefix_cons.mp hfront).2).1.symm hstar
      | cons e rest => exact List.prefix_of_prefix_length_le hfront (List.prefix_append _ [c]) (by simp)
  | @closed pos inside rest kept opened hinside _ ih =>
      have hlength : pos + ('/' :: '*' :: (inside ++ '*' :: '/' :: rest)).length =
          pos + 2 + inside.length + 2 + rest.length := by
        simp only [List.length_cons, List.length_append]
        omega
      rw [hlength, List.cons_append, List.cons_append, List.append_assoc]
      exact .closed hinside ih
  | @unclosed pos lost hlost =>
      rw [if_neg (by simp)]
      refine .unclosed fun hclose => ?_
      rcases List.infix_concat_iff.mp hclose with hend | hin
      · obtain ⟨front, hfront⟩ := hend
        have hlast := congrArg List.getLast? hfront
        rw [List.getLast?_append, List.getLast?_concat] at hlast
        exact hslash (Option.some.inj hlast).symm
      · exact hlost hin

/-! ## The scans agree -/

/-- **The scans agree** on the block comments of a text.
    - A pass keeps what the listing lists, in order and without the quoting characters.
    - The offsets of the listing increase, and each is where its character stands.
    - The scan for an open comment finds a `/*` with no `*/` behind it, and what stands in front of that is listed
      as if it stood alone.
    - It finds none exactly where a character behind the text would be listed last. -/
structure CommentScansAgree (t : Text) : Prop where
  stripped : cleanPass false .code t = ((outsideComments t).map (·.2)).filter (!isQuote ·)
  increasing : (outsideComments t).Pairwise (·.1 < ·.1)
  placed : ∀ p ∈ outsideComments t, t[p.1]? = some p.2
  unclosed : ∀ start, openComment? t = some start →
    (t.drop start).take 2 = ['/', '*'] ∧ ¬ ['*', '/'] <:+: t.drop (start + 2) ∧
      outsideComments t = outsideComments (t.take start)
  closed_iff : openComment? t = none ↔
    (outsideComments (t ++ ['x'])).getLast? = some (t.length, 'x')

/-- **The scans of block comments agree**, and so do the walks that go from one comment to the next by searching
    for its ends. -/
theorem commentScansAgree (t : Text) :
    CommentScansAgree t ∧
      Checked.cleanPass false t 0 = .ok (cleanPass false .code t) ∧
      Checked.outsideComments t = .ok (outsideComments t) ∧
      Checked.openComment? t = openComment? t := by
  refine ⟨?_, Checked.cleanPass_eq false t 0, Checked.outsideComments_eq t, Checked.openComment?_eq t⟩
  obtain ⟨kept, opened, h⟩ := exists_commented 0 t
  have hlisted : outsideComments t = kept := h.outsideComments_eq
  have hopened : openComment? t = opened := h.openComment?_eq
  have hplaced : ∀ p ∈ kept, t[p.1]? = some p.2 := by
    intro p hp
    obtain ⟨k, hk, hget⟩ := h.getElem?_of_mem hp
    rw [hk, Nat.zero_add]
    exact hget
  constructor
  case stripped => rw [hlisted, h.cleanPass_eq]
  case increasing => rw [hlisted]; exact h.pairwise
  case placed => rw [hlisted]; exact hplaced
  case unclosed =>
    intro start hstart
    obtain ⟨read, lost, rfl, rfl, hlost, hread⟩ := h.exists_opener (hopened.symm.trans hstart)
    rw [Nat.zero_add, ← List.drop_drop, List.drop_left, List.take_left, hlisted]
    exact ⟨rfl, hlost, hread.outsideComments_eq.symm⟩
  case closed_iff =>
    have hlonger : outsideComments (t ++ ['x']) =
        kept ++ if opened = none then [(0 + t.length, 'x')] else [] :=
      (h.concat (by decide) (by decide)).outsideComments_eq
    rw [hopened, hlonger, Nat.zero_add]
    constructor
    · intro hnone
      rw [if_pos hnone, List.getLast?_concat]
    · intro hlast
      by_contra hsome
      -- all that is listed stands in `t`, so its offset is no longer than that
      rw [if_neg hsome, List.append_nil] at hlast
      have hget := hplaced _ (List.mem_of_getLast? hlast)
      simp at hget

/-- The `*` of an opener is not that of a closer, and what a `/` behind a closer starts is no comment. -/
example : outsideComments "a/*/b*/*c/*/".toList = [(0, 'a'), (7, '*'), (8, 'c')] ∧
    openComment? "a/*/b*/*c/*/".toList = some 9 := by decide

end SqlSkim
