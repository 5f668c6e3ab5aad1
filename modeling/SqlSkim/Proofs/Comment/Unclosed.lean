import SqlSkim.Proofs.Comment.FixedPoint

/-!
# `Comment.Unclosed` — block comments that are never closed

A block comment that is never closed takes the rest of the text away. Whether a pass meets one can be told
from what it is inside of in the end. The scan for such a comment in the raw query agrees with one pass for
which line comments do not count; cleaning honours them where they count, and repeats its pass.

## Contents
- `passEnd`: what a pass is inside of in the end.
- `HasUnclosed`, `hasUnclosed_iff_passEnd`: a pass meets a comment that is never closed.
- `cleanPass_of_unclosed`: it loses everything behind the opener.
- `DropsUnclosed`, `dropsUnclosed_iff`: some pass of the repetition does.
- `OpensOnly`: an opener that only one of two readings meets.
- `openComment?_eq_some_iff`: what the scan of the raw query finds.
-/

namespace SqlSkim

/-! ## The end of a pass -/

/-- What a pass is inside of in the end. -/
@[simp]
def passEnd (lineComments : Bool) : Region → Text → Region
  | region, [] => region
  | .code, '/' :: '*' :: rest => passEnd lineComments .blockComment rest
  | .code, '-' :: '-' :: rest =>
    if lineComments then passEnd lineComments .lineComment rest
    else passEnd lineComments .code ('-' :: rest)
  | .code, _ :: rest => passEnd lineComments .code rest
  | .blockComment, '*' :: '/' :: rest => passEnd lineComments .code rest
  | .blockComment, _ :: rest => passEnd lineComments .blockComment rest
  | .lineComment, '\n' :: rest => passEnd lineComments .code rest
  | .lineComment, _ :: rest => passEnd lineComments .lineComment rest

variable {lineComments : Bool} {t : Text}

/-! ### Two characters at the front

A pass looks at the first two characters. What stands behind them plays no part, and if there is only one,
then only the first character behind it does. -/

variable {a b c : Char} {rest more : Text}

theorem not_front_append (h : ∀ r, c = a → rest = b :: r → False)
    (hmore : rest = [] → more.head? ≠ some b) : ∀ r, c = a → rest ++ more = b :: r → False := by
  intro r hc hr
  cases rest with
  | nil =>
      rw [List.nil_append] at hr
      exact hmore rfl (by rw [hr]; exact List.head?_cons)
  | cons d rest =>
      obtain ⟨rfl, -⟩ := List.cons.inj hr
      exact h rest hc rfl

theorem not_front_of_append (h : ∀ r, c = a → rest ++ more = b :: r → False) :
    ∀ r, c = a → rest = b :: r → False := by
  rintro r hc rfl
  exact h (r ++ more) hc rfl

/-- Where no comment opens, a pass goes on in the code. -/
theorem passEnd_code_cons (hblock : ∀ r, c = '/' → rest = '*' :: r → False)
    (hline : lineComments = true → ∀ r, c = '-' → rest = '-' :: r → False) :
    passEnd lineComments .code (c :: rest) = passEnd lineComments .code rest := by
  by_cases hdashes : ∃ r, c = '-' ∧ rest = '-' :: r
  · obtain ⟨r, rfl, rfl⟩ := hdashes
    rw [passEnd, if_neg]
    exact fun hlc => hline hlc r rfl rfl
  · rw [passEnd]
    · exact hblock
    · exact fun r hc hr => hdashes ⟨r, hc, hr⟩

/-- Where no comment closes, a pass stays in it. -/
theorem passEnd_block_cons (hclose : ∀ r, c = '*' → rest = '/' :: r → False) :
    passEnd lineComments .blockComment (c :: rest) = passEnd lineComments .blockComment rest := by
  rw [passEnd]
  exact hclose

/-! ### Openers -/

/-- **Behind a text that ends in the code**, a block comment can open. -/
theorem passEnd_append_opener {region : Region} {read : Text}
    (h : passEnd lineComments region read = .code) (lost : Text) :
    passEnd lineComments region (read ++ '/' :: '*' :: lost) =
      passEnd lineComments .blockComment lost := by
  -- along the pass over `read`: no two characters of it that the pass reads as one go on behind it
  fun_induction passEnd lineComments region read with
  | case1 region =>
      subst h
      rw [List.nil_append, passEnd]
  | case2 rest ih => exact ih h
  | case3 rest hlc ih =>
      rw [List.cons_append, List.cons_append, passEnd, if_pos hlc]
      exact ih h
  | case4 rest hlc ih =>
      rw [List.cons_append, List.cons_append, passEnd, if_neg hlc]
      exact ih h
  | case5 c rest hblock hline ih =>
      rw [List.cons_append, passEnd]
      · exact ih h
      · exact not_front_append hblock fun _ => by simp
      · exact not_front_append hline fun _ => by simp
  | case6 rest ih => exact ih h
  | case7 c rest hclose ih =>
      rw [List.cons_append, passEnd]
      · exact ih h
      · -- the comment is closed in `rest`, which is not empty then
        exact not_front_append hclose fun hnil => absurd h (by simp [hnil])
  | case8 rest ih => exact ih h
  | case9 c rest hend ih =>
      rw [List.cons_append, passEnd]
      · exact ih h
      · exact hend

theorem passEnd_of_no_closer (h : ¬ ['*', '/'] <:+: t) :
    passEnd lineComments .blockComment t = .blockComment := by
  induction t with
  | nil => rfl
  | cons c t ih =>
      rw [List.infix_cons_iff, not_or] at h
      rw [passEnd]
      · exact ih h.2
      · rintro more rfl rfl
        exact h.1 ⟨more, rfl⟩

/-! ## Comments that are never closed -/

/-- **A comment that is never closed**: a pass that starts inside of `region` ends in the code when it has
    read a part of the text, and behind that part stands a `/*` without a `*/` behind it. -/
def HasUnclosed (lineComments : Bool) (region : Region) (t : Text) : Prop :=
  ∃ read lost, t = read ++ '/' :: '*' :: lost ∧ passEnd lineComments region read = .code ∧
    ¬ ['*', '/'] <:+: lost

/-- More text in front, if the pass goes through it to where it started. -/
theorem HasUnclosed.front {region region' : Region} (h : HasUnclosed lineComments region' rest)
    (front : Text) (hfront : ∀ read, read <+: rest → passEnd lineComments region' read = .code →
      passEnd lineComments region (front ++ read) = .code) :
    HasUnclosed lineComments region (front ++ rest) := by
  obtain ⟨read, lost, rfl, hread, hclose⟩ := h
  refine ⟨front ++ read, lost, by rw [List.append_assoc], ?_, hclose⟩
  exact hfront read (List.prefix_append read _) hread

/-- A pass that ends in a block comment started in it, or met its opener. -/
theorem hasUnclosed_of_passEnd {region : Region} (h : passEnd lineComments region t = .blockComment) :
    region = .blockComment ∧ ¬ ['*', '/'] <:+: t ∨ HasUnclosed lineComments region t := by
  -- in the second case the opener may be the one at the front; in all others it stands further behind
  fun_induction passEnd lineComments region t with
  | case1 region => exact .inl ⟨h, by simp⟩
  | case2 rest ih =>
      rcases ih h with ⟨-, hclose⟩ | hrest
      · exact .inr ⟨[], rest, rfl, by rw [passEnd], hclose⟩
      · exact .inr (hrest.front ['/', '*'] fun _ _ hread => hread)
  | case3 rest hlc ih =>
      have hrest := (ih h).resolve_left (by simp)
      refine .inr (hrest.front ['-', '-'] fun read _ hread => ?_)
      show passEnd lineComments .code ('-' :: '-' :: read) = .code
      rw [passEnd, if_pos hlc]
      exact hread
  | case4 rest hlc ih =>
      have hrest := (ih h).resolve_left (by simp)
      refine .inr (hrest.front ['-'] fun read hprefix hread => ?_)
      cases read with
      | nil => rfl
      | cons d read =>
          obtain rfl : d = '-' := (List.cons_prefix_cons.mp hprefix).1
          show passEnd lineComments .code ('-' :: '-' :: read) = .code
          rw [passEnd, if_neg hlc]
          exact hread
  | case5 c rest hblock hline ih =>
      have hrest := (ih h).resolve_left (by simp)
      refine .inr (hrest.front [c] fun read hprefix hread => ?_)
      obtain ⟨more, rfl⟩ := hprefix
      rw [List.singleton_append, passEnd]
      · exact hread
      · exact not_front_of_append hblock
      · exact not_front_of_append hline
  | case6 rest ih =>
      have hrest := (ih h).resolve_left (by simp)
      exact .inr (hrest.front ['*', '/'] fun _ _ hread => hread)
  | case7 c rest hfront ih =>
      rcases ih h with ⟨-, hclose⟩ | hrest
      · refine .inl ⟨rfl, ?_⟩
        rw [List.infix_cons_iff, not_or]
        refine ⟨?_, hclose⟩
        rintro ⟨more, hmore⟩
        obtain ⟨rfl, rfl⟩ : '*' = c ∧ '/' :: more = rest := by simpa using hmore
        exact hfront more rfl rfl
      · refine .inr (hrest.front [c] fun read hprefix hread => ?_)
        obtain ⟨more, rfl⟩ := hprefix
        rw [List.singleton_append, passEnd]
        · exact hread
        · exact not_front_of_append hfront
  | case8 rest ih =>
      have hrest := (ih h).resolve_left (by simp)
      exact .inr (hrest.front ['\n'] fun _ _ hread => hread)
  | case9 c rest hend ih =>
      have hrest := (ih h).resolve_left (by simp)
      refine .inr (hrest.front [c] fun read _ hread => ?_)
      rw [List.singleton_append, passEnd]
      · exact hread
      · exact hend

/-- **A pass ends in a block comment exactly when it meets one that is never closed.** -/
theorem hasUnclosed_iff_passEnd :
    HasUnclosed lineComments .code t ↔ passEnd lineComments .code t = .blockComment := by
  constructor
  · rintro ⟨read, lost, rfl, hread, hclose⟩
    rw [passEnd_append_opener hread]
    exact passEnd_of_no_closer hclose
  · intro h
    exact (hasUnclosed_of_passEnd h).resolve_left (by simp)

instance (lineComments : Bool) (t : Text) : Decidable (HasUnclosed lineComments .code t) :=
  decidable_of_iff _ hasUnclosed_iff_passEnd.symm

/-! ## What is lost -/

/-- A pass over a text that ends in the code keeps of it what it keeps without the comment behind it. -/
theorem cleanPass_append_opener {region : Region} {read : Text}
    (h : passEnd lineComments region read = .code) (lost : Text) :
    cleanPass lineComments region (read ++ '/' :: '*' :: lost) =
      cleanPass lineComments region read ++ cleanPass lineComments .blockComment lost := by
  fun_induction passEnd lineComments region read with
  | case1 region =>
      subst h
      rw [List.nil_append, cleanPass, cleanPass]
      exact (List.nil_append _).symm
  | case2 rest ih => exact ih h
  | case3 rest hlc ih =>
      rw [List.cons_append, List.cons_append, cleanPass, cleanPass, if_pos hlc, if_pos hlc]
      exact ih h
  | case4 rest hlc ih =>
      rw [List.cons_append, List.cons_append, cleanPass, cleanPass, if_neg hlc, if_neg hlc]
      exact congrArg ('-' :: ·) (ih h)
  | case5 c rest hblock hline ih =>
      -- `c` is kept or dropped for itself, whatever stands behind it
      have hkept : ∀ u, (∀ r, c = '/' → u = '*' :: r → False) → (∀ r, c = '-' → u = '-' :: r → False) →
          cleanPass lineComments .code (c :: u) =
            if isQuote c then cleanPass lineComments .code u
            else c :: cleanPass lineComments .code u := by
        intro u hb hl
        rw [cleanPass]
        · exact hb
        · exact hl
      rw [List.cons_append, hkept rest hblock hline, hkept _ (not_front_append hblock fun _ => by simp)
        (not_front_append hline fun _ => by simp), ih h]
      split
      · rfl
      · rfl
  | case6 rest ih => exact ih h
  | case7 c rest hclose ih =>
      rw [List.cons_append, cleanPass, cleanPass]
      · exact ih h
      · exact hclose
      · exact not_front_append hclose fun hnil => absurd h (by simp [hnil])
  | case8 rest ih => exact congrArg ('\n' :: ·) (ih h)
  | case9 c rest hend ih =>
      rw [List.cons_append, cleanPass, cleanPass]
      · exact ih h
      · exact hend
      · exact hend

theorem cleanPass_of_no_closer (h : ¬ ['*', '/'] <:+: t) :
    cleanPass lineComments .blockComment t = [] := by
  induction t with
  | nil => rfl
  | cons c t ih =>
      rw [List.infix_cons_iff, not_or] at h
      rw [cleanPass]
      · exact ih h.2
      · rintro more rfl rfl
        exact h.1 ⟨more, rfl⟩

/-- **A pass loses everything** from a comment on that is never closed. -/
theorem cleanPass_of_unclosed {read lost : Text} (hread : passEnd lineComments .code read = .code)
    (hclose : ¬ ['*', '/'] <:+: lost) :
    cleanPass lineComments .code (read ++ '/' :: '*' :: lost) = cleanPass lineComments .code read := by
  rw [cleanPass_append_opener hread, cleanPass_of_no_closer hclose, List.append_nil]

/-! ## The repetition -/

/-- **Cleaning drops an unclosed comment**: some pass of the repetition meets one. From the pass on that
    changes nothing there is none. -/
def DropsUnclosed (lineComments : Bool) (t : Text) : Prop :=
  ∃ passes, HasUnclosed lineComments .code ((cleanPass lineComments .code)^[passes] t)

/-- A clean text holds no opener. -/
theorem not_hasUnclosed_of_isClean (h : IsClean lineComments t) :
    ¬ HasUnclosed lineComments .code t := by
  rintro ⟨read, lost, rfl, -, -⟩
  exact h.no_block ⟨read, lost, by simp⟩

/-- **The first pass meets an unclosed comment, or a later one does**, which works on what the first pass
    returns. -/
theorem dropsUnclosed_iff : DropsUnclosed lineComments t ↔
    HasUnclosed lineComments .code t ∨ DropsUnclosed lineComments (cleanPass lineComments .code t) := by
  constructor
  · rintro ⟨passes, hpass⟩
    cases passes with
    | zero => exact .inl hpass
    | succ passes => exact .inr ⟨passes, by rwa [Function.iterate_succ_apply] at hpass⟩
  · rintro (hfirst | ⟨passes, hpass⟩)
    · exact ⟨0, hfirst⟩
    · exact ⟨passes + 1, by rwa [Function.iterate_succ_apply]⟩

/-- No pass over a clean text meets one. -/
theorem not_dropsUnclosed_of_isClean (h : IsClean lineComments t) : ¬ DropsUnclosed lineComments t := by
  rintro ⟨passes, hpass⟩
  rw [Function.iterate_fixed ((cleanPass_eq_self_iff lineComments t).mpr h)] at hpass
  exact not_hasUnclosed_of_isClean h hpass

/-- If one pass is enough to clean a text, only that pass can meet one. -/
theorem dropsUnclosed_iff_of_isClean (h : IsClean lineComments (cleanPass lineComments .code t)) :
    DropsUnclosed lineComments t ↔ HasUnclosed lineComments .code t := by
  rw [dropsUnclosed_iff]
  exact or_iff_left (not_dropsUnclosed_of_isClean h)

/-- Where there are no two dashes, line comments make no difference. -/
theorem passEnd_of_no_dashes {region : Region} (hregion : region ≠ .lineComment)
    (h : lineComments = true → ¬ ['-', '-'] <:+: t) :
    passEnd lineComments region t = passEnd false region t := by
  have htail : ∀ {c : Char} {u : Text}, (lineComments = true → ¬ ['-', '-'] <:+: c :: u) →
      lineComments = true → ¬ ['-', '-'] <:+: u := fun h hlc hin => h hlc (List.infix_cons hin)
  fun_induction passEnd lineComments region t with
  | case1 region => rw [passEnd]
  | case2 rest ih => exact ih (by simp) (htail (htail h))
  | case3 rest hlc _ => exact absurd ⟨[], rest, rfl⟩ (h hlc)
  | case4 rest hlc ih => exact ih (by simp) (htail h)
  | case5 c rest hblock hline ih =>
      rw [passEnd_code_cons hblock fun hfalse => absurd hfalse (by simp)]
      exact ih (by simp) (htail h)
  | case6 rest ih => exact ih (by simp) (htail (htail h))
  | case7 c rest hclose ih =>
      rw [passEnd_block_cons hclose]
      exact ih (by simp) (htail h)
  | case8 rest _ => exact absurd rfl hregion
  | case9 c rest _ _ => exact absurd rfl hregion

/-- Where there are no two dashes, a comment is unclosed whether line comments count or not. -/
theorem hasUnclosed_iff_of_no_dashes (h : lineComments = true → ¬ ['-', '-'] <:+: t) :
    HasUnclosed lineComments .code t ↔ HasUnclosed false .code t := by
  rw [hasUnclosed_iff_passEnd, hasUnclosed_iff_passEnd, passEnd_of_no_dashes (by simp) h]

/-! ## Two readings of a text

A pass for which line comments count and one for which they do not can be inside of different things at the same
place, even behind a line comment: a `*/` that ends it for one of them may be code for the other. -/

/-- **An opener of an unclosed comment that one reading meets in the code** while the other one is inside of a
    comment there. -/
def OpensOnly (lineComments other : Bool) (t : Text) : Prop :=
  ∃ read lost, t = read ++ '/' :: '*' :: lost ∧ ¬ ['*', '/'] <:+: lost ∧
    passEnd lineComments .code read = .code ∧ passEnd other .code read ≠ .code

/-- Where only one of the two readings meets an unclosed comment, the other one misses its opener. -/
theorem HasUnclosed.opensOnly {other : Bool} (h : HasUnclosed lineComments .code t)
    (hother : ¬ HasUnclosed other .code t) : OpensOnly lineComments other t := by
  obtain ⟨read, lost, ht, hread, hclose⟩ := h
  refine ⟨read, lost, ht, hclose, hread, ?_⟩
  intro hcode
  exact hother ⟨read, lost, ht, hcode, hclose⟩

/-- It takes two dashes for that, and a reading for which they count. -/
theorem OpensOnly.dashes {other : Bool} (h : OpensOnly lineComments other t) :
    (lineComments = true ∨ other = true) ∧ ['-', '-'] <:+: t := by
  obtain ⟨read, lost, rfl, _, hread, hmissed⟩ := h
  constructor
  · by_contra hnone
    obtain ⟨hfirst, hsecond⟩ := not_or.mp hnone
    rw [eq_false_of_ne_true hfirst] at hread
    rw [eq_false_of_ne_true hsecond] at hmissed
    exact hmissed hread
  · by_contra hnone
    have hfront : ¬ ['-', '-'] <:+: read := by
      intro hin
      exact hnone (hin.trans (List.prefix_append read _).isInfix)
    rw [passEnd_of_no_dashes (by simp) fun _ => hfront] at hread hmissed
    exact hmissed hread

/-! ## The scan of the raw query -/

/-- What the scan of the raw query is inside of. -/
def openedRegion : Option Nat → Region
  | none => .code
  | some _ => .blockComment

/-- The scan finds nothing unless a pass ends in a block comment. -/
theorem passEnd_of_openCommentFrom {pos : Nat} {opened : Option Nat}
    (h : (openCommentFrom pos opened t).isSome = true) :
    passEnd false (openedRegion opened) t = .blockComment := by
  fun_induction openCommentFrom pos opened t with
  | case1 pos opened =>
      cases opened with
      | none => exact absurd h (by simp)
      | some start => rfl
  | case2 pos rest ih => exact ih h
  | case3 pos c rest hblock ih =>
      have hstep : passEnd false .code (c :: rest) = passEnd false .code rest :=
        passEnd_code_cons hblock fun hfalse => absurd hfalse (by simp)
      exact hstep.trans (ih h)
  | case4 pos start rest ih => exact ih h
  | case5 pos start c rest hclose ih =>
      have hstep : passEnd false .blockComment (c :: rest) = passEnd false .blockComment rest :=
        passEnd_block_cons hclose
      exact hstep.trans (ih h)

/-- The scan stays in a comment that is never closed. -/
theorem openCommentFrom_of_no_closer (h : ¬ ['*', '/'] <:+: t) (pos start : Nat) :
    openCommentFrom pos (some start) t = some start := by
  induction t generalizing pos with
  | nil => rfl
  | cons c t ih =>
      rw [List.infix_cons_iff, not_or] at h
      rw [openCommentFrom]
      · exact ih h.2 (pos + 1)
      · rintro more rfl rfl
        exact h.1 ⟨more, rfl⟩

/-- The scan finds the opener behind a text that ends in the code. -/
theorem openCommentFrom_append_opener {pos : Nat} {opened : Option Nat} {read lost : Text}
    (h : passEnd false (openedRegion opened) read = .code) (hclose : ¬ ['*', '/'] <:+: lost) :
    openCommentFrom pos opened (read ++ '/' :: '*' :: lost) = some (pos + read.length) := by
  fun_induction openCommentFrom pos opened read with
  | case1 pos opened =>
      cases opened with
      | none => exact openCommentFrom_of_no_closer hclose (pos + 2) pos
      | some start => exact absurd h (by simp [openedRegion])
  | case2 pos rest ih =>
      have hrest := ih h
      show openCommentFrom (pos + 2) (some pos) (rest ++ '/' :: '*' :: lost) = _
      rw [hrest, List.length_cons, List.length_cons]
      congr 1
      omega
  | case3 pos c rest hblock ih =>
      have hstep : passEnd false .code (c :: rest) = passEnd false .code rest :=
        passEnd_code_cons hblock fun hfalse => absurd hfalse (by simp)
      rw [List.cons_append, openCommentFrom, ih (hstep.symm.trans h), List.length_cons]
      · congr 1
        omega
      · exact not_front_append hblock fun _ => by simp
  | case4 pos start rest ih =>
      have hrest := ih h
      show openCommentFrom (pos + 2) none (rest ++ '/' :: '*' :: lost) = _
      rw [hrest, List.length_cons, List.length_cons]
      congr 1
      omega
  | case5 pos start c rest hfront ih =>
      have hstep : passEnd false .blockComment (c :: rest) = passEnd false .blockComment rest :=
        passEnd_block_cons hfront
      have hrest : passEnd false .blockComment rest = .code := hstep.symm.trans h
      rw [List.cons_append, openCommentFrom, ih hrest, List.length_cons]
      · congr 1
        omega
      · exact not_front_append hfront fun hnil => absurd hrest (by simp [hnil])

/-- **The scan of the raw query finds the opener** of the comment that is never closed, as if line comments
    did not count. -/
theorem openComment?_eq_some_iff {start : Nat} :
    openComment? t = some start ↔
      ∃ read lost, t = read ++ '/' :: '*' :: lost ∧ read.length = start ∧
        passEnd false .code read = .code ∧ ¬ ['*', '/'] <:+: lost := by
  have hfind : ∀ {read lost : Text}, passEnd false .code read = .code → ¬ ['*', '/'] <:+: lost →
      openComment? (read ++ '/' :: '*' :: lost) = some read.length := by
    intro read lost hread hclose
    have hcode : passEnd false (openedRegion none) read = .code := hread
    rw [openComment?, openCommentFrom_append_opener hcode hclose, Nat.zero_add]
  constructor
  · intro h
    have hfound : (openCommentFrom 0 none t).isSome = true := by
      rw [← openComment?, h, Option.isSome_some]
    have hend : passEnd false .code t = .blockComment := passEnd_of_openCommentFrom hfound
    obtain ⟨read, lost, rfl, hread, hclose⟩ := hasUnclosed_iff_passEnd.mpr hend
    rw [hfind hread hclose] at h
    exact ⟨read, lost, rfl, Option.some.inj h, hread, hclose⟩
  · rintro ⟨read, lost, rfl, rfl, hread, hclose⟩
    exact hfind hread hclose

end SqlSkim
