import SqlSkim.Proofs.Checked.Column
import SqlSkim.Proofs.Scan.Division
import SqlSkim.Proofs.Token.Keyword

/-!
# `Statement.SelectList` — where the select list of a statement stands

The select list is cut out by three searches, each of which goes on where the last one stopped. Here it is
described by the offsets of its keywords instead: the first `SELECT` at depth zero, the first `FROM` behind it,
and a modifier in front. That describes one text at most, and the searches find it.

## Contents
- `StandsFirst`, `IsAbsent`, `findKeyword_stands`, `find?_stands`: the first occurrence of a keyword, and the
  search for it.
- `IsUpTo`, `IsUnmodified`: what is left of a text by a keyword behind it and by one in front.
- `IsSelectList`, `IsSelectList.unique`, `selectList?_cases`: the select list, and the scan that finds it.
- `IsBalanced.selectList`: the select list of a balanced statement.
-/

namespace SqlSkim

open Phrase

variable {keyword : String} {t u v list : Text} {pos start stop : Nat}

/-! ## The first keyword -/

/-- **The first occurrence of a keyword** at depth zero, from offset `pos` on, from which also the depth is
    counted. -/
structure StandsFirst (keyword : String) (t : Text) (pos start stop : Nat) : Prop where
  start_mem : start ∈ topLevel t pos
  stands : (ofText keyword.toList).matchAt t start = .ok (some stop)
  first : ∀ i ∈ topLevel t pos, i < start → (ofText keyword.toList).matchAt t i = .ok none

/-- **No occurrence of a keyword** at depth zero, from offset `pos` on. -/
def IsAbsent (keyword : String) (t : Text) (pos : Nat) : Prop :=
  ∀ i ∈ topLevel t pos, (ofText keyword.toList).matchAt t i = .ok none

theorem StandsFirst.not_isAbsent (h : StandsFirst keyword t pos start stop) : ¬ IsAbsent keyword t pos := by
  intro habsent
  have hnone := habsent start h.start_mem
  rw [h.stands] at hnone
  exact absurd hnone (by simp)

/-- There is one first occurrence at most. -/
theorem StandsFirst.unique {start' stop' : Nat} (h : StandsFirst keyword t pos start stop)
    (h' : StandsFirst keyword t pos start' stop') : start = start' ∧ stop = stop' := by
  have hstart : start = start' := by
    rcases Nat.lt_trichotomy start start' with hlt | heq | hlt
    · have hnone := h'.first start h.start_mem hlt
      rw [h.stands] at hnone
      exact absurd hnone (by simp)
    · exact heq
    · have hnone := h.first start' h'.start_mem hlt
      rw [h'.stands] at hnone
      exact absurd hnone (by simp)
  subst hstart
  have hsame := h.stands.symm.trans h'.stands
  exact ⟨rfl, by simpa using hsame⟩

/-- Within the text, a match at an offset that is none is no match at the place. -/
theorem matchAt_eq_none_iff {p : Phrase} (h : pos ≤ t.length) :
    p.matchAt t pos = .ok none ↔ p.width? (.at t pos) = none := by
  rw [← Checked.matchAt_eq, Checked.matchAt_of_le h, Except.ok.injEq, Option.map_eq_none_iff]

/-- The first occurrence, by its width. -/
theorem standsFirst_of_width? {n : Nat} (hstart : start ∈ topLevel t pos)
    (hwidth : (ofText keyword.toList).width? (.at t start) = some n)
    (hfirst : ∀ i ∈ topLevel t pos, i < start → (ofText keyword.toList).width? (.at t i) = none) :
    StandsFirst keyword t pos start (start + n) := by
  have hle : ∀ i ∈ topLevel t pos, i ≤ t.length := fun i hi => Nat.le_of_lt (bounds_of_mem_topLevel hi).2
  constructor
  case start_mem => exact hstart
  case stands => exact (matchAt_eq_ok_iff (hle start hstart)).mpr ⟨n, hwidth, rfl⟩
  case first => exact fun i hi hlt => (matchAt_eq_none_iff (hle i hi)).mpr (hfirst i hi hlt)

/-- A token of a single keyword is that keyword. -/
theorem matchAt_of_mem_keywordTokens {hit : Hit Phrase} (h : hit ∈ keywordTokens [keyword.toList] t pos) :
    (ofText keyword.toList).matchAt t hit.start = .ok (some hit.stop) := by
  obtain ⟨hlabel, width, hwidth, hstop, _⟩ := exists_width_of_mem_keywordTokens h
  have hsame : hit.label = ofText keyword.toList := by simpa using (mem_phrasesOf_iff.mp hlabel).1
  have hmem := (listsTokens_keywordTokens [keyword.toList] t pos).start_mem hit h
  rw [hsame] at hwidth
  exact (matchAt_eq_ok_iff (Nat.le_of_lt (bounds_of_mem_topLevel hmem).2)).mpr ⟨width, hwidth, hstop⟩

/-- Where no token covers an offset at depth zero, the keyword does not stand there. -/
theorem matchAt_of_uncovered (hwords : (ofText keyword.toList).words ≠ []) {i : Nat} (hi : i ∈ topLevel t pos)
    (h : ∀ hit ∈ keywordTokens [keyword.toList] t pos, ¬ (hit.start ≤ i ∧ i < hit.stop)) :
    (ofText keyword.toList).matchAt t i = .ok none := by
  rw [matchAt_eq_none_iff (Nat.le_of_lt (bounds_of_mem_topLevel hi).2), ← Option.not_isSome_iff_eq_none]
  intro hstands
  obtain ⟨n, hn⟩ := Option.isSome_iff_exists.mp hstands
  have hmem : ofText keyword.toList ∈ phrasesOf [keyword.toList] :=
    mem_phrasesOf_iff.mpr ⟨List.mem_map_of_mem List.mem_cons_self, hwords⟩
  have hlists := listsTokens_keywordTokens [keyword.toList] t pos
  obtain ⟨hit, hhit, hcovers⟩ := hlists.complete i hi (isSome_ruleOf hmem hn)
  exact h hit hhit hcovers

/-- **The search finds the first occurrence**, or none if there is none. -/
theorem findKeyword_stands (hwords : (ofText keyword.toList).words ≠ []) (t : Text) (pos : Nat) :
    (Checked.findKeyword [keyword.toList] t pos = .ok none ∧ IsAbsent keyword t pos) ∨
      ∃ hit, Checked.findKeyword [keyword.toList] t pos = .ok (some hit) ∧
        StandsFirst keyword t pos hit.start hit.stop := by
  have hlists := listsTokens_keywordTokens [keyword.toList] t pos
  have hincreasing := hlists.increasing
  have huncovered := @matchAt_of_uncovered keyword t pos hwords
  have hfind : Checked.findKeyword [keyword.toList] t pos =
      .ok (keywordTokens [keyword.toList] t pos).head? := by
    rw [Checked.findKeyword, Checked.keywordHits_eq]
    rfl
  rw [hfind]
  cases hhits : keywordTokens [keyword.toList] t pos with
  | nil =>
      rw [hhits] at huncovered
      exact .inl ⟨rfl, fun i hi => huncovered hi (by simp)⟩
  | cons hit more =>
      have hmem : hit ∈ keywordTokens [keyword.toList] t pos := by
        rw [hhits]
        exact List.mem_cons_self
      rw [hhits] at huncovered hincreasing
      refine .inr ⟨hit, rfl, hlists.start_mem hit hmem, matchAt_of_mem_keywordTokens hmem, ?_⟩
      intro i hi hlt
      -- the first token starts behind the offset, and all others behind the first one
      apply huncovered hi
      refine List.forall_mem_cons.mpr ⟨fun hcovers => ?_, fun later hlater hcovers => ?_⟩
      · exact absurd hcovers.1 (Nat.not_le.mpr hlt)
      · have hbehind := (List.pairwise_cons.mp hincreasing).1 later hlater
        omega

/-- The search by places finds it, too. -/
theorem find?_stands (hwords : (ofText keyword.toList).words ≠ []) (t : Text) :
    ((keywordRule keyword).find? (.start t) = none ∧ IsAbsent keyword t 0) ∨
      ∃ found start stop, (keywordRule keyword).find? (.start t) = some found ∧
        StandsFirst keyword t 0 start stop ∧ found.after = .at t stop := by
  rcases Checked.findKeyword_single_cases keyword t with ⟨hfind, hnone⟩ | ⟨found, hit, _, hfind, hhit, hat⟩
  · rcases findKeyword_stands hwords t 0 with ⟨_, habsent⟩ | ⟨hit, hhit, _⟩
    · exact .inl ⟨hfind, habsent⟩
    · exact absurd (hhit.symm.trans hnone) (by simp)
  · rcases findKeyword_stands hwords t 0 with ⟨hnone, _⟩ | ⟨hit', hhit', hfirst⟩
    · exact absurd (hhit.symm.trans hnone) (by simp)
    · obtain rfl : hit = hit' := by simpa using hhit.symm.trans hhit'
      exact .inr ⟨found, hit.start, hit.stop, hfind, hfirst, hat.after_eq⟩

/-! ## Parts of a text -/

/-- **What stands from an offset up to a keyword**, or up to the end of the text. -/
def IsUpTo (keyword : String) (t : Text) (pos : Nat) (u : Text) : Prop :=
  (∃ start stop, StandsFirst keyword t pos start stop ∧ u = slice t pos start) ∨
    (IsAbsent keyword t pos ∧ u = t.drop pos)

theorem IsUpTo.unique (hu : IsUpTo keyword t pos u) (hv : IsUpTo keyword t pos v) : u = v := by
  rcases hu with ⟨start, stop, hfirst, rfl⟩ | ⟨habsent, rfl⟩
  · rcases hv with ⟨start', stop', hfirst', rfl⟩ | ⟨habsent, _⟩
    · rw [(hfirst.unique hfirst').1]
    · exact absurd habsent hfirst.not_isAbsent
  · rcases hv with ⟨start', stop', hfirst, _⟩ | ⟨_, rfl⟩
    · exact absurd habsent hfirst.not_isAbsent
    · rfl

theorem isUpTo_of_upToKeyword (hwords : (ofText keyword.toList).words ≠ []) (t : Text) (pos : Nat) :
    ∃ u, Checked.upToKeyword [keyword.toList] t pos = .ok u ∧ IsUpTo keyword t pos u := by
  rw [Checked.upToKeyword]
  rcases findKeyword_stands hwords t pos with ⟨hnone, habsent⟩ | ⟨hit, hhit, hfirst⟩
  · rw [hnone]
    exact ⟨t.drop pos, rfl, .inr ⟨habsent, rfl⟩⟩
  · rw [hhit]
    exact ⟨slice t pos hit.start, rfl, .inl ⟨hit.start, hit.stop, hfirst, rfl⟩⟩

/-- The words that may stand in front of a select list. -/
def modifiers : List String := ["DISTINCT", "ALL"]

/-- **A list without its modifier**: what stands behind a modifier in front, or all of it without one. -/
def IsUnmodified (u list : Text) : Prop :=
  (∃ m ∈ modifiers, ∃ stop, (ofText m.toList).matchAt u 0 = .ok (some stop) ∧ list = u.drop stop) ∨
    ((∀ m ∈ modifiers, (ofText m.toList).matchAt u 0 = .ok none) ∧ list = u)

/-- The front of a text that has a keyword in front is that keyword in upper case. -/
theorem upper_take_of_matchAt {w : Text} (hwords : (ofText w).words = [w])
    (h : (ofText w).matchAt u 0 = .ok (some stop)) : upper (u.take w.length) = w := by
  obtain ⟨_, hwidth, _⟩ := (matchAt_eq_ok_iff (Nat.zero_le u.length)).mp h
  obtain ⟨_, _, hmatch⟩ := width?_eq_some_iff.mp hwidth
  rw [hwords] at hmatch
  exact (wordsWidth?_cons_cases hmatch).1

/-- The two modifiers do not stand in front of the same text. -/
theorem modifiers_apart {stop' : Nat} (hdistinct : (ofText "DISTINCT".toList).matchAt u 0 = .ok (some stop))
    (hall : (ofText "ALL".toList).matchAt u 0 = .ok (some stop')) : False := by
  have hdistinct := upper_take_of_matchAt (by decide) hdistinct
  have hall := upper_take_of_matchAt (by decide) hall
  -- the shorter one would be the front of the longer one
  have hsplit : u.take (3 + 5) = u.take 3 ++ (u.drop 3).take 5 := List.take_add
  have hfront : "ALL".toList <+: "DISTINCT".toList := by
    rw [← hall, ← hdistinct]
    show upper (u.take 3) <+: upper (u.take (3 + 5))
    rw [hsplit, upper, upper, List.flatMap_append]
    exact List.prefix_append _ _
  exact absurd hfront (by decide)

theorem IsUnmodified.unique {list' : Text} (h : IsUnmodified u list) (h' : IsUnmodified u list') :
    list = list' := by
  have hboth : ∀ m ∈ modifiers, ∀ m' ∈ modifiers, ∀ stop stop',
      (ofText m.toList).matchAt u 0 = .ok (some stop) →
        (ofText m'.toList).matchAt u 0 = .ok (some stop') → stop = stop' := by
    intro m hm m' hm' stop stop' hstop hstop'
    rcases List.mem_pair.mp hm with rfl | rfl <;> rcases List.mem_pair.mp hm' with rfl | rfl
    · simpa using hstop.symm.trans hstop'
    · exact (modifiers_apart hstop hstop').elim
    · exact (modifiers_apart hstop' hstop).elim
    · simpa using hstop.symm.trans hstop'
  rcases h with ⟨m, hm, stop, hstop, rfl⟩ | ⟨hnone, rfl⟩
  · rcases h' with ⟨m', hm', stop', hstop', rfl⟩ | ⟨hnone, _⟩
    · rw [hboth m hm m' hm' stop stop' hstop hstop']
    · exact absurd (hstop.symm.trans (hnone m hm)) (by simp)
  · rcases h' with ⟨m', hm', stop', hstop', rfl⟩ | ⟨_, rfl⟩
    · exact absurd (hstop'.symm.trans (hnone m' hm')) (by simp)
    · rfl

theorem selectModifiers_eq : selectModifiers = modifiers.map fun m => ofText m.toList := rfl

/-- **Taking the modifier off** by the first one that stands in front. -/
theorem isUnmodified_of_findSome? (u : Text) :
    IsUnmodified u (match selectModifiers.findSome? (·.width? (.start u)) with
      | some width => u.drop width
      | none => u) := by
  rw [selectModifiers_eq, List.findSome?_map]
  split
  · next width hwidth =>
      obtain ⟨m, hm, hmwidth⟩ := List.exists_of_findSome?_eq_some hwidth
      refine .inl ⟨m, hm, width, (matchAt_eq_ok_iff (Nat.zero_le _)).mpr ⟨width, hmwidth, ?_⟩, rfl⟩
      exact (Nat.zero_add width).symm
  · next hnone =>
      refine .inr ⟨fun m hm => (matchAt_eq_none_iff (Nat.zero_le _)).mpr ?_, rfl⟩
      exact List.findSome?_eq_none_iff.mp hnone m hm

/-! ## The select list -/

/-- **The select list of a statement** stands behind its first `SELECT` at depth zero and a modifier, and ends
    at the next `FROM` at depth zero or at the end. -/
def IsSelectList (statement list : Text) : Prop :=
  ∃ start stop u, StandsFirst "SELECT" statement 0 start stop ∧ IsUpTo "FROM" statement stop u ∧
    IsUnmodified (trim u) list

/-- A statement has one select list at most. -/
theorem IsSelectList.unique {statement list' : Text} (h : IsSelectList statement list)
    (h' : IsSelectList statement list') : list = list' := by
  obtain ⟨start, stop, u, hfirst, hu, hlist⟩ := h
  obtain ⟨start', stop', u', hfirst', hu', hlist'⟩ := h'
  obtain ⟨rfl, rfl⟩ := hfirst.unique hfirst'
  obtain rfl := hu.unique hu'
  exact hlist.unique hlist'

/-- **The scan finds the select list**, or none if the statement has no `SELECT` at depth zero. -/
theorem selectList?_cases (statement : Text) :
    (selectList? statement = none ∧ IsAbsent "SELECT" statement 0) ∨
      ∃ list, selectList? statement = some list ∧ IsSelectList statement list := by
  have hselect : (ofText "SELECT".toList).words ≠ [] := by decide
  have hfrom : (ofText "FROM".toList).words ≠ [] := by decide
  rw [selectList?]
  rcases find?_stands hselect statement with ⟨hfind, habsent⟩ | ⟨found, start, stop, hfind, hfirst, hafter⟩
  · rw [hfind]
    exact .inl ⟨rfl, habsent⟩
  · obtain ⟨u, hu, hupTo⟩ := isUpTo_of_upToKeyword hfrom statement stop
    have hsame : (keywordRule "FROM").upTo found.after = u := by
      rw [hafter]
      exact Except.ok.inj ((Checked.upToKeyword_eq _ _ _).symm.trans hu)
    rw [hfind]
    dsimp only
    rw [hsame]
    refine .inr ⟨_, ?_, start, stop, u, hfirst, hupTo, isUnmodified_of_findSome? (trim u)⟩
    cases selectModifiers.findSome? (·.width? (.start (trim u))) <;> rfl

/-! ## Balanced statements -/

theorem skipsGroups_keywordRule (h : keyword.toList.all (!isParen ·) = true) :
    (keywordRule keyword).SkipsGroups :=
  skipsGroups_ruleOf (List.forall_mem_singleton.mpr (no_paren_of_all h))

/-- **The select list of a balanced statement** is balanced. -/
theorem IsBalanced.selectList {statement : Text} (h : IsBalanced statement)
    (hlist : selectList? statement = some list) : IsBalanced list := by
  rw [selectList?] at hlist
  cases hfind : (keywordRule "SELECT").find? (.start statement) with
  | none =>
      rw [hfind] at hlist
      exact absurd hlist (by simp)
  | some found =>
      rw [hfind] at hlist
      dsimp only at hlist
      have hbehind : IsBalanced found.after.rest :=
        (IsBalanced.of_find? (ruleOf_width_pos _) (skipsGroups_keywordRule (by decide)) hfind h).2
      -- what stands before `FROM` is the first segment
      have hupTo : IsBalanced ((keywordRule "FROM").upTo found.after) :=
        (dividesInto_cut (ruleOf_width_pos _) (skipsGroups_keywordRule (by decide)) found.after).isBalanced
          hbehind _ List.mem_cons_self
      generalize (keywordRule "FROM").upTo found.after = u at hlist hupTo
      split at hlist
      · next width hwidth =>
          obtain rfl := Option.some.inj hlist
          obtain ⟨m, hm, hmwidth⟩ := List.exists_of_findSome?_eq_some hwidth
          have hwords : ∀ w ∈ m.words, ∀ c ∈ w, isParen c = false := by
            obtain ⟨k, hk, rfl⟩ := List.mem_map.mp (selectModifiers_eq ▸ hm)
            have hplain : ∀ k ∈ modifiers, k.toList.all (!isParen ·) = true := by decide
            exact fun w => no_paren_of_mem_words_ofText (no_paren_of_all (hplain k hk))
          have hfront := width?_no_paren hwords hmwidth
          have hwhole := hupTo.trim
          rw [← List.take_append_drop width (SqlSkim.trim u)] at hwhole
          exact (hwhole.of_append (depthAfterText_of_no_paren hfront 0)).2
      · obtain rfl := Option.some.inj hlist
        exact hupTo.trim

end SqlSkim
