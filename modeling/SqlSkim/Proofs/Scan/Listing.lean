import SqlSkim.Proofs.Scan.Inert
import SqlSkim.Proofs.Text.Trim

/-!
# `Scan.Listing` — lists with commas

A list that is written with `, ` between its entries is split into these entries again, if no entry holds
a comma of its own outside its groups. Blanks around the list do not matter.

## Contents
- `wordGaps`, `listGaps`: the gaps inside an entry, and those of a list.
- `inert_joinWith`, `inert_list`, `isSolid_joinWith`: what a list inherits from its entries.
- `splitTopLevel_joinWith`: the entries are found again.
-/

namespace SqlSkim

open Phrase

/-- The gaps inside an entry of a list. -/
def wordGaps : List Char := [' ', '=']

/-- The gaps in a list. -/
def listGaps : List Char := ',' :: wordGaps

theorem wordGaps_subset_listGaps : wordGaps ⊆ listGaps := List.subset_cons_self _ _

theorem isSpacing_listGaps : IsSpacing listGaps := by
  refine ⟨by decide, List.forall_mem_cons.mpr ⟨by decide, ?_⟩⟩
  exact List.forall_mem_cons.mpr ⟨by decide, List.forall_mem_singleton.mpr (by decide)⟩

theorem isSpacing_wordGaps : IsSpacing wordGaps :=
  ⟨by decide, fun c hc => isSpacing_listGaps.isGap c (wordGaps_subset_listGaps hc)⟩

theorem isGap_space : IsGap ' ' := isSpacing_wordGaps.isGap ' ' (by decide)

/-! ## What a list inherits from its entries -/

variable {heads : List Text}

/-- A list of inert entries is inert, and its groups are theirs. -/
theorem inert_joinWith {β : Type} (text : β → Text) (groups : β → List Text) {entries : List β}
    (h : ∀ e ∈ entries, Inert listGaps heads (groups e) (text e)) :
    Inert listGaps heads (entries.flatMap groups) (joinWith ", " (entries.map text)) := by
  induction entries with
  | nil => exact .nil
  | cons e more ih =>
      have he := h e (by simp)
      have ih := ih fun d hd => h d (List.mem_cons_of_mem e hd)
      cases more with
      | nil =>
          show Inert listGaps heads (groups e ++ []) (joinWith ", " [text e])
          rwa [List.append_nil, joinWith_singleton]
      | cons d more =>
          rw [List.map_cons, List.map_cons, joinWith_cons_cons, List.flatMap_cons]
          refine .apart (c := ',') (by decide) (by decide) he ?_
          exact ih.blank_cons isSpacing_listGaps

/-- A list of entries without groups is inert. -/
theorem inert_list {entries : List Text} (h : ∀ e ∈ entries, Inert listGaps heads [] e) :
    Inert listGaps heads [] (joinWith ", " entries) := by
  have hall := inert_joinWith id (fun _ => []) h
  rwa [List.flatMap_eq_nil_iff.mpr fun _ _ => rfl, List.map_id] at hall

/-- A list of solid entries is solid, whatever stands between them. -/
theorem isSolid_joinWith {sep : String} {entries : List Text} (hne : entries ≠ [])
    (h : ∀ e ∈ entries, IsSolid e) : IsSolid (joinWith sep entries) := by
  induction entries with
  | nil => exact absurd rfl hne
  | cons e more ih =>
      have he := h e (by simp)
      cases more with
      | nil =>
          rw [joinWith_singleton]
          exact he
      | cons d more =>
          rw [joinWith_cons_cons]
          exact he.append (ih (by simp) fun t ht => h t (List.mem_cons_of_mem e ht)) _

/-! ## The entries are found again -/

/-- The rule whose tokens are the commas. -/
def commaRule : Rule Char := Rule.char ([·] = [','])

theorem spares_commaRule (heads : List Text) : commaRule.Spares wordGaps heads := by
  have hcomma : ∀ c, c ≠ ',' → decide ([c] = [',']) = false := fun c hc => by simp [hc]
  refine spares_char (fun c hc => hcomma c ?_) (fun c hc => hcomma c ?_) heads
  · rintro rfl
    exact absurd hc (by decide)
  · rintro rfl
    exact absurd hc (by decide)

/-- Blanks are no commas. -/
theorem quiet_commaRule_blank {x : Text} (hx : ∀ c ∈ x, isBlank c = true) (before : Option Char)
    (depth : Nat) (tail : Text) : Quiet commaRule before depth x tail := by
  apply quiet_char_of_all
  intro c hc
  have hne : c ≠ ',' := by
    rintro rfl
    exact absurd (hx ',' hc) (by decide)
  simp [hne]

/-- A segment with blanks around an entry is quiet for commas. -/
theorem quiet_entry {bs : List Text} {e x tail : Text} (hx : ∀ c ∈ x, isBlank c = true)
    (he : Inert wordGaps heads bs e) (htail : continuesWord tail = false) (before : Option Char) :
    Quiet commaRule before 0 (x ++ e) tail :=
  quiet_append_iff.mpr ⟨quiet_commaRule_blank hx _ _ _,
    he.quiet (spares_commaRule heads) _ _ fun _ => htail⟩

theorem depthAfterText_of_blank {x : Text} (hx : ∀ c ∈ x, isBlank c = true) (depth : Nat) :
    depthAfterText depth x = depth :=
  depthAfterText_of_no_paren (fun c hc => isParen_eq_false_of_word_or_blank (.inr (hx c hc))) depth

/-- **The segments of a list**, trimmed, are its entries. -/
theorem segments_joinWith {entries : List Text} (hne : entries ≠ [])
    (hinert : ∀ e ∈ entries, ∃ bs, Inert wordGaps heads bs e) (hsolid : ∀ e ∈ entries, IsSolid e)
    {x y : Text} (hx : ∀ c ∈ x, isBlank c = true) (hy : ∀ c ∈ y, isBlank c = true)
    (before : Option Char) :
    ((commaRule.cutFrom before 0 0 (x ++ (joinWith ", " entries ++ y))).segments.map trim) =
      entries := by
  induction entries generalizing x before with
  | nil => exact absurd rfl hne
  | cons e more ih =>
      obtain ⟨bs, he⟩ := hinert e (by simp)
      have htrim := (hsolid e (by simp)).trim_eq
      have hquiet : ∀ tail, continuesWord tail = false → Quiet commaRule before 0 (x ++ e) tail :=
        fun _ htail => quiet_entry hx he htail before
      cases more with
      | nil =>
          -- the last entry, with blanks around it
          have hend : continuesWord y = false := by
            cases y with
            | nil => rfl
            | cons c y => exact isWordChar_of_isBlank (hy c (by simp))
          have hall : Quiet commaRule before 0 (x ++ (e ++ y)) [] := by
            rw [← List.append_assoc, quiet_append_iff]
            exact ⟨hquiet _ (by simpa using hend), quiet_commaRule_blank hy _ _ _⟩
          rw [joinWith_singleton, (CutsInto.last hall).cutFrom_eq]
          show [trim (x ++ (e ++ y))] = [e]
          rw [trim_pad hx hy, htrim]
      | cons d more =>
          -- behind the comma, the list goes on with a blank before it
          let rest := [' '] ++ (joinWith ", " (d :: more) ++ y)
          have ih : (commaRule.cutFrom (some ',') 0 0 rest).segments.map trim = d :: more :=
            ih (by simp) (fun t ht => hinert t (List.mem_cons_of_mem e ht))
              (fun t ht => hsolid t (List.mem_cons_of_mem e ht)) (List.forall_mem_singleton.mpr rfl)
              (some ',')
          have htext : x ++ (joinWith ", " (e :: d :: more) ++ y) = (x ++ e) ++ ',' :: rest := by
            rw [joinWith_cons_cons]
            simp [rest]
          have hcomma : commaRule ⟨lastOr before (x ++ e), ',' :: rest⟩ = some (',', 1) := rfl
          have hdepth : depthAfterText 0 (x ++ e) = 0 := by
            rw [depthAfterText_append, depthAfterText_of_blank hx, he.isBalanced.depthAfterText_eq]
          rw [htext, cutFrom_quiet (hquiet (',' :: rest) rfl), hdepth,
            cutFrom_token rfl Nat.one_pos hcomma]
          show trim (x ++ e ++ []) :: _ = e :: d :: more
          rw [List.append_assoc, trim_pad hx (by simp), htrim]
          exact congrArg (e :: ·) ih

/-- **A list is split into its entries again.** -/
theorem splitTopLevel_joinWith {entries : List Text} (hne : entries ≠ [])
    (hinert : ∀ e ∈ entries, ∃ bs, Inert wordGaps heads bs e) (hsolid : ∀ e ∈ entries, IsSolid e)
    {x y : Text} (hx : ∀ c ∈ x, isBlank c = true) (hy : ∀ c ∈ y, isBlank c = true) :
    splitTopLevel [','] (x ++ (joinWith ", " entries ++ y)) = entries := by
  have hsegments := segments_joinWith hne hinert hsolid hx hy none
  show (((commaRule.cutFrom none 0 0 (x ++ (joinWith ", " entries ++ y))).segments.map trim).filter
    (· ≠ [])) = entries
  rw [hsegments, List.filter_eq_self]
  intro e he
  simpa using (hsolid e he).ne_nil

end SqlSkim
