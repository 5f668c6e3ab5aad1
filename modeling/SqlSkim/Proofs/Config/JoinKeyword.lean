import SqlSkim.Config.Reader
import SqlSkim.Proofs.Text.UpperWords
import SqlSkim.Proofs.Token.Longest

/-!
# `Config.JoinKeyword` — join keywords are normalized without changing what they match

Settings put a keyword in upper case and then take it apart into words; a search takes it apart and then puts
each word in upper case. Both orders give the same words, and to do it twice changes nothing more. So the
keywords that settings give match what the keywords in the table match, and settings that are written back and
read again are the same settings.

## Contents
- `words_normalKeyword`, `upper_normalKeyword`, `ofText_normalKeyword`, `normalKeyword_normalKeyword`: a
  normalized keyword.
- `normalKeywords`, `phrasesOf_normalKeywords`, `normalKeywords_idem`: the keywords of a setting.
- `readJoinKeywords_eq_ok_iff`, `ofTable_eq_ok_iff`: which tables are read, and as what.
- `Normalizes`, `IsRejected`, `joinKeywords_normalized`: the main result.
-/

namespace SqlSkim

open Phrase

/-! ## A normalized keyword -/

/-- The words of a normalized keyword are those of the keyword, in upper case. -/
theorem words_normalKeyword (t : Text) : words (normalKeyword t) = (words t).map upper := by
  rw [normalKeyword, words_joinWith (fun w hw => (mem_words hw).1) fun w hw c hc => ((mem_words hw).2 c hc).1,
    words_upper]

/-- **A normalized keyword** is in upper case. -/
theorem upper_normalKeyword (t : Text) : upper (normalKeyword t) = normalKeyword t := by
  rw [normalKeyword, upper_joinWith, ← words_upper, upper_upper]

/-- It is its words with single blanks between them. -/
theorem joinWith_words_normalKeyword (t : Text) :
    joinWith " " (words (normalKeyword t)) = normalKeyword t := by
  rw [words_normalKeyword, ← words_upper]
  rfl

/-- It is normalized already. -/
theorem normalKeyword_normalKeyword (t : Text) : normalKeyword (normalKeyword t) = normalKeyword t := by
  have hnormal : normalKeyword (normalKeyword t) = joinWith " " (words (upper (normalKeyword t))) := rfl
  rw [hnormal, upper_normalKeyword, joinWith_words_normalKeyword]

/-- **It is the same phrase.** -/
theorem ofText_normalKeyword (t : Text) : ofText (normalKeyword t) = ofText t := by
  have hupper : (upper ∘ upper) = upper := funext upper_upper
  rw [ofText, ofText, words_normalKeyword, List.map_map, hupper]

/-- It is blank just if the keyword is. -/
theorem trim_normalKeyword_eq_nil_iff {t : Text} : trim (normalKeyword t) = [] ↔ trim t = [] := by
  rw [trim_eq_nil_iff_words, trim_eq_nil_iff_words, ofText_normalKeyword]

/-! ## The keywords of a setting -/

/-- **The normalized keywords**, one for each keyword that is not blank. A blank one is left out and has no
    normalized form. -/
def normalKeywords (keywords : List Text) : List Text := (keywords.filter (trim · ≠ [])).map normalKeyword

theorem mem_normalKeywords_iff {keywords : List Text} {k : Text} :
    k ∈ normalKeywords keywords ↔ ∃ v ∈ keywords, trim v ≠ [] ∧ normalKeyword v = k := by
  simp [normalKeywords, and_assoc]

/-- None of them is blank. -/
theorem filter_normalKeywords (keywords : List Text) :
    (normalKeywords keywords).filter (trim · ≠ []) = normalKeywords keywords := by
  rw [List.filter_eq_self]
  intro k hk
  obtain ⟨v, _, hv, rfl⟩ := mem_normalKeywords_iff.mp hk
  exact decide_eq_true (mt trim_normalKeyword_eq_nil_iff.mp hv)

/-- **Normalized keywords** are the same phrases. -/
theorem phrasesOf_normalKeywords (keywords : List Text) :
    phrasesOf (normalKeywords keywords) = phrasesOf keywords := by
  rw [phrasesOf, filter_normalKeywords, phrasesOf, normalKeywords, List.map_map]
  exact List.map_congr_left fun v _ => ofText_normalKeyword v

/-- They are normalized already. -/
theorem normalKeywords_idem (keywords : List Text) :
    normalKeywords (normalKeywords keywords) = normalKeywords keywords := by
  rw [normalKeywords, filter_normalKeywords, List.map_congr_left (g := id), List.map_id]
  intro k hk
  obtain ⟨v, _, _, rfl⟩ := mem_normalKeywords_iff.mp hk
  exact normalKeyword_normalKeyword v

/-! ## What is read -/

/-- A list of texts as a setting. -/
def Setting.ofTexts (texts : List Text) : Setting := .array (texts.map .text)

theorem text?_eq_some_iff {setting : Setting} {t : Text} : setting.text? = some t ↔ setting = .text t := by
  cases setting <;> simp [Setting.text?]

theorem mapM_text?_eq_some_iff {items : List Setting} {texts : List Text} :
    items.mapM Setting.text? = some texts ↔ items = texts.map .text := by
  induction items generalizing texts with
  | nil => cases texts <;> simp
  | cons item items ih =>
      rw [List.mapM_cons]
      simp only [Option.bind_eq_bind, Option.bind_eq_some_iff, Option.pure_def, Option.some.injEq]
      constructor
      · rintro ⟨t, ht, more, hmore, rfl⟩
        rw [text?_eq_some_iff.mp ht, ih.mp hmore]
        rfl
      · intro h
        obtain ⟨t, more, rfl, rfl, hmore⟩ := List.map_eq_cons_iff.mp h.symm
        exact ⟨t, rfl, more, ih.mpr hmore.symm, rfl⟩

/-- **Join keywords are read** from a list of texts one of which at least is not blank, and they must all end
    with `JOIN`. -/
theorem readJoinKeywords_eq_ok_iff {setting : Setting} {keywords : List Text} :
    readJoinKeywords setting = .ok keywords ↔
      ∃ texts, setting = .ofTexts texts ∧ keywords = normalKeywords texts ∧ keywords ≠ [] ∧
        ∀ k ∈ keywords, "JOIN".toList <:+ k := by
  constructor
  · intro h
    unfold readJoinKeywords at h
    split at h
    · next items =>
        split at h
        · exact absurd h (by simp)
        · next texts htexts =>
            dsimp only at h
            split at h
            · exact absurd h (by simp)
            · next hne =>
                split at h
                · next hall =>
                    obtain rfl := Except.ok.inj h
                    refine ⟨texts, congrArg Setting.array (mapM_text?_eq_some_iff.mp htexts), rfl, hne, ?_⟩
                    exact fun k hk => by simpa using List.all_eq_true.mp hall k hk
                · exact absurd h (by simp)
    · exact absurd h (by simp)
  · rintro ⟨texts, rfl, rfl, hne, hall⟩
    have htexts : (texts.map Setting.text).mapM Setting.text? = some texts :=
      mapM_text?_eq_some_iff.mpr rfl
    have hjoin : (normalKeywords texts).all ("JOIN".toList.isSuffixOf ·) = true :=
      List.all_eq_true.mpr fun k hk => by simpa using hall k hk
    rw [Setting.ofTexts, readJoinKeywords, htexts]
    dsimp only
    exact (if_neg hne).trans (if_pos hjoin)

/-- The keys of a table that name no setting. -/
def unknownKeys (table : Table) : List Text :=
  (table.map (·.1)).filter fun key => key ≠ joinKeywordsKey && key ≠ stripLineCommentsKey

/-- A key is unknown if it is neither of the two settings. -/
theorem mem_unknownKeys_iff {table : Table} {key : Text} :
    key ∈ unknownKeys table ↔
      key ∈ table.map (·.1) ∧ key ≠ joinKeywordsKey ∧ key ≠ stripLineCommentsKey := by
  rw [unknownKeys, List.mem_filter, Bool.and_eq_true, decide_eq_true_eq, decide_eq_true_eq]

/-- The join keywords, or the default ones if there is no such setting. -/
def joinKeywordsOf : Option Setting → Except ConfigError (List Text)
  | none => .ok defaultJoinKeywords
  | some setting => readJoinKeywords setting

/-- Whether `--` starts a comment, which it does not if there is no such setting. -/
def lineCommentsOf : Option Setting → Except ConfigError Bool
  | none => .ok false
  | some (.bool b) => .ok b
  | some _ => .error .lineCommentsNotBool

/-- Reading a table, step by step. -/
theorem ofTable_eq (table : Table) :
    Config.ofTable table =
      if unknownKeys table ≠ [] then .error (.unknownOptions ((unknownKeys table).mergeSort inOrder))
      else (joinKeywordsOf (table.lookup joinKeywordsKey)).bind fun joinKeywords =>
        (lineCommentsOf (table.lookup stripLineCommentsKey)).map fun stripLineComments =>
          { joinKeywords, stripLineComments } := by
  unfold Config.ofTable
  show (if unknownKeys table ≠ [] then _ else _) = _
  split
  · rfl
  · cases table.lookup stripLineCommentsKey with
    | none =>
        cases table.lookup joinKeywordsKey with
        | none => rfl
        | some setting => rfl
    | some lineComments =>
        cases table.lookup joinKeywordsKey with
        | none => cases lineComments <;> rfl
        | some setting => cases lineComments <;> rfl

theorem joinKeywordsOf_some (setting : Setting) : joinKeywordsOf (some setting) = readJoinKeywords setting := rfl

/-- **A table is read** if it has no unknown key and each of its settings can be read. -/
theorem ofTable_eq_ok_iff {table : Table} {config : Config} :
    Config.ofTable table = .ok config ↔
      unknownKeys table = [] ∧
      joinKeywordsOf (table.lookup joinKeywordsKey) = .ok config.joinKeywords ∧
      lineCommentsOf (table.lookup stripLineCommentsKey) = .ok config.stripLineComments := by
  rw [ofTable_eq]
  by_cases hkeys : unknownKeys table = []
  · rw [if_neg (not_not.mpr hkeys), and_iff_right hkeys]
    cases joinKeywordsOf (table.lookup joinKeywordsKey) with
    | error e => simp [Except.bind]
    | ok joinKeywords =>
        cases lineCommentsOf (table.lookup stripLineCommentsKey) with
        | error e => simp [Except.bind, Except.map]
        | ok stripLineComments =>
            cases config
            simp [Except.bind, Except.map]
  · rw [if_pos hkeys]
    simp [hkeys]

/-! ## The main result -/

/-- The table with its join keywords replaced by others. -/
def withJoinKeywords (keywords : List Text) (table : Table) : Table :=
  table.map fun entry =>
    (entry.1, if entry.1 = joinKeywordsKey then .ofTexts keywords else entry.2)

theorem unknownKeys_withJoinKeywords (keywords : List Text) (table : Table) :
    unknownKeys (withJoinKeywords keywords table) = unknownKeys table := by
  rw [unknownKeys, unknownKeys, withJoinKeywords, List.map_map]
  rfl

/-- The keyword setting is the replaced one, if there was any. -/
theorem lookup_withJoinKeywords (keywords : List Text) (table : Table) (key : Text) :
    (withJoinKeywords keywords table).lookup key =
      (table.lookup key).map fun setting =>
        if key = joinKeywordsKey then .ofTexts keywords else setting := by
  induction table with
  | nil => rfl
  | cons entry table ih =>
      rw [withJoinKeywords, List.map_cons, List.lookup_cons, List.lookup_cons]
      by_cases hkey : key = entry.1
      · simp [hkey]
      · rw [beq_false_of_ne hkey]
        exact ih

/-- **Join keywords and what they are normalized to.** Each normalized keyword ends with `JOIN`, is in upper
    case, and is its words with single blanks between them; and in every text, from every offset on, they have
    the tokens that the keywords themselves have. -/
structure Normalizes (texts keywords : List Text) : Prop where
  eq_normalKeywords : keywords = normalKeywords texts
  ne_nil : keywords ≠ []
  ends_with_join : ∀ k ∈ keywords, "JOIN".toList <:+ k
  upper_eq : ∀ k ∈ keywords, upper k = k
  joinWith_words : ∀ k ∈ keywords, joinWith " " (words k) = k
  tokens_eq : ∀ t start, keywordTokens keywords t start = keywordTokens texts t start

/-- **What is wrong with a table of settings**: a key that names no setting, join keywords that are no list of
    texts, are all blank, or do not all end with `JOIN` when they are normalized, or a switch that is neither
    true nor false. -/
inductive IsRejected (table : Table) : Prop where
  | unknownKey (key : Text) : key ∈ table.map (·.1) → key ≠ joinKeywordsKey → key ≠ stripLineCommentsKey →
      IsRejected table
  | notTexts (setting : Setting) : table.lookup joinKeywordsKey = some setting →
      (∀ texts, setting ≠ .ofTexts texts) → IsRejected table
  | noKeyword (texts : List Text) : table.lookup joinKeywordsKey = some (.ofTexts texts) →
      (∀ v ∈ texts, trim v = []) → IsRejected table
  | notJoin (texts : List Text) : table.lookup joinKeywordsKey = some (.ofTexts texts) →
      (∃ k ∈ normalKeywords texts, ¬ "JOIN".toList <:+ k) → IsRejected table
  | notBool (setting : Setting) : table.lookup stripLineCommentsKey = some setting →
      (∀ b, setting ≠ .bool b) → IsRejected table

section Table

variable {table : Table} {texts : List Text} {config : Config}

theorem normalKeywords_ne_nil_iff : normalKeywords texts ≠ [] ↔ ∃ v ∈ texts, trim v ≠ [] := by
  simp [normalKeywords]

/-- A table with nothing wrong is read. -/
theorem exists_ok_of_not_isRejected (h : ¬ IsRejected table) :
    ∃ config, Config.ofTable table = .ok config := by
  have hkeys : unknownKeys table = [] := by
    rw [List.eq_nil_iff_forall_not_mem]
    intro key hkey
    obtain ⟨hmem, hjoin, hstrip⟩ := mem_unknownKeys_iff.mp hkey
    exact h (.unknownKey key hmem hjoin hstrip)
  have hjoins : ∃ keywords, joinKeywordsOf (table.lookup joinKeywordsKey) = .ok keywords := by
    cases hlookup : table.lookup joinKeywordsKey with
    | none => exact ⟨_, rfl⟩
    | some setting =>
        obtain ⟨texts, rfl⟩ : ∃ texts, setting = .ofTexts texts := by
          by_contra hnone
          exact h (.notTexts setting hlookup (not_exists.mp hnone))
        refine ⟨normalKeywords texts, readJoinKeywords_eq_ok_iff.mpr ⟨texts, rfl, rfl, ?_, ?_⟩⟩
        · rw [normalKeywords_ne_nil_iff]
          by_contra hblank
          exact h (.noKeyword texts hlookup (by simpa using hblank))
        · intro k hk
          by_contra hend
          exact h (.notJoin texts hlookup ⟨k, hk, hend⟩)
  have hcomments : ∃ b, lineCommentsOf (table.lookup stripLineCommentsKey) = .ok b := by
    cases hlookup : table.lookup stripLineCommentsKey with
    | none => exact ⟨_, rfl⟩
    | some setting =>
        obtain ⟨b, rfl⟩ : ∃ b, setting = .bool b := by
          by_contra hnone
          exact h (.notBool setting hlookup (not_exists.mp hnone))
        exact ⟨b, rfl⟩
  obtain ⟨keywords, hkeywords⟩ := hjoins
  obtain ⟨b, hb⟩ := hcomments
  exact ⟨⟨keywords, b⟩, ofTable_eq_ok_iff.mpr ⟨hkeys, hkeywords, hb⟩⟩

/-- What is read of a list of join keywords. -/
theorem joinKeywords_of_ok (h : Config.ofTable table = .ok config)
    (hlookup : table.lookup joinKeywordsKey = some (.ofTexts texts)) :
    config.joinKeywords = normalKeywords texts ∧ config.joinKeywords ≠ [] ∧
      ∀ k ∈ config.joinKeywords, "JOIN".toList <:+ k := by
  obtain ⟨_, hjoins, _⟩ := ofTable_eq_ok_iff.mp h
  rw [hlookup, joinKeywordsOf_some] at hjoins
  obtain ⟨texts', hsame, hnormal, hne, hall⟩ := readJoinKeywords_eq_ok_iff.mp hjoins
  obtain rfl : texts = texts' := List.map_injective_iff.mpr (fun _ _ => Setting.text.inj) (Setting.array.inj hsame)
  exact ⟨hnormal, hne, hall⟩

/-- A table with something wrong is not read. -/
theorem not_isRejected_of_ok (h : Config.ofTable table = .ok config) : ¬ IsRejected table := by
  obtain ⟨hkeys, hjoins, hcomments⟩ := ofTable_eq_ok_iff.mp h
  intro hrejected
  cases hrejected with
  | unknownKey key hmem hjoin hstrip =>
      have hkey := mem_unknownKeys_iff.mpr ⟨hmem, hjoin, hstrip⟩
      rw [hkeys] at hkey
      exact absurd hkey (by simp)
  | notTexts setting hlookup hnone =>
      rw [hlookup, joinKeywordsOf_some] at hjoins
      obtain ⟨texts, hsetting, _⟩ := readJoinKeywords_eq_ok_iff.mp hjoins
      exact hnone texts hsetting
  | noKeyword texts hlookup hblank =>
      obtain ⟨hnormal, hne, _⟩ := joinKeywords_of_ok h hlookup
      rw [hnormal, normalKeywords_ne_nil_iff] at hne
      obtain ⟨v, hv, hsome⟩ := hne
      exact hsome (hblank v hv)
  | notJoin texts hlookup hother =>
      obtain ⟨hnormal, _, hall⟩ := joinKeywords_of_ok h hlookup
      obtain ⟨k, hk, hend⟩ := hother
      exact hend (hall k (hnormal ▸ hk))
  | notBool setting hlookup hnone =>
      rw [hlookup] at hcomments
      cases setting with
      | bool b => exact hnone b rfl
      | _ => exact absurd hcomments (by simp [lineCommentsOf])

/-- **A table is rejected** just if something is wrong with it. -/
theorem exists_error_iff_isRejected : (∃ e, Config.ofTable table = .error e) ↔ IsRejected table := by
  constructor
  · rintro ⟨e, he⟩
    by_contra hnot
    obtain ⟨config, hconfig⟩ := exists_ok_of_not_isRejected hnot
    rw [he] at hconfig
    exact absurd hconfig (by simp)
  · intro hrejected
    cases hresult : Config.ofTable table with
    | error e => exact ⟨e, rfl⟩
    | ok config => exact absurd hrejected (not_isRejected_of_ok hresult)

/-- **What is read is normalized.** -/
theorem normalizes_of_ok (h : Config.ofTable table = .ok config)
    (hlookup : table.lookup joinKeywordsKey = some (.ofTexts texts)) :
    Normalizes texts config.joinKeywords := by
  obtain ⟨hnormal, hne, hall⟩ := joinKeywords_of_ok h hlookup
  have hform : ∀ k ∈ config.joinKeywords, ∃ v, normalKeyword v = k := by
    rw [hnormal]
    intro k hk
    obtain ⟨v, _, _, hv⟩ := mem_normalKeywords_iff.mp hk
    exact ⟨v, hv⟩
  constructor
  case eq_normalKeywords => exact hnormal
  case ne_nil => exact hne
  case ends_with_join => exact hall
  case upper_eq =>
    intro k hk
    obtain ⟨v, rfl⟩ := hform k hk
    exact upper_normalKeyword v
  case joinWith_words =>
    intro k hk
    obtain ⟨v, rfl⟩ := hform k hk
    exact joinWith_words_normalKeyword v
  case tokens_eq =>
    intro t start
    have hrule : ruleOf config.joinKeywords = ruleOf texts := by
      rw [hnormal]
      exact ruleOf_eq_of_phrasesOf fun p => by rw [phrasesOf_normalKeywords]
    rw [keywordTokens, hrule]
    rfl

/-- **Settings that are written back** are read as they were. -/
theorem ofTable_withJoinKeywords (h : Config.ofTable table = .ok config)
    (hlookup : table.lookup joinKeywordsKey = some (.ofTexts texts)) :
    Config.ofTable (withJoinKeywords config.joinKeywords table) = .ok config := by
  obtain ⟨hnormal, hne, hall⟩ := joinKeywords_of_ok h hlookup
  obtain ⟨hkeys, _, hcomments⟩ := ofTable_eq_ok_iff.mp h
  refine ofTable_eq_ok_iff.mpr ⟨?_, ?_, ?_⟩
  · rw [unknownKeys_withJoinKeywords, hkeys]
  · rw [lookup_withJoinKeywords, hlookup, Option.map_some, if_pos rfl, joinKeywordsOf_some]
    refine readJoinKeywords_eq_ok_iff.mpr ⟨_, rfl, ?_, hne, hall⟩
    rw [hnormal, normalKeywords_idem]
  · rw [lookup_withJoinKeywords]
    simpa [show stripLineCommentsKey ≠ joinKeywordsKey by decide] using hcomments

end Table

/-- **Join keywords are normalized without changing what they match**, whatever texts they are given as; what
    they are normalized to is read as the same settings; and nothing but what is wrong with a table keeps it
    from being read. -/
theorem joinKeywords_normalized (table : Table) :
    (∀ texts config, table.lookup joinKeywordsKey = some (.ofTexts texts) →
        Config.ofTable table = .ok config →
          Normalizes texts config.joinKeywords ∧
            Config.ofTable (withJoinKeywords config.joinKeywords table) = .ok config) ∧
      ((∃ e, Config.ofTable table = .error e) ↔ IsRejected table) :=
  ⟨fun _ _ hlookup hok => ⟨normalizes_of_ok hok hlookup, ofTable_withJoinKeywords hok hlookup⟩,
    exists_error_iff_isRejected⟩

/-- Keywords in any case and with any blanks, one of them blank. -/
theorem joinKeywords_normalized_mixed_case :
    let texts := ["join".toList, "cross \t join".toList, " ".toList, "Straight_Join".toList]
    let keywords := ["JOIN".toList, "CROSS JOIN".toList, "STRAIGHT_JOIN".toList]
    let table : Table := [(joinKeywordsKey, .ofTexts texts), (stripLineCommentsKey, .bool true)]
    table.lookup joinKeywordsKey = some (.ofTexts texts) ∧ Config.ofTable table = .ok ⟨keywords, true⟩ ∧
      Normalizes texts keywords ∧ Config.ofTable (withJoinKeywords keywords table) = .ok ⟨keywords, true⟩ := by
  intro texts keywords table
  have hlookup : table.lookup joinKeywordsKey = some (.ofTexts texts) := rfl
  have hnormal : keywords = normalKeywords texts ∧ keywords ≠ [] ∧ ∀ k ∈ keywords, "JOIN".toList <:+ k := by
    decide +kernel
  have hok : Config.ofTable table = .ok ⟨keywords, true⟩ :=
    ofTable_eq_ok_iff.mpr ⟨rfl, readJoinKeywords_eq_ok_iff.mpr ⟨texts, rfl, hnormal⟩, rfl⟩
  obtain ⟨hread, _⟩ := joinKeywords_normalized table
  obtain ⟨hnormalizes, hagain⟩ := hread texts _ hlookup hok
  exact ⟨hlookup, hok, hnormalizes, hagain⟩

end SqlSkim
