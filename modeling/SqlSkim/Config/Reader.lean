import SqlSkim.Config.Basic
import SqlSkim.Text.Quoted
import SqlSkim.Toml.Basic

/-!
# `Config.Reader` — the settings of a scan, from a table

## Contents
- `ConfigError`: what can be wrong with a table of settings or its file.
- `readJoinKeywords`, `Config.ofTable`: the settings that a table gives.
- `Config.describe`: settings as one line of a log.
-/

namespace SqlSkim

/-! ## Errors -/

/-- What can be wrong with the settings of a scan. -/
inductive ConfigError where
  /-- The table has keys that name no setting. -/
  | unknownOptions (names : List Text)
  | joinsNotTexts
  | noJoins
  /-- A join keyword does not end with `JOIN`. -/
  | notJoin
  | lineCommentsNotBool
  /-- The file at the path gives no table for the scan. -/
  | scanNotTable (path : Text)
  /-- The file at the path, which holds `source`, is not TOML. -/
  | invalidToml (path source : Text) (error : Toml.SyntaxError)

/-- The wording of an error. -/
def ConfigError.message : ConfigError → Text
  | unknownOptions names => "unknown scan option(s): ".toList ++ joinWith ", " names
  | joinsNotTexts => "scan.join_keywords must be a list of strings".toList
  | noJoins => "scan.join_keywords must not be empty".toList
  | notJoin => "every entry in scan.join_keywords must end with JOIN".toList
  | lineCommentsNotBool => "scan.strip_line_comments must be true or false".toList
  | scanNotTable path => path ++ ": [scan] must be a table".toList
  | invalidToml path source error => path ++ ": ".toList ++ error.message source

/-! ## Reading -/

/-- The text of a setting that is a text. -/
def Setting.text? : Setting → Option Text
  | .text t => some t
  | _ => none

/-- A keyword in upper case, with single blanks between its words. -/
def normalKeyword (t : Text) : Text := joinWith " " (words (upper t))

/-- The join keywords that a setting gives. Blank entries are left out, but one must remain. -/
def readJoinKeywords : Setting → Except ConfigError (List Text)
  | .array items =>
    match items.mapM Setting.text? with
    | none => .error .joinsNotTexts
    | some texts =>
      let keywords := (texts.filter (trim · ≠ [])).map normalKeyword
      if keywords = [] then .error .noJoins
      else if keywords.all ("JOIN".toList.isSuffixOf ·) then .ok keywords
      else .error .notJoin
  | _ => .error .joinsNotTexts

def joinKeywordsKey : Text := "join_keywords".toList

def stripLineCommentsKey : Text := "strip_line_comments".toList

/-- **The settings that a table gives.** What it does not give keeps its default. -/
def Config.ofTable (table : Table) : Except ConfigError Config := do
  let unknown := (table.map (·.1)).filter fun key =>
    key ≠ joinKeywordsKey && key ≠ stripLineCommentsKey
  if unknown ≠ [] then throw (.unknownOptions (unknown.mergeSort inOrder))
  let joinKeywords ← match table.lookup joinKeywordsKey with
    | none => pure defaultJoinKeywords
    | some setting => readJoinKeywords setting
  let stripLineComments ← match table.lookup stripLineCommentsKey with
    | none => pure false
    | some (.bool b) => pure b
    | some _ => throw .lineCommentsNotBool
  return { joinKeywords, stripLineComments }

/-! ## Showing -/

/-- The settings as one line of a log. -/
def Config.describe (c : Config) : Text :=
  "ScanConfig(join_keywords=".toList ++ quotedTuple c.joinKeywords ++
    ", strip_line_comments=".toList ++
    (if c.stripLineComments then "True".toList else "False".toList) ++ [')']

end SqlSkim
