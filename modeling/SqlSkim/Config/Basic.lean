import SqlSkim.Statement.Table

/-!
# `Config.Basic` — the settings of a scan

## Contents
- `Config`, with the default settings.
-/

namespace SqlSkim

/-- The settings of a scan. -/
structure Config where
  /-- The keywords that introduce a joined table. -/
  joinKeywords : List Text := defaultJoinKeywords
  /-- Whether `--` starts a comment. -/
  stripLineComments : Bool := false

end SqlSkim
