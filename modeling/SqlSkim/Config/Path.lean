import SqlSkim.Text.Basic

/-!
# `Config.Path` — file paths in one spelling

## Contents
- `normalPath`: a path without empty and `.` components.
- `joinPath`: a path below another one.
-/

namespace SqlSkim

/-- The slashes that begin an absolute path: one, but exactly two are kept as they are. -/
def pathRoot (t : Text) : Text :=
  match (t.takeWhile (· = '/')).length with
  | 0 => []
  | 2 => ['/', '/']
  | _ => ['/']

/-- The components of a path that name something. `..` is one of them. -/
def pathParts (t : Text) : List Text :=
  (t.splitOn '/').filter fun part => part ≠ [] && part ≠ ['.']

/-- The path with single slashes and no `.` components; the empty path is `.`. -/
def normalPath (t : Text) : Text :=
  match pathRoot t ++ joinWith "/" (pathParts t) with
  | [] => ['.']
  | path => path

/-- The path `below`, taken from `base` on. -/
def joinPath (base below : Text) : Text :=
  if base.getLast? = some '/' then normalPath (base ++ below)
  else normalPath (base ++ '/' :: below)

end SqlSkim
