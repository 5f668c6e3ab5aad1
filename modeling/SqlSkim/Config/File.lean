import SqlSkim.Config.FileTree
import SqlSkim.Config.Reader
import SqlSkim.Text.Utf8
import SqlSkim.Toml.Reader

/-!
# `Config.File` — the settings file

## Contents
- `configPath`: where the settings file is looked for.
- `Loaded`, `LoadError`, `loadConfig`: the settings that the file gives.
-/

namespace SqlSkim

/-! ## Looking for the settings file -/

/-- The path of the settings file: the one asked for, or else the one named by the environment, or
    else the one in the home directory. -/
def configPath (asked environment : Option Text) (home : Text) : Text :=
  match asked, environment with
  | some path, _ => normalPath path
  | none, some (c :: path) => normalPath (c :: path)
  | none, _ => joinPath home ".lightsql/config.toml".toList

/-! ## Loading -/

/-- How loading can fail. -/
inductive LoadError where
  | config (error : ConfigError)
  | isDirectory (path : Text)
  | nameTooLong (path : Text)
  /-- The path that is asked for has a null character in it. -/
  | nullInPath
  | notUtf8 (error : Utf8.Error)
  /-- A value in the file goes beyond a limit. -/
  | exceeds (limit : Toml.Limit)

/-- The wording of an error. -/
def LoadError.message : LoadError → Text
  | config error => error.message
  | isDirectory path => "[Errno 21] Is a directory: ".toList ++ quoted path
  | nameTooLong path => "[Errno 36] File name too long: ".toList ++ quoted path
  | nullInPath => "embedded null byte".toList
  | notUtf8 error => error.message
  | exceeds limit => limit.message

/-- Settings, and whether they come from a file at the path or are the defaults. -/
structure Loaded where
  path : Text
  found : Bool
  config : Config

/-- The line that a log shows for loaded settings. -/
def Loaded.describe (l : Loaded) : Text :=
  if l.found then "loaded config from ".toList ++ l.path ++ ": ".toList ++ l.config.describe
  else "no config at ".toList ++ l.path ++ ", using defaults".toList

/-- The settings in the text of the file at a path. -/
def readConfig (path source : Text) : Except LoadError Config :=
  match Toml.read source with
  | .error ⟨.exceeds limit, _⟩ => .error (.exceeds limit)
  | .error e => .error (.config (.invalidToml path source e))
  | .ok data =>
    match data.lookup "scan".toList with
    | none => .ok {}
    | some (.table scan) => (Config.ofTable scan).mapError .config
    | some _ => .error (.config (.scanNotTable path))

/-- **The settings that a path gives.** A missing file gives the defaults. -/
def loadConfig (path : Text) : FileState → Except LoadError Loaded
  | .missing => .ok ⟨path, false, {}⟩
  | .directory => .error (.isDirectory path)
  | .nameTooLong => .error (.nameTooLong path)
  | .file bytes =>
    match Utf8.decode bytes with
    | .error e => .error (.notUtf8 e)
    | .ok source =>
      (readConfig path (unifyLineEnds source)).map fun config => ⟨path, true, config⟩

end SqlSkim
