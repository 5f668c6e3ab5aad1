import SqlSkim.Config.Path

/-!
# `Config.FileTree` — what paths name

A path is followed from one component to the next, so the first one that leads nowhere or is too
long decides what is said of the path.

## Contents
- `FileState`: what a path can name.
- `byteLength`, `maxPartBytes`, `maxPathBytes`: how long a path can be.
- `FileTree`, `FileTree.state`: files given as data, and what a path names among them.
-/

namespace SqlSkim

/-- What a path names. -/
inductive FileState where
  | missing
  | directory
  | file (bytes : List UInt8)
  /-- Nothing, as the path is longer than a path can be. -/
  | nameTooLong

/-! ## How long a path can be -/

/-- How many bytes a text takes in UTF-8. -/
def byteLength (t : Text) : Nat := t.foldr (fun c n => c.utf8Size + n) 0

/-- The longest component of a path, in bytes. -/
def maxPartBytes : Nat := 255

/-- The longest path, in bytes. -/
def maxPathBytes : Nat := 4095

/-! ## Files given as data -/

/-- Files given as data: normal relative paths with what they name. The directories on the way to a
    file are not listed. -/
abbrev FileTree := List (Text × FileState)

namespace FileTree

/-- Whether a list of components leads to a directory. -/
def hasDirectory (tree : FileTree) (parts : List Text) : Bool :=
  parts = [] || tree.any fun (path, state) =>
    let listed := pathParts path
    match state with
    | .directory => parts.isPrefixOf listed
    | .file _ => parts.isPrefixOf listed && parts ≠ listed
    | .missing | .nameTooLong => false

/-- Where a path leads: above the tree, or to a list of components below its root. -/
inductive Spot where
  | above
  | below (parts : List Text)

/-- Whether a path can go on from here. -/
def isPassable (tree : FileTree) : Spot → Bool
  | .above => true
  | .below parts => hasDirectory tree parts

/-- The spot that one more component leads to, or what the path names if it ends here. Nothing is
    known of what lies above the tree, except that `..` leads to a directory. -/
def step (tree : FileTree) (spot : Spot) (part : Text) : Except FileState Spot :=
  if !isPassable tree spot then .error .missing
  else if part = "..".toList then
    match spot with
    | .above | .below [] => .ok .above
    | .below parts => .ok (.below parts.dropLast)
  else if maxPartBytes < byteLength part then .error .nameTooLong
  else match spot with
    | .above => .error .missing
    | .below parts => .ok (.below (parts ++ [part]))

/-- **What a path names.** An absolute path starts above the tree. No file has a null character in
    its name. -/
def state (tree : FileTree) (path : Text) : FileState :=
  if path.contains '\x00' then .missing
  else if maxPathBytes < byteLength path then .nameTooLong
  else
    let start := if pathRoot path = [] then Spot.below [] else .above
    match (pathParts path).foldlM (step tree) start with
    | .error state => state
    | .ok .above => .directory
    | .ok (.below parts) =>
      if hasDirectory tree parts then .directory
      else match tree.find? fun (listed, _) => pathParts listed = parts with
        | some (_, state) => state
        | none => .missing

end FileTree

end SqlSkim
