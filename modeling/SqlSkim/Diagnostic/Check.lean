import SqlSkim.Diagnostic.Basic
import SqlSkim.Query.Comment
import SqlSkim.Statement.Basic
import SqlSkim.Statement.Table

/-!
# `Diagnostic.Check` — the conditions that scans tolerate

Each check looks at one condition and gives at most one diagnostic.

## Contents
- On the raw query: `checkComment`, `checkQuotes`.
- On the cleaned query: `checkEmptyStatements`.
- On a statement: `checkParens`, `checkCommand`, `checkTable`.
-/

namespace SqlSkim

open Diagnostic

/-! ## Checks of the raw query -/

/-- Warns of a block comment that is never closed. -/
def checkComment (query : Text) : Option Diagnostic :=
  (openComment? query).map fun start =>
    (warning .unterminatedComment "unterminated block comment".toList)
      |>.marking start query.length (some "comment runs to end of input".toList)
      |>.noting "everything after /* is ignored".toList

/-- The quoting characters in the order in which they are checked. -/
def quoteChars : List Char := ['\x22', '\x27', '\x60']

/-- Warns of a quoting character that stands an odd number of times outside block comments, and
    marks the last one. -/
def checkQuotes (query : Text) : Option Diagnostic :=
  let outside := outsideComments query
  quoteChars.findSome? fun mark =>
    let offsets := (outside.filter (·.2 = mark)).map (·.1)
    match offsets.getLast? with
    | some last =>
      if offsets.length % 2 = 1 then
        some <| (warning .unbalancedQuote ("unbalanced ".toList ++ mark :: " quote".toList))
          |>.marking last (last + 1) (some "no matching quote".toList)
          |>.noting ("quote characters are stripped, so the literal merges " ++
              "with the surrounding text").toList
      else none
    | none => none

/-! ## Checks of the cleaned query -/

/-- Tells of empty statements. -/
def checkEmptyStatements (cleaned : Text) : Option Diagnostic :=
  match emptySegments cleaned with
  | 0 => none
  | empty + 1 =>
    some (info .emptyStatement
      (decimal ((empty + 1 : Nat) : Int) ++ " empty statement(s) skipped".toList))

/-! ## Checks of a statement -/

/-- How the parentheses of a text are out of balance. -/
inductive ParenFault where
  /-- The `)` at the offset closes nothing. -/
  | unmatched (offset : Nat)
  /-- So many `(` are not closed. -/
  | unclosed (count : Nat)

/-- The fault of the text that starts at offset `pos`, with `depth` parentheses open before it. -/
def parenFaultFrom (pos depth : Nat) : Text → Option ParenFault
  | [] => if depth = 0 then none else some (.unclosed depth)
  | c :: rest =>
    if c = '(' then parenFaultFrom (pos + 1) (depth + 1) rest
    else if c = ')' then
      if depth = 0 then some (.unmatched pos) else parenFaultFrom (pos + 1) (depth - 1) rest
    else parenFaultFrom (pos + 1) depth rest

/-- How the parentheses of a statement are out of balance. The first stray `)` counts before any
    open `(`. -/
def parenFault? (statement : Text) : Option ParenFault := parenFaultFrom 0 0 statement

/-- Warns of parentheses out of balance. -/
def checkParens (statement : Text) : Option Diagnostic :=
  (parenFault? statement).map fun
    | .unmatched offset =>
      (warning .unbalancedParentheses "unmatched ')'".toList)
        |>.marking offset (offset + 1) (some "no opening parenthesis".toList)
    | .unclosed count =>
      (warning .unbalancedParentheses (decimal count ++ " unclosed '('".toList))
        |>.noting "subqueries inside an unclosed parenthesis are not reported".toList

/-- Reports a statement that starts with no known command. -/
def checkCommand (statement : Text) (command : Option Command) : Option Diagnostic :=
  match command with
  | some _ => none
  | none =>
    let head := (words statement).headD []
    some <| (error .unknownCommand ("unrecognized statement: ".toList ++ head.take 32))
      |>.noting ("recognized: ".toList ++ joinWith ", " (Command.all.map (·.text)))

/-- Warns of a statement with a known command that names no table. -/
def checkTable (command : Option Command) (tables : Tables) : Option Diagnostic :=
  match command with
  | none => none
  | some c =>
    if tables.all ≠ [] then none
    else some (warning .noTable
      ("no table found in ".toList ++ c.text ++ " statement".toList))

end SqlSkim
