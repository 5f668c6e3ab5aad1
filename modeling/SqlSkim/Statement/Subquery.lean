import SqlSkim.Statement.Command

/-!
# `Statement.Subquery` — parenthesised queries

## Contents
- `groups`: the texts inside balanced parentheses; `subqueries`: those that are a `SELECT`.
-/

namespace SqlSkim

/-- The trimmed texts inside the balanced pairs of parentheses, in the order in which they open. -/
def groups (t : Text) : List Text :=
  (parenSpans t).map fun (start, stop) => trim ((t.drop (start + 1)).take (stop - (start + 1)))

/-- **The subqueries of a text**: the parenthesised parts that are a `SELECT`, the outer ones before
    those they contain. -/
def subqueries (t : Text) : List Text :=
  (groups t).filter (Command.ofStatement? · = some .select)

end SqlSkim
