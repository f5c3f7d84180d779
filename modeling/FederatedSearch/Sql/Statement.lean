import FederatedSearch.Scalar

/-!
# SQL statements

The statements that relational sources run: all columns of the rows of one table that satisfy a
condition, in some order, and of these one page. A condition is a tree of tests on single
columns; parentheses appear only when it is written out.
-/

namespace FederatedSearch

namespace Sql

/-- The comparisons of a column with a value. -/
inductive CompareOp
  | eq
  | ne
  | lt
  | gt
  | le
  | ge
  deriving DecidableEq, Repr, Inhabited

/-- A condition on the columns of a row. -/
inductive Condition
  | compare (column : String) (op : CompareOp) (value : Scalar)
  | member (column : String) (negated : Bool) (values : List Scalar)
  /-- The column in lower case against a pattern. -/
  | like (column : String) (negated : Bool) (pattern : String)
  | null (column : String) (negated : Bool)
  | between (column : String) (low high : Scalar)
  | group (connective : Connective) (operands : List Condition)
  deriving Repr, Inhabited

/-- A statement that selects rows of a table. -/
structure Select where
  table : String
  condition : Condition
  orderBy : List SortKey
  limit : Nat
  offset : Nat
  deriving Repr, Inhabited

end Sql

end FederatedSearch
