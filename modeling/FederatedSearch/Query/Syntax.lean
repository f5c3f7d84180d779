import FederatedSearch.Json.Basic

/-!
# Queries

The tree of a query text (`Statement`), its conditions (`Predicate`), and what remains of a
statement once it is accepted (`Query`): one source, one predicate and a page of the ordered
result. Parentheses are nodes of the tree, so that a query can be shown as it was written.
-/

namespace FederatedSearch

/-- The field that holds the time of a record. -/
def datetimeField : String := "datetime"

/-- The name that stands for the presence of a field, as in `tags = exist`. -/
def existsName : String := "exist"

/-- The comparisons of a field with a value. -/
inductive CompareOp
  | eq
  | notEq
  | lt
  | gt
  | lte
  | gte
  | isIn
  | notIn
  | like
  | notLike
  deriving DecidableEq, Repr, Inhabited

/-- A comparison as it is written. -/
def CompareOp.text : CompareOp → String
  | eq => "="
  | notEq => "!="
  | lt => "<"
  | gt => ">"
  | lte => "<="
  | gte => ">="
  | isIn => "IN"
  | notIn => "NOT IN"
  | like => "LIKE"
  | notLike => "NOT LIKE"

/-- A value that a field is compared with. -/
inductive Literal
  | string (value : String)
  | integer (value : Int)
  | float (value : Double)
  | bool (value : Bool)
  /-- A bare name. -/
  | column (name : String)
  | list (items : List Literal)
  deriving Repr, Inhabited

namespace Literal

mutual

/-- The JSON value of a literal. A bare name becomes a string. -/
def toJson : Literal → Json
  | string s => .string s
  | integer n => .ofInt n
  | float x => .ofDouble x
  | bool b => .bool b
  | column name => .string name
  | list items => .array (itemsToJson items)

/-- The JSON values of literals. -/
def itemsToJson : List Literal → List Json
  | [] => []
  | item :: rest => toJson item :: itemsToJson rest

end

mutual

/-- Whether two literals are the same. -/
def same : Literal → Literal → Bool
  | string s, string t => s == t
  | integer m, integer n => m == n
  | float x, float y => x == y
  | bool a, bool b => a == b
  | column a, column b => a == b
  | list left, list right => sameItems left right
  | _, _ => false

/-- Whether the items of two lists are the same. -/
def sameItems : List Literal → List Literal → Bool
  | [], [] => true
  | a :: left, b :: right => same a b && sameItems left right
  | _, _ => false

end

mutual

/-- Comparing literals decides their equality. -/
theorem same_iff (a b : Literal) : same a b = true ↔ a = b := by
  cases a with
  | list left =>
    cases b with
    | list right => rw [same, sameItems_iff left right, list.injEq]
    | _ => simp [same]
  | _ => cases b <;> simp [same]

/-- Comparing the items of lists decides their equality. -/
theorem sameItems_iff (left right : List Literal) : sameItems left right = true ↔ left = right := by
  cases left with
  | nil => cases right <;> simp [sameItems]
  | cons a left =>
    cases right with
    | nil => simp [sameItems]
    | cons b right =>
      rw [sameItems, Bool.and_eq_true, same_iff a b, sameItems_iff left right, List.cons.injEq]

end

instance : DecidableEq Literal :=
  fun a b => decidable_of_iff (same a b = true) (same_iff a b)

end Literal

/-- A condition on the fields of a record. -/
inductive Predicate
  | compare (field : String) (op : CompareOp) (value : Literal)
  | between (field : String) (low high : Literal)
  | and (left right : Predicate)
  | or (left right : Predicate)
  | paren (inner : Predicate)
  deriving DecidableEq, Repr, Inhabited

namespace Predicate

/-- Whether a condition is a range of the time field. -/
def isDatetimeRange : Predicate → Bool
  | between field _ _ => field == datetimeField
  | _ => false

/-- How many ranges of the time field a condition holds. -/
def datetimeRangeCount : Predicate → Nat
  | compare _ _ _ => 0
  | between field _ _ => if field = datetimeField then 1 else 0
  | and left right => left.datetimeRangeCount + right.datetimeRangeCount
  | or left right => left.datetimeRangeCount + right.datetimeRangeCount
  | paren inner => inner.datetimeRangeCount

end Predicate

/-- A field that a result is ordered by. -/
structure SortKey where
  field : String
  descending : Bool
  deriving DecidableEq, Repr, Inhabited

/-- The page of a result that a statement asks for. -/
structure Limit where
  offset : Option Int
  rowcount : Int
  deriving DecidableEq, Repr, Inhabited

/-- A query text as it is written. -/
structure Statement where
  distinct : Bool
  sources : List String
  selection : Option Predicate
  groupBy : List String
  orderBy : List SortKey
  limit : Option Limit
  deriving DecidableEq, Repr, Inhabited

/-- An accepted query: the records of one source that satisfy a predicate, in some order, of
which `rowcount` are taken after the first `offset`. -/
structure Query where
  source : String
  predicate : Predicate
  orderBy : List SortKey
  offset : Nat
  rowcount : Nat
  deriving DecidableEq, Repr, Inhabited

end FederatedSearch
