import FederatedSearch.Json.Printer
import FederatedSearch.Query.Like
import FederatedSearch.Scalar

/-!
# Queries for document stores

A document store takes a filter, which is itself a document, sort keys and a page. A filter
compares a field by equality, or by an object of operators; `$and` and `$or` join filters.
-/

namespace FederatedSearch

namespace Document

/-- A field to sort by: ascending, or descending when the direction is negative. -/
structure SortKey where
  field : String
  direction : Int
  deriving DecidableEq, Repr, Inhabited

/-- A query for a document store. -/
structure Query where
  filter : Json
  sort : List SortKey
  skip : Nat
  limit : Nat
  deriving Inhabited

/-- An object with one member. -/
def single (key : String) (value : Json) : Json :=
  .object [(key, value)]

/-- The operator object of a LIKE pattern. -/
def likeCondition (pattern : String) : Json :=
  .object [("$options", .string "i"), ("$regex", .string (Like.toRegexText pattern))]

/-- The condition that a comparison puts on the value of its field. -/
def condition (op : CompareOp) (value : Literal) : Except CompileError Json := do
  match op with
  | .eq => return (← value.scalar).toJson
  | .notEq => return single "$ne" (← value.scalar).toJson
  | .lt => return single "$lt" (← value.scalar).toJson
  | .gt => return single "$gt" (← value.scalar).toJson
  | .lte => return single "$lte" (← value.scalar).toJson
  | .gte => return single "$gte" (← value.scalar).toJson
  | .isIn => return single "$in" (.array ((← value.scalars).map Scalar.toJson))
  | .notIn => return single "$nin" (.array ((← value.scalars).map Scalar.toJson))
  | .like => return likeCondition (← value.pattern)
  | .notLike => return single "$not" (likeCondition (← value.pattern))

/-- The filter of one comparison. -/
def comparison (field : String) (op : CompareOp) (value : Literal) : Except CompileError Json :=
  if value.isExists then
    match op with
    | .eq => .ok (single field (single "$exists" (.bool true)))
    | .notEq => .ok (single field (single "$exists" (.bool false)))
    | _ => .error (.existsMisused field)
  else return single field (← condition op value)

/-- The filter of a range. -/
def range (field : String) (low high : Literal) : Except CompileError Json := do
  let low ← low.scalar
  let high ← high.scalar
  return single field (.object [("$gte", low.toJson), ("$lte", high.toJson)])

/-- The filter of a predicate. -/
def filterOf : Predicate → Except CompileError Json
  | .and left right => do
    let clauses ← ((Predicate.and left right).operands .and).attach.mapM fun ⟨p, _⟩ => filterOf p
    return single "$and" (.array clauses)
  | .or left right => do
    let clauses ← ((Predicate.or left right).operands .or).attach.mapM fun ⟨p, _⟩ => filterOf p
    return single "$or" (.array clauses)
  | .paren inner => filterOf inner
  | .between field low high => range field low high
  | .compare field op value => comparison field op value
termination_by p => p.size
decreasing_by
  · exact Predicate.size_lt_of_mem_operands_and (by assumption)
  · exact Predicate.size_lt_of_mem_operands_or (by assumption)
  · simp only [Predicate.size]; omega

/-- What writing the filter of a predicate simplifies, chain by chain from the outside. -/
def optimizations : Predicate → List Optimization
  | .and left right =>
    let chain := (Predicate.and left right).operands .and
    Optimization.ofOperands .and chain.length ++ chain.attach.flatMap fun ⟨p, _⟩ => optimizations p
  | .or left right =>
    let chain := (Predicate.or left right).operands .or
    Optimization.ofOperands .or chain.length ++ chain.attach.flatMap fun ⟨p, _⟩ => optimizations p
  | .paren inner => optimizations inner
  | _ => []
termination_by p => p.size
decreasing_by
  · exact Predicate.size_lt_of_mem_operands_and (by assumption)
  · exact Predicate.size_lt_of_mem_operands_or (by assumption)
  · simp only [Predicate.size]; omega

/-- The sort key of a document query for one of a query. -/
def SortKey.ofQuery (key : FederatedSearch.SortKey) : SortKey :=
  ⟨key.field, if key.descending then -1 else 1⟩

/-- Compiles a query for a document store. -/
def compile (q : FederatedSearch.Query) : Except CompileError Query := do
  let filter ← filterOf q.predicate
  return ⟨filter, q.orderBy.map SortKey.ofQuery, q.offset, q.rowcount⟩

/-- The JSON value of a sort key. -/
def SortKey.toJson (key : SortKey) : Json :=
  .ofMembers [("field", .string key.field), ("direction", .ofInt key.direction)]

/-- The text of a sort key. -/
def SortKey.text (key : SortKey) : String :=
  "\x7b\"field\":" ++ Json.quote key.field ++ ",\"direction\":" ++ toString key.direction ++ "\x7d"

/-- The text of a document query: filter, sort keys, page. -/
def Query.text (q : Query) : String :=
  "\x7b\"filter\":" ++ q.filter.compact ++
    ",\"sort\":[" ++ ",".intercalate (q.sort.map SortKey.text) ++
    "],\"skip\":" ++ toString q.skip ++ ",\"limit\":" ++ toString q.limit ++ "\x7d"

end Document

end FederatedSearch
