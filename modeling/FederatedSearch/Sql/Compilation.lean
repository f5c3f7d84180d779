import FederatedSearch.Sql.Statement
import FederatedSearch.Text.LetterCase

/-!
# From queries to SQL

A predicate becomes a condition operand by operand. An OR of enough equalities of one field is
written as one list of values.
-/

namespace FederatedSearch

namespace Sql

/-- How many equalities an OR has to join before it is written as a list, unless said
otherwise. -/
def defaultThreshold : Nat := 5

/-- The field and the value of an equality with a scalar. -/
def equality? : Predicate → Option (String × Scalar)
  | .compare field .eq value =>
    match value.scalar with
    | .ok s => some (field, s)
    | .error _ => none
  | _ => none

/-- The field and the values of equalities that all concern one field. -/
def valueList? (operands : List Predicate) : Option (String × List Scalar) :=
  match operands.mapM equality? with
  | some ((field, value) :: rest) =>
    if rest.all (·.1 == field) then some (field, value :: rest.map (·.2)) else none
  | _ => none

/-- The field and the values of an OR that is long enough to be written as a list. -/
def orToIn? (threshold : Nat) (operands : List Predicate) : Option (String × List Scalar) :=
  if operands.length < threshold then none else valueList? operands

/-- The condition of a comparison. A pattern is compared in lower case. -/
def comparison (field : String) (op : FederatedSearch.CompareOp) (value : Literal) :
    Except CompileError Condition :=
  if value.isExists then
    match op with
    | .eq => .ok (.null field true)
    | .notEq => .ok (.null field false)
    | _ => .error (.existsMisused field)
  else
    match op with
    | .eq => return .compare field .eq (← value.scalar)
    | .notEq => return .compare field .ne (← value.scalar)
    | .gt => return .compare field .gt (← value.scalar)
    | .lt => return .compare field .lt (← value.scalar)
    | .gte => return .compare field .ge (← value.scalar)
    | .lte => return .compare field .le (← value.scalar)
    | .isIn => return .member field false (← value.scalars)
    | .notIn => return .member field true (← value.scalars)
    | .like => return .like field false (Text.lowercase (← value.pattern))
    | .notLike => return .like field true (Text.lowercase (← value.pattern))

/-- The condition of a predicate. -/
def conditionOf (threshold : Nat) : Predicate → Except CompileError Condition
  | .and left right => do
    let chain := (Predicate.and left right).operands .and
    let operands ← chain.attach.mapM fun ⟨p, _⟩ => conditionOf threshold p
    return .group .and operands
  | .or left right =>
    let chain := (Predicate.or left right).operands .or
    match orToIn? threshold chain with
    | some (field, values) => .ok (.member field false values)
    | none => do
      let operands ← chain.attach.mapM fun ⟨p, _⟩ => conditionOf threshold p
      return .group .or operands
  | .paren inner => conditionOf threshold inner
  | .compare field op value => comparison field op value
  | .between field low high => do
    let low ← low.scalar
    let high ← high.scalar
    return .between field low high
termination_by p => p.size
decreasing_by
  · exact Predicate.size_lt_of_mem_operands_and (by assumption)
  · exact Predicate.size_lt_of_mem_operands_or (by assumption)
  · simp only [Predicate.size]; omega

/-- What writing the condition of a predicate simplifies, chain by chain from the outside. -/
def optimizations (threshold : Nat) : Predicate → List Optimization
  | .and left right =>
    let chain := (Predicate.and left right).operands .and
    Optimization.ofOperands .and chain.length ++
      chain.attach.flatMap fun ⟨p, _⟩ => optimizations threshold p
  | .or left right =>
    let chain := (Predicate.or left right).operands .or
    match orToIn? threshold chain with
    | some (field, values) => [.orToIn field values.length]
    | none =>
      Optimization.ofOperands .or chain.length ++
        chain.attach.flatMap fun ⟨p, _⟩ => optimizations threshold p
  | .paren inner => optimizations threshold inner
  | _ => []
termination_by p => p.size
decreasing_by
  · exact Predicate.size_lt_of_mem_operands_and (by assumption)
  · exact Predicate.size_lt_of_mem_operands_or (by assumption)
  · simp only [Predicate.size]; omega

/-- Compiles a query to a statement on a table. -/
def compile (table : String) (threshold : Nat) (q : Query) : Except CompileError Select := do
  let condition ← conditionOf threshold q.predicate
  return ⟨table, condition, q.orderBy, q.rowcount, q.offset⟩

end Sql

end FederatedSearch
