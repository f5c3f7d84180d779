import FederatedSearch.Query.Operands
import FederatedSearch.Query.Printer

/-!
# Values in compiled queries

Of the literals of a query only strings, numbers and truth values can be compared with stored
values. This module takes literals apart for the compilers and names what they refuse.
-/

namespace FederatedSearch

/-- A value that stored values can be compared with. -/
inductive Scalar
  | string (value : String)
  | integer (value : Int)
  | float (value : Double)
  | bool (value : Bool)
  deriving DecidableEq, Repr, Inhabited

/-- The JSON value of a scalar. -/
def Scalar.toJson : Scalar → Json
  | string s => .string s
  | integer n => .ofInt n
  | float x => .ofDouble x
  | bool b => .bool b

/-- Why a query has no form that a source can run. -/
inductive CompileError
  | existsMisused (field : String)
  | columnValue
  | listValue
  | patternNotString (value : Literal)
  | lookupOperator (op : CompareOp) (field : String)
  | lookupShape (field : String)
  | lookupField (field expected : String)
  | lookupValue (value : Literal)
  deriving Repr

/-- The message for a query that a source cannot run. -/
def CompileError.message : CompileError → String
  | existsMisused field => "'exist' can only be used with = and != (field '" ++ field ++ "')"
  | columnValue => "Column name on the right side of compare operator is not supported"
  | listValue => "A value list is only valid with IN and NOT IN"
  | patternNotString value => "LIKE pattern must be a string, got " ++ value.text
  | lookupOperator op field =>
    "operator '" ++ op.text ++ "' is not supported, only " ++ field ++ " = value lookups"
  | lookupShape field => "only a single " ++ field ++ " = value comparison is supported"
  | lookupField field expected =>
    "field '" ++ field ++ "' can't be searched, expected '" ++ expected ++ "'"
  | lookupValue value => "unsupported lookup value " ++ value.text

namespace Literal

/-- Whether a literal is the bare name that stands for presence. -/
def isExists : Literal → Bool
  | column name => name == existsName
  | _ => false

/-- The scalar that a literal is. -/
def scalar : Literal → Except CompileError Scalar
  | string s => .ok (.string s)
  | integer n => .ok (.integer n)
  | float x => .ok (.float x)
  | bool b => .ok (.bool b)
  | column _ => .error .columnValue
  | list _ => .error .listValue

/-- The scalars of a list; any other literal is a list of one. -/
def scalars : Literal → Except CompileError (List Scalar)
  | list items => items.mapM scalar
  | value => return [← value.scalar]

/-- The pattern of a LIKE comparison. -/
def pattern : Literal → Except CompileError String
  | string s => .ok s
  | value => .error (.patternNotString value)

end Literal

/-- What a compiler has simplified. -/
inductive Optimization
  /-- An OR of equalities of one field became one list of values. -/
  | orToIn (field : String) (count : Nat)
  /-- A nested chain of one connective became one list of operands. -/
  | flattened (connective : Connective) (count : Nat)
  deriving DecidableEq, Repr

/-- The simplification of a chain of operands; one of two operands is none. -/
def Optimization.ofOperands (c : Connective) (count : Nat) : List Optimization :=
  if 2 < count then [.flattened c count] else []

namespace Predicate

/-- How many nodes a predicate has. -/
def size : Predicate → Nat
  | compare _ _ _ => 1
  | between _ _ _ => 1
  | and left right => left.size + right.size + 1
  | or left right => left.size + right.size + 1
  | paren inner => inner.size + 1

/-- An operand is never larger than the chain. -/
theorem size_le_of_mem_operands {c : Connective} {p q : Predicate} (h : q ∈ p.operands c) :
    q.size ≤ p.size := by
  induction p with
  | compare => simp_all [operands]
  | between => simp_all [operands]
  | and left right ihl ihr =>
    cases c <;> simp only [operands, List.mem_append, List.mem_singleton] at h
    · rcases h with h | h
      · have := ihl h; simp only [size]; omega
      · have := ihr h; simp only [size]; omega
    · simp [h]
  | or left right ihl ihr =>
    cases c <;> simp only [operands, List.mem_append, List.mem_singleton] at h
    · simp [h]
    · rcases h with h | h
      · have := ihl h; simp only [size]; omega
      · have := ihr h; simp only [size]; omega
  | paren inner ih =>
    simp only [operands] at h
    split at h
    · have := ih h; simp only [size]; omega
    · simp_all

/-- The operands of an AND are smaller than it. -/
theorem size_lt_of_mem_operands_and {left right q : Predicate}
    (h : q ∈ (and left right).operands .and) : q.size < (and left right).size := by
  simp only [operands, List.mem_append] at h
  rcases h with h | h <;> have := size_le_of_mem_operands h <;> simp only [size] <;> omega

/-- The operands of an OR are smaller than it. -/
theorem size_lt_of_mem_operands_or {left right q : Predicate}
    (h : q ∈ (or left right).operands .or) : q.size < (or left right).size := by
  simp only [operands, List.mem_append] at h
  rcases h with h | h <;> have := size_le_of_mem_operands h <;> simp only [size] <;> omega

end Predicate

end FederatedSearch
