import FederatedSearch.Proofs.Document.Faithfulness
import FederatedSearch.Proofs.Failure
import FederatedSearch.Proofs.Sql.Truth

/-!
# Why a query cannot be compiled

A predicate is refused for the first of its leaves that is: for the value of a comparison, or for a
bare `exist` that asks for anything but presence. `Predicate.fault?` says so without looking at any
native form. Compilers go through chains of operands instead, and the one for databases writes some
chains as lists without a look at their parts; neither bears on the fault (`faultOf?_filterOf`,
`faultOf?_conditionOf`). Hence both refuse the same queries.
-/

namespace FederatedSearch

/-- What is wrong with the value of a comparison. -/
def CompareOp.fault? (v : Literal) : CompareOp → Option CompileError
  | isIn => faultOf? v.scalars
  | notIn => faultOf? v.scalars
  | like => faultOf? v.pattern
  | notLike => faultOf? v.pattern
  | _ => faultOf? v.scalar

/-- What is wrong with a comparison with the name that stands for presence. -/
def CompareOp.presenceFault? (field : String) : CompareOp → Option CompileError
  | eq => none
  | notEq => none
  | _ => some (.existsMisused field)

namespace Predicate

/-- What is wrong with the first leaf, from left to right, that stored values cannot be tested
for. -/
def fault? : Predicate → Option CompileError
  | compare field op value =>
    if value.isExists then op.presenceFault? field else op.fault? value
  | between _ low high => (faultOf? low.scalar).or (faultOf? high.scalar)
  | and left right => left.fault?.or right.fault?
  | or left right => left.fault?.or right.fault?
  | paren inner => inner.fault?

/-- The first fault of a predicate is that of its leaves. -/
theorem findSome?_leaves (p : Predicate) : p.leaves.findSome? fault? = p.fault? := by
  induction p with
  | compare field op value => exact List.findSome?_singleton
  | between field low high => exact List.findSome?_singleton
  | and left right ihLeft ihRight =>
    rw [leaves, List.findSome?_append, ihLeft, ihRight, fault?]
  | or left right ihLeft ihRight =>
    rw [leaves, List.findSome?_append, ihLeft, ihRight, fault?]
  | paren inner ih => exact ih

/-- The first fault of a predicate is that of the operands of a chain. -/
theorem findSome?_operands (c : Connective) (p : Predicate) :
    (p.operands c).findSome? fault? = p.fault? := by
  rw [← findSome?_leaves p, ← flatMap_leaves_operands c p]
  induction p.operands c with
  | nil => rfl
  | cons q rest ih =>
    rw [List.flatMap_cons, List.findSome?_append, findSome?_leaves, ← ih,
      findSome?_cons_eq_or]

end Predicate

/-! ## Document stores -/

namespace Document

/-- A comparison is refused as a document condition with its own fault. -/
theorem faultOf?_condition (op : CompareOp) (v : Literal) :
    faultOf? (condition op v) = op.fault? v := by
  cases op <;> exact faultOf?_bind_pure _ _

/-- A comparison is refused as a document filter with its own fault. -/
theorem faultOf?_comparison (field : String) (op : CompareOp) (v : Literal) :
    faultOf? (comparison field op v) = (Predicate.compare field op v).fault? := by
  unfold comparison Predicate.fault?
  split
  · cases op <;> rfl
  · rw [faultOf?_bind_pure, faultOf?_condition]

/-- A predicate has no filter for its first fault. -/
theorem faultOf?_filterOf (p : Predicate) : faultOf? (filterOf p) = p.fault? := by
  induction p using filterOf.induct with
  | case1 left right ih =>
    rw [filterOf_and, faultOf?_bind_pure, faultOf?_mapM ih, Predicate.findSome?_operands]
  | case2 left right ih =>
    rw [filterOf_or, faultOf?_bind_pure, faultOf?_mapM ih, Predicate.findSome?_operands]
  | case3 inner ih =>
    rw [filterOf, Predicate.fault?]
    exact ih
  | case4 field low high =>
    rw [filterOf]
    exact faultOf?_bind fun _ => faultOf?_bind_pure _ _
  | case5 field op value =>
    rw [filterOf]
    exact faultOf?_comparison field op value

end Document

/-! ## Databases -/

namespace Sql

/-- A comparison is refused as a condition of SQL with its own fault. -/
theorem faultOf?_comparison (field : String) (op : FederatedSearch.CompareOp) (v : Literal) :
    faultOf? (comparison field op v) = (Predicate.compare field op v).fault? := by
  unfold comparison Predicate.fault?
  split
  · cases op <;> rfl
  · cases op <;> exact faultOf?_bind_pure _ _

/-- The operands of a chain that is written as a list are equalities with scalars. -/
theorem fault?_eq_none_of_orToIn {threshold : Nat} {operands : List Predicate} {field : String}
    {values : List Scalar} (listed : orToIn? threshold operands = some (field, values)) :
    operands.findSome? Predicate.fault? = none := by
  have equalities := forall₂_of_orToIn listed
  clear listed
  induction equalities with
  | nil => rfl
  | cons equality _ ih =>
    obtain ⟨v, rfl, taken⟩ := equality_eq_some_iff.mp equality
    have sound : (Predicate.compare field .eq v).fault? = none := by
      rw [← faultOf?_comparison, ← conditionOf_compare 0, conditionOf_equality field taken]
      rfl
    rw [findSome?_cons_eq_or, sound, ih]
    rfl

/-- A predicate has no condition for its first fault, whatever the threshold. -/
theorem faultOf?_conditionOf (threshold : Nat) (p : Predicate) :
    faultOf? (conditionOf threshold p) = p.fault? := by
  induction p using conditionOf.induct threshold with
  | case1 left right chain ih =>
    rw [conditionOf_and, faultOf?_bind_pure, faultOf?_mapM ih, Predicate.findSome?_operands]
  | case2 left right chain field values listed =>
    rw [conditionOf_or_list listed, ← Predicate.findSome?_operands .or,
      fault?_eq_none_of_orToIn listed]
    rfl
  | case3 left right chain unlisted ih =>
    rw [conditionOf_or_chain unlisted, faultOf?_bind_pure, faultOf?_mapM ih,
      Predicate.findSome?_operands]
  | case4 inner ih =>
    rw [conditionOf, Predicate.fault?]
    exact ih
  | case5 field op value =>
    rw [conditionOf_compare]
    exact faultOf?_comparison field op value
  | case6 field low high =>
    rw [conditionOf_between]
    exact faultOf?_bind fun _ => faultOf?_bind_pure _ _

end Sql

/-! ## Queries -/

namespace Compiler

/-- The document compiler refuses a query with the fault of its predicate. -/
theorem faultOf?_compile_document (q : Query) :
    faultOf? (document.compile q) = q.predicate.fault? := by
  rw [compile, faultOf?_bind_pure, Document.compile, faultOf?_bind_pure,
    Document.faultOf?_filterOf]

/-- The SQL compiler refuses a query with the fault of its predicate, for every table, dialect and
threshold. -/
theorem faultOf?_compile_sql (q : Query) (table : String) (dialect : Sql.Dialect)
    (threshold : Nat) :
    faultOf? ((sql table dialect threshold).compile q) = q.predicate.fault? := by
  rw [compile, faultOf?_bind_pure, Sql.compile, faultOf?_bind_pure, Sql.faultOf?_conditionOf]

/-- Whatever its dialect and its threshold, the compiler for databases refuses a query exactly when
the one for document stores does, and for the same reason. -/
theorem compile_sql_eq_error_iff (q : Query) (table : String) (dialect : Sql.Dialect)
    (threshold : Nat) (e : CompileError) :
    (sql table dialect threshold).compile q = .error e ↔ document.compile q = .error e := by
  rw [← faultOf?_eq_some_iff, ← faultOf?_eq_some_iff, faultOf?_compile_sql,
    faultOf?_compile_document]

end Compiler

end FederatedSearch
