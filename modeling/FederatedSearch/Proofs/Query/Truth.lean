import FederatedSearch.Query.Operands

/-!
# Truth of predicates

What AND, OR and parentheses mean, apart from what the comparisons at the leaves mean.
`Predicate.TrueUnder` takes the truth of the leaves as given. A chain of one connective is true
exactly when all of its operands are, or one of them is, so that compilers may look at a chain
as a list (`trueUnder_iff_forall_operands`, `trueUnder_iff_exists_operand`).
-/

namespace FederatedSearch

namespace Predicate

/-- Truth of a predicate when the truth of its leaves is given. -/
def TrueUnder (leaf : Predicate → Prop) : Predicate → Prop
  | and left right => left.TrueUnder leaf ∧ right.TrueUnder leaf
  | or left right => left.TrueUnder leaf ∨ right.TrueUnder leaf
  | paren inner => inner.TrueUnder leaf
  | compare field op value => leaf (compare field op value)
  | between field low high => leaf (between field low high)

/-- The leaves of a predicate, from left to right. -/
def leaves : Predicate → List Predicate
  | compare field op value => [compare field op value]
  | between field low high => [between field low high]
  | and left right => left.leaves ++ right.leaves
  | or left right => left.leaves ++ right.leaves
  | paren inner => inner.leaves

/-- The fields that the leaves of a predicate speak of, from left to right. -/
def fields : Predicate → List String
  | compare field _ _ => [field]
  | between field _ _ => [field]
  | and left right => left.fields ++ right.fields
  | or left right => left.fields ++ right.fields
  | paren inner => inner.fields

section Truth

variable {leaf : Predicate → Prop} {left right inner : Predicate}

@[simp] theorem trueUnder_and :
    (and left right).TrueUnder leaf ↔ left.TrueUnder leaf ∧ right.TrueUnder leaf := Iff.rfl

@[simp] theorem trueUnder_or :
    (or left right).TrueUnder leaf ↔ left.TrueUnder leaf ∨ right.TrueUnder leaf := Iff.rfl

@[simp] theorem trueUnder_paren : (paren inner).TrueUnder leaf ↔ inner.TrueUnder leaf := Iff.rfl

@[simp] theorem trueUnder_compare {field : String} {op : CompareOp} {value : Literal} :
    (compare field op value).TrueUnder leaf ↔ leaf (compare field op value) := Iff.rfl

@[simp] theorem trueUnder_between {field : String} {low high : Literal} :
    (between field low high).TrueUnder leaf ↔ leaf (between field low high) := Iff.rfl

end Truth

/-- A leaf is its only leaf. -/
theorem leaves_of_mem_leaves {p leaf : Predicate} (member : leaf ∈ p.leaves) :
    leaf.leaves = [leaf] := by
  induction p with
  | compare field op value =>
    cases List.mem_singleton.mp member
    rfl
  | between field low high =>
    cases List.mem_singleton.mp member
    rfl
  | and left right ihLeft ihRight => exact (List.mem_append.mp member).elim ihLeft ihRight
  | or left right ihLeft ihRight => exact (List.mem_append.mp member).elim ihLeft ihRight
  | paren inner ih => exact ih member

/-- What leaves say may be said in other words. -/
theorem trueUnder_congr {a b : Predicate → Prop} {p : Predicate}
    (same : ∀ leaf ∈ p.leaves, (a leaf ↔ b leaf)) : p.TrueUnder a ↔ p.TrueUnder b := by
  induction p with
  | compare field op value => exact same _ (List.mem_singleton_self _)
  | between field low high => exact same _ (List.mem_singleton_self _)
  | and left right ihLeft ihRight =>
    obtain ⟨first, second⟩ := List.forall_mem_append.mp same
    exact and_congr (ihLeft first) (ihRight second)
  | or left right ihLeft ihRight =>
    obtain ⟨first, second⟩ := List.forall_mem_append.mp same
    exact or_congr (ihLeft first) (ihRight second)
  | paren inner ih => exact ih same

/-- The fields of a predicate are those of its leaves. -/
theorem fields_eq_flatMap_leaves (p : Predicate) : p.fields = p.leaves.flatMap fields := by
  induction p with
  | compare field op value => rfl
  | between field low high => rfl
  | and left right ihLeft ihRight => rw [fields, leaves, List.flatMap_append, ihLeft, ihRight]
  | or left right ihLeft ihRight => rw [fields, leaves, List.flatMap_append, ihLeft, ihRight]
  | paren inner ih => exact ih

section Operands

variable {leaf : Predicate → Prop} {left right : Predicate}

@[simp] theorem operands_compare (c : Connective) (field : String) (op : CompareOp)
    (value : Literal) : (compare field op value).operands c = [compare field op value] := rfl

@[simp] theorem operands_between (c : Connective) (field : String) (low high : Literal) :
    (between field low high).operands c = [between field low high] := rfl

@[simp] theorem operands_and_of_and :
    (and left right).operands .and = left.operands .and ++ right.operands .and := rfl

@[simp] theorem operands_or_of_and : (and left right).operands .or = [and left right] := rfl

@[simp] theorem operands_and_of_or : (or left right).operands .and = [or left right] := rfl

@[simp] theorem operands_or_of_or :
    (or left right).operands .or = left.operands .or ++ right.operands .or := rfl

/-- A chain of AND is true exactly when each of its operands is. -/
theorem trueUnder_iff_forall_operands (p : Predicate) :
    p.TrueUnder leaf ↔ ∀ q ∈ p.operands .and, q.TrueUnder leaf := by
  induction p with
  | compare field op value => simp
  | between field low high => simp
  | and left right ihLeft ihRight =>
    rw [trueUnder_and, ihLeft, ihRight, operands_and_of_and, List.forall_mem_append]
  | or left right _ _ => simp
  | paren inner ih =>
    rw [operands]
    split
    · exact ih
    · simp

/-- A chain of OR is true exactly when one of its operands is. -/
theorem trueUnder_iff_exists_operand (p : Predicate) :
    p.TrueUnder leaf ↔ ∃ q ∈ p.operands .or, q.TrueUnder leaf := by
  induction p with
  | compare field op value => simp
  | between field low high => simp
  | and left right _ _ => simp
  | or left right ihLeft ihRight =>
    rw [trueUnder_or, ihLeft, ihRight, operands_or_of_or]
    simp only [List.mem_append, or_and_right, exists_or]
  | paren inner ih =>
    rw [operands]
    split
    · exact ih
    · simp

/-- The operands of a chain have its leaves, in its order. -/
theorem flatMap_leaves_operands (c : Connective) (p : Predicate) :
    (p.operands c).flatMap leaves = p.leaves := by
  induction p with
  | compare field op value => rfl
  | between field low high => rfl
  | and left right ihLeft ihRight =>
    cases c with
    | and => rw [operands_and_of_and, List.flatMap_append, ihLeft, ihRight, leaves]
    | or => rw [operands_or_of_and, List.flatMap_singleton]
  | or left right ihLeft ihRight =>
    cases c with
    | and => rw [operands_and_of_or, List.flatMap_singleton]
    | or => rw [operands_or_of_or, List.flatMap_append, ihLeft, ihRight, leaves]
  | paren inner ih =>
    rw [operands]
    split
    · exact ih
    · rw [List.flatMap_singleton]

/-- Operands speak of no other fields than the chain. -/
theorem fields_subset_of_mem_operands {c : Connective} {p q : Predicate}
    (member : q ∈ p.operands c) : q.fields ⊆ p.fields := by
  intro field inside
  rw [fields_eq_flatMap_leaves, List.mem_flatMap] at inside ⊢
  obtain ⟨leaf, below, named⟩ := inside
  refine ⟨leaf, ?_, named⟩
  rw [← flatMap_leaves_operands c p]
  exact List.mem_flatMap.mpr ⟨q, member, below⟩

end Operands

end Predicate

end FederatedSearch
