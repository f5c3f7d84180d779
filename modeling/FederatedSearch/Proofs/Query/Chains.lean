import FederatedSearch.Proofs.Query.SpineTruth

/-!
# Chains and their operands

A chain of one connective is flattened into operands, and parentheses around a part of the chain
are passed through. The outcome depends on what stands within the parentheses around a predicate:
a chain has the operands of its two sides, and anything else is its only operand
(`Predicate.operands_eq`). By induction along chains (`Predicate.chain_induction`) no operand is a
chain of the same connective, and a chain is true exactly when all of its operands are, or one of
them is. Truth is given to leaves by their numbers from left to right, so that equal leaves may
differ.
-/

namespace FederatedSearch

namespace Connective

/-- Two predicates joined by a connective. -/
def join : Connective → Predicate → Predicate → Predicate
  | and => .and
  | or => .or

/-- Two statements joined by a connective. -/
def Joins : Connective → Prop → Prop → Prop
  | and => And
  | or => Or

/-- What a connective asks of several things: that all of them hold, or that one of them does. -/
def HoldsOf {α : Type} (things : List α) (holds : α → Prop) : Connective → Prop
  | and => ∀ a ∈ things, holds a
  | or => ∃ a ∈ things, holds a

variable {α : Type} {holds : α → Prop}

/-- A connective holds of two lists when it joins what it says of each. -/
theorem holdsOf_append (c : Connective) (l r : List α) :
    c.HoldsOf (l ++ r) holds ↔ c.Joins (c.HoldsOf l holds) (c.HoldsOf r holds) := by
  cases c with
  | and => exact List.forall_mem_append
  | or => simp only [HoldsOf, Joins, List.mem_append, or_and_right, exists_or]

/-- A connective holds of one operand when this one holds. -/
theorem holdsOf_singleton (c : Connective) (a : α) : c.HoldsOf [a] holds ↔ holds a := by
  cases c <;> simp [HoldsOf]

end Connective

namespace Predicate

/-- How many leaves stand before the leaf at a place. -/
def Place.number : {p : Predicate} → p.Place → Nat
  | .compare _ _ _, .compare => 0
  | .between _ _ _, .between => 0
  | .and _ _, andLeft place => place.number
  | .and left _, andRight place => left.leaves.length + place.number
  | .or _ _, orLeft place => place.number
  | .or left _, orRight place => left.leaves.length + place.number
  | .paren _, paren place => place.number

/-- Truth of a predicate when its leaves are numbered on from `first` and the truth of each number
is given. -/
def TrueFrom (p : Predicate) (truth : Nat → Prop) (first : Nat) : Prop :=
  p.TrueAt fun place => truth (first + place.number)

/-- Predicates that stand one after the other, each with the number of its first leaf. -/
def numbered : (first : Nat) → List Predicate → List (Predicate × Nat)
  | _, [] => []
  | first, p :: rest => (p, first) :: numbered (first + p.leaves.length) rest

section Chains

variable {c : Connective} {p q left right : Predicate} {truth : Nat → Prop} {first : Nat}

/-! ## What is a chain -/

/-- A predicate is joined by a connective when this is what stands inside its parentheses. -/
theorem isJoinedBy_iff : p.isJoinedBy c = true ↔ ∃ left right, p.bare = c.join left right := by
  induction p with
  | compare field op value => cases c <;> simp [isJoinedBy, bare, Connective.join]
  | between field low high => cases c <;> simp [isJoinedBy, bare, Connective.join]
  | and left right _ _ => cases c <;> simp [isJoinedBy, bare, Connective.join]
  | or left right _ _ => cases c <;> simp [isJoinedBy, bare, Connective.join]
  | paren inner ih => exact ih

/-- The operands of two joined predicates are those of the first and then those of the second. -/
theorem operands_join (c : Connective) (left right : Predicate) :
    (c.join left right).operands c = left.operands c ++ right.operands c := by
  cases c <;> rfl

/-- Parentheses around a chain are passed through. -/
theorem operands_bare (joined : p.isJoinedBy c = true) : p.operands c = p.bare.operands c := by
  induction p with
  | paren inner ih =>
    have joined : inner.isJoinedBy c = true := joined
    rw [operands, if_pos joined, bare, ih joined]
  | _ => rfl

/-- What is no chain is its only operand, with the parentheses around it. -/
theorem operands_of_not_isJoinedBy (other : p.isJoinedBy c = false) : p.operands c = [p] := by
  cases p with
  | compare field op value => rfl
  | between field low high => rfl
  | and left right =>
    cases c with
    | and => cases other
    | or => rfl
  | or left right =>
    cases c with
    | and => rfl
    | or => cases other
  | paren inner =>
    have other : inner.isJoinedBy c = false := other
    rw [operands, other, if_neg Bool.false_ne_true]

/-- A predicate is a chain, with the operands of its two sides, or it is its only operand. -/
theorem operands_eq (c : Connective) (p : Predicate) :
    (∃ left right, p.bare = c.join left right ∧
      p.operands c = left.operands c ++ right.operands c) ∨
      (∀ left right, p.bare ≠ c.join left right) ∧ p.operands c = [p] := by
  by_cases joined : p.isJoinedBy c = true
  · obtain ⟨left, right, chain⟩ := isJoinedBy_iff.mp joined
    refine .inl ⟨left, right, chain, ?_⟩
    rw [operands_bare joined, chain, operands_join]
  · refine .inr ⟨fun left right chain => joined (isJoinedBy_iff.mpr ⟨left, right, chain⟩), ?_⟩
    exact operands_of_not_isJoinedBy (by simpa using joined)

/-- A predicate without its parentheses is not larger. -/
theorem sizeOf_bare_le (p : Predicate) : sizeOf p.bare ≤ sizeOf p := by
  induction p with
  | paren inner ih => exact Nat.le_trans ih (by simp)
  | _ => exact Nat.le_refl _

/-- Both sides are smaller than what they are joined to. -/
theorem sizeOf_lt_join (c : Connective) (left right : Predicate) :
    sizeOf left < sizeOf (c.join left right) ∧ sizeOf right < sizeOf (c.join left right) := by
  cases c <;> simp [Connective.join] <;> omega

/-- What passes from the two sides of a chain to the chain, and holds of all that is no chain,
holds of every predicate. -/
theorem chain_induction (c : Connective) {motive : Predicate → Prop}
    (chain : ∀ p left right, p.bare = c.join left right →
      p.operands c = left.operands c ++ right.operands c → motive left → motive right → motive p)
    (other : ∀ p, (∀ left right, p.bare ≠ c.join left right) → p.operands c = [p] → motive p)
    (p : Predicate) : motive p := by
  rcases operands_eq c p with ⟨left, right, joined, operands⟩ | ⟨noChain, operands⟩
  · have within := sizeOf_bare_le p
    rw [joined] at within
    have smallerLeft : sizeOf left < sizeOf p :=
      Nat.lt_of_lt_of_le (sizeOf_lt_join c left right).1 within
    have smallerRight : sizeOf right < sizeOf p :=
      Nat.lt_of_lt_of_le (sizeOf_lt_join c left right).2 within
    exact chain p left right joined operands (chain_induction c chain other left)
      (chain_induction c chain other right)
  · exact other p noChain operands
termination_by sizeOf p

/-! ## What operands are -/

/-- Every predicate has an operand. -/
theorem operands_ne_nil (c : Connective) (p : Predicate) : p.operands c ≠ [] := by
  induction p using chain_induction c with
  | chain p left right _ operands ihLeft _ =>
    rw [operands]
    exact List.append_ne_nil_of_left_ne_nil ihLeft _
  | other p _ operands =>
    rw [operands]
    exact List.cons_ne_nil p []

/-- No operand is a chain of the same connective, whatever parentheses are around it. -/
theorem bare_ne_join_of_mem_operands (member : q ∈ p.operands c) (left right : Predicate) :
    q.bare ≠ c.join left right := by
  induction p using chain_induction c with
  | chain p _ _ _ operands ihLeft ihRight =>
    rw [operands] at member
    exact (List.mem_append.mp member).elim ihLeft ihRight
  | other p noChain operands =>
    rw [operands] at member
    cases List.mem_singleton.mp member
    exact noChain left right

/-- A chain has an operand from each of its sides. -/
theorem two_le_length_operands (chain : p.bare = c.join left right) :
    2 ≤ (p.operands c).length := by
  rcases operands_eq c p with ⟨left, right, _, operands⟩ | ⟨noChain, _⟩
  · have onLeft := List.length_pos_of_ne_nil (operands_ne_nil c left)
    have onRight := List.length_pos_of_ne_nil (operands_ne_nil c right)
    rw [operands, List.length_append]
    omega
  · exact absurd chain (noChain left right)

/-! ## Truth by numbers -/

/-- A leaf stands at its number in the sequence of leaves. -/
theorem getElem?_leaves_number (place : p.Place) : p.leaves[place.number]? = some place.leaf := by
  have onLeft {l r : Predicate} {place : l.Place} (ih : l.leaves[place.number]? = some place.leaf) :
      (l.leaves ++ r.leaves)[place.number]? = some place.leaf := by
    obtain ⟨inside, _⟩ := List.getElem?_eq_some_iff.mp ih
    rw [List.getElem?_append_left inside, ih]
  have onRight {l r : Predicate} {place : r.Place}
      (ih : r.leaves[place.number]? = some place.leaf) :
      (l.leaves ++ r.leaves)[l.leaves.length + place.number]? = some place.leaf := by
    rw [List.getElem?_append_right (Nat.le_add_right ..), Nat.add_sub_cancel_left, ih]
  induction place with
  | compare => rfl
  | between => rfl
  | andLeft _ ih => exact onLeft ih
  | andRight _ ih => exact onRight ih
  | orLeft _ ih => exact onLeft ih
  | orRight _ ih => exact onRight ih
  | paren _ ih => exact ih

/-- Parentheses change neither the numbering of the leaves nor the truth. -/
theorem trueFrom_bare (p : Predicate) : p.bare.TrueFrom truth first ↔ p.TrueFrom truth first := by
  induction p with
  | paren inner ih => exact ih
  | _ => exact Iff.rfl

/-- The leaves of the right side are numbered on from those of the left side. -/
theorem trueFrom_join (c : Connective) (left right : Predicate) :
    (c.join left right).TrueFrom truth first ↔
      c.Joins (left.TrueFrom truth first) (right.TrueFrom truth (first + left.leaves.length)) := by
  unfold TrueFrom
  simp only [Nat.add_assoc]
  cases c <;> exact Iff.rfl

/-- The leaves of two lists are numbered on from the first to the second. -/
theorem numbered_append (ps qs : List Predicate) :
    numbered first (ps ++ qs) =
      numbered first ps ++ numbered (first + (ps.flatMap leaves).length) qs := by
  induction ps generalizing first with
  | nil => rfl
  | cons p ps ih =>
    rw [List.cons_append, numbered, numbered, ih, List.flatMap_cons, List.length_append,
      Nat.add_assoc, List.cons_append]

/-- A predicate is true exactly when its connective holds of its operands, with the leaves
numbered through. -/
theorem trueFrom_iff_holdsOf (c : Connective) (p : Predicate) :
    p.TrueFrom truth first ↔
      c.HoldsOf (numbered first (p.operands c)) fun o => o.1.TrueFrom truth o.2 := by
  induction p using chain_induction c generalizing first with
  | chain p left right joined operands ihLeft ihRight =>
    rw [← trueFrom_bare, joined, trueFrom_join, ihLeft, ihRight, operands, numbered_append,
      flatMap_leaves_operands, Connective.holdsOf_append]
  | other p _ operands =>
    rw [operands, numbered, numbered, Connective.holdsOf_singleton]

end Chains

/-- Flattening by a connective yields at least one operand, at least two for a chain, and none that
is itself a chain, whatever parentheses are around it. The operands have the leaves of the
predicate as they stand, and for any truth of these leaves, given by their numbers, the predicate
is true exactly when all operands are (AND) or one of them is (OR). -/
theorem operands_faithful (c : Connective) (p : Predicate) :
    p.operands c ≠ [] ∧
      ((∃ left right, p.bare = c.join left right) → 2 ≤ (p.operands c).length) ∧
      (∀ q ∈ p.operands c, ∀ left right, q.bare ≠ c.join left right) ∧
      (p.operands c).flatMap leaves = p.leaves ∧
      (∀ place : p.Place, p.leaves[place.number]? = some place.leaf) ∧
      ∀ truth : Nat → Prop, (p.TrueAt fun place => truth place.number) ↔
        c.HoldsOf (numbered 0 (p.operands c)) fun o => o.1.TrueFrom truth o.2 := by
  refine ⟨p.operands_ne_nil c, ?_, fun _ => bare_ne_join_of_mem_operands,
    flatMap_leaves_operands c p, getElem?_leaves_number, fun truth => ?_⟩
  · rintro ⟨left, right, chain⟩
    exact two_le_length_operands chain
  · rw [← trueFrom_iff_holdsOf]
    simp only [TrueFrom, Nat.zero_add]

end Predicate

end FederatedSearch
