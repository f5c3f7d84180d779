import FederatedSearch.Proofs.Query.Renaming
import FederatedSearch.Proofs.Success
import FederatedSearch.Query.Specialization

/-!
# What splitting keeps

A disjunction is taken apart into its leaves, with each list of values unpacked in place
(`disjuncts_eq_ok_iff`), and a predicate can be split when it is a disjunction or joins one to a
range (`split_eq_ok_iff`). Hence a predicate that can be split is true exactly when one of its
parts is, as long as membership in a list means equality with one of its items
(`SplitsInto.trueUnder_iff`), and the parts are made of unpacked leaves of the predicate
(`SplitsInto.leaves_subset`).
-/

namespace FederatedSearch

namespace Predicate

/-- The equalities that a comparison with a list stands for. Any other predicate is left alone. -/
def unpacked : Predicate → List Predicate
  | compare field .isIn (.list values) => values.map (compare field .eq)
  | p => [p]

/-- The leaves of a predicate, with each list of values unpacked in place. -/
def unpackedLeaves (p : Predicate) : List Predicate :=
  p.leaves.flatMap unpacked

/-- A disjunction of equalities, some of them given as lists, under any parentheses. -/
def IsDisjunction : Predicate → Prop
  | or left right => left.IsDisjunction ∧ right.IsDisjunction
  | paren inner => inner.IsDisjunction
  | compare _ .eq _ => True
  | compare _ .isIn (.list _) => True
  | _ => False

@[simp] theorem unpackedLeaves_and (left right : Predicate) :
    (and left right).unpackedLeaves = left.unpackedLeaves ++ right.unpackedLeaves :=
  List.flatMap_append

@[simp] theorem unpackedLeaves_or (left right : Predicate) :
    (or left right).unpackedLeaves = left.unpackedLeaves ++ right.unpackedLeaves :=
  List.flatMap_append

@[simp] theorem unpackedLeaves_paren (inner : Predicate) :
    (paren inner).unpackedLeaves = inner.unpackedLeaves := rfl

@[simp] theorem unpackedLeaves_between (field : String) (low high : Literal) :
    (between field low high).unpackedLeaves = [between field low high] := rfl

@[simp] theorem unpackedLeaves_compare (field : String) (op : CompareOp) (value : Literal) :
    (compare field op value).unpackedLeaves = (compare field op value).unpacked :=
  List.flatMap_singleton ..

/-- Unpacking leaves a predicate alone, or yields equalities with the items of a list. -/
theorem mem_unpacked {p q : Predicate} (member : q ∈ p.unpacked) :
    q = p ∨ ∃ field values, p = compare field .isIn (.list values) ∧
      ∃ v ∈ values, q = compare field .eq v := by
  unfold unpacked at member
  split at member
  · obtain ⟨v, item, rfl⟩ := List.mem_map.mp member
    exact .inr ⟨_, _, rfl, v, item, rfl⟩
  · exact .inl (List.mem_singleton.mp member)

/-- What has been unpacked is a leaf. -/
theorem leaves_of_mem_unpackedLeaves {p q : Predicate} (member : q ∈ p.unpackedLeaves) :
    q.leaves = [q] := by
  obtain ⟨leaf, inside, member⟩ := List.mem_flatMap.mp member
  rcases mem_unpacked member with rfl | ⟨_, _, rfl, _, _, rfl⟩
  · exact leaves_of_mem_leaves inside
  · rfl

/-- Unpacked leaves speak of no other fields than the predicate. -/
theorem fields_subset_of_mem_unpackedLeaves {p q : Predicate} (member : q ∈ p.unpackedLeaves) :
    q.fields ⊆ p.fields := by
  obtain ⟨leaf, inside, member⟩ := List.mem_flatMap.mp member
  have same : q.fields = leaf.fields := by
    rcases mem_unpacked member with rfl | ⟨_, _, rfl, _, _, rfl⟩ <;> rfl
  intro field named
  rw [fields_eq_flatMap_leaves p]
  exact List.mem_flatMap.mpr ⟨leaf, inside, same ▸ named⟩

/-- Substitution goes through lists of values. -/
theorem unpacked_mapFields (f : String → String) (p : Predicate) :
    (p.mapFields f).unpacked = p.unpacked.map (mapFields f) := by
  cases p with
  | compare field op value =>
    unfold unpacked mapFields
    split <;> split <;> simp_all [mapFields]
  | between field low high => rfl
  | and left right => rfl
  | or left right => rfl
  | paren inner => rfl

/-- Replacing the names and unpacking may be exchanged. -/
theorem unpackedLeaves_mapFields (f : String → String) (p : Predicate) :
    (p.mapFields f).unpackedLeaves = p.unpackedLeaves.map (mapFields f) := by
  rw [unpackedLeaves, unpackedLeaves, leaves_mapFields, List.flatMap_map, List.map_flatMap]
  simp only [unpacked_mapFields]

/-! ## Disjunctions -/

/-- A predicate is taken apart exactly when it is a disjunction, and then into its leaves. -/
theorem disjuncts_eq_ok_iff {p : Predicate} {parts : List Predicate} :
    p.disjuncts = .ok parts ↔ p.IsDisjunction ∧ parts = p.unpackedLeaves := by
  induction p using disjuncts.induct generalizing parts with
  | case1 left right ihLeft ihRight =>
    simp only [disjuncts, bind_eq_ok_iff, ihLeft, ihRight, pure_eq_ok_iff, IsDisjunction,
      unpackedLeaves_or]
    constructor
    · rintro ⟨_, ⟨isLeft, rfl⟩, _, ⟨isRight, rfl⟩, rfl⟩
      exact ⟨⟨isLeft, isRight⟩, rfl⟩
    · rintro ⟨⟨isLeft, isRight⟩, rfl⟩
      exact ⟨_, ⟨isLeft, rfl⟩, _, ⟨isRight, rfl⟩, rfl⟩
  | case2 inner ih =>
    rw [disjuncts, ih]
    rfl
  | case3 field value => simp [disjuncts, IsDisjunction, unpacked, eq_comm]
  | case4 field values => simp [disjuncts, IsDisjunction, unpacked, eq_comm]
  | case5 field op value notEq notList =>
    have refused : ¬ (compare field op value).IsDisjunction := by
      unfold IsDisjunction
      split <;> simp_all
    rw [disjuncts]
    · simp [refused]
    · exact notEq
    · exact notList
  | case6 field low high => simp [disjuncts, IsDisjunction]
  | case7 left right => simp [disjuncts, IsDisjunction]

/-- A predicate without the parentheses around it. -/
def bare : Predicate → Predicate
  | paren inner => inner.bare
  | p => p

/-- A disjunction and a range of the time field, joined by AND in either order. -/
structure JoinsDisjunction (p d range : Predicate) : Prop where
  joined : p = and d range ∨ p = and range d
  range : range.isDatetimeRange = true
  disjunction : d.IsDisjunction

/-- A disjunction is no range. -/
theorem IsDisjunction.isDatetimeRange_eq {p : Predicate} (disjunction : p.IsDisjunction) :
    p.isDatetimeRange = false := by
  cases p <;> first | rfl | exact disjunction.elim

/-- The parts of a disjunction that is joined to a range are its unpacked leaves, each joined to
that range. -/
theorem map_disjuncts_eq_ok_iff {d range : Predicate} {parts : List Predicate} :
    d.disjuncts.map (·.map (and · range)) = .ok parts ↔
      d.IsDisjunction ∧ parts = d.unpackedLeaves.map (and · range) := by
  refine map_eq_ok_iff.trans ⟨?_, ?_⟩
  · rintro ⟨_, taken, rfl⟩
    obtain ⟨disjunction, rfl⟩ := disjuncts_eq_ok_iff.mp taken
    exact ⟨disjunction, rfl⟩
  · rintro ⟨disjunction, rfl⟩
    exact ⟨_, disjuncts_eq_ok_iff.mpr ⟨disjunction, rfl⟩, rfl⟩

/-- AND is split exactly when it joins a disjunction and a range. -/
theorem split_and_eq_ok_iff {left right : Predicate} {parts : List Predicate} :
    (and left right).split = .ok parts ↔ ∃ d range, (and left right).JoinsDisjunction d range ∧
      parts = d.unpackedLeaves.map (and · range) := by
  rw [split]
  constructor
  · intro taken
    by_cases onRight : right.isDatetimeRange = true
    · rw [if_pos onRight] at taken
      obtain ⟨disjunction, rfl⟩ := map_disjuncts_eq_ok_iff.mp taken
      exact ⟨left, right, ⟨.inl rfl, onRight, disjunction⟩, rfl⟩
    by_cases onLeft : left.isDatetimeRange = true
    · rw [if_neg onRight, if_pos onLeft] at taken
      obtain ⟨disjunction, rfl⟩ := map_disjuncts_eq_ok_iff.mp taken
      exact ⟨right, left, ⟨.inr rfl, onLeft, disjunction⟩, rfl⟩
    rw [if_neg onRight, if_neg onLeft] at taken
    cases taken
  · rintro ⟨d, r, ⟨joined, range, disjunction⟩, rfl⟩
    have taken : d.disjuncts.map (·.map (and · r)) = .ok (d.unpackedLeaves.map (and · r)) :=
      map_disjuncts_eq_ok_iff.mpr ⟨disjunction, rfl⟩
    have noRange : ¬ d.isDatetimeRange = true := by simp [disjunction.isDatetimeRange_eq]
    cases joined with
    | inl rangeRight =>
      cases rangeRight
      rw [if_pos range, taken]
    | inr rangeLeft =>
      cases rangeLeft
      rw [if_neg noRange, if_pos range, taken]

/-- A predicate is split exactly when, without the parentheses around it, it is a disjunction or
joins one to a range. The parts are the unpacked leaves of the disjunction, each joined to that
range. -/
theorem split_eq_ok_iff {p : Predicate} {parts : List Predicate} :
    p.split = .ok parts ↔ p.bare.IsDisjunction ∧ parts = p.bare.unpackedLeaves ∨
      ∃ d range, p.bare.JoinsDisjunction d range ∧ parts = d.unpackedLeaves.map (and · range) := by
  have single : ∀ {q : Predicate}, (∀ left right, q ≠ and left right) →
      (q.disjuncts = .ok parts ↔ q.IsDisjunction ∧ parts = q.unpackedLeaves ∨
        ∃ d range, q.JoinsDisjunction d range ∧ parts = d.unpackedLeaves.map (and · range)) := by
    intro q notAnd
    rw [disjuncts_eq_ok_iff]
    refine (or_iff_left ?_).symm
    rintro ⟨d, r, ⟨joined, -, -⟩, -⟩
    exact joined.elim (notAnd d r) (notAnd r d)
  induction p with
  | paren inner ih => exact ih
  | and left right _ _ =>
    rw [split_and_eq_ok_iff]
    exact (or_iff_right fun disjunction => disjunction.1.elim).symm
  | compare field op value => exact single (by rintro _ _ ⟨⟩)
  | between field low high => exact single (by rintro _ _ ⟨⟩)
  | or left right _ _ => exact single (by rintro _ _ ⟨⟩)

/-- What a predicate is split into: a disjunction into its unpacked leaves, and a disjunction with
a time range on either side into its unpacked leaves, each joined to that range. -/
inductive SplitsInto : Predicate → List Predicate → Prop
  | paren {inner : Predicate} {parts : List Predicate} (within : SplitsInto inner parts) :
    SplitsInto (paren inner) parts
  | disjunction {p : Predicate} (disjunction : p.IsDisjunction) : SplitsInto p p.unpackedLeaves
  | rangeRight {left right : Predicate} (range : right.isDatetimeRange = true)
    (disjunction : left.IsDisjunction) :
    SplitsInto (and left right) (left.unpackedLeaves.map (and · right))
  | rangeLeft {left right : Predicate} (range : left.isDatetimeRange = true)
    (disjunction : right.IsDisjunction) :
    SplitsInto (and left right) (right.unpackedLeaves.map (and · left))

/-- Parentheses around a predicate do not matter for its parts. -/
theorem SplitsInto.of_bare {p : Predicate} {parts : List Predicate}
    (splits : SplitsInto p.bare parts) : SplitsInto p parts := by
  induction p with
  | paren inner ih => exact .paren (ih splits)
  | _ => exact splits

/-- Splitting yields no other parts. -/
theorem splitsInto_of_split {p : Predicate} {parts : List Predicate}
    (taken : p.split = .ok parts) : SplitsInto p parts := by
  rcases split_eq_ok_iff.mp taken with
    ⟨disjunction, rfl⟩ | ⟨d, r, ⟨joined, range, disjunction⟩, rfl⟩
  · exact .of_bare (.disjunction disjunction)
  · rcases joined with joined | joined
    · exact .of_bare (joined ▸ .rangeRight range disjunction)
    · exact .of_bare (joined ▸ .rangeLeft range disjunction)

section Splitting

variable {leaf : Predicate → Prop}

/-- Membership in a list is equality with one of its items. -/
def ListsAreEqualities (leaf : Predicate → Prop) : Prop :=
  ∀ field values,
    leaf (compare field .isIn (.list values)) ↔ ∃ v ∈ values, leaf (compare field .eq v)

/-- A disjunction is true exactly when one of its unpacked leaves is. -/
theorem IsDisjunction.trueUnder_iff (lists : ListsAreEqualities leaf) {p : Predicate}
    (disjunction : p.IsDisjunction) :
    p.TrueUnder leaf ↔ ∃ q ∈ p.unpackedLeaves, q.TrueUnder leaf := by
  induction p using IsDisjunction.induct with
  | case1 left right ihLeft ihRight =>
    rw [trueUnder_or, ihLeft disjunction.1, ihRight disjunction.2, unpackedLeaves_or]
    simp only [List.mem_append, or_and_right, exists_or]
  | case2 inner ih => exact ih disjunction
  | case3 field value => simp [unpacked]
  | case4 field values => simp [unpacked, lists field values]
  | case5 p => simp_all [IsDisjunction]

/-- The items of a disjunction joined to a range are the disjunction joined to the range. -/
theorem exists_joined_iff {items : List Predicate} (range : Predicate) :
    (∃ part ∈ items.map (and · range), part.TrueUnder leaf) ↔
      (∃ item ∈ items, item.TrueUnder leaf) ∧ range.TrueUnder leaf := by
  simp only [List.mem_map, exists_exists_and_eq_and, trueUnder_and, ← and_assoc,
    exists_and_right]

/-- A predicate that can be split is true exactly when one of its parts is. -/
theorem SplitsInto.trueUnder_iff (lists : ListsAreEqualities leaf) {p : Predicate}
    {parts : List Predicate} (splits : SplitsInto p parts) :
    p.TrueUnder leaf ↔ ∃ part ∈ parts, part.TrueUnder leaf := by
  induction splits with
  | paren _ ih => exact ih
  | disjunction disjunction => exact disjunction.trueUnder_iff lists
  | rangeRight _ disjunction =>
    rw [exists_joined_iff, trueUnder_and, disjunction.trueUnder_iff lists]
  | rangeLeft _ disjunction =>
    rw [exists_joined_iff, trueUnder_and, disjunction.trueUnder_iff lists, and_comm]

/-- The leaves of an unpacked leaf joined to a range are that leaf and the range. -/
theorem leaves_subset_of_mem_joined {p range part : Predicate}
    (member : part ∈ p.unpackedLeaves.map (and · range)) (isRange : range.isDatetimeRange = true) :
    part.leaves ⊆ p.unpackedLeaves ++ range.unpackedLeaves := by
  obtain ⟨item, among, rfl⟩ := List.mem_map.mp member
  have single : range.leaves = range.unpackedLeaves := by
    cases range <;> first | rfl | cases isRange
  rw [leaves, leaves_of_mem_unpackedLeaves among, single]
  exact List.cons_subset.mpr ⟨List.mem_append_left _ among, List.subset_append_right ..⟩

/-- The parts that a predicate is split into are made of its unpacked leaves. -/
theorem SplitsInto.leaves_subset {p part : Predicate} {parts : List Predicate}
    (splits : SplitsInto p parts) (member : part ∈ parts) : part.leaves ⊆ p.unpackedLeaves := by
  induction splits with
  | paren _ ih => exact ih member
  | disjunction _ =>
    rw [leaves_of_mem_unpackedLeaves member]
    exact List.cons_subset.mpr ⟨member, List.nil_subset _⟩
  | rangeRight range _ =>
    rw [unpackedLeaves_and]
    exact leaves_subset_of_mem_joined member range
  | rangeLeft range _ =>
    rw [unpackedLeaves_and]
    exact List.Subset.trans (leaves_subset_of_mem_joined member range) List.perm_append_comm.subset

end Splitting

end Predicate

end FederatedSearch
