import FederatedSearch.Proofs.Document.Faithfulness
import FederatedSearch.Proofs.Query.Specialization
import FederatedSearch.Proofs.Query.Splitting

/-!
# Split queries find what the whole query finds

A source without AND, OR and IN runs one query for each part of a disjunction. Both ways start
from the predicate that the source sees and end with its own field names. A predicate has a
filter exactly when each of its leaves has (`exists_filterOf_iff`), so that the parts compile when
the whole does, and their filters together pass the records that the whole passes.
-/

namespace FederatedSearch

namespace Document

/-- A record is selected by a query that compiles to an accepted filter which it passes. -/
def Selects (q : FederatedSearch.Query) (record : Record) : Prop :=
  ∃ compiled filter, compile q = .ok compiled ∧ Filter.ofJson compiled.filter = .ok filter ∧
    filter.matches record = true

/-! ## Which predicates have filters -/

/-- A predicate has a filter exactly when each of its leaves has. -/
theorem exists_filterOf_iff (p : Predicate) :
    (∃ filter, filterOf p = .ok filter) ↔
      ∀ leaf ∈ p.leaves, ∃ filter, filterOf leaf = .ok filter := by
  induction p using filterOf.induct with
  | case1 left right ih =>
    rw [filterOf_and, ← Predicate.flatMap_leaves_operands .and]
    simp only [bind_eq_ok_iff, pure_eq_ok_iff, exists_comm (α := Json), exists_and_left,
      exists_eq', and_true, exists_mapM_eq_ok_iff, List.forall_mem_flatMap]
    exact forall₂_congr ih
  | case2 left right ih =>
    rw [filterOf_or, ← Predicate.flatMap_leaves_operands .or]
    simp only [bind_eq_ok_iff, pure_eq_ok_iff, exists_comm (α := Json), exists_and_left,
      exists_eq', and_true, exists_mapM_eq_ok_iff, List.forall_mem_flatMap]
    exact forall₂_congr ih
  | case3 inner ih =>
    rw [filterOf, Predicate.leaves]
    exact ih
  | case4 field low high => simp [Predicate.leaves]
  | case5 field op value => simp [Predicate.leaves]

/-- When membership in a list has a filter, so has equality with each of its items. -/
theorem exists_filterOf_item {field : String} {values : List Literal} {filter : Json}
    (compiled : filterOf (.compare field .isIn (.list values)) = .ok filter) :
    ∀ v ∈ values, ∃ filter, filterOf (.compare field .eq v) = .ok filter := by
  rw [filterOf] at compiled
  obtain ⟨_, written, _⟩ := bind_eq_ok_iff.mp compiled
  obtain ⟨scalars, taken, _⟩ := bind_eq_ok_iff.mp written
  intro v member
  obtain ⟨s, scalar⟩ := exists_mapM_eq_ok_iff.mp ⟨scalars, taken⟩ v member
  refine ⟨single field s.toJson, ?_⟩
  rw [filterOf, comparison, isExists_of_scalar scalar]
  simp [condition, scalar, bind, Except.bind, pure, Except.pure]

/-- When a predicate has a filter, so has each of its unpacked leaves. -/
theorem exists_filterOf_of_mem_unpackedLeaves {p q : Predicate} {filter : Json}
    (compiled : filterOf p = .ok filter) (member : q ∈ p.unpackedLeaves) :
    ∃ filter, filterOf q = .ok filter := by
  obtain ⟨leaf, inside, member⟩ := List.mem_flatMap.mp member
  obtain ⟨written, compiled⟩ := (exists_filterOf_iff p).mp ⟨filter, compiled⟩ leaf inside
  rcases Predicate.mem_unpacked member with rfl | ⟨field, values, rfl, v, item, rfl⟩
  · exact ⟨written, compiled⟩
  · exact exists_filterOf_item compiled v item

/-! ## Whole and parts -/

section Parts

variable {q : FederatedSearch.Query} {table : Renaming} {p part : Predicate}
  {parts : List Predicate}

/-- The leaves of a renamed part are unpacked leaves of the renamed whole. -/
theorem leaves_subset_of_mem_mapFields (splits : p.SplitsInto parts) (member : part ∈ parts)
    (f : String → String) : (part.mapFields f).leaves ⊆ (p.mapFields f).unpackedLeaves := by
  rw [Predicate.leaves_mapFields, Predicate.unpackedLeaves_mapFields]
  exact List.map_subset _ (splits.leaves_subset member)

/-- A renamed part has a filter when the renamed whole has. -/
theorem exists_filterOf_part (splits : p.SplitsInto parts) (member : part ∈ parts)
    {f : String → String} {filter : Json} (compiled : filterOf (p.mapFields f) = .ok filter) :
    ∃ filter, filterOf (part.mapFields f) = .ok filter := by
  refine (exists_filterOf_iff _).mpr fun leaf inside => ?_
  have unpacked := leaves_subset_of_mem_mapFields splits member f inside
  exact exists_filterOf_of_mem_unpackedLeaves compiled unpacked

/-- A renamed part speaks of no other fields than the renamed whole. -/
theorem fields_subset_of_mem_mapFields (splits : p.SplitsInto parts) (member : part ∈ parts)
    (f : String → String) : (part.mapFields f).fields ⊆ (p.mapFields f).fields := by
  rw [Predicate.fields_eq_flatMap_leaves (part.mapFields f)]
  intro field named
  obtain ⟨leaf, inside, named⟩ := List.mem_flatMap.mp named
  have unpacked := leaves_subset_of_mem_mapFields splits member f inside
  exact Predicate.fields_subset_of_mem_unpackedLeaves unpacked named

/-- A renamed whole holds for exactly the records that one of its renamed parts holds for. -/
theorem holds_iff_exists_part (splits : p.SplitsInto parts) (f : String → String)
    (record : Record) :
    (p.mapFields f).Holds record ↔ ∃ part ∈ parts, (part.mapFields f).Holds record := by
  have lists : Predicate.ListsAreEqualities fun leaf => (leaf.mapFields f).LeafHolds record :=
    fun _ _ => Iff.rfl
  simp only [Predicate.Holds, Predicate.trueUnder_mapFields]
  exact splits.trueUnder_iff lists

end Parts

/-- A query compiles when its predicate has a filter. -/
theorem compile_of_filterOf {q : FederatedSearch.Query} {filter : Json}
    (predicate : filterOf q.predicate = .ok filter) :
    compile q = .ok ⟨filter, q.orderBy.map SortKey.ofQuery, q.offset, q.rowcount⟩ := by
  rw [compile, predicate]
  rfl

/-- A query with a filter selects the records that its predicate holds for, unless one of its
fields looks like an operator. -/
theorem selects_iff_holds {q : FederatedSearch.Query} {filter : Json}
    (predicate : filterOf q.predicate = .ok filter)
    (unreserved : ∀ field ∈ q.predicate.fields, field.toList.head? ≠ some '$') (record : Record) :
    Selects q record ↔ q.predicate.Holds record := by
  obtain ⟨accepted, read, agrees⟩ := decides_filterOf q.predicate unreserved predicate
  have compiled := compile_of_filterOf predicate
  rw [← agrees record]
  constructor
  · rintro ⟨_, other, same, readOther, passed⟩
    cases compiled.symm.trans same
    cases read.symm.trans readOther
    exact passed
  · intro passed
    exact ⟨_, accepted, compiled, read, passed⟩

/-- The queries for the parts of a disjunction compile when the query for the whole does, ask for
the same page in the same order, and together select the records that the whole selects. -/
theorem matches_iff_exists_selects (q : FederatedSearch.Query) (hasDatetime : Bool)
    (table : Renaming) {whole : FederatedSearch.Query} {parts : List FederatedSearch.Query}
    {compiled : Query} (taken : q.specialize ⟨hasDatetime, table, false⟩ = .ok parts)
    (kept : q.specialize ⟨hasDatetime, table, true⟩ = .ok [whole])
    (written : compile whole = .ok compiled)
    (unreserved : ∀ field ∈ whole.predicate.fields, field.toList.head? ≠ some '$') :
    (∀ part ∈ parts, ∃ compiledPart accepted, compile part = .ok compiledPart ∧
        Filter.ofJson compiledPart.filter = .ok accepted ∧ part.orderBy = whole.orderBy ∧
        part.offset = whole.offset ∧ part.rowcount = whole.rowcount) ∧
      ∃ accepted, Filter.ofJson compiled.filter = .ok accepted ∧ ∀ record : Record,
        accepted.matches record = true ↔ ∃ part ∈ parts, Selects part record := by
  obtain ⟨p, visible, rfl⟩ := Query.specialize_native_eq_ok_iff.mp kept
  obtain ⟨p', visible', ps, split, rfl⟩ := Query.specialize_split_eq_ok_iff.mp taken
  cases visible.symm.trans visible'
  have splits := Predicate.splitsInto_of_split split
  obtain ⟨filter, predicate, rest⟩ := bind_eq_ok_iff.mp written
  cases rest
  rw [Query.predicate_adapted] at predicate unreserved
  have filters : ∀ part ∈ ps, ∃ filter, filterOf (q.adapted table part).predicate = .ok filter := by
    intro part member
    rw [Query.predicate_adapted]
    exact exists_filterOf_part splits member predicate
  have unreservedPart : ∀ part ∈ ps, ∀ field ∈ (q.adapted table part).predicate.fields,
      field.toList.head? ≠ some '$' := by
    intro part member field named
    rw [Query.predicate_adapted] at named
    exact unreserved field (fields_subset_of_mem_mapFields splits member _ named)
  refine ⟨List.forall_mem_map.mpr fun part member => ?_, ?_⟩
  · obtain ⟨filter, predicate⟩ := filters part member
    obtain ⟨accepted, read, _⟩ := decides_filterOf _ (unreservedPart part member) predicate
    exact ⟨_, accepted, compile_of_filterOf predicate, read, rfl, rfl, rfl⟩
  · obtain ⟨accepted, read, agrees⟩ := decides_filterOf _ unreserved predicate
    refine ⟨accepted, read, fun record => ?_⟩
    rw [agrees record, holds_iff_exists_part splits]
    simp only [List.mem_map, exists_exists_and_eq_and]
    refine exists_congr fun part => and_congr_right fun member => ?_
    obtain ⟨filter, predicate⟩ := filters part member
    rw [selects_iff_holds predicate (unreservedPart part member), Query.predicate_adapted]

/-- A list inside a chain, with a time range on its left and a renamed field: three queries stand
for one. -/
theorem matches_iff_exists_selects_list :
    let range : Predicate := .between "datetime" (.string "a") (.string "b")
    let p : Predicate := .and range
      (.paren (.or (.compare "ip" .isIn (.list [.integer 1, .integer 2]))
        (.compare "name" .eq (.column "exist"))))
    let q : FederatedSearch.Query := ⟨"d", p, [⟨"ip", true⟩], 3, 7⟩
    ∃ whole compiled first second third,
      q.specialize ⟨true, [("ip", "addr")], false⟩ = .ok [first, second, third] ∧
      q.specialize ⟨true, [("ip", "addr")], true⟩ = .ok [whole] ∧
      compile whole = .ok compiled ∧
      (∀ field ∈ whole.predicate.fields, field.toList.head? ≠ some '$') ∧
      ∃ accepted, Filter.ofJson compiled.filter = .ok accepted ∧ ∀ record : Record,
        accepted.matches record = true ↔
          ∃ part ∈ [first, second, third], Selects part record := by
  intro range p q
  have taken : ∃ first second third,
      q.specialize ⟨true, [("ip", "addr")], false⟩ = .ok [first, second, third] := ⟨_, _, _, rfl⟩
  have kept : q.specialize ⟨true, [("ip", "addr")], true⟩ =
      .ok [q.adapted [("ip", "addr")] p] := rfl
  have written : ∃ compiled, compile (q.adapted [("ip", "addr")] p) = .ok compiled := by
    rw [compile, Query.predicate_adapted]
    simp [p, range, Predicate.mapFields, Renaming.apply, filterOf, comparison, condition,
      Document.range, Predicate.operands, Predicate.isJoinedBy, Literal.isExists, Literal.scalar,
      Literal.scalars, existsName, bind, Except.bind, pure, Except.pure]
  have unreserved : ∀ field ∈ (q.adapted [("ip", "addr")] p).predicate.fields,
      field.toList.head? ≠ some '$' := by
    rw [Query.predicate_adapted]
    simp [p, range, Predicate.mapFields, Renaming.apply, Predicate.fields]
  obtain ⟨first, second, third, taken⟩ := taken
  obtain ⟨compiled, written⟩ := written
  exact ⟨_, compiled, first, second, third, taken, kept, written, unreserved,
    (matches_iff_exists_selects q true _ taken kept written unreserved).2⟩

end Document

end FederatedSearch
