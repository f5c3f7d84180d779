import FederatedSearch.Proofs.Relation.Collecting
import Mathlib.Data.List.Pairwise
import Mathlib.Tactic.MkIffOfInductiveProp

/-!
# Relations without repetition

Two relations are equal when they show the same nodes, the same edge and the same source. A
collector refuses a relation for its key and its attributes, and a key names the fields that the
nodes come from, which a relation does not show. So a collector holds no two equal relations
exactly when it holds no equal ones under different keys (`Consistent.allDistinct_iff`).
-/

namespace FederatedSearch

/-- Nodes that are equal, with ids and attributes that are equal as values. -/
@[mk_iff]
structure GraphNode.Equal (m n : GraphNode) : Prop where
  id : m.id.equal n.id = true
  group : m.group = n.group
  search : m.search = n.search
  label : m.label = n.label
  attributes : GraphRelation.attributesEqual m.attributes n.attributes = true

instance (m n : GraphNode) : Decidable (m.Equal n) :=
  decidable_of_iff' _ (GraphNode.equal_iff m n)

/-- Relations that are equal: in their nodes, in their source, and in their edges, which have the
same label and equal attributes if there are any. -/
@[mk_iff]
structure GraphRelation.Equal (r s : GraphRelation) : Prop where
  fromNode : r.fromNode.Equal s.fromNode
  toNode : r.toNode.Equal s.toNode
  label : r.edge.map GraphEdge.label = s.edge.map GraphEdge.label
  edgeAttributes : attributesEqual r.edgeAttributes s.edgeAttributes = true
  source : r.source = s.source

instance (r s : GraphRelation) : Decidable (r.Equal s) :=
  decidable_of_iff' _ (GraphRelation.equal_iff r s)

namespace GraphNode

/-- A node is equal to itself. -/
theorem Equal.refl (n : GraphNode) : n.Equal n :=
  ⟨Json.equal_refl _, rfl, rfl, rfl, GraphRelation.attributesEqual_refl _⟩

/-- Which of two nodes comes first does not matter. -/
theorem Equal.symm {m n : GraphNode} (equal : m.Equal n) : n.Equal m where
  id := Json.equal_comm m.id n.id ▸ equal.id
  group := equal.group.symm
  search := equal.search.symm
  label := equal.label.symm
  attributes := GraphRelation.attributesEqual_comm m.attributes n.attributes ▸ equal.attributes

end GraphNode

namespace GraphRelation

/-- A relation is equal to itself. -/
theorem Equal.refl (r : GraphRelation) : r.Equal r :=
  ⟨.refl _, .refl _, rfl, attributesEqual_refl _, rfl⟩

/-- Which of two relations comes first does not matter. -/
theorem Equal.symm {r s : GraphRelation} (equal : r.Equal s) : s.Equal r where
  fromNode := equal.fromNode.symm
  toNode := equal.toNode.symm
  label := equal.label.symm
  edgeAttributes := attributesEqual_comm r.edgeAttributes s.edgeAttributes ▸ equal.edgeAttributes
  source := equal.source.symm

/-- Equal relations have the same attributes. -/
theorem Equal.sameAttributes {r s : GraphRelation} (equal : r.Equal s) :
    r.sameAttributes s = true := by
  rw [GraphRelation.sameAttributes, equal.fromNode.attributes, equal.toNode.attributes,
    equal.edgeAttributes]
  rfl

/-- No two of the relations are equal. -/
def AllDistinct (relations : List GraphRelation) : Prop :=
  relations.Pairwise fun r s => ¬ r.Equal s

instance (relations : List GraphRelation) : Decidable (AllDistinct relations) :=
  inferInstanceAs (Decidable (relations.Pairwise fun r s => ¬ r.Equal s))

end GraphRelation

open GraphRelation

namespace Collector

variable {c : Collector}

/-- Equal relations are held under one key. -/
def KeysAgree (c : Collector) : Prop :=
  ∀ a ∈ c.entries, ∀ b ∈ c.entries, a.2.Equal b.2 → a.1 = b.1

instance (c : Collector) : Decidable c.KeysAgree :=
  inferInstanceAs (Decidable (∀ a ∈ c.entries, ∀ b ∈ c.entries, a.2.Equal b.2 → a.1 = b.1))

/-- Of the relations that a collector holds, no two are equal exactly when equal ones have one
key. -/
theorem Consistent.allDistinct_iff (consistent : c.Consistent) :
    AllDistinct c.relations ↔ c.KeysAgree := by
  rw [AllDistinct, consistent.relations_eq, List.pairwise_map]
  constructor
  · intro distinct a memberA b memberB equal
    have : Std.Symm fun a b : KeyedRelation => ¬ a.2.Equal b.2 :=
      ⟨fun _ _ different equal => different equal.symm⟩
    by_contra keys
    exact distinct.forall memberA memberB (ne_of_apply_ne Prod.fst keys) equal
  · intro agree
    refine (List.pairwise_map.mp consistent.distinct).imp_of_mem fun {a b} memberA memberB different equal => different ?_
    exact KeyedRelation.pair_eq_iff.mpr ⟨agree a memberA b memberB equal, equal.sameAttributes⟩

end Collector

end FederatedSearch
