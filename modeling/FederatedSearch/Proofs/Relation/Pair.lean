import FederatedSearch.Proofs.Json.Equality
import FederatedSearch.Relation.Collector

/-!
# What tells relations apart

Relations with one key and equal attributes on both nodes and on the edge are alike, whatever
else they carry. Likeness is an equivalence, and `RelationPair` is what is left of relations when
alike ones are taken for one.
-/

namespace FederatedSearch

namespace GraphRelation

/-- Attributes are equal to themselves. -/
theorem attributesEqual_refl (a : Option Json.Members) : attributesEqual a a = true := by
  cases a with
  | none => rfl
  | some members => exact Json.equalMembers_refl members

/-- Which of two attributes come first does not matter. -/
theorem attributesEqual_comm (a b : Option Json.Members) :
    attributesEqual a b = attributesEqual b a := by
  cases a <;> cases b <;> first | rfl | exact Json.equalMembers_comm _ _

/-- Attributes equal to third ones are equal to each other. -/
theorem attributesEqual_trans {a b c : Option Json.Members} (first : attributesEqual a b = true)
    (second : attributesEqual b c = true) : attributesEqual a c = true := by
  cases a with
  | none =>
    cases b with
    | none => exact second
    | some => cases first
  | some as =>
    cases b with
    | none => cases first
    | some bs =>
      cases c with
      | none => cases second
      | some cs => exact Json.equalMembers_trans as first second

/-- A relation has the attributes it has. -/
theorem sameAttributes_refl (r : GraphRelation) : r.sameAttributes r = true := by
  rw [sameAttributes, attributesEqual_refl, attributesEqual_refl, attributesEqual_refl]
  rfl

/-- Which of two relations comes first does not matter. -/
theorem sameAttributes_comm (r s : GraphRelation) : r.sameAttributes s = s.sameAttributes r := by
  rw [sameAttributes, sameAttributes, attributesEqual_comm r.fromNode.attributes,
    attributesEqual_comm r.toNode.attributes, attributesEqual_comm r.edgeAttributes]

/-- Relations with the attributes of a third one have the attributes of each other. -/
theorem sameAttributes_trans {r s t : GraphRelation} (first : r.sameAttributes s = true)
    (second : s.sameAttributes t = true) : r.sameAttributes t = true := by
  simp only [sameAttributes, Bool.and_eq_true] at first second ⊢
  obtain ⟨⟨source, target⟩, edge⟩ := first
  obtain ⟨⟨source', target'⟩, edge'⟩ := second
  exact ⟨⟨attributesEqual_trans source source', attributesEqual_trans target target'⟩,
    attributesEqual_trans edge edge'⟩

end GraphRelation

/-- A relation together with its key. -/
abbrev KeyedRelation := RelationKey × GraphRelation

namespace KeyedRelation

/-- Two relations are alike when they have one key and the same attributes. -/
def Alike (a b : KeyedRelation) : Prop :=
  a.1 = b.1 ∧ a.2.sameAttributes b.2 = true

instance (a b : KeyedRelation) : Decidable (a.Alike b) :=
  inferInstanceAs (Decidable (a.1 = b.1 ∧ a.2.sameAttributes b.2 = true))

/-- Likeness is an equivalence. -/
def alike : Setoid KeyedRelation where
  r := Alike
  iseqv := {
    refl := fun a => ⟨rfl, a.2.sameAttributes_refl⟩
    symm := fun {a b} same => ⟨same.1.symm, a.2.sameAttributes_comm b.2 ▸ same.2⟩
    trans := fun first second =>
      ⟨first.1.trans second.1, GraphRelation.sameAttributes_trans first.2 second.2⟩ }

end KeyedRelation

/-- A key with the attributes of both nodes and of the edge, up to equality of values. -/
def RelationPair := Quotient KeyedRelation.alike

instance : DecidableEq RelationPair :=
  @Quotient.decidableEq _ KeyedRelation.alike fun a b => inferInstanceAs (Decidable (a.Alike b))

/-- What tells a relation apart. -/
def KeyedRelation.pair (e : KeyedRelation) : RelationPair :=
  Quotient.mk KeyedRelation.alike e

/-- Relations are taken for one exactly when they are alike. -/
theorem KeyedRelation.pair_eq_iff {a b : KeyedRelation} : a.pair = b.pair ↔ a.Alike b :=
  ⟨Quotient.exact, Quotient.sound (s := KeyedRelation.alike)⟩

end FederatedSearch
