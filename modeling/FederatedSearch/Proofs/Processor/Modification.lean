import FederatedSearch.Federation.Search
import FederatedSearch.Proofs.SortedMap
import FederatedSearch.Proofs.Success
import Mathlib.Data.List.Forall2
import Mathlib.Logic.Relation

/-!
# What modifications change

A modification goes through the relations one by one, and applies all of its rules to each. It does
what modifications with one of the rules each do, one after the other, to all of the relations. What
no rule names stays as it is, and so does whatever is not of the group that the modification is
restricted to. One that fails has finished the relations before the one that it fails at, and has
not begun those after it.
-/

namespace FederatedSearch

open Modification

/-! ## What stays as it is -/

/-- What modifications leave of attributes: none comes or goes, and those that no rule names stay
as they are. -/
structure MembersKept (rules : List ReplacementRule) (old new : Json.Members) : Prop where
  sorted : SortedMap.Sorted old → SortedMap.Sorted new
  keys : ∀ key, (SortedMap.get? new key).isSome = (SortedMap.get? old key).isSome
  values : ∀ key, (∀ rule ∈ rules, rule.field ≠ key) →
    SortedMap.get? new key = SortedMap.get? old key

/-- What modifications leave of the attributes of a node or an edge, which may have none. -/
def AttributesKept (rules : List ReplacementRule) :
    Option Json.Members → Option Json.Members → Prop :=
  Option.Rel (MembersKept rules)

/-- What modifications leave of a node, in a group if they are restricted to one. -/
structure GraphNode.Kept (scope : Option String) (rules : List ReplacementRule)
    (old new : GraphNode) : Prop where
  group : new.group = old.group
  search : new.search = old.search
  label : new.label = old.label
  id : (∀ rule ∈ rules, rule.field ≠ "id") → new.id = old.id
  attributes : AttributesKept rules old.attributes new.attributes
  outside : old.isInGroup scope = false → new = old

/-- What modifications leave of an edge. -/
structure GraphEdge.Kept (rules : List ReplacementRule) (old new : GraphEdge) : Prop where
  label : new.label = old.label
  attributes : AttributesKept rules old.attributes new.attributes

/-- What modifications leave of a relation. Those that are restricted to a group leave all of its
edge. -/
structure GraphRelation.Kept (scope : Option String) (rules : List ReplacementRule)
    (old new : GraphRelation) : Prop where
  source : new.source = old.source
  fromNode : old.fromNode.Kept scope rules new.fromNode
  toNode : old.toNode.Kept scope rules new.toNode
  edge : Option.Rel (GraphEdge.Kept rules) old.edge new.edge
  outside : scope.isSome = true → new.edge = old.edge

section Kept

variable {scope : Option String} {rules : List ReplacementRule} {rule : ReplacementRule}

/-- A reflexive relation stays one on optional values. -/
theorem optionRel_refl {α : Type} {R : α → α → Prop} (each : ∀ a, R a a) (o : Option α) :
    Option.Rel R o o := by
  cases o with
  | none => exact .none
  | some a => exact .some (each a)

/-- A transitive relation stays one on optional values. -/
theorem optionRel_trans {α : Type} {R : α → α → Prop} {o p q : Option α}
    (each : ∀ a b c, R a b → R b c → R a c) (first : Option.Rel R o p) (second : Option.Rel R p q) :
    Option.Rel R o q := by
  cases first with
  | none => exact second
  | some left =>
    cases second with
    | some right => exact .some (each _ _ _ left right)

/-- Members that are not changed are kept. -/
theorem MembersKept.refl (members : Json.Members) : MembersKept rules members members :=
  ⟨id, fun _ => rfl, fun _ _ => rfl⟩

/-- What is kept twice in a row is kept. -/
theorem MembersKept.trans {a b c : Json.Members} (first : MembersKept rules a b)
    (second : MembersKept rules b c) : MembersKept rules a c where
  sorted := second.sorted ∘ first.sorted
  keys key := (second.keys key).trans (first.keys key)
  values key unnamed := (second.values key unnamed).trans (first.values key unnamed)

/-- Attributes that are not changed are kept. -/
theorem AttributesKept.refl (a : Option Json.Members) : AttributesKept rules a a :=
  optionRel_refl .refl a

/-- Attributes that are kept twice in a row are kept. -/
theorem AttributesKept.trans {a b c : Option Json.Members} (first : AttributesKept rules a b)
    (second : AttributesKept rules b c) : AttributesKept rules a c :=
  optionRel_trans (fun _ _ _ => .trans) first second

namespace GraphNode

/-- A node that is not changed is kept. -/
theorem Kept.refl (n : GraphNode) : n.Kept scope rules n where
  group := rfl
  search := rfl
  label := rfl
  id _ := rfl
  attributes := .refl _
  outside _ := rfl

/-- A node that is kept twice in a row is kept. -/
theorem Kept.trans {a b c : GraphNode} (first : a.Kept scope rules b)
    (second : b.Kept scope rules c) : a.Kept scope rules c where
  group := second.group.trans first.group
  search := second.search.trans first.search
  label := second.label.trans first.label
  id unnamed := (second.id unnamed).trans (first.id unnamed)
  attributes := first.attributes.trans second.attributes
  outside other := by
    have same := first.outside other
    rw [second.outside (same ▸ other), same]

end GraphNode

namespace GraphRelation

/-- A relation that is not changed is kept. -/
theorem Kept.refl (r : GraphRelation) : r.Kept scope rules r where
  source := rfl
  fromNode := .refl _
  toNode := .refl _
  edge := optionRel_refl (fun _ => ⟨rfl, .refl _⟩) _
  outside _ := rfl

/-- A relation that is kept twice in a row is kept. -/
theorem Kept.trans {a b c : GraphRelation} (first : a.Kept scope rules b)
    (second : b.Kept scope rules c) : a.Kept scope rules c where
  source := second.source.trans first.source
  fromNode := first.fromNode.trans second.fromNode
  toNode := first.toNode.trans second.toNode
  edge := optionRel_trans (fun _ _ _ left right =>
    ⟨right.label.trans left.label, left.attributes.trans right.attributes⟩) first.edge second.edge
  outside restricted := (second.outside restricted).trans (first.outside restricted)

end GraphRelation

namespace Modification

/-- A rule changes the attribute that it names. -/
theorem attributesKept_replaceAttribute (member : rule ∈ rules) {old new : Option Json.Members}
    (replaced : replaceAttribute rule old = .ok new) : AttributesKept rules old new := by
  cases old with
  | none =>
    cases replaced
    exact .refl none
  | some members =>
    simp only [replaceAttribute] at replaced
    cases found : SortedMap.get? members rule.field with
    | none =>
      rw [found] at replaced
      cases replaced
      exact .refl _
    | some value =>
      rw [found] at replaced
      obtain ⟨changed, -, rfl⟩ := map_eq_ok_iff.mp replaced
      refine .some ⟨fun sorted => sorted.insert .., fun key => ?_, fun key unnamed => ?_⟩
      · rw [SortedMap.get?_insert]
        by_cases here : key = rule.field
        · rw [if_pos here, here, found]
          rfl
        · rw [if_neg here]
      · rw [SortedMap.get?_insert, if_neg (Ne.symm (unnamed rule member))]

/-- Replacing the id of a node keeps all else of it. -/
theorem kept_replaceId (member : rule ∈ rules) {n : GraphNode}
    (inside : n.isInGroup scope = true) : n.Kept scope rules (replaceId rule n).1 := by
  unfold replaceId
  split
  · rename_i named
    split
    · exact ⟨rfl, rfl, rfl, fun unnamed => absurd named (unnamed rule member), .refl _,
        fun outside => by rw [inside] at outside; cases outside⟩
    · exact .refl n
  · exact .refl n

/-- What one rule leaves of a node, whether it gets to its end or not. -/
theorem kept_replaceNode (member : rule ∈ rules) (n : GraphNode) :
    n.Kept scope rules (replaceNode scope rule n).1 := by
  unfold replaceNode
  cases inside : n.isInGroup scope with
  | false => exact .refl n
  | true =>
    rw [if_pos rfl]
    have first := kept_replaceId member inside
    cases result : replaceId rule n with
    | mk changed fault =>
      rw [result] at first
      cases fault with
      | some e => exact first
      | none =>
        cases replaced : replaceAttribute rule changed.attributes with
        | error e =>
          simp only [replaced]
          exact first
        | ok attributes =>
          simp only [replaced]
          exact ⟨first.group, first.search, first.label, first.id,
            first.attributes.trans (attributesKept_replaceAttribute member replaced),
            fun outside => by rw [inside] at outside; cases outside⟩

/-- What one rule leaves of an edge. -/
theorem kept_replaceEdge (member : rule ∈ rules) (e : Option GraphEdge) :
    Option.Rel (GraphEdge.Kept rules) e (replaceEdge rule e).1 := by
  cases e with
  | none => exact .none
  | some edge =>
    simp only [replaceEdge]
    split
    · rename_i attributes replaced
      exact .some ⟨rfl, attributesKept_replaceAttribute member replaced⟩
    · exact .some ⟨rfl, .refl _⟩

/-- What one rule leaves of a relation: of the parts that it gets to, what it leaves of each, and
all of the others. -/
theorem kept_replaceRelation (member : rule ∈ rules) (r : GraphRelation) :
    r.Kept scope rules (replaceRelation scope rule r).1 := by
  have kept : r.Kept scope rules r := .refl r
  have source : r.fromNode.Kept scope rules _ := kept_replaceNode member r.fromNode
  have target : r.toNode.Kept scope rules _ := kept_replaceNode member r.toNode
  unfold replaceRelation
  cases first : replaceNode scope rule r.fromNode with
  | mk fromNode fault =>
    rw [first] at source
    cases fault with
    | some e => exact { kept with fromNode := source }
    | none =>
      cases second : replaceNode scope rule r.toNode with
      | mk toNode fault =>
        rw [second] at target
        cases fault with
        | some e => exact { kept with fromNode := source, toNode := target }
        | none =>
          cases scope with
          | some group => exact { kept with fromNode := source, toNode := target }
          | none =>
            exact ⟨rfl, source, target, kept_replaceEdge member r.edge, by rintro ⟨⟩⟩

/-- What several rules leave of a relation, also where one of them fails. -/
theorem kept_applyRules {part : List ReplacementRule} (within : part ⊆ rules)
    (r : GraphRelation) : r.Kept scope rules (applyRules scope part r).1 := by
  induction part generalizing r with
  | nil => exact .refl r
  | cons rule rest ih =>
    have first : r.Kept scope rules _ :=
      kept_replaceRelation (within (List.mem_cons_self ..)) r
    rw [applyRules]
    cases result : replaceRelation scope rule r with
    | mk changed fault =>
      rw [result] at first
      cases fault with
      | some e => exact first
      | none => exact first.trans (ih (List.subset_of_cons_subset within) changed)

/-- Relation by relation, what rules leave of a list, also where they fail at one. -/
theorem kept_apply (scope : Option String) (rules : List ReplacementRule)
    (relations : List GraphRelation) :
    List.Forall₂ (GraphRelation.Kept scope rules) relations (apply scope rules relations).1 := by
  induction relations with
  | nil => exact .nil
  | cons r rest ih =>
    have first : r.Kept scope rules _ := kept_applyRules (List.Subset.refl rules) r
    rw [apply]
    cases result : applyRules scope rules r with
    | mk changed fault =>
      rw [result] at first
      cases fault with
      | some e => exact .cons first (List.forall₂_same.mpr fun r _ => .refl r)
      | none => exact .cons first ih

end Modification

end Kept

/-! ## One rule after the other -/

namespace Modification

variable {scope : Option String} {rule : ReplacementRule} {rules : List ReplacementRule}

/-- Rules get to their end exactly when the first does, and the others do with what it makes. -/
theorem applyRules_cons_eq_iff {r final : GraphRelation} :
    applyRules scope (rule :: rules) r = (final, none) ↔
      ∃ middle, replaceRelation scope rule r = (middle, none) ∧
        applyRules scope rules middle = (final, none) := by
  rw [applyRules]
  cases replaceRelation scope rule r with
  | mk changed fault =>
    cases fault with
    | some e => simp
    | none => simp

/-- One rule is applied by replacing with it. -/
theorem applyRules_singleton (r : GraphRelation) :
    applyRules scope [rule] r = replaceRelation scope rule r := by
  rw [applyRules]
  cases replaceRelation scope rule r with
  | mk changed fault =>
    cases fault with
    | some e => rfl
    | none => rfl

/-- Rules get to the end of a list exactly when they get to their end at each relation of it. -/
theorem apply_eq_iff {relations final : List GraphRelation} :
    apply scope rules relations = (final, none) ↔
      List.Forall₂ (fun r changed => applyRules scope rules r = (changed, none))
        relations final := by
  induction relations generalizing final with
  | nil => rw [apply, List.forall₂_nil_left_iff, Prod.mk.injEq, and_iff_left rfl, eq_comm]
  | cons r rest ih =>
    rw [apply, List.forall₂_cons_left_iff]
    simp only [← ih]
    cases applyRules scope rules r with
    | mk changed fault =>
      cases fault with
      | some e => simp
      | none =>
        cases apply scope rules rest with
        | mk others fault =>
          constructor
          · rintro ⟨⟩
            exact ⟨changed, others, rfl, rfl, rfl⟩
          · rintro ⟨_, _, ⟨⟩, ⟨⟩, rfl⟩
            rfl

/-- Steps that can be taken pair by pair, one after the other, are taken by the lists as a whole. -/
theorem forall₂_comp_iff {α β γ : Type} {R : α → β → Prop} {S : β → γ → Prop} {xs : List α}
    {zs : List γ} : List.Forall₂ (Relation.Comp R S) xs zs ↔
      Relation.Comp (List.Forall₂ R) (List.Forall₂ S) xs zs := by
  constructor
  · intro both
    induction both with
    | nil => exact ⟨[], .nil, .nil⟩
    | cons here _ ih =>
      obtain ⟨y, left, right⟩ := here
      obtain ⟨ys, lefts, rights⟩ := ih
      exact ⟨y :: ys, .cons left lefts, .cons right rights⟩
  · rintro ⟨ys, lefts, rights⟩
    induction lefts generalizing zs with
    | nil =>
      cases rights
      exact .nil
    | cons left _ ih =>
      cases rights with
      | cons right rights => exact .cons ⟨_, left, right⟩ (ih rights)

/-- To go through the relations with all rules at once is to go through all of them with the
first, and then through what that makes of them with the others. -/
theorem apply_cons_eq_iff {relations final : List GraphRelation} :
    apply scope (rule :: rules) relations = (final, none) ↔
      ∃ middle, apply scope [rule] relations = (middle, none) ∧
        apply scope rules middle = (final, none) := by
  simp only [apply_eq_iff, applyRules_cons_eq_iff, applyRules_singleton]
  exact forall₂_comp_iff

/-- Where rules fail, they have gone through the relations before, fail at one as they do at it
alone, and have left those after it. -/
theorem exists_failing_of_apply {relations changed : List GraphRelation}
    {e : ProcessorError.Cause} (failed : apply scope rules relations = (changed, some e)) :
    ∃ before r after before' r', relations = before ++ r :: after ∧
      changed = before' ++ r' :: after ∧ apply scope rules before = (before', none) ∧
      apply scope rules [r] = ([r'], some e) := by
  induction relations generalizing changed with
  | nil => cases failed
  | cons r rest ih =>
    rw [apply] at failed
    cases result : applyRules scope rules r with
    | mk r' fault =>
      rw [result] at failed
      cases fault with
      | some e' =>
        cases failed
        exact ⟨[], r, rest, [], r', rfl, rfl, rfl, by rw [apply, result]⟩
      | none =>
        cases others : apply scope rules rest with
        | mk rest' fault =>
          rw [others] at failed
          cases failed
          obtain ⟨before, failing, after, before', failing', rfl, rfl, done, alone⟩ := ih others
          exact ⟨r :: before, failing, after, r' :: before', failing', rfl, rfl,
            by rw [apply, result, done], alone⟩

end Modification

/-! ## Modifications as processors -/

namespace Processor

variable {name : String} {scope : Option String} {rules : List ReplacementRule}

/-- The processor succeeds exactly when its rules do, and with what they give. -/
theorem process_modification_eq_iff {relations final : List GraphRelation} :
    (modification name scope rules).process relations = (final, none) ↔
      Modification.apply scope rules relations = (final, none) := by
  rw [process]
  cases Modification.apply scope rules relations with
  | mk changed fault => simp only [Prod.mk.injEq, Option.map_eq_none_iff]

/-- Processors run without a fault when the first does and the others do on what it makes. -/
theorem processAll_cons_eq_iff {p : Processor} {rest : List Processor}
    {relations final : List GraphRelation} :
    processAll (p :: rest) relations = (final, []) ↔
      ∃ middle, p.process relations = (middle, none) ∧ processAll rest middle = (final, []) := by
  rw [processAll]
  cases p.process relations with
  | mk changed fault =>
    cases fault with
    | some e => simp
    | none => simp [Prod.ext_iff]

/-- Modifications with several rules are processors with one rule each. -/
theorem process_modification_iff_processAll {relations final : List GraphRelation} :
    (modification name scope rules).process relations = (final, none) ↔
      processAll (rules.map fun rule => modification name scope [rule]) relations
        = (final, []) := by
  induction rules generalizing relations with
  | nil =>
    rw [process_modification_eq_iff, Modification.apply_eq_iff, List.map_nil, processAll]
    simp [Modification.applyRules, List.forall₂_eq_eq_eq]
  | cons rule rest ih =>
    simp only [List.map_cons, processAll_cons_eq_iff, ← ih, process_modification_eq_iff]
    exact Modification.apply_cons_eq_iff

/-- Modifications run all of their rules at each relation. They make of relations what processors
with one of the rules each make of them, one after the other, and fail when one of those does. What
they leave behind has the relations in their order, each with what no rule names and with all that
is outside of the group. Where they fail, the relations before are as without the failure, and
those after it are as they were. -/
theorem modification_composes (name : String) (scope : Option String)
    (rules : List ReplacementRule) (relations : List GraphRelation) :
    (∀ final, (modification name scope rules).process relations = (final, none) ↔
      processAll (rules.map fun rule => modification name scope [rule]) relations = (final, [])) ∧
    List.Forall₂ (GraphRelation.Kept scope rules) relations
      ((modification name scope rules).process relations).1 ∧
    ∀ changed e, (modification name scope rules).process relations = (changed, some e) →
      ∃ before r after before' r', relations = before ++ r :: after ∧
        changed = before' ++ r' :: after ∧
        (modification name scope rules).process before = (before', none) ∧
        (modification name scope rules).process [r] = ([r'], some e) := by
  refine ⟨fun _ => process_modification_iff_processAll,
    Modification.kept_apply scope rules relations, fun changed e failed => ?_⟩
  cases result : Modification.apply scope rules relations with
  | mk outcome fault =>
    cases fault with
    | none => simp [process, result] at failed
    | some cause =>
      rw [process, result] at failed
      cases failed
      obtain ⟨before, r, after, before', r', whole, parts, done, alone⟩ :=
        Modification.exists_failing_of_apply result
      refine ⟨before, r, after, before', r', whole, parts,
        process_modification_eq_iff.mpr done, ?_⟩
      rw [process, alone]
      rfl

end Processor

end FederatedSearch
