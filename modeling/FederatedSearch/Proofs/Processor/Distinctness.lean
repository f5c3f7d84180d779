import FederatedSearch.Proofs.Processor.Modification
import FederatedSearch.Proofs.Relation.Distinctness
import Mathlib.Data.List.Nodup

/-!
# What processors do to relations without repetition

Processors are run on what has been collected, and none of them looks whether a relation is there
already. A taxonomy adds a link for each place of a node that it has an entry for: it adds one
twice when the node stands in two places. Modifications rewrite in place: they make two relations
equal only where these differ in nothing but values that a rule names. `Processor.Separates` says
of a processor that neither happens, and a run of processors ends without repetition exactly when
those from the last modification on separate (`allDistinct_processAll_append_iff`), or all of them,
when there is none and nothing was repeated before (`allDistinct_processAll_iff`).
-/

namespace FederatedSearch

open GraphRelation

/-! ## Taxonomies -/

/-- The nodes of relations, place by place. -/
def GraphRelation.nodes (relations : List GraphRelation) : List GraphNode :=
  relations.flatMap fun r => [r.fromNode, r.toNode]

namespace Taxonomy

/-- What a link shows of the node that it is for. -/
structure Mark where
  text : String
  group : String
  search : String
  deriving DecidableEq, Repr

variable {name field : String} {group : Option String} {entries : List (String × String)}
  {relations : List GraphRelation}

/-- What the link for a node shows of it, if the taxonomy has an entry for the node. -/
def mark? (field : String) (group : Option String) (entries : List (String × String))
    (n : GraphNode) : Option Mark :=
  if n.isInGroup group then do
    let text ← n.fieldText field
    if (entries.lookup text).isSome then some ⟨text, n.group, n.search⟩ else none
  else none

/-- What the links for nodes show of them, for each place of a node that the taxonomy has an entry
for. -/
def marks (field : String) (group : Option String) (entries : List (String × String))
    (relations : List GraphRelation) : List Mark :=
  (nodes relations).filterMap (mark? field group entries)

/-- The link for a node by what it shows of the node. -/
def linkFor (name : String) (entries : List (String × String)) (m : Mark) : GraphRelation where
  fromNode := ⟨.string m.text, m.group, m.search, none, none⟩
  toNode := ⟨.string ((entries.lookup m.text).getD ""), entryGroup, entryGroup, none, none⟩
  edge := none
  source := name

/-- A node is linked by its mark, if it has one. -/
theorem linkOf_eq (name field : String) (group : Option String) (entries : List (String × String))
    (n : GraphNode) :
    linkOf name field group entries n = (mark? field group entries n).map (linkFor name entries) := by
  unfold linkOf mark?
  cases n.isInGroup group with
  | false => rfl
  | true =>
    cases n.fieldText field with
    | none => rfl
    | some text =>
      cases found : entries.lookup text with
      | none => simp [found]
      | some entry => simp [found, linkFor, link]

/-- A taxonomy adds a link for each mark. -/
theorem links_eq (name field : String) (group : Option String) (entries : List (String × String))
    (relations : List GraphRelation) :
    links name field group entries relations =
      (marks field group entries relations).map (linkFor name entries) := by
  have each : linkOf name field group entries =
      fun n => (mark? field group entries n).map (linkFor name entries) :=
    funext (linkOf_eq name field group entries)
  rw [links, marks, nodes, List.map_filterMap, List.filterMap_flatMap, each]

/-- Links are equal when they are for one mark. -/
theorem linkFor_equal_iff {m n : Mark} :
    (linkFor name entries m).Equal (linkFor name entries n) ↔ m = n := by
  constructor
  · intro equal
    have text : m.text = n.text := by
      simpa [linkFor, Json.equal] using equal.fromNode.id
    obtain ⟨_, group, search, _⟩ := equal.fromNode
    cases m
    cases n
    cases text
    cases group
    cases search
    rfl
  · rintro rfl
    exact .refl _

/-- A taxonomy has no node to link twice, and none of its links is there already. -/
structure LinksOnce (name field : String) (group : Option String)
    (entries : List (String × String)) (relations : List GraphRelation) : Prop where
  marks : (marks field group entries relations).Nodup
  fresh : ∀ r ∈ relations, ∀ l ∈ links name field group entries relations, ¬ r.Equal l

/-- The links are distinct when the marks are. -/
theorem allDistinct_links_iff :
    AllDistinct (links name field group entries relations) ↔
      (marks field group entries relations).Nodup := by
  rw [links_eq, AllDistinct, List.pairwise_map]
  simp only [linkFor_equal_iff]
  rfl

end Taxonomy

/-! ## Modifications -/

section Agreement

variable {scope : Option String} {rules : List ReplacementRule}

/-- Attributes that differ in nothing but values of fields that rules name. -/
structure MembersAgree (rules : List ReplacementRule) (a b : Json.Members) : Prop where
  keys : ∀ key, (SortedMap.get? a key).isSome = (SortedMap.get? b key).isSome
  values : ∀ key, (∀ rule ∈ rules, rule.field ≠ key) →
    Option.Rel (fun x y => x.equal y = true) (SortedMap.get? a key) (SortedMap.get? b key)

/-- The same of the attributes of a node or an edge, which may have none. -/
def AttributesAgree (rules : List ReplacementRule) :
    Option Json.Members → Option Json.Members → Prop :=
  Option.Rel (MembersAgree rules)

/-- Nodes that differ in nothing but values that rules name, and not at all outside of the group
that the rules are restricted to. -/
structure GraphNode.AgreeBeyond (scope : Option String) (rules : List ReplacementRule)
    (m n : GraphNode) : Prop where
  group : m.group = n.group
  search : m.search = n.search
  label : m.label = n.label
  id : (∀ rule ∈ rules, rule.field ≠ "id") → m.id.equal n.id = true
  attributes : AttributesAgree rules m.attributes n.attributes
  outside : m.isInGroup scope = false → m.Equal n

/-- Relations that differ in nothing but values that rules name. -/
structure GraphRelation.AgreeBeyond (scope : Option String) (rules : List ReplacementRule)
    (r s : GraphRelation) : Prop where
  source : r.source = s.source
  fromNode : r.fromNode.AgreeBeyond scope rules s.fromNode
  toNode : r.toNode.AgreeBeyond scope rules s.toNode
  label : r.edge.map GraphEdge.label = s.edge.map GraphEdge.label
  edgeAttributes : AttributesAgree rules r.edgeAttributes s.edgeAttributes
  outside : scope.isSome = true → attributesEqual r.edgeAttributes s.edgeAttributes = true

/-- Of two related optional values both are there or neither is. -/
theorem isSome_eq_of_rel {α β : Type} {R : α → β → Prop} {o : Option α} {p : Option β}
    (related : Option.Rel R o p) : o.isSome = p.isSome := by
  cases related <;> rfl

/-- Equal members have equal values under each key. -/
theorem rel_get?_of_equalMembers {a b : Json.Members} (equal : Json.equalMembers a b = true)
    (key : String) :
    Option.Rel (fun x y => x.equal y = true) (SortedMap.get? a key) (SortedMap.get? b key) := by
  induction a generalizing b with
  | nil =>
    cases b with
    | nil => exact .none
    | cons => simp [Json.equalMembers] at equal
  | cons entry rest ih =>
    cases b with
    | nil => simp [Json.equalMembers] at equal
    | cons other others =>
      obtain ⟨k, x⟩ := entry
      obtain ⟨l, y⟩ := other
      simp only [Json.equalMembers, Bool.and_eq_true, beq_iff_eq] at equal
      obtain ⟨⟨rfl, value⟩, values⟩ := equal
      rw [SortedMap.get?_cons, SortedMap.get?_cons]
      split
      · exact .some value
      · exact ih values

/-- Attributes of which rules make equal ones. -/
theorem membersAgree_of_kept {a a' b b' : Json.Members} (first : MembersKept rules a a')
    (second : MembersKept rules b b') (equal : Json.equalMembers a' b' = true) :
    MembersAgree rules a b where
  keys key := by
    rw [← first.keys key, ← second.keys key]
    exact isSome_eq_of_rel (rel_get?_of_equalMembers equal key)
  values key unnamed := by
    rw [← first.values key unnamed, ← second.values key unnamed]
    exact rel_get?_of_equalMembers equal key

/-- When attributes are equal after a change, they agreed before it outside what was changed. -/
theorem attributesAgree_of_kept {a a' b b' : Option Json.Members}
    (first : AttributesKept rules a a') (second : AttributesKept rules b b')
    (equal : attributesEqual a' b' = true) : AttributesAgree rules a b := by
  cases first with
  | none =>
    cases second with
    | none => exact .none
    | some => cases equal
  | some left =>
    cases second with
    | none => cases equal
    | some right => exact .some (membersAgree_of_kept left right equal)

/-- Nodes of which rules make equal ones. -/
theorem GraphNode.Kept.agreeBeyond {m m' n n' : GraphNode} (first : m.Kept scope rules m')
    (second : n.Kept scope rules n') (equal : m'.Equal n') : m.AgreeBeyond scope rules n := by
  have group : m.group = n.group := by rw [← first.group, equal.group, second.group]
  refine ⟨group, ?_, ?_, fun unnamed => ?_, ?_, fun outside => ?_⟩
  · rw [← first.search, equal.search, second.search]
  · rw [← first.label, equal.label, second.label]
  · rw [← first.id unnamed, ← second.id unnamed]
    exact equal.id
  · exact attributesAgree_of_kept first.attributes second.attributes equal.attributes
  · have other : n.isInGroup scope = false := by
      rw [← outside]
      cases scope with
      | none => rfl
      | some name => simp only [GraphNode.isInGroup, group]
    rw [← first.outside outside, ← second.outside other]
    exact equal

/-- An edge keeps its label, and of its attributes what rules leave of them. -/
theorem GraphEdge.kept_label_and_attributes {e e' : Option GraphEdge}
    (kept : Option.Rel (GraphEdge.Kept rules) e e') :
    e'.map GraphEdge.label = e.map GraphEdge.label ∧
      AttributesKept rules (e.bind GraphEdge.attributes) (e'.bind GraphEdge.attributes) := by
  cases kept with
  | none => exact ⟨rfl, .none⟩
  | some kept => exact ⟨congrArg some kept.label, kept.attributes⟩

/-- Relations of which rules make equal ones differ in nothing but what the rules name. -/
theorem GraphRelation.Kept.agreeBeyond {r r' s s' : GraphRelation}
    (first : r.Kept scope rules r') (second : s.Kept scope rules s') (equal : r'.Equal s') :
    r.AgreeBeyond scope rules s := by
  obtain ⟨label, attributes⟩ := GraphEdge.kept_label_and_attributes first.edge
  obtain ⟨label', attributes'⟩ := GraphEdge.kept_label_and_attributes second.edge
  refine ⟨?_, first.fromNode.agreeBeyond second.fromNode equal.fromNode,
    first.toNode.agreeBeyond second.toNode equal.toNode, ?_,
    attributesAgree_of_kept attributes attributes' equal.edgeAttributes, fun restricted => ?_⟩
  · rw [← first.source, equal.source, second.source]
  · rw [← label, equal.label, label']
  · rw [edgeAttributes, edgeAttributes, ← first.outside restricted, ← second.outside restricted]
    exact equal.edgeAttributes

end Agreement

/-- What rules leave of relations, beside each of them: no two that differ in nothing but what the
rules name have come to be equal. -/
def Modification.KeepsApart (scope : Option String) (rules : List ReplacementRule)
    (relations : List GraphRelation) : Prop :=
  (relations.zip (Modification.apply scope rules relations).1).Pairwise fun a b =>
    a.1.AgreeBeyond scope rules b.1 → ¬ a.2.Equal b.2

/-- What rules leave has no repetition exactly when they keep apart what they could make equal. -/
theorem Modification.allDistinct_apply_iff {scope : Option String} {rules : List ReplacementRule}
    {relations : List GraphRelation} :
    AllDistinct (Modification.apply scope rules relations).1 ↔
      KeepsApart scope rules relations := by
  have kept := Modification.kept_apply scope rules relations
  have left : (Modification.apply scope rules relations).1 =
      (relations.zip (Modification.apply scope rules relations).1).map Prod.snd :=
    (List.map_snd_zip (Nat.le_of_eq kept.length_eq.symm)).symm
  rw [left, AllDistinct, List.pairwise_map, KeepsApart]
  constructor
  · intro distinct
    refine distinct.imp ?_
    intro a b different _
    exact different
  · refine fun apart => apart.imp_of_mem fun {a b} memberA memberB apart equal => ?_
    have first := List.forall₂_zip kept memberA
    have second := List.forall₂_zip kept memberB
    exact apart (first.agreeBeyond second equal) equal

/-! ## Processors -/

namespace Processor

variable {p : Processor} {relations : List GraphRelation}

/-- Whether a processor only adds relations. -/
def isTaxonomy : Processor → Bool
  | taxonomy .. => true
  | modification .. => false

/-- A processor that does not repeat a relation: it adds none that is equal to another, and makes
no two equal. -/
def Separates (relations : List GraphRelation) : Processor → Prop
  | taxonomy name field group entries => Taxonomy.LinksOnce name field group entries relations
  | modification _ scope rules => Modification.KeepsApart scope rules relations

/-- What a taxonomy leaves has no repetition exactly when what it found has none and it links once
only. -/
theorem allDistinct_process_of_isTaxonomy (adds : p.isTaxonomy = true) :
    AllDistinct (p.process relations).1 ↔ AllDistinct relations ∧ p.Separates relations := by
  cases p with
  | modification => cases adds
  | taxonomy name field group entries =>
    rw [process, AllDistinct, List.pairwise_append]
    refine and_congr_right fun _ => ?_
    constructor
    · rintro ⟨links, fresh⟩
      exact ⟨Taxonomy.allDistinct_links_iff.mp links, fresh⟩
    · rintro ⟨marks, fresh⟩
      exact ⟨Taxonomy.allDistinct_links_iff.mpr marks, fresh⟩

/-- What modifications leave has no repetition exactly when they keep relations apart, also where
they fail on their way. -/
theorem allDistinct_process_of_not_isTaxonomy (rewrites : p.isTaxonomy = false) :
    AllDistinct (p.process relations).1 ↔ p.Separates relations := by
  cases p with
  | taxonomy => cases rewrites
  | modification name scope rules => exact Modification.allDistinct_apply_iff

end Processor

/-- Processors of which each separates what those before it have made of relations. -/
def SeparateAll : List Processor → List GraphRelation → Prop
  | [], _ => True
  | p :: rest, relations => p.Separates relations ∧ SeparateAll rest (p.process relations).1

section SeparateAll

variable {p : Processor} {before ps : List Processor} {relations : List GraphRelation}

/-- The processors work one after the other. -/
theorem processAll_cons_fst (p : Processor) (rest : List Processor)
    (relations : List GraphRelation) :
    (processAll (p :: rest) relations).1 = (processAll rest (p.process relations).1).1 := rfl

/-- Two rows of processors work one after the other. -/
theorem processAll_append_fst (before ps : List Processor) (relations : List GraphRelation) :
    (processAll (before ++ ps) relations).1 = (processAll ps (processAll before relations).1).1 := by
  induction before generalizing relations with
  | nil => rfl
  | cons p rest ih => rw [List.cons_append, processAll_cons_fst, processAll_cons_fst, ih]

/-- No relations give no relations. -/
theorem processAll_nil (ps : List Processor) : (processAll ps []).1 = [] := by
  induction ps with
  | nil => rfl
  | cons p rest ih =>
    cases p <;> exact ih

/-- Taxonomies take no relation away. At their end there is no repetition exactly when there was
none at the start and each of them separates. -/
theorem allDistinct_processAll_iff (add : ∀ p ∈ ps, p.isTaxonomy = true) :
    AllDistinct (processAll ps relations).1 ↔ AllDistinct relations ∧ SeparateAll ps relations := by
  induction ps generalizing relations with
  | nil => exact (and_iff_left trivial).symm
  | cons p rest ih =>
    obtain ⟨adds, others⟩ := List.forall_mem_cons.mp add
    rw [processAll_cons_fst, ih others, p.allDistinct_process_of_isTaxonomy adds, and_assoc]
    rfl

/-- Modifications may undo a repetition or make one. What counts is what the last of them finds,
and that it and the taxonomies after it separate. -/
theorem allDistinct_processAll_append_iff (rewrites : p.isTaxonomy = false)
    (add : ∀ p ∈ ps, p.isTaxonomy = true) :
    AllDistinct (processAll (before ++ p :: ps) relations).1 ↔
      SeparateAll (p :: ps) (processAll before relations).1 := by
  rw [processAll_append_fst, processAll_cons_fst, allDistinct_processAll_iff add,
    p.allDistinct_process_of_not_isTaxonomy rewrites]
  rfl

end SeparateAll

end FederatedSearch
