import FederatedSearch.Record
import FederatedSearch.Regex.Matching

/-!
# Relation definitions

How a record becomes an edge of a graph: which fields hold the two nodes, what the nodes and the
edge are called, and which other fields go along with them. Rules may give a node another group
by the form of its value.
-/

namespace FederatedSearch

/-- A rule that gives nodes with a certain form of value a group of their own. -/
structure TypeRule where
  regex : Regex
  group : String
  search : String
  label : Option String
  deriving Inhabited

/-- How a node is made from a record. -/
structure NodeDefinition where
  /-- The field that holds the node. -/
  id : String
  group : String
  search : String
  attributes : List String
  /-- Rules of which the first that fits counts. -/
  typeRules : List TypeRule
  deriving Inhabited

/-- How an edge is labelled. -/
structure EdgeDefinition where
  label : Option String
  attributes : List String
  deriving DecidableEq, Repr, Inhabited

/-- How a record becomes an edge. -/
structure RelationDefinition where
  source : NodeDefinition
  target : NodeDefinition
  edge : Option EdgeDefinition
  deriving Inhabited

/-- What a node is called: its group, the kind of search that finds it, and a label. -/
structure NodeClass where
  group : String
  search : String
  label : Option String
  deriving DecidableEq, Repr, Inhabited

/-- The classes that a node may have by its definition: the one of the first rule that fits its
value, and the definition's own when none fits. Empty labels count as none. -/
def NodeDefinition.classify (d : NodeDefinition) (value : String) : NodeClass :=
  match d.typeRules.find? (·.regex.isMatch value) with
  | some rule => ⟨rule.group, rule.search, rule.label.filter (· ≠ "")⟩
  | none => ⟨d.group, d.search, none⟩

/-- Whether two definitions join the same fields. -/
def RelationDefinition.sameEndpoints (a b : RelationDefinition) : Bool :=
  a.source.id == b.source.id && a.target.id == b.target.id

/-- How definitions are derived from the records of a source that says of each record what type
it has. -/
structure RelationInference where
  /-- The field that holds the type of a record. -/
  typeField : String
  /-- The groups of types; a type without an entry is its own group. -/
  groups : List (String × String)
  sourceAttributes : List String
  target : NodeDefinition
  edge : Option EdgeDefinition
  deriving Inhabited

/-- The definition for the type of a record. A typed record keeps its value under the name of its
type, so the definition takes its node from there. -/
def RelationInference.infer (i : RelationInference) (r : Record) : Option RelationDefinition :=
  match r.lookup i.typeField with
  | some (.string kind) =>
    if kind = "" then none
    else
      let group := (i.groups.lookup kind).getD kind
      some ⟨⟨kind, group, group, i.sourceAttributes, []⟩, i.target, i.edge⟩
  | _ => none

/-! ## Growing sets of definitions -/

/-- The definitions of a source, in the order in which they became known. -/
structure RelationSet where
  definitions : List RelationDefinition
  deriving Inhabited

namespace RelationSet

/-- Whether a definition of the same two fields is known. -/
def contains (s : RelationSet) (d : RelationDefinition) : Bool :=
  s.definitions.any (·.sameEndpoints d)

/-- Adds a definition unless one of the same two fields is known. -/
def add (s : RelationSet) (d : RelationDefinition) : RelationSet :=
  if s.contains d then s else ⟨s.definitions ++ [d]⟩

/-- Adds definitions one by one. -/
def append (s : RelationSet) (ds : List RelationDefinition) : RelationSet :=
  ds.foldl add s

/-- Adds definitions and says how many of them were new. -/
def appendCounting (s : RelationSet) (ds : List RelationDefinition) : Nat × RelationSet :=
  let grown := s.append ds
  (grown.definitions.length - s.definitions.length, grown)

end RelationSet

end FederatedSearch
