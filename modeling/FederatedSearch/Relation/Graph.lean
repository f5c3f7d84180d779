import FederatedSearch.Relation.Definition

/-!
# Relations

The graph that searches yield, edge by edge. Each relation holds its two nodes, what goes along
with the edge, and the source it came from.
-/

namespace FederatedSearch

/-- A node of the graph. -/
structure GraphNode where
  id : Json
  group : String
  search : String
  label : Option String
  attributes : Option Json.Members
  deriving Inhabited

/-- What goes along with an edge. -/
structure GraphEdge where
  label : Option String
  attributes : Option Json.Members
  deriving Inhabited

/-- An edge between two nodes, and the source it came from. -/
structure GraphRelation where
  fromNode : GraphNode
  toNode : GraphNode
  edge : Option GraphEdge
  source : String
  deriving Inhabited

/-- The member for an optional value, which is left out when the value is absent. -/
def optionalMember (key : String) (value : Option Json) : List (String × Json) :=
  match value with
  | some v => [(key, v)]
  | none => []

/-- The members of a node. -/
def GraphNode.members (n : GraphNode) : List (String × Json) :=
  [("id", n.id), ("group", .string n.group), ("search", .string n.search)] ++
    optionalMember "label" (n.label.map .string) ++
    optionalMember "attributes" (n.attributes.map .object)

/-- The members of what goes along with an edge. -/
def GraphEdge.members (e : GraphEdge) : List (String × Json) :=
  optionalMember "label" (e.label.map .string) ++
    optionalMember "attributes" (e.attributes.map .object)

/-- A relation as an object with its members in the order in which they are shown. -/
def GraphRelation.shown (r : GraphRelation) : Json :=
  .object <|
    [("from", .object r.fromNode.members), ("to", .object r.toNode.members)] ++
      optionalMember "edge" (r.edge.map fun e => .object e.members) ++
      [("source", .string r.source)]

end FederatedSearch
