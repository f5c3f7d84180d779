import FederatedSearch.Relation.Graph

/-!
# From records to relations

A definition makes a relation of a record when both fields that hold the nodes are present. The
key of a relation names the fields and the texts of the nodes, so that relations between the
same nodes can be told apart by what goes along with them.
-/

namespace FederatedSearch

/-- Which nodes of which fields a relation joins. -/
structure RelationKey where
  sourceField : String
  sourceText : String
  targetField : String
  targetText : String
  deriving DecidableEq, Repr, Inhabited

/-- The attributes of a record that are asked for, if any are. -/
def Record.attributes (r : Record) (names : List String) : Option Json.Members :=
  if names.isEmpty then none else some (r.copyPresent names)

/-- The node that a definition makes of the value of its field. -/
def NodeDefinition.project (d : NodeDefinition) (value : Json) (r : Record) : GraphNode :=
  let cls := d.classify value.plainText
  ⟨value, cls.group, cls.search, cls.label, r.attributes d.attributes⟩

/-- The label of a definition, unless it is empty. -/
def EdgeDefinition.ownLabel (d : EdgeDefinition) : Option String :=
  d.label.filter (· ≠ "")

/-- What goes along with the edge between two nodes. A definition without a label and without
attributes says nothing about its edges; the label of a node goes before the definition's own. -/
def EdgeDefinition.project (d : EdgeDefinition) (source target : GraphNode) (r : Record) :
    Option GraphEdge :=
  if d.ownLabel.isNone && d.attributes.isEmpty then none
  else some ⟨(target.label.or source.label).or d.ownLabel, r.attributes d.attributes⟩

/-- The relation that a definition makes of a record, with its key. -/
def RelationDefinition.project (d : RelationDefinition) (source : String) (r : Record) :
    Option (RelationKey × GraphRelation) := do
  let fromValue ← r.lookup d.source.id
  let toValue ← r.lookup d.target.id
  let fromNode := d.source.project fromValue r
  let toNode := d.target.project toValue r
  return (⟨d.source.id, fromValue.plainText, d.target.id, toValue.plainText⟩,
    ⟨fromNode, toNode, d.edge.bind fun e => e.project fromNode toNode r, source⟩)

/-- The relations that definitions make of a record, each definition by itself. -/
def projections (source : String) (definitions : List RelationDefinition) (r : Record) :
    List (RelationKey × GraphRelation) :=
  definitions.filterMap fun d => d.project source r

end FederatedSearch
