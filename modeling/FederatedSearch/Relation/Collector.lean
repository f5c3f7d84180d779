import FederatedSearch.Relation.Projection

/-!
# Collecting relations

A collector holds relations without repetition, in the order in which they came. A relation whose
key is known is kept only when its attributes differ from those of every relation with that key.
An index leads from each key to the places of its relations.
-/

namespace FederatedSearch

namespace GraphRelation

/-- The attributes of the edge. -/
def edgeAttributes (r : GraphRelation) : Option Json.Members :=
  r.edge.bind (·.attributes)

/-- Equality of optional attributes. -/
def attributesEqual : Option Json.Members → Option Json.Members → Bool
  | some a, some b => Json.equalMembers a b
  | none, none => true
  | _, _ => false

/-- Whether two relations carry the same attributes on both nodes and on the edge. -/
def sameAttributes (a b : GraphRelation) : Bool :=
  attributesEqual a.fromNode.attributes b.fromNode.attributes &&
    attributesEqual a.toNode.attributes b.toNode.attributes &&
    attributesEqual a.edgeAttributes b.edgeAttributes

end GraphRelation

/-- The places of the relations with each key. -/
abbrev RelationIndex := List (RelationKey × List Nat)

namespace RelationIndex

/-- The places of the relations with a key. -/
def places (index : RelationIndex) (key : RelationKey) : List Nat :=
  (List.lookup key index).getD []

/-- Adds a place for a key. -/
def extend (key : RelationKey) (place : Nat) : RelationIndex → RelationIndex
  | [] => [(key, [place])]
  | (k, ps) :: rest =>
    if k = key then (k, ps ++ [place]) :: rest else (k, ps) :: extend key place rest

end RelationIndex

/-- Relations without repetition, with their keys. -/
structure Collector where
  keys : List RelationKey
  relations : List GraphRelation
  index : RelationIndex
  deriving Inhabited

namespace Collector

/-- The collector that holds nothing. -/
def empty : Collector := ⟨[], [], []⟩

/-- Whether a relation with the same key and the same attributes is held already. -/
def holds (c : Collector) (key : RelationKey) (r : GraphRelation) : Bool :=
  (RelationIndex.places c.index key).any fun place =>
    (c.relations[place]?).any (·.sameAttributes r)

/-- Adds a relation unless it is held already, and says whether it was added. -/
def offer (c : Collector) (key : RelationKey) (r : GraphRelation) : Bool × Collector :=
  if c.holds key r then (false, c)
  else
    (true, ⟨c.keys ++ [key], c.relations ++ [r],
      RelationIndex.extend key c.relations.length c.index⟩)

/-- Adds a relation unless it is held already. -/
def insert (c : Collector) (key : RelationKey) (r : GraphRelation) : Collector :=
  (c.offer key r).2

/-- Adds relations one by one, and counts those that were added. -/
def insertCounting (c : Collector) : List (RelationKey × GraphRelation) → Nat × Collector
  | [] => (0, c)
  | (key, r) :: rest =>
    let (added, c) := c.offer key r
    let (count, c) := c.insertCounting rest
    (if added then count + 1 else count, c)

/-- Adds relations one by one. -/
def insertAll (c : Collector) (entries : List (RelationKey × GraphRelation)) : Collector :=
  (c.insertCounting entries).2

/-- The relations of a collector with their keys. -/
def entries (c : Collector) : List (RelationKey × GraphRelation) :=
  c.keys.zip c.relations

/-- Adds the relations of another collector, and counts those that were added. -/
def mergeCounting (c other : Collector) : Nat × Collector :=
  c.insertCounting other.entries

/-- Adds the relations of another collector. -/
def merge (c other : Collector) : Collector :=
  (c.mergeCounting other).2

/-- Adds the relations that definitions make of a record, and counts those that were added. -/
def extractCounting (c : Collector) (source : String) (definitions : List RelationDefinition)
    (r : Record) : Nat × Collector :=
  c.insertCounting (projections source definitions r)

/-- Adds the relations that definitions make of a record. -/
def extract (c : Collector) (source : String) (definitions : List RelationDefinition) (r : Record) :
    Collector :=
  (c.extractCounting source definitions r).2

/-- How many relations are held. -/
def size (c : Collector) : Nat :=
  c.relations.length

end Collector

end FederatedSearch
