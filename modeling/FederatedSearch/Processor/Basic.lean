import FederatedSearch.Record
import FederatedSearch.Regex.Reader
import FederatedSearch.Regex.Replacement
import FederatedSearch.Relation.Graph

/-!
# Processors

What is done to the relations of a search before they are shown. A taxonomy adds relations from
nodes to entries of a classification; modifications replace parts of ids and attributes. A
processor that fails leaves behind what it has changed until then.
-/

namespace FederatedSearch

/-- A replacement in the values of one field, by a pattern that has still to be read. -/
structure ReplacementText where
  field : String
  pattern : String
  replacement : String
  deriving DecidableEq, Repr, Inhabited

/-- How a processor is described in a configuration. A group restricts it to the nodes of that
group. -/
inductive ProcessorDefinition
  | taxonomy (name field : String) (group : Option String) (entries : List (String × String))
  | modification (name : String) (group : Option String) (rules : List ReplacementText)
  deriving Repr, Inhabited

/-- A replacement in the values of one field. -/
structure ReplacementRule where
  field : String
  regex : Regex
  replacement : String
  deriving Inhabited

/-- A processor. -/
inductive Processor
  | taxonomy (name field : String) (group : Option String) (entries : List (String × String))
  | modification (name : String) (group : Option String) (rules : List ReplacementRule)
  deriving Inhabited

/-- Why a processor failed. -/
inductive ProcessorError.Cause
  | invalidPattern (pattern : String)
  | notScalar (field : String) (value : Json)

/-- A fault of a processor. -/
structure ProcessorError where
  processor : String
  cause : ProcessorError.Cause

/-- The message for a fault of a processor. -/
def ProcessorError.message (e : ProcessorError) : String :=
  e.processor ++ ": " ++
    match e.cause with
    | .invalidPattern pattern => "invalid regex '" ++ pattern ++ "': regex parse error"
    | .notScalar field value => "can't modify non-scalar '" ++ field ++ "' value " ++ value.compact

/-- The rule for a replacement. -/
def ReplacementText.compile (name : String) (t : ReplacementText) :
    Except ProcessorError ReplacementRule :=
  match Regex.ofText? t.pattern with
  | some regex => .ok ⟨t.field, regex, t.replacement⟩
  | none => .error ⟨name, .invalidPattern t.pattern⟩

/-- The processor that a definition describes. -/
def ProcessorDefinition.build : ProcessorDefinition → Except ProcessorError Processor
  | taxonomy name field group entries => .ok (.taxonomy name field group entries)
  | modification name group rules => do
    return .modification name group (← rules.mapM (·.compile name))

/-- The name of a processor. -/
def Processor.name : Processor → String
  | taxonomy name _ _ _ => name
  | modification name _ _ => name

/-- Whether a node is of the group that a processor is restricted to, if it is restricted. -/
def GraphNode.isInGroup (n : GraphNode) : Option String → Bool
  | some group => n.group == group
  | none => true

/-! ## Taxonomies -/

/-- The text of a field of a node: one of its own fields, or else an attribute. -/
def GraphNode.fieldText (n : GraphNode) (field : String) : Option String :=
  match field with
  | "id" => some n.id.plainText
  | "group" => some n.group
  | "search" => some n.search
  | "label" => n.label
  | _ => (n.attributes.bind fun attributes => SortedMap.get? attributes field).map Json.plainText

namespace Taxonomy

/-- The group of the nodes that stand for entries of a taxonomy. -/
def entryGroup : String := "taxonomy"

/-- The relation of a node with an entry. -/
def link (name : String) (n : GraphNode) (text entry : String) : GraphRelation where
  fromNode := ⟨.string text, n.group, n.search, none, none⟩
  toNode := ⟨.string entry, entryGroup, entryGroup, none, none⟩
  edge := none
  source := name

/-- The relation that a taxonomy adds for a node. -/
def linkOf (name field : String) (group : Option String) (entries : List (String × String))
    (n : GraphNode) : Option GraphRelation :=
  if n.isInGroup group then do
    let text ← n.fieldText field
    let entry ← entries.lookup text
    return link name n text entry
  else none

/-- The relations that a taxonomy adds, in the order of the relations that it finds. -/
def links (name field : String) (group : Option String) (entries : List (String × String))
    (relations : List GraphRelation) : List GraphRelation :=
  relations.flatMap fun r => [r.fromNode, r.toNode].filterMap (linkOf name field group entries)

end Taxonomy

/-! ## Modifications -/

namespace Modification

/-- The value that a rule makes of a value: a string, of which the matches are replaced. -/
def replaceValue (rule : ReplacementRule) (value : Json) : Except ProcessorError.Cause Json :=
  match value with
  | .string s => .ok (.string (rule.regex.replaceAll s rule.replacement))
  | .number n => .ok (.string (rule.regex.replaceAll n.text rule.replacement))
  | .bool b => .ok (.string (rule.regex.replaceAll (Json.bool b).plainText rule.replacement))
  | other => .error (.notScalar rule.field other)

/-- Changes the attribute of a rule's field, if there is one. -/
def replaceAttribute (rule : ReplacementRule) (attributes : Option Json.Members) :
    Except ProcessorError.Cause (Option Json.Members) :=
  match attributes with
  | none => .ok none
  | some members =>
    match SortedMap.get? members rule.field with
    | none => .ok (some members)
    | some value => do
      return some (SortedMap.insert rule.field (← replaceValue rule value) members)

/-- What a rule makes of a part of a relation, and the fault that stopped it, if any: a part that
is not finished has been changed as far as the rule got. -/
abbrev Outcome (α : Type) := α × Option ProcessorError.Cause

/-- Changes the id of a node, where the rule is for ids. -/
def replaceId (rule : ReplacementRule) (n : GraphNode) : Outcome GraphNode :=
  if rule.field = "id" then
    match replaceValue rule n.id with
    | .ok id => ({ n with id }, none)
    | .error e => (n, some e)
  else (n, none)

/-- Changes a node: its id, and then its attribute. -/
def replaceNode (group : Option String) (rule : ReplacementRule) (n : GraphNode) :
    Outcome GraphNode :=
  if n.isInGroup group then
    match replaceId rule n with
    | (n, some e) => (n, some e)
    | (n, none) =>
      match replaceAttribute rule n.attributes with
      | .ok attributes => ({ n with attributes }, none)
      | .error e => (n, some e)
  else (n, none)

/-- Changes the attribute of an edge. -/
def replaceEdge (rule : ReplacementRule) (e : Option GraphEdge) : Outcome (Option GraphEdge) :=
  match e with
  | none => (none, none)
  | some edge =>
    match replaceAttribute rule edge.attributes with
    | .ok attributes => (some { edge with attributes }, none)
    | .error cause => (some edge, some cause)

/-- Changes a relation by one rule: both nodes, and the edge unless the rule is restricted to a
group, since edges have none. -/
def replaceRelation (group : Option String) (rule : ReplacementRule) (r : GraphRelation) :
    Outcome GraphRelation :=
  match replaceNode group rule r.fromNode with
  | (source, some e) => ({ r with fromNode := source }, some e)
  | (source, none) =>
    match replaceNode group rule r.toNode with
    | (target, some e) => ({ r with fromNode := source, toNode := target }, some e)
    | (target, none) =>
      let r := { r with fromNode := source, toNode := target }
      if group.isNone then
        let (edge, fault) := replaceEdge rule r.edge
        ({ r with edge }, fault)
      else (r, none)

/-- Changes a relation by rules, one after the other. -/
def applyRules (group : Option String) : List ReplacementRule → GraphRelation →
    Outcome GraphRelation
  | [], r => (r, none)
  | rule :: rules, r =>
    match replaceRelation group rule r with
    | (r, some e) => (r, some e)
    | (r, none) => applyRules group rules r

/-- Changes relations one after the other. -/
def apply (group : Option String) (rules : List ReplacementRule) :
    List GraphRelation → Outcome (List GraphRelation)
  | [] => ([], none)
  | r :: rest =>
    match applyRules group rules r with
    | (r, some e) => (r :: rest, some e)
    | (r, none) =>
      let (rest, fault) := apply group rules rest
      (r :: rest, fault)

end Modification

/-- What a processor makes of relations, and its fault, if it failed. -/
def Processor.process (relations : List GraphRelation) :
    Processor → List GraphRelation × Option ProcessorError
  | taxonomy name field group entries =>
    (relations ++ Taxonomy.links name field group entries relations, none)
  | modification name group rules =>
    let (relations, fault) := Modification.apply group rules relations
    (relations, fault.map fun cause => ⟨name, cause⟩)

end FederatedSearch
