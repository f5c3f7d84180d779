import FederatedSearch.Json.Decode
import FederatedSearch.Regex.Reader
import FederatedSearch.Relation.Graph

/-!
# Reading definitions and relations

The notation of relation definitions in configurations, and of relations.
-/

namespace FederatedSearch

open Json (Draft)

/-- Reads a pattern. -/
def Regex.ofDraft? (d : Draft) : Option Regex := do
  Regex.ofText? (← d.string?)

/-- Reads a rule. -/
def TypeRule.ofDraft? (d : Draft) : Option TypeRule := do
  let fields ← d.fields? 4
  return {
    regex := ← fields.required 0 "regex" Regex.ofDraft?
    group := ← fields.required 1 "group" Draft.string?
    search := ← fields.required 2 "search" Draft.string?
    label := ← fields.optional 3 ["label"] none (Draft.nullable? Draft.string?) }

/-- Reads how a node is made. -/
def NodeDefinition.ofDraft? (d : Draft) : Option NodeDefinition := do
  let fields ← d.fields? 5
  return {
    id := ← fields.required 0 "id" Draft.string?
    group := ← fields.optional 1 ["group"] "" Draft.string?
    search := ← fields.optional 2 ["search"] "" Draft.string?
    attributes := ← fields.optional 3 ["attributes"] [] (Draft.list? Draft.string?)
    typeRules := ← fields.optional 4 ["typeRules", "varTypes"] [] (Draft.list? TypeRule.ofDraft?) }

/-- Reads how an edge is labelled. -/
def EdgeDefinition.ofDraft? (d : Draft) : Option EdgeDefinition := do
  let fields ← d.fields? 2
  return {
    label := ← fields.optional 0 ["label"] none (Draft.nullable? Draft.string?)
    attributes := ← fields.optional 1 ["attributes"] [] (Draft.list? Draft.string?) }

/-- Reads how a record becomes an edge. -/
def RelationDefinition.ofDraft? (d : Draft) : Option RelationDefinition := do
  let fields ← d.fields? 3
  return {
    source := ← fields.required 0 "from" NodeDefinition.ofDraft?
    target := ← fields.required 1 "to" NodeDefinition.ofDraft?
    edge := ← fields.optional 2 ["edge"] none (Draft.nullable? EdgeDefinition.ofDraft?) }

/-- Reads how definitions are derived. -/
def RelationInference.ofDraft? (d : Draft) : Option RelationInference := do
  let fields ← d.fields? 5
  return {
    typeField := ← fields.required 0 "typeField" Draft.string?
    groups := ← fields.optional 1 ["groups"] [] (Draft.map? Draft.string?)
    sourceAttributes := ← fields.optional 2 ["fromAttributes"] [] (Draft.list? Draft.string?)
    target := ← fields.required 3 "to" NodeDefinition.ofDraft?
    edge := ← fields.optional 4 ["edge"] none (Draft.nullable? EdgeDefinition.ofDraft?) }

/-- Reads a node. -/
def GraphNode.ofDraft? (d : Draft) : Option GraphNode := do
  let fields ← d.fields? 5
  return {
    id := ← fields.required 0 "id" Draft.any?
    group := ← fields.required 1 "group" Draft.string?
    search := ← fields.required 2 "search" Draft.string?
    label := ← fields.optional 3 ["label"] none (Draft.nullable? Draft.string?)
    attributes := ← fields.optional 4 ["attributes"] none (Draft.nullable? Draft.object?) }

/-- Reads what goes along with an edge. -/
def GraphEdge.ofDraft? (d : Draft) : Option GraphEdge := do
  let fields ← d.fields? 2
  return {
    label := ← fields.optional 0 ["label"] none (Draft.nullable? Draft.string?)
    attributes := ← fields.optional 1 ["attributes"] none (Draft.nullable? Draft.object?) }

/-- Reads a relation. -/
def GraphRelation.ofDraft? (d : Draft) : Option GraphRelation := do
  let fields ← d.fields? 4
  return {
    fromNode := ← fields.required 0 "from" GraphNode.ofDraft?
    toNode := ← fields.required 1 "to" GraphNode.ofDraft?
    edge := ← fields.optional 2 ["edge"] none (Draft.nullable? GraphEdge.ofDraft?)
    source := ← fields.required 3 "source" Draft.string? }

end FederatedSearch
