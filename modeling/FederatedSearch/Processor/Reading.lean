import FederatedSearch.Json.Decode
import FederatedSearch.Processor.Basic

/-!
# Reading processor definitions

The notation of processors in configurations. The kind of a processor is named by its field
`plugin`.
-/

namespace FederatedSearch

open Json (Draft)

/-- Reads a replacement. -/
def ReplacementText.ofDraft? (d : Draft) : Option ReplacementText := do
  let fields ← d.fields? 3
  return {
    field := ← fields.required 0 "field" Draft.string?
    pattern := ← fields.required 1 "regex" Draft.string?
    replacement := ← fields.optional 2 ["replacement"] "" Draft.string? }

namespace ProcessorDefinition

/-- Reads a taxonomy. -/
def taxonomyOfDraft? (d : Draft) : Option ProcessorDefinition := do
  let fields ← d.fields? 4
  return .taxonomy
    (← fields.required 0 "name" Draft.string?)
    (← fields.required 1 "field" Draft.string?)
    (← fields.optional 2 ["group"] none (Draft.nullable? Draft.string?))
    (← fields.required 3 "taxonomy" (Draft.map? Draft.string?))

/-- Reads a modification. -/
def modificationOfDraft? (d : Draft) : Option ProcessorDefinition := do
  let fields ← d.fields? 3
  return .modification
    (← fields.required 0 "name" Draft.string?)
    (← fields.optional 1 ["group"] none (Draft.nullable? Draft.string?))
    (← fields.required 2 "modify" (Draft.list? ReplacementText.ofDraft?))

/-- Reads a processor. -/
def ofDraft? (d : Draft) : Option ProcessorDefinition := do
  let (kind, body) ← d.tagged? "plugin"
  match kind with
  | "taxonomy" => taxonomyOfDraft? body
  | "modify" => modificationOfDraft? body
  | _ => none

end ProcessorDefinition

end FederatedSearch
