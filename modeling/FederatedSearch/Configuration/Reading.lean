import FederatedSearch.Configuration.Basic
import FederatedSearch.Processor.Reading
import FederatedSearch.Relation.Reading

/-!
# Reading configurations

The notation of configurations. Fields that are not given have defaults, except for names and
places. Descriptions that come in several kinds are read as a whole before their kind is looked
at, so that nothing in them may be malformed, not even a field that is not known.
-/

namespace FederatedSearch

open Json (Draft)

/-- A draft that is well-formed as a whole and nested at most `depth` levels deep. -/
def Json.Draft.checked? (depth : Nat) (d : Draft) : Option Draft := do
  let _ ← d.toJson? depth
  return d

/-- The dialects by name. -/
def Sql.Dialect.names : List (String × Sql.Dialect) :=
  [("postgres", .postgres), ("mysql", .mysql), ("sqlite", .sqlite)]

namespace Location

/-- Reads the place of a database. -/
def databaseOfDraft? (d : Draft) : Option Location := do
  let fields ← d.fields? 4
  return .database
    (← fields.required 0 "path" Draft.string?)
    (← fields.required 1 "table" Draft.string?)
    (← fields.optional 2 ["seed"] none (Draft.nullable? Draft.string?))
    (← fields.optional 3 ["dialect"] .sqlite (Draft.word? Sql.Dialect.names))

/-- Reads the place of documents. -/
def documentsOfDraft? (d : Draft) : Option Location := do
  let fields ← d.fields? 1
  return .documents (← fields.required 0 "path" Draft.string?)

/-- Reads the place of records that are looked up. -/
def keyValueOfDraft? (d : Draft) : Option Location := do
  let fields ← d.fields? 2
  return .keyValue
    (← fields.required 0 "path" Draft.string?)
    (← fields.required 1 "field" Draft.string?)

/-- How many levels below the top of a configuration the places of sources stand. -/
def level : Nat := 3

/-- Reads where the records of a source are. -/
def ofDraft? (d : Draft) : Option Location := do
  let (kind, body) ← (← d.checked? (Json.depthLimit - level)).tagged? "type"
  match kind with
  | "sqlite" => databaseOfDraft? body
  | "document" => documentsOfDraft? body
  | "keyvalue" => keyValueOfDraft? body
  | _ => none

end Location

namespace Source

/-- How many fields the description of a source has, its place included. -/
def fieldCount : Nat := 10

/-- The seconds that a source is given unless said otherwise. -/
def defaultTimeout : Nat := 60

/-- Reads what is known of a source. -/
def ofFields? (fields : Draft.Fields) : Option Source := do
  return {
    name := ← fields.required 0 "name" Draft.string?
    inGlobal := ← fields.optional 1 ["inGlobal"] false Draft.bool?
    hasDatetime := ← fields.optional 2 ["includeDatetime"] false Draft.bool?
    nativeBooleans :=
      ← fields.optional 3 ["supportsNativeBooleans", "supportsSQL"] false Draft.bool?
    timeout := ← fields.optional 4 ["timeoutSecs"] defaultTimeout Draft.natural?
    statsFields := ← fields.optional 5 ["statsFields"] [] (Draft.list? Draft.string?)
    fieldNames := ← fields.optional 6 ["replaceFields"] [] (Draft.map? Draft.string?)
    relations := ← fields.optional 7 ["relations"] [] (Draft.list? RelationDefinition.ofDraft?)
    inference :=
      ← fields.optional 8 ["inferRelations"] none (Draft.nullable? RelationInference.ofDraft?) }

end Source

/-- Reads the description of a source. -/
def SourceConfiguration.ofDraft? (d : Draft) : Option SourceConfiguration := do
  let fields ← d.fields? Source.fieldCount
  return {
    source := ← Source.ofFields? fields
    location := ← fields.required 9 "backend" Location.ofDraft? }

namespace CacheConfiguration

/-- No cache. -/
def default : CacheConfiguration := ⟨false, 600⟩

/-- Reads whether searches are remembered. -/
def ofDraft? (d : Draft) : Option CacheConfiguration := do
  let fields ← d.fields? 2
  return {
    enabled := ← fields.optional 0 ["enabled"] default.enabled Draft.bool?
    timeToLive := ← fields.optional 1 ["ttlSeconds"] default.timeToLive Draft.integer? }

end CacheConfiguration

namespace Configuration

/-- The limit unless said otherwise. -/
def defaultLimit : Nat := 500

/-- How many levels below the top of a configuration its processors stand. -/
def processorLevel : Nat := 2

/-- Reads a processor of a configuration. -/
def processorOfDraft? (d : Draft) : Option ProcessorDefinition := do
  ProcessorDefinition.ofDraft? (← d.checked? (Json.depthLimit - processorLevel))

/-- Reads a configuration. -/
def ofDraft? (d : Draft) : Option Configuration := do
  let fields ← d.fields? 4
  return {
    limit := ← fields.optional 0 ["limit"] defaultLimit Draft.natural?
    cache := ← fields.optional 1 ["cache"] .default CacheConfiguration.ofDraft?
    sources := ← fields.required 2 "sources" (Draft.list? SourceConfiguration.ofDraft?)
    processors := ← fields.optional 3 ["processors"] [] (Draft.list? processorOfDraft?) }

/-- The configuration that a text says, valid or not. -/
def parse (text : String) : Except ConfigurationError Configuration :=
  match (Draft.ofText? text).bind ofDraft? with
  | some c => .ok c
  | none => .error .malformed

/-- The valid configuration that a text says. -/
def ofText (text : String) : Except ConfigurationError Configuration := do
  (← parse text).validate

/-- The valid configuration in a file, with paths that lead from its directory. -/
def ofFile (files : Files) (path : String) : Except ConfigurationError Configuration :=
  match files path with
  | .missing => .error .notFound
  | .directory => .error .unreadable
  | .text content => do
    ((← parse content).resolvePaths (Path.parent path)).validate

end Configuration

end FederatedSearch
