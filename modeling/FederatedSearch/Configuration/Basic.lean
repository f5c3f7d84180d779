import FederatedSearch.Files
import FederatedSearch.Processor.Basic
import FederatedSearch.Query.Renaming
import FederatedSearch.Relation.Definition
import FederatedSearch.Sql.Rendering

/-!
# Configurations

A configuration names the sources of a federation: what is known of each, and where its records
are. It is valid when it lets searches find something and when every source has a name of its
own.
-/

namespace FederatedSearch

/-- The name under which all sources that take part in global searches are asked. -/
def globalName : String := "global"

/-- What is known of a source, wherever its records are. -/
structure Source where
  name : String
  /-- The source takes part in global searches. -/
  inGlobal : Bool
  /-- The source has a time field. -/
  hasDatetime : Bool
  /-- The source evaluates AND, OR and IN itself. -/
  nativeBooleans : Bool
  /-- The seconds that the source is given for a native query. -/
  timeout : Nat
  /-- The fields that are counted when the source finds too much. -/
  statsFields : List String
  /-- The names that the source has for fields. -/
  fieldNames : Renaming
  relations : List RelationDefinition
  inference : Option RelationInference
  deriving Inhabited

/-- Where the records of a source are. -/
inductive Location
  | database (path table : String) (script : Option String) (dialect : Sql.Dialect)
  | documents (path : String)
  | keyValue (path field : String)
  deriving DecidableEq, Repr, Inhabited

/-- The path that stands for a database in memory. -/
def memoryPath : String := ":memory:"

/-- A location with its path changed, unless it is a database in memory. -/
def Location.mapPath (change : String → String) : Location → Location
  | database path table script dialect =>
    .database (if path = memoryPath then path else change path) table script dialect
  | documents path => .documents (change path)
  | keyValue path field => .keyValue (change path) field

/-- A source and where its records are. -/
structure SourceConfiguration where
  source : Source
  location : Location
  deriving Inhabited

/-- Whether searches are remembered, and for how many seconds. -/
structure CacheConfiguration where
  enabled : Bool
  timeToLive : Int
  deriving DecidableEq, Repr, Inhabited

/-- The configuration of a federation. -/
structure Configuration where
  /-- How many records a query may ask for, and how many relations a source may add. -/
  limit : Nat
  cache : CacheConfiguration
  sources : List SourceConfiguration
  processors : List ProcessorDefinition
  deriving Inhabited

/-! ## Faults -/

/-- Why a configuration is not valid. -/
inductive Configuration.Fault
  | zeroLimit
  | timeToLive
  | emptyName
  | reservedName (name : String)
  | duplicateName (name : String)
  | processor (error : ProcessorError)

/-- The words for a configuration that is not valid. -/
def Configuration.Fault.text : Fault → String
  | zeroLimit => "limit must be greater than 0"
  | timeToLive => "cache TTL must be positive"
  | emptyName => "source name can't be empty"
  | reservedName name => "'" ++ name ++ "' is a reserved source name"
  | duplicateName name => "duplicate source '" ++ name ++ "'"
  | processor e => e.message

/-- Why there is no configuration. -/
inductive ConfigurationError
  | notFound
  | unreadable
  | malformed
  | invalid (fault : Configuration.Fault)

/-- The message for a configuration that is not valid. -/
def Configuration.Fault.message (fault : Fault) : String :=
  "invalid configuration: " ++ fault.text

namespace Configuration

/-- The first fault among names, of which some have been seen before. -/
def nameFault? (seen : List String) : List String → Option Fault
  | [] => none
  | name :: rest =>
    if name = "" then some .emptyName
    else if name = globalName then some (.reservedName name)
    else if seen.contains name then some (.duplicateName name)
    else nameFault? (name :: seen) rest

/-- The first fault of a configuration. -/
def fault? (c : Configuration) : Option Fault :=
  if c.limit = 0 then some .zeroLimit
  else if c.cache.enabled ∧ c.cache.timeToLive ≤ 0 then some .timeToLive
  else nameFault? [] (c.sources.map (·.source.name))

/-- A configuration that is valid. -/
def validate (c : Configuration) : Except ConfigurationError Configuration :=
  match c.fault? with
  | some fault => .error (.invalid fault)
  | none => .ok c

/-- A configuration whose paths lead from a directory. -/
def resolvePaths (directory : String) (c : Configuration) : Configuration :=
  { c with sources := c.sources.map fun s =>
      { s with location := s.location.mapPath (Path.join directory) } }

end Configuration

end FederatedSearch
