import FederatedSearch.Configuration.Reading
import FederatedSearch.Federation.Search
import FederatedSearch.Sql.Script

/-!
# Setting up a federation

From a configuration and the files it speaks of to backends that are ready to be searched. A
source that cannot be set up is left out; a processor that cannot be built is a fault of the
configuration. Databases live in memory: one that is named by a path is shared by all sources
with that path, and a file in its place is not opened.
-/

namespace FederatedSearch

/-- The records in a file: an array of objects. -/
def recordsOfFile? (files : Files) (path : String) : Option (List Record) :=
  match files path with
  | .text content => do (← (← Json.ofText? content).items?).mapM Record.ofJson?
  | _ => none

namespace Sql

/-- The databases that are named by paths. -/
abbrev Databases := SortedMap Database

/-- Whether a path stands for a database of one source alone. -/
def isPrivate (path : String) : Bool :=
  path = memoryPath || path = ""

/-- Whether a new database may be made at a path: nothing is there, or an empty file. -/
def mayCreate (files : Files) (path : String) : Bool :=
  match files path with
  | .missing => Path.parent path = "" || files (Path.parent path) == .directory
  | .directory => false
  | .text content => content = ""

/-- The database at a path, before a script is run on it. -/
def Databases.open? (files : Files) (databases : Databases) (path : String) : Option Database :=
  if isPrivate path then some ⟨[]⟩
  else match SortedMap.get? databases (Path.trimmed path) with
    | some db => some db
    | none => if mayCreate files path then some ⟨[]⟩ else none

/-- The databases after the one at a path has changed. -/
def Databases.update (databases : Databases) (path : String) (db : Database) : Databases :=
  if isPrivate path then databases else SortedMap.insert (Path.trimmed path) db databases

end Sql

variable [Document.PatternReader] [Sql.Numerals]

namespace Location

/-- How queries for a place are written. -/
def compiler : Location → Compiler
  | database _ table _ dialect => .sql table dialect Sql.defaultThreshold
  | documents _ => .document
  | keyValue _ field => .lookup field

/-- The store at a place, and the databases once it is open. -/
def open? (files : Files) (databases : Sql.Databases) : Location → Option (Store × Sql.Databases)
  | database path table script _ => do
    let db ← databases.open? files path
    let db ← match script with
      | some text => db.runScript? text
      | none => some db
    return (.relational db table, databases.update path db)
  | documents path => do return (.documents (← recordsOfFile? files path), databases)
  | keyValue path field => do
    return (.keyValue (.ofRecords field (← recordsOfFile? files path)), databases)

end Location

/-- The backends of the sources that can be set up. -/
def openSources (files : Files) : Sql.Databases → List SourceConfiguration → List Backend
  | _, [] => []
  | databases, s :: rest =>
    match s.location.open? files databases with
    | some (store, databases) =>
      .ofStore s.source s.location.compiler store :: openSources files databases rest
    | none => openSources files databases rest

/-- The processors of a configuration. -/
def Configuration.buildProcessors (c : Configuration) :
    Except ConfigurationError (List Processor) :=
  match c.processors.mapM ProcessorDefinition.build with
  | .ok processors => .ok processors
  | .error e => .error (.invalid (.processor e))

namespace Federation

/-- The federation that a configuration describes. -/
def ofConfiguration (files : Files) (c : Configuration) : Except ConfigurationError Federation := do
  let processors ← c.buildProcessors
  return {
    registry := .ofBackends (openSources files [] c.sources)
    cache := if c.cache.enabled then some (.memory (.empty (some c.cache.timeToLive))) else none
    processors := processors
    limits := .uniform c.limit
    executions := [] }

/-- The federation that the configuration in a file describes. -/
def ofFile (files : Files) (path : String) : Except ConfigurationError Federation := do
  ofConfiguration files (← Configuration.ofFile files path)

end Federation

end FederatedSearch
