import FederatedSearch.Configuration.Basic
import FederatedSearch.Query.Specialization
import FederatedSearch.Relation.Projection
import FederatedSearch.Store

/-!
# Backends

A source that is ready to be searched: how queries for it are written, and what it sends in
answer to a native query. A backend whose definitions are derived from its records learns a
definition from each record that it has not seen the like of.
-/

namespace FederatedSearch

/-- How an answer goes on after its last record. -/
inductive Ending
  | finished
  | failed (error : ExecutionError)
  /-- Nothing comes any more, and no end either. -/
  | stalled

instance : Inhabited Ending := ⟨.finished⟩

/-- What a source sends in answer to a native query: records one after the other, and an end. -/
structure Arrivals where
  records : List Record
  ending : Ending
  deriving Inhabited

namespace Arrivals

/-- An answer that is complete or fails before its first record. -/
def ofResult : Except ExecutionError (List Record) → Arrivals
  | .ok records => ⟨records, .finished⟩
  | .error e => ⟨[], .failed e⟩

end Arrivals

/-- A source that is ready to be searched. -/
structure Backend where
  source : Source
  compiler : Compiler
  respond : NativeQuery → Arrivals
  /-- The names that the source itself has for its fields. -/
  fields : Except ExecutionError (List String)
  /-- The definitions that are known so far. -/
  relations : RelationSet

/-- Why a source adds less to a search than it was asked for. -/
inductive SourceFault
  | query (error : QueryError)
  | compile (error : CompileError)
  | execution (error : ExecutionError)

/-- The words for a fault of a source. -/
def SourceFault.text : SourceFault → String
  | query e => e.message
  | compile e => e.message
  | execution e => e.message

namespace Backend

/-- The backend of a source whose records are in a store. -/
def ofStore [Document.PatternReader] [Sql.Numerals] (source : Source) (compiler : Compiler)
    (store : Store) : Backend where
  source := source
  compiler := compiler
  respond q := Arrivals.ofResult (store.execute q)
  fields := store.fields
  relations := ⟨source.relations⟩

/-- The name of a backend. -/
def name (b : Backend) : String :=
  b.source.name

/-- The message for a fault of a backend. -/
def message (b : Backend) (fault : SourceFault) : String :=
  b.name ++ " - " ++ fault.text

/-- What a backend can do, as far as it shapes the queries for it. -/
def capabilities (b : Backend) : Capabilities :=
  ⟨b.source.hasDatetime, b.source.fieldNames, b.source.nativeBooleans⟩

/-- The native queries that a backend has to run for a query, and the faults of those parts of
the query that have no native form. -/
def nativeQueries (b : Backend) (q : Query) : List NativeQuery × List SourceFault :=
  match q.specialize b.capabilities with
  | .error e => ([], [.query e])
  | .ok parts =>
    let compiled := parts.map fun part => b.compiler.compile part
    (compiled.filterMap fun c => match c with
        | .ok c => some c.native
        | .error _ => none,
      compiled.filterMap fun c => match c with
        | .ok _ => none
        | .error e => some (.compile e))

/-- What a backend learns from a record: the definition for its type, unless one of the same two
fields is known. -/
def observe (b : Backend) (r : Record) : Backend :=
  match b.source.inference.bind (·.infer r) with
  | some d => { b with relations := b.relations.add d }
  | none => b

/-- The names that users have for the fields of a backend. -/
def userFields (b : Backend) : Except ExecutionError (List String) := do
  return (← b.fields).map fun field =>
    match b.source.fieldNames.find? (·.2 == field) with
    | some (user, _) => user
    | none => field

end Backend

/-! ## Registries -/

/-- The backends of a federation, by name. -/
abbrev Registry := SortedMap Backend

namespace Registry

/-- Adds a backend, in place of any other of its name. -/
def register (r : Registry) (b : Backend) : Registry :=
  SortedMap.insert b.name b r

/-- The registry of some backends; of two with one name the later counts. -/
def ofBackends (bs : List Backend) : Registry :=
  bs.foldl register []

/-- The backends that take part in global searches. -/
def globalBackends (r : Registry) : List Backend :=
  (r.map (·.2)).filter (·.source.inGlobal)

/-- The names that users have for the fields of all backends, sorted. Backends that cannot tell
their fields are passed over. -/
def fieldList (r : Registry) : List String :=
  sortedDistinct <| r.flatMap fun (_, b) =>
    match b.userFields with
    | .ok fields => fields
    | .error _ => []

end Registry

end FederatedSearch
