import FederatedSearch.Document.Query
import FederatedSearch.Lookup.Store
import FederatedSearch.Sql.Rendering
import FederatedSearch.Sql.Compilation

/-!
# Native queries

A query in the form that a source runs: an SQL statement, a document query, or a look-up of one
value. Each kind of source has a compiler for its form.
-/

namespace FederatedSearch

namespace Sql

/-- A statement: one that was compiled in a dialect, or one that is known by its text alone. -/
inductive Statement
  | select (dialect : Dialect) (select : Select)
  | verbatim (text : String)
  deriving Inhabited

/-- The text of a statement. -/
def Statement.text : Statement → String
  | select d s => s.text d
  | verbatim t => t

end Sql

/-- A query in the form that a source runs. -/
inductive NativeQuery
  | sql (statement : Sql.Statement)
  | document (query : Document.Query)
  | lookup (field value : String)
  deriving Inhabited

/-- The text of a native query. -/
def NativeQuery.text : NativeQuery → String
  | sql s => s.text
  | document q => q.text
  | lookup field value => field ++ "=" ++ value

/-- The JSON value of a native query. -/
def NativeQuery.toJson : NativeQuery → Json
  | sql s => .ofMembers [("kind", .string "sql"), ("statement", .string s.text)]
  | document q =>
    .ofMembers [("kind", .string "document"), ("filter", q.filter),
      ("sort", .array (q.sort.map (·.toJson))), ("skip", .ofNat q.skip), ("limit", .ofNat q.limit)]
  | lookup field value =>
    .ofMembers [("kind", .string "lookup"), ("field", .string field), ("value", .string value)]

/-- How the queries for a source are written. -/
inductive Compiler
  | sql (table : String) (dialect : Sql.Dialect) (threshold : Nat)
  | document
  | lookup (field : String)
  deriving Repr, Inhabited

/-- A native query and what was simplified in writing it. -/
structure Compilation where
  native : NativeQuery
  optimizations : List Optimization
  deriving Inhabited

namespace Compiler

/-- The name of a compiler. -/
def name : Compiler → String
  | sql _ _ _ => "sql"
  | document => "document"
  | lookup _ => "lookup"

/-- Writes a query in the form of a source. -/
def compile (q : Query) : Compiler → Except CompileError Compilation
  | sql table dialect threshold => do
    let statement ← Sql.compile table threshold q
    return ⟨.sql (.select dialect statement), Sql.optimizations threshold q.predicate⟩
  | document => do
    return ⟨.document (← Document.compile q), Document.optimizations q.predicate⟩
  | lookup field => do
    return ⟨.lookup field (← Lookup.compile field q.predicate), []⟩

end Compiler

end FederatedSearch
