import FederatedSearch.Document.Collection
import FederatedSearch.NativeQuery
import FederatedSearch.Sql.Table

/-!
# Stores

What answers native queries: a collection of documents, a store that is asked for one value, or
a database. Each runs the queries of its own form and refuses all others.
-/

namespace FederatedSearch

/-- Why a native query was not answered. -/
inductive ExecutionError
  | backend (message : String)
  | timeout (seconds : Nat)
  | filter (error : Document.FilterError)
  | unsupported (query : String)
  | database
  | cancelled

/-- The message for a native query that was not answered. The text of a database fault is the
database's own. -/
def ExecutionError.message : ExecutionError → String
  | backend message => message
  | timeout seconds =>
    "query timed out after " ++ toString seconds ++ (if seconds = 0 then "ns" else "s")
  | filter error => "malformed response: " ++ error.message
  | unsupported query => "unsupported native query: " ++ query
  | database => ""
  | cancelled => "search cancelled"

/-- A store of records. -/
inductive Store
  | documents (records : List Record)
  | keyValue (store : Lookup.Store)
  | relational (database : Sql.Database) (table : String)
  deriving Inhabited

namespace Store

/-- The records that a native query finds. -/
def execute [Document.PatternReader] [Sql.Numerals] (q : NativeQuery) :
    Store → Except ExecutionError (List Record)
  | documents records =>
    match q with
    | .document query =>
      match Document.run records query with
      | .ok found => .ok found
      | .error e => .error (.filter e)
    | _ => .error (.unsupported q.text)
  | keyValue store =>
    match q with
    | .lookup field value =>
      if field = store.field then .ok (store.find value)
      else
        .error (.unsupported
          ("lookup by '" ++ field ++ "', indexed by '" ++ store.field ++ "'"))
    | _ => .error (.unsupported q.text)
  | relational database _ =>
    match q with
    | .sql (.select dialect statement) =>
      match database.run dialect statement with
      | some found => .ok found
      | none => .error .database
    | .sql (.verbatim _) => .error .database
    | _ => .error (.unsupported q.text)

/-- The names of the fields of a store, sorted and each once. -/
def fields : Store → Except ExecutionError (List String)
  | documents records => .ok (recordFields records)
  | keyValue store => .ok (recordFields store.records)
  | relational database table =>
    match database.table? table with
    | some t => .ok t.fields
    | none => .error .database

end Store

end FederatedSearch
