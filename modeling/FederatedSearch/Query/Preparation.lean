import FederatedSearch.Query.Parser

/-!
# Accepting statements

A statement is accepted as a query when it asks for what every source can answer: one source,
filters, at most one time range, a page within the limits. Every fault here concerns the query
itself and is found before any source is asked.
-/

namespace FederatedSearch

/-- Why a statement is not accepted. -/
inductive ValidationError
  | distinct
  | multipleSources
  | groupBy
  | missingFilters
  | notFilters
  | multipleDatetimeRanges
  | negativeOffset
  | negativeRowcount
  | missingSource
  deriving DecidableEq, Repr

/-- The message for a statement that is not accepted. -/
def ValidationError.message : ValidationError → String
  | distinct => "DISTINCT shouldn't be used, API service already returns unique nodes pairs only"
  | multipleSources => "Multiple FROM currently not supported"
  | groupBy => "'GROUP BY' & aggregation are not supported"
  | missingFilters => "WHERE filters are missing"
  | notFilters => "WHERE statement is not a list of filters"
  | multipleDatetimeRanges => "Only one datetime range is allowed"
  | negativeOffset => "LIMIT offset can't be less than 0"
  | negativeRowcount => "LIMIT rowcount can't be less than 0"
  | missingSource => "FROM is missing"

/-- Why a query cannot be split into single comparisons. -/
inductive SplitError
  | conjunction
  | comparison (op : CompareOp)
  | range (field : String)
  | innerConjunction
  deriving DecidableEq, Repr

/-- The message for a query that cannot be split. -/
def SplitError.message : SplitError → String
  | conjunction => "only a single datetime range can be combined with AND"
  | comparison op => "operator '" ++ op.text ++ "' is not supported, only '=' can be split"
  | range field => "BETWEEN on '" ++ field ++ "' can't be split"
  | innerConjunction => "AND inside a disjunction can't be split"

/-- Why there is no answer to a query, whatever the sources hold. -/
inductive QueryError
  | parse (error : ParseError)
  | validation (error : ValidationError)
  | split (error : SplitError)
  deriving DecidableEq, Repr

/-- The message for a query without an answer. -/
def QueryError.message : QueryError → String
  | parse e => e.message
  | validation e => e.message
  | split e => "Can't split query: " ++ e.message

namespace Statement

/-- The page that a limit asks for, of at most `maxRowcount` records. -/
def page (maxRowcount : Nat) : Option Limit → Except ValidationError (Nat × Nat)
  | none => .ok (0, maxRowcount)
  | some limit =>
    let offset := limit.offset.getD 0
    if offset < 0 then .error .negativeOffset
    else if limit.rowcount < 0 then .error .negativeRowcount
    else .ok (offset.toNat, min limit.rowcount.toNat maxRowcount)

/-- The predicate of a statement, if it is one that sources can evaluate. -/
def filters : Option Predicate → Except ValidationError Predicate
  | none => .error .missingFilters
  | some (.between _ _ _) => .error .notFilters
  | some p => if 1 < p.datetimeRangeCount then .error .multipleDatetimeRanges else .ok p

/-- Accepts a statement as a query for at most `maxRowcount` records. -/
def accept (s : Statement) (maxRowcount : Nat) : Except ValidationError Query := do
  if s.distinct then throw .distinct
  if 1 < s.sources.length then throw .multipleSources
  if !s.groupBy.isEmpty then throw .groupBy
  let predicate ← filters s.selection
  let (offset, rowcount) ← page maxRowcount s.limit
  match s.sources with
  | [] => throw .missingSource
  | source :: _ => return ⟨source, predicate, s.orderBy, offset, rowcount⟩

end Statement

namespace Query

/-- The query that a text stands for, of at most `maxRowcount` records. -/
def prepare (text : String) (maxRowcount : Nat) : Except QueryError Query :=
  match Statement.ofText text with
  | .error e => .error (.parse e)
  | .ok statement =>
    match statement.accept maxRowcount with
    | .error e => .error (.validation e)
    | .ok q => .ok q

/-- The source that a query text asks. -/
def target (text : String) : Except QueryError String :=
  match Statement.ofText text with
  | .error e => .error (.parse e)
  | .ok statement =>
    match statement.sources with
    | [source] => .ok source
    | [] => .error (.validation .missingSource)
    | _ => .error (.validation .multipleSources)

end Query

end FederatedSearch
