import FederatedSearch.Query.Preparation
import FederatedSearch.Query.Renaming

/-!
# Queries for one source

A query is adapted to what a source can do. A source without a time field gets the query without
its time range; one that cannot evaluate AND, OR and IN gets one query for each comparison of a
disjunction; and every source gets its own field names.
-/

namespace FederatedSearch

/-- What a source can do, as far as it shapes the queries for it. -/
structure Capabilities where
  /-- The source has a time field. -/
  hasDatetime : Bool
  /-- The names that the source has for fields. -/
  fieldNames : Renaming
  /-- The source evaluates AND, OR and IN itself. -/
  nativeBooleans : Bool
  deriving Repr, Inhabited

namespace Predicate

/-- A predicate without the time ranges that are operands of AND; nothing may be left. -/
def stripDatetime : Predicate → Option Predicate
  | compare field op value => some (compare field op value)
  | between field low high =>
    if field = datetimeField then none else some (between field low high)
  | and left right =>
    match left.stripDatetime, right.stripDatetime with
    | some l, some r => some (and l r)
    | some only, none => some only
    | none, some only => some only
    | none, none => none
  | or left right => some (or left right)
  | paren inner => inner.stripDatetime.map paren

/-- The comparisons of a disjunction, with each list of values taken apart. -/
def disjuncts : Predicate → Except SplitError (List Predicate)
  | or left right => do return (← left.disjuncts) ++ (← right.disjuncts)
  | paren inner => inner.disjuncts
  | compare field .eq value => .ok [compare field .eq value]
  | compare field .isIn (.list values) => .ok (values.map (compare field .eq))
  | compare _ op _ => .error (.comparison op)
  | between field _ _ => .error (.range field)
  | and _ _ => .error .innerConjunction

/-- The single comparisons that a predicate is a disjunction of. A time range that is joined to
the disjunction by AND is joined to each of them. -/
def split : Predicate → Except SplitError (List Predicate)
  | paren inner => inner.split
  | and left right =>
    if right.isDatetimeRange then left.disjuncts.map (·.map (and · right))
    else if left.isDatetimeRange then right.disjuncts.map (·.map (and · left))
    else .error .conjunction
  | p => p.disjuncts

end Predicate

namespace Query

/-- The predicate of a query as a source with or without a time field sees it. -/
def visiblePredicate (q : Query) (hasDatetime : Bool) : Except QueryError Predicate :=
  if hasDatetime then .ok q.predicate
  else match q.predicate.stripDatetime with
    | some p => .ok p
    | none => .error (.validation .missingFilters)

/-- The queries that a source has to run for `q`, in order. -/
def specialize (q : Query) (source : Capabilities) : Except QueryError (List Query) := do
  let predicate ← q.visiblePredicate source.hasDatetime
  let predicates ←
    if source.nativeBooleans then pure [predicate]
    else match predicate.split with
      | .ok parts => pure parts
      | .error e => throw (.split e)
  return predicates.map fun p => Query.rename source.fieldNames { q with predicate := p }

/-- The queries that a source has to run for a text, in order. -/
def normalize (text : String) (maxRowcount : Nat) (source : Capabilities) :
    Except QueryError (List Query) := do
  (← prepare text maxRowcount).specialize source

end Query

end FederatedSearch
