import FederatedSearch.Document.Filter
import FederatedSearch.Document.Query

/-!
# Collections of documents

A collection answers a query with the records that pass its filter, in the order of its sort
keys, and of these one page. Records that the keys do not tell apart stay in the order of the
collection.
-/

namespace FederatedSearch

namespace Document

/-- The group of values that a value is sorted into: absent, numbers, strings, all else. -/
def sortRank : Option Json → Nat
  | none => 0
  | some (.number _) => 1
  | some (.string _) => 2
  | some _ => 3

/-- The order of two values in a sorted result. Within a group values of one kind are compared,
and others by their text. -/
def sortOrder (a b : Option Json) : Ordering :=
  match a, b with
  | some x, some y =>
    if sortRank a = sortRank b then
      (compareValues x y).getD (compare x.compact y.compact)
    else compare (sortRank a) (sortRank b)
  | _, _ => compare (sortRank a) (sortRank b)

/-- The order of two records by one key. -/
def SortKey.order (key : SortKey) (a b : Record) : Ordering :=
  let order := sortOrder (a.lookup key.field) (b.lookup key.field)
  if key.direction < 0 then order.swap else order

/-- The order of two records: by the first key that tells them apart. -/
def recordOrder (keys : List SortKey) (a b : Record) : Ordering :=
  match keys with
  | [] => .eq
  | key :: rest => (key.order a b).then (recordOrder rest a b)

/-- Records in the order of sort keys. -/
def sortRecords (keys : List SortKey) (records : List Record) : List Record :=
  records.mergeSort fun a b => recordOrder keys a b != .gt

/-- The records of a collection that a query asks for. -/
def run [PatternReader] (documents : List Record) (q : Query) : Except FilterError (List Record) := do
  let filter ← Filter.ofJson q.filter
  let found := sortRecords q.sort (documents.filter (filter.matches ·))
  return (found.drop q.skip).take q.limit

end Document

end FederatedSearch
