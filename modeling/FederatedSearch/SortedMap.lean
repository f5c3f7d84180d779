/-!
# Sorted maps

Maps from texts to values, as lists of entries by increasing key, each key once. Two maps with
the same entries are the same list, and a map is shown in the order of its keys.
-/

namespace FederatedSearch

/-- A map from texts to values: its entries by increasing key. -/
abbrev SortedMap (α : Type) := List (String × α)

namespace SortedMap

/-- Sets the value of a key. -/
def insert {α : Type} (key : String) (value : α) : SortedMap α → SortedMap α
  | [] => [(key, value)]
  | (k, v) :: rest =>
    if key < k then (key, value) :: (k, v) :: rest
    else if key = k then (key, value) :: rest
    else (k, v) :: insert key value rest

/-- The map with some entries, listed in any order; of two with one key the later counts. -/
def ofList {α : Type} (entries : List (String × α)) : SortedMap α :=
  entries.foldl (fun map entry => insert entry.1 entry.2 map) []

/-- The value of a key. -/
def get? {α : Type} (map : SortedMap α) (key : String) : Option α :=
  map.lookup key

/-- The keys of a map. -/
def keys {α : Type} (map : SortedMap α) : List String :=
  map.map (·.1)

end SortedMap

end FederatedSearch
