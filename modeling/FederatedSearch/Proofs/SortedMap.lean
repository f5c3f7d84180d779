import FederatedSearch.SortedMap
import FederatedSearch.Proofs.SortedTexts

/-!
# Looking up what has been inserted

Setting a key changes what is found under that key and under no other, and keeps a map sorted. A
map that is made of entries with different keys holds each of them, and is empty only if there are
none.
-/

namespace FederatedSearch

namespace SortedMap

variable {α : Type} {key other : String} {value : α} {map : SortedMap α}

/-- The keys increase, so that each stands once. -/
def Sorted (map : SortedMap α) : Prop :=
  map.Pairwise fun a b => a.1 < b.1

/-- The entries after an insertion are the new one and old ones. -/
theorem mem_of_mem_insert {entry : String × α} (member : entry ∈ insert key value map) :
    entry = (key, value) ∨ entry ∈ map := by
  induction map with
  | nil => exact .inl (List.mem_singleton.mp member)
  | cons first rest ih =>
    rw [insert] at member
    split at member
    · exact List.mem_cons.mp member
    · split at member
      · exact (List.mem_cons.mp member).imp_right (List.mem_cons_of_mem _)
      · rcases List.mem_cons.mp member with rfl | later
        · exact .inr (List.mem_cons_self ..)
        · exact (ih later).imp_right (List.mem_cons_of_mem _)

/-- Setting a key puts it among the keys. -/
theorem keys_insert (key : String) (value : α) (map : SortedMap α) :
    keys (insert key value map) = insertSorted key map.keys := by
  induction map with
  | nil => rfl
  | cons first rest ih =>
    have further : keys (first :: rest) = first.1 :: keys rest := rfl
    rw [insert, further, insertSorted]
    split
    · rfl
    · split
      · rename_i same
        rw [same]
        rfl
      · exact congrArg (first.1 :: ·) ih

/-- Setting a key keeps a map sorted. -/
theorem Sorted.insert (sorted : map.Sorted) (key : String) (value : α) :
    (SortedMap.insert key value map).Sorted := by
  refine List.pairwise_map.mp (?_ : (SortedMap.insert key value map).keys.Pairwise (· < ·))
  rw [keys_insert]
  exact pairwise_insertSorted key (List.pairwise_map.mpr sorted)

/-- A key is looked up at the first entry and, failing this, at the others. -/
theorem get?_cons (entry : String × α) (map : SortedMap α) (other : String) :
    get? (entry :: map) other = if other = entry.1 then some entry.2 else get? map other := by
  unfold get?
  rw [List.lookup_cons]
  by_cases same : other = entry.1
  · rw [if_pos same, beq_iff_eq.mpr same]
  · rw [if_neg same, beq_false_of_ne same]

/-- What is found is an entry. -/
theorem mem_of_get? (found : get? map key = some value) : (key, value) ∈ map := by
  obtain ⟨before, after, rfl, _⟩ := List.lookup_eq_some_iff.mp found
  exact List.mem_append_right _ (List.mem_cons_self ..)

/-- In a sorted map each entry is found under its key. -/
theorem Sorted.get?_of_mem (sorted : map.Sorted) (member : (key, value) ∈ map) :
    get? map key = some value := by
  induction map with
  | nil => cases member
  | cons first rest ih =>
    obtain ⟨least, others⟩ := List.pairwise_cons.mp sorted
    rw [get?_cons]
    rcases List.mem_cons.mp member with rfl | later
    · rw [if_pos rfl]
    · rw [if_neg (String.ne_of_lt (least _ later)).symm]
      exact ih others later

/-- What is found under a key is what was set last. -/
theorem get?_insert (key : String) (value : α) (map : SortedMap α) (other : String) :
    get? (insert key value map) other = if other = key then some value else get? map other := by
  induction map with
  | nil => exact get?_cons ..
  | cons first rest ih =>
    rw [insert]
    split
    · exact get?_cons ..
    · split
      · rename_i same
        rw [get?_cons, get?_cons, ← same]
        split <;> rfl
      · rename_i different
        rw [get?_cons, get?_cons, ih]
        by_cases here : other = first.1
        · rw [if_pos here, if_pos here, if_neg (here ▸ Ne.symm different)]
        · rw [if_neg here, if_neg here]

section Entries

variable {entries : List (String × α)}

/-- A map with further entries. -/
def insertAll (map : SortedMap α) (entries : List (String × α)) : SortedMap α :=
  entries.foldl (fun map entry => insert entry.1 entry.2 map) map

/-- Inserting under other keys does not change what is found under this one. -/
theorem get?_insertAll_of_not_mem (absent : key ∉ entries.map (·.1)) :
    get? (map.insertAll entries) key = get? map key := by
  induction entries generalizing map with
  | nil => rfl
  | cons entry rest ih =>
    rw [List.map_cons, List.mem_cons, not_or] at absent
    have later : get? ((insert entry.1 entry.2 map).insertAll rest) key = _ := ih absent.2
    rwa [get?_insert, if_neg absent.1] at later

/-- What is inserted once is found. -/
theorem get?_insertAll_of_mem (distinct : (entries.map (·.1)).Nodup)
    (member : (key, value) ∈ entries) : get? (map.insertAll entries) key = some value := by
  induction entries generalizing map with
  | nil => cases member
  | cons entry rest ih =>
    rw [List.map_cons, List.nodup_cons] at distinct
    rcases List.mem_cons.mp member with rfl | later
    · have kept : get? ((insert key value map).insertAll rest) key = _ :=
        get?_insertAll_of_not_mem distinct.1
      rwa [get?_insert, if_pos rfl] at kept
    · exact ih distinct.2 later

/-- A key that no entry has is not found. -/
theorem get?_ofList_of_not_mem (absent : key ∉ entries.map (·.1)) :
    get? (ofList entries) key = none :=
  get?_insertAll_of_not_mem absent

/-- Among entries with different keys each is found under its key. -/
theorem get?_ofList_of_mem (distinct : (entries.map (·.1)).Nodup)
    (member : (key, value) ∈ entries) : get? (ofList entries) key = some value :=
  get?_insertAll_of_mem distinct member

/-- Setting a key leaves no empty map. -/
theorem isEmpty_insert (key : String) (value : α) (map : SortedMap α) :
    (insert key value map).isEmpty = false := by
  cases map with
  | nil => rfl
  | cons first rest =>
    rw [insert]
    split
    · rfl
    · split <;> rfl

/-- A map stays empty when it was and nothing is inserted. -/
theorem isEmpty_insertAll (map : SortedMap α) (entries : List (String × α)) :
    (map.insertAll entries).isEmpty = (map.isEmpty && entries.isEmpty) := by
  induction entries generalizing map with
  | nil => exact (Bool.and_true _).symm
  | cons entry rest ih =>
    have later : ((insert entry.1 entry.2 map).insertAll rest).isEmpty = _ := ih _
    rw [isEmpty_insert, Bool.false_and] at later
    exact later.trans (Bool.and_false _).symm

/-- A map that is made of entries is sorted. -/
theorem sorted_ofList (entries : List (String × α)) : (ofList entries).Sorted := by
  have further (map : SortedMap α) (sorted : map.Sorted) : (map.insertAll entries).Sorted := by
    induction entries generalizing map with
    | nil => exact sorted
    | cons entry rest ih => exact ih _ (sorted.insert entry.1 entry.2)
  exact further [] .nil

/-- The entries after insertions are old ones and inserted ones. -/
theorem mem_of_mem_insertAll {entry : String × α} (member : entry ∈ map.insertAll entries) :
    entry ∈ map ∨ entry ∈ entries := by
  induction entries generalizing map with
  | nil => exact .inl member
  | cons first rest ih =>
    rcases ih member with early | late
    · rcases mem_of_mem_insert early with rfl | kept
      · exact .inr (List.mem_cons_self ..)
      · exact .inl kept
    · exact .inr (List.mem_cons_of_mem _ late)

/-- A map holds nothing but the entries it is made of. -/
theorem mem_of_mem_ofList {entry : String × α} (member : entry ∈ ofList entries) :
    entry ∈ entries :=
  (mem_of_mem_insertAll member).resolve_left List.not_mem_nil

/-- A map is empty exactly when it is made of no entries. -/
theorem isEmpty_ofList (entries : List (String × α)) :
    (ofList entries).isEmpty = entries.isEmpty :=
  isEmpty_insertAll [] entries

end Entries

end SortedMap

end FederatedSearch
