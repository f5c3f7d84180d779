import FederatedSearch.Proofs.Relation.Pair
import Mathlib.Data.List.Dedup
import Mathlib.Data.List.Perm.Subperm

/-!
# What a collector holds

The index of a collector is worth what it says only together with its keys and relations.
`Collector.Consistent` ties the three together; the empty collector is consistent, and inserting
keeps it so. For a consistent collector, inserting is adding to a set: a relation is refused
exactly when one of its pair is held (`holds_iff`), so that the pairs held are those that were
offered, each once.
-/

namespace FederatedSearch

namespace RelationIndex

/-- The places of a key are those of the first entry that has it. -/
theorem places_cons (k key : RelationKey) (ps : List Nat) (index : RelationIndex) :
    places ((k, ps) :: index) key = if key = k then ps else places index key := by
  unfold places
  rw [List.lookup_cons]
  by_cases same : key = k
  · rw [if_pos same, beq_iff_eq.mpr same]
    rfl
  · rw [if_neg same, beq_false_of_ne same]

/-- The places of a key grow by the place that is added for it, and those of others stay. -/
theorem places_extend (key other : RelationKey) (place : Nat) (index : RelationIndex) :
    places (extend key place index) other =
      places index other ++ if other = key then [place] else [] := by
  induction index with
  | nil => rw [extend, places_cons]; rfl
  | cons entry rest ih =>
    obtain ⟨k, ps⟩ := entry
    rw [extend]
    by_cases here : k = key
    · rw [if_pos here, places_cons, places_cons, here]
      split
      · rfl
      · rw [List.append_nil]
    · rw [if_neg here, places_cons, places_cons, ih]
      split
      · rename_i same
        rw [if_neg (same ▸ here), List.append_nil]
      · rfl

end RelationIndex

namespace Collector

variable {c : Collector} {key : RelationKey} {r : GraphRelation}

/-- The pairs that a collector holds, in the order in which they came. -/
def pairs (c : Collector) : List RelationPair :=
  c.entries.map KeyedRelation.pair

/-- Each relation has a key, the index leads from each key to the places that carry it, and no
pair is held twice. -/
structure Consistent (c : Collector) : Prop where
  keyed : c.keys.length = c.relations.length
  indexed : ∀ key, RelationIndex.places c.index key =
    (List.range c.keys.length).filter fun place => c.keys[place]? = some key
  distinct : c.pairs.Nodup

/-- The index of the empty collector fits its pairs. -/
theorem consistent_empty : empty.Consistent :=
  ⟨rfl, fun _ => rfl, List.nodup_nil⟩

/-- The relations are those of the entries. -/
theorem Consistent.relations_eq (consistent : c.Consistent) :
    c.relations = c.entries.map (·.2) :=
  (List.map_snd_zip (Nat.le_of_eq consistent.keyed.symm)).symm

/-- A consistent collector counts its pairs. -/
theorem Consistent.size_eq (consistent : c.Consistent) : c.size = c.pairs.length := by
  rw [size, consistent.relations_eq, List.length_map, pairs, List.length_map]

/-- A relation is held exactly when one with its key and its attributes has a place. -/
theorem Consistent.holds_iff_exists (consistent : c.Consistent) :
    c.holds key r = true ↔ ∃ (place : Nat) (s : GraphRelation), c.keys[place]? = some key ∧
      c.relations[place]? = some s ∧ s.sameAttributes r = true := by
  simp only [holds, consistent.indexed, List.any_filter, List.any_eq_true, List.mem_range,
    Bool.and_eq_true, decide_eq_true_eq, Option.any_eq_true]
  constructor
  · rintro ⟨place, _, carried, s, found, same⟩
    exact ⟨place, s, carried, found, same⟩
  · rintro ⟨place, s, carried, found, same⟩
    exact ⟨place, (List.getElem?_eq_some_iff.mp carried).1, carried, s, found, same⟩

/-- A relation is held exactly when one of its pair is. -/
theorem Consistent.holds_iff (consistent : c.Consistent) :
    c.holds key r = true ↔ KeyedRelation.pair (key, r) ∈ c.pairs := by
  simp only [consistent.holds_iff_exists, pairs, List.mem_map, entries,
    List.mem_iff_getElem? (l := c.keys.zip c.relations), List.getElem?_zip_eq_some,
    KeyedRelation.pair_eq_iff, KeyedRelation.Alike]
  constructor
  · rintro ⟨place, s, carried, found, same⟩
    exact ⟨(key, s), ⟨place, carried, found⟩, rfl, same⟩
  · rintro ⟨⟨k, s⟩, ⟨place, carried, found⟩, rfl, same⟩
    exact ⟨place, s, carried, found, same⟩

/-- A relation that is held already changes nothing. -/
theorem insert_of_holds (held : c.holds key r = true) : c.insert key r = c := by
  rw [insert, offer, if_pos held]

/-- A relation that is not held comes last, and so does its place among those of its key. -/
theorem insert_of_missing (missing : c.holds key r = false) :
    c.insert key r = ⟨c.keys ++ [key], c.relations ++ [r],
      RelationIndex.extend key c.relations.length c.index⟩ := by
  rw [insert, offer, missing]
  rfl

/-- A relation that is not held makes one more. -/
theorem size_insert (c : Collector) (key : RelationKey) (r : GraphRelation) :
    (c.insert key r).size = c.size + if c.holds key r then 0 else 1 := by
  cases held : c.holds key r with
  | true => simp [insert_of_holds held]
  | false => simp [insert_of_missing held, size]

/-- A relation that is not held comes last. -/
theorem Consistent.entries_insert (consistent : c.Consistent) (missing : c.holds key r = false) :
    (c.insert key r).entries = c.entries ++ [(key, r)] := by
  rw [insert_of_missing missing]
  exact List.zip_append consistent.keyed

/-- A further key is carried by the place that it takes, and no other key gains a place. -/
theorem places_append (keys : List RelationKey) (key other : RelationKey) :
    ((List.range (keys ++ [key]).length).filter fun place =>
        (keys ++ [key])[place]? = some other) =
      ((List.range keys.length).filter fun place => keys[place]? = some other) ++
        if other = key then [keys.length] else [] := by
  have early : ∀ place ∈ List.range keys.length,
      decide ((keys ++ [key])[place]? = some other) = decide (keys[place]? = some other) := by
    intro place inside
    rw [List.getElem?_append_left (List.mem_range.mp inside)]
  rw [List.length_append, List.length_singleton, List.range_succ, List.filter_append,
    List.filter_congr early, List.filter_singleton, List.getElem?_concat_length]
  simp [eq_comm]

/-- Inserting keeps a collector consistent. -/
theorem Consistent.insert (consistent : c.Consistent) (key : RelationKey) (r : GraphRelation) :
    (c.insert key r).Consistent := by
  cases held : c.holds key r with
  | true =>
    rw [insert_of_holds held]
    exact consistent
  | false =>
    have fresh : KeyedRelation.pair (key, r) ∉ c.pairs := by
      rw [← consistent.holds_iff, held]
      exact Bool.false_ne_true
    have entries := consistent.entries_insert held
    refine ⟨?_, fun other => ?_, ?_⟩
    · rw [insert_of_missing held]
      simp [consistent.keyed]
    · rw [insert_of_missing held]
      rw [places_append, RelationIndex.places_extend, consistent.indexed, consistent.keyed]
    · rw [pairs, entries, List.map_append, List.map_singleton, ← List.concat_eq_append]
      exact consistent.distinct.concat fresh

/-- The pairs held after inserting are those held before and the one that was offered. -/
theorem Consistent.mem_pairs_insert (consistent : c.Consistent) {p : RelationPair} :
    p ∈ (c.insert key r).pairs ↔ p ∈ c.pairs ∨ p = KeyedRelation.pair (key, r) := by
  cases held : c.holds key r with
  | true =>
    rw [insert_of_holds held]
    refine ⟨.inl, fun member => member.elim id ?_⟩
    rintro rfl
    exact consistent.holds_iff.mp held
  | false =>
    rw [pairs, consistent.entries_insert held, List.map_append, List.mem_append]
    simp [pairs]

/-- Entries are kept, and those that come are among those offered. -/
theorem Consistent.entries_subset_insert (consistent : c.Consistent) :
    (c.insert key r).entries ⊆ c.entries ++ [(key, r)] := by
  cases held : c.holds key r with
  | true =>
    rw [insert_of_holds held]
    exact List.subset_append_left ..
  | false =>
    rw [consistent.entries_insert held]
    exact List.Subset.refl _

/-! ## Many relations -/

section Many

variable {offered : List KeyedRelation}

theorem insertAll_nil (c : Collector) : c.insertAll [] = c := rfl

theorem insertAll_cons (c : Collector) (e : KeyedRelation) (offered : List KeyedRelation) :
    c.insertAll (e :: offered) = (c.insert e.1 e.2).insertAll offered := rfl

/-- What inserting one relation keeps is kept by inserting many. -/
theorem insertAll_keeps {P : Collector → Prop}
    (step : ∀ (c : Collector) (key : RelationKey) (r : GraphRelation), P c → P (c.insert key r))
    (start : P c) (offered : List KeyedRelation) : P (c.insertAll offered) := by
  induction offered generalizing c with
  | nil => exact start
  | cons e rest ih =>
    rw [insertAll_cons]
    exact ih (step c e.1 e.2 start)

/-- Offers keep the index fitting the pairs. -/
theorem Consistent.insertAll (consistent : c.Consistent) (offered : List KeyedRelation) :
    (c.insertAll offered).Consistent :=
  insertAll_keeps (fun _ key r kept => kept.insert key r) consistent offered

/-- The pairs held after inserting are those held before and those that were offered. -/
theorem Consistent.mem_pairs_insertAll (consistent : c.Consistent) {p : RelationPair} :
    p ∈ (c.insertAll offered).pairs ↔ p ∈ c.pairs ∨ p ∈ offered.map KeyedRelation.pair := by
  induction offered generalizing c with
  | nil => simp [insertAll_nil]
  | cons e rest ih =>
    rw [insertAll_cons, ih (consistent.insert e.1 e.2), consistent.mem_pairs_insert,
      List.map_cons, List.mem_cons, or_assoc]

/-- Nothing is held but what was held before or has been offered. -/
theorem Consistent.entries_subset_insertAll (consistent : c.Consistent) :
    (c.insertAll offered).entries ⊆ c.entries ++ offered := by
  induction offered generalizing c with
  | nil => exact List.subset_append_left ..
  | cons e rest ih =>
    rw [insertAll_cons]
    intro entry member
    rcases List.mem_append.mp (ih (consistent.insert e.1 e.2) member) with early | late
    · have kept := consistent.entries_subset_insert early
      rw [List.mem_append, List.mem_singleton] at kept
      rw [List.mem_append, List.mem_cons]
      exact kept.imp_right .inl
    · exact List.mem_append_right _ (List.mem_cons_of_mem _ late)

/-- Two lists of offers are inserted one after the other. -/
theorem insertAll_append (c : Collector) (first second : List KeyedRelation) :
    c.insertAll (first ++ second) = (c.insertAll first).insertAll second := by
  induction first generalizing c with
  | nil => rfl
  | cons e rest ih => rw [List.cons_append, insertAll_cons, ih, insertAll_cons]

/-- The first relation counts unless it is held, and the others count after it. -/
theorem insertCounting_cons (c : Collector) (e : KeyedRelation) (offered : List KeyedRelation) :
    (c.insertCounting (e :: offered)).1 =
      ((c.insert e.1 e.2).insertCounting offered).1 + if c.holds e.1 e.2 then 0 else 1 := by
  rw [insert]
  cases held : c.holds e.1 e.2 <;> simp [insertCounting, offer, held]

/-- What is counted is what is added. -/
theorem size_insertAll (c : Collector) (offered : List KeyedRelation) :
    (c.insertAll offered).size = c.size + (c.insertCounting offered).1 := by
  induction offered generalizing c with
  | nil => rfl
  | cons e rest ih =>
    rw [insertAll_cons, ih, size_insert, insertCounting_cons]
    omega

/-- Each relation that is offered adds one at most. -/
theorem size_insertAll_le (c : Collector) (offered : List KeyedRelation) :
    (c.insertAll offered).size ≤ c.size + offered.length := by
  induction offered generalizing c with
  | nil => exact Nat.le_refl _
  | cons e rest ih =>
    have one : (c.insert e.1 e.2).size ≤ c.size + 1 := by
      rw [size_insert]
      split <;> omega
    have more := ih (c.insert e.1 e.2)
    rw [insertAll_cons, List.length_cons]
    omega

/-- The relations that are held stay where they are. -/
theorem prefix_insertAll (c : Collector) (offered : List KeyedRelation) :
    c.relations <+: (c.insertAll offered).relations := by
  refine insertAll_keeps (P := fun d => c.relations <+: d.relations) ?_ (List.prefix_refl _) offered
  intro d key r kept
  cases held : d.holds key r with
  | true =>
    rw [insert_of_holds held]
    exact kept
  | false =>
    rw [insert_of_missing held]
    exact kept.trans (List.prefix_append ..)

/-- Merging adds no more than the other collector holds. -/
theorem size_merge_le (c other : Collector) : (c.merge other).size ≤ c.size + other.size := by
  have offered : other.entries.length ≤ other.size := by
    rw [entries, List.length_zip]
    exact Nat.min_le_right ..
  exact Nat.le_trans (c.size_insertAll_le other.entries) (Nat.add_le_add_left offered _)

/-- From nothing, as many relations are collected as there are distinct pairs among those that are
offered. -/
theorem size_insertAll_empty (offered : List KeyedRelation) :
    (empty.insertAll offered).size = (offered.map KeyedRelation.pair).dedup.length := by
  have consistent := consistent_empty.insertAll offered
  rw [consistent.size_eq]
  refine ((List.perm_ext_iff_of_nodup consistent.distinct (List.nodup_dedup _)).mpr ?_).length_eq
  intro p
  rw [consistent_empty.mem_pairs_insertAll, List.mem_dedup]
  exact or_iff_right List.not_mem_nil

end Many

/-- A collector holds no more relations than there are distinct pairs to hold. -/
theorem Consistent.size_le (consistent : c.Consistent) {possible : List RelationPair}
    (bounded : c.pairs ⊆ possible) : c.size ≤ possible.dedup.length := by
  rw [consistent.size_eq]
  refine (List.subperm_of_subset consistent.distinct fun p member => ?_).length_le
  exact List.mem_dedup.mpr (bounded member)

end Collector

end FederatedSearch
