import FederatedSearch.Proofs.Relation.Collecting
import Mathlib.Data.List.Sort

/-!
# How a collector holds its relations

A collector keeps its keys and its relations side by side, and an index from keys to places.
`Collector.Represents` says what the three have to do with each other, in terms of places alone.
Every request to a collector comes down to offering relations one by one (`perform_eq`), and an
offer keeps `Collector.IsSound`, the invariant that the three parts represent; so they do so after
any requests (`represents_performAll`).
-/

namespace FederatedSearch

namespace RelationIndex

/-- Each key of an index is there once and leads somewhere. -/
structure IsProper (index : RelationIndex) : Prop where
  once : (index.map Prod.fst).Nodup
  used : ∀ entry ∈ index, entry.2 ≠ []

variable {index : RelationIndex}

/-- A place is added under the key that is there, or else under a new one. -/
theorem map_fst_extend (key : RelationKey) (place : Nat) (index : RelationIndex) :
    (extend key place index).map Prod.fst =
      if key ∈ index.map Prod.fst then index.map Prod.fst else index.map Prod.fst ++ [key] := by
  induction index with
  | nil => rfl
  | cons entry rest ih =>
    obtain ⟨k, ps⟩ := entry
    rw [extend]
    by_cases here : k = key
    · simp [here]
    · rw [if_neg here, List.map_cons, ih, List.map_cons]
      have elsewhere : key ∈ k :: rest.map Prod.fst ↔ key ∈ rest.map Prod.fst := by
        simp [Ne.symm here]
      split
      · rw [if_pos (elsewhere.mpr ‹_›)]
      · rw [if_neg (mt elsewhere.mp ‹_›), List.cons_append]

/-- A proper index stays proper under a further place. -/
theorem IsProper.extend (proper : index.IsProper) (key : RelationKey) (place : Nat) :
    (RelationIndex.extend key place index).IsProper where
  once := by
    rw [map_fst_extend]
    split
    · exact proper.once
    · rw [← List.concat_eq_append]
      exact proper.once.concat ‹_›
  used := by
    have used := proper.used
    clear proper
    induction index with
    | nil => simp [RelationIndex.extend]
    | cons entry rest ih =>
      obtain ⟨k, ps⟩ := entry
      rw [List.forall_mem_cons] at used
      rw [RelationIndex.extend]
      split
      · exact List.forall_mem_cons.mpr ⟨by simp, used.2⟩
      · exact List.forall_mem_cons.mpr ⟨used.1, ih used.2⟩

/-- The entries of an index are its keys that lead somewhere, with all places they lead to. -/
theorem IsProper.mem_iff (proper : index.IsProper) {key : RelationKey} {ps : List Nat} :
    (key, ps) ∈ index ↔ ps ≠ [] ∧ places index key = ps := by
  obtain ⟨once, used⟩ := proper
  induction index with
  | nil => simp [places, eq_comm]
  | cons entry rest ih =>
    obtain ⟨k, qs⟩ := entry
    rw [List.map_cons, List.nodup_cons] at once
    rw [List.forall_mem_cons] at used
    rw [places_cons, List.mem_cons, Prod.mk.injEq]
    by_cases here : key = k
    · subst here
      have absent : (key, ps) ∉ rest := fun member => once.1 (List.mem_map.mpr ⟨_, member, rfl⟩)
      rw [if_pos rfl]
      constructor
      · rintro (⟨-, same⟩ | member)
        · exact ⟨same ▸ used.1, same.symm⟩
        · exact (absent member).elim
      · rintro ⟨-, same⟩
        exact .inl ⟨rfl, same.symm⟩
    · rw [if_neg here, ← ih once.2 used.2]
      exact or_iff_right fun same => here same.1

end RelationIndex

namespace Collector

/-- The keys, the relations and the index of a collector say the same: each relation has its key,
the index leads from each key that is carried to the places that carry it, and relations of one
key differ in their attributes. -/
structure Represents (c : Collector) : Prop where
  keyed : c.keys.length = c.relations.length
  once : (c.index.map Prod.fst).Nodup
  indexed : ∀ key places, (key, places) ∈ c.index ↔
    key ∈ c.keys ∧ places.Pairwise (· < ·) ∧ ∀ place, place ∈ places ↔ c.keys[place]? = some key
  distinct : ∀ (i j : Nat) (key : RelationKey) (r s : GraphRelation),
    c.keys[i]? = some key → c.keys[j]? = some key →
    c.relations[i]? = some r → c.relations[j]? = some s → r.sameAttributes s = true → i = j

/-- A consistent collector whose index has no key in vain. -/
structure IsSound (c : Collector) : Prop extends c.Consistent where
  proper : RelationIndex.IsProper c.index

variable {c : Collector}

/-- The empty collector is sound. -/
theorem isSound_empty : empty.IsSound :=
  ⟨consistent_empty, List.nodup_nil, by simp [empty]⟩

/-- An offer keeps a collector sound. -/
theorem IsSound.insert (sound : c.IsSound) (key : RelationKey) (r : GraphRelation) :
    (c.insert key r).IsSound where
  toConsistent := sound.toConsistent.insert key r
  proper := by
    cases held : c.holds key r with
    | true =>
      rw [insert_of_holds held]
      exact sound.proper
    | false =>
      rw [insert_of_missing held]
      exact sound.proper.extend key c.relations.length

/-- Offers keep a collector sound. -/
theorem IsSound.insertAll (sound : c.IsSound) (offered : List KeyedRelation) :
    (c.insertAll offered).IsSound :=
  insertAll_keeps (fun _ key r kept => kept.insert key r) sound offered

/-- An increasing list of the places that carry a key is the one that the index has for it. -/
theorem Consistent.places_eq_iff (consistent : c.Consistent) {key : RelationKey} {ps : List Nat} :
    RelationIndex.places c.index key = ps ↔
      ps.Pairwise (· < ·) ∧ ∀ place, place ∈ ps ↔ c.keys[place]? = some key := by
  have increasing : (RelationIndex.places c.index key).Pairwise (· < ·) := by
    rw [consistent.indexed]
    exact List.pairwise_lt_range.filter _
  have carried : ∀ place, place ∈ RelationIndex.places c.index key ↔
      c.keys[place]? = some key := by
    intro place
    rw [consistent.indexed, List.mem_filter, List.mem_range, decide_eq_true_eq]
    exact and_iff_right_of_imp fun found => (List.getElem?_eq_some_iff.mp found).1
  constructor
  · rintro rfl
    exact ⟨increasing, carried⟩
  · rintro ⟨ordered, exactly⟩
    exact increasing.eq_of_mem_iff ordered fun place => (carried place).trans (exactly place).symm

/-- Relations of one pair have one place. -/
theorem Consistent.place_unique (consistent : c.Consistent) {i j : Nat} {key : RelationKey}
    {r s : GraphRelation} (keyI : c.keys[i]? = some key) (keyJ : c.keys[j]? = some key)
    (atI : c.relations[i]? = some r) (atJ : c.relations[j]? = some s)
    (same : r.sameAttributes s = true) : i = j := by
  have pairAt : ∀ {place : Nat} {t : GraphRelation}, c.keys[place]? = some key →
      c.relations[place]? = some t → c.pairs[place]? = some (KeyedRelation.pair (key, t)) := by
    intro place t carried found
    rw [pairs, List.getElem?_map, entries,
      List.getElem?_zip_eq_some (z := (key, t)).mpr ⟨carried, found⟩]
    rfl
  have alike : KeyedRelation.pair (key, r) = KeyedRelation.pair (key, s) :=
    KeyedRelation.pair_eq_iff.mpr ⟨rfl, same⟩
  have atBoth : c.pairs[i]? = c.pairs[j]? := by
    rw [pairAt keyI atI, pairAt keyJ atJ, alike]
  have inside : i < c.pairs.length := (List.getElem?_eq_some_iff.mp (pairAt keyI atI)).1
  exact (List.getElem?_inj inside consistent.distinct).mp atBoth

/-- A sound collector represents. -/
theorem IsSound.represents (sound : c.IsSound) : c.Represents where
  keyed := sound.keyed
  once := sound.proper.once
  indexed key ps := by
    rw [sound.proper.mem_iff, sound.toConsistent.places_eq_iff]
    refine and_congr_left fun ⟨_, exactly⟩ => ?_
    rw [ne_eq, List.eq_nil_iff_forall_not_mem, not_forall_not, List.mem_iff_getElem?]
    exact exists_congr exactly
  distinct i j key r s keyI keyJ atI atJ same :=
    sound.toConsistent.place_unique keyI keyJ atI atJ same

/-! ## Requests -/

/-- What a collector can be asked to do. -/
inductive Request
  | insert (key : RelationKey) (r : GraphRelation)
  | merge (other : Collector)
  | extract (source : String) (definitions : List RelationDefinition) (r : Record)

/-- The relations that a request offers, in order. -/
def Request.offers : Request → List KeyedRelation
  | insert key r => [(key, r)]
  | merge other => other.entries
  | extract source definitions r => projections source definitions r

/-- Does what is asked for, and says how many relations were added. -/
def perform (c : Collector) : Request → Nat × Collector
  | .insert key r =>
    let (added, c) := c.offer key r
    (added.toNat, c)
  | .merge other => c.mergeCounting other
  | .extract source definitions r => c.extractCounting source definitions r

/-- Does one thing after the other. -/
def performAll (c : Collector) (requests : List Request) : Collector :=
  requests.foldl (fun c request => (c.perform request).2) c

/-- A request offers its relations one by one. -/
theorem perform_eq (c : Collector) (request : Request) :
    c.perform request = c.insertCounting request.offers := by
  cases request with
  | insert key r =>
    cases held : c.holds key r <;>
      simp [perform, Request.offers, insertCounting, offer, held]
  | merge other => rfl
  | extract source definitions r => rfl

/-- Requests keep a collector sound. -/
theorem IsSound.performAll (sound : c.IsSound) (requests : List Request) :
    (c.performAll requests).IsSound := by
  induction requests generalizing c with
  | nil => exact sound
  | cons request rest ih =>
    have next : (c.perform request).2.IsSound := by
      rw [perform_eq]
      exact sound.insertAll request.offers
    exact ih next

/-- After any requests a collector represents what it holds. A further request is the insertion of
the relations that it offers, one by one. It leaves the relations where they are and counts those
that it adds, and of the relations that it offers it refuses those of which one with the same key
and the same attributes is held. -/
theorem represents_performAll (requests : List Request) (next : Request) :
    let c := empty.performAll requests
    c.Represents ∧
      c.perform next = c.insertCounting next.offers ∧
      c.relations <+: (c.perform next).2.relations ∧
      (c.perform next).2.size = c.size + (c.perform next).1 ∧
      ∀ early key r late, next.offers = early ++ (key, r) :: late →
        (((c.insertAll early).offer key r).1 = false ↔
          ∃ (place : Nat) (s : GraphRelation), (c.insertAll early).keys[place]? = some key ∧
            (c.insertAll early).relations[place]? = some s ∧ s.sameAttributes r = true) := by
  intro c
  have sound : c.IsSound := isSound_empty.performAll requests
  have offered := perform_eq c next
  rw [offered]
  refine ⟨sound.represents, rfl, c.prefix_insertAll next.offers, c.size_insertAll next.offers, ?_⟩
  -- Half way through a request the collector is one that insertions lead to, and sound as well.
  intro early key r late _
  rw [← (sound.insertAll early).toConsistent.holds_iff_exists, offer]
  split <;> simp_all

end Collector

end FederatedSearch
