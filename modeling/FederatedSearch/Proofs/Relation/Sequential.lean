import FederatedSearch.Proofs.Relation.Collecting

/-!
# Collecting apart

Relations may be collected by several collectors, each for its part of a sequence, and the
collectors be merged in the order of the parts. What comes out is the collector of the whole
sequence, with the same places and the same relation for each pair (`merge_insertAll_empty`). That
a part has dropped its own repetitions does no harm: what it has dropped would have been refused.
-/

namespace FederatedSearch

namespace Collector

variable {c d : Collector}

/-- Merging keeps the index fitting the pairs. -/
theorem Consistent.merge (consistent : c.Consistent) (d : Collector) : (c.merge d).Consistent :=
  consistent.insertAll d.entries

/-- What a merged collector holds is held from then on. -/
theorem Consistent.holds_merge (consistent : c.Consistent) (consistentOther : d.Consistent)
    {key : RelationKey} {r : GraphRelation} (held : d.holds key r = true) :
    (c.merge d).holds key r = true := by
  rw [(consistent.merge d).holds_iff]
  exact consistent.mem_pairs_insertAll.mpr (.inr (consistentOther.holds_iff.mp held))

/-- A relation that comes before a merge may as well come after it. -/
theorem Consistent.merge_insert (consistent : c.Consistent) (consistentOther : d.Consistent)
    (key : RelationKey) (r : GraphRelation) :
    c.merge (d.insert key r) = (c.merge d).insert key r := by
  cases held : d.holds key r with
  | true =>
    -- What `d` refuses for a relation that it holds, is refused for the same one after merging.
    rw [insert_of_holds held, insert_of_holds (consistent.holds_merge consistentOther held)]
  | false =>
    calc
      c.merge (d.insert key r) = c.insertAll (d.entries ++ [(key, r)]) :=
        congrArg c.insertAll (consistentOther.entries_insert held)
      _ = (c.merge d).insert key r := insertAll_append ..

/-- Relations that come before a merge may as well come after it. -/
theorem Consistent.merge_insertAll (consistent : c.Consistent) (consistentOther : d.Consistent)
    (offered : List KeyedRelation) :
    c.merge (d.insertAll offered) = (c.merge d).insertAll offered := by
  induction offered generalizing d with
  | nil => rfl
  | cons e rest ih =>
    rw [insertAll_cons, insertAll_cons, ih (consistentOther.insert e.1 e.2),
      consistent.merge_insert consistentOther]

/-- Merging what was collected of a sequence is collecting the sequence. -/
theorem Consistent.merge_collected (consistent : c.Consistent) (offered : List KeyedRelation) :
    c.merge (empty.insertAll offered) = c.insertAll offered :=
  consistent.merge_insertAll consistent_empty offered

/-- A sequence may be cut into any parts that are collected apart and merged in order. -/
theorem Consistent.foldl_merge (consistent : c.Consistent) (parts : List (List KeyedRelation)) :
    parts.foldl (fun collected part => collected.merge (empty.insertAll part)) c =
      c.insertAll parts.flatten := by
  induction parts generalizing c with
  | nil => rfl
  | cons part rest ih =>
    rw [List.foldl_cons, List.flatten_cons, insertAll_append, consistent.merge_collected,
      ih (consistent.insertAll part)]

/-- Merging the collector of one sequence with that of another yields the collector of the one
followed by the other, its index included, and counts the relations that came in. Hence the
collectors of any parts of a sequence, merged in order, yield the collector of the sequence. -/
theorem merge_insertAll_empty (xs ys : List KeyedRelation) (parts : List (List KeyedRelation)) :
    (empty.insertAll xs).merge (empty.insertAll ys) = empty.insertAll (xs ++ ys) ∧
      (empty.insertAll (xs ++ ys)).size = (empty.insertAll xs).size +
        ((empty.insertAll xs).mergeCounting (empty.insertAll ys)).1 ∧
      parts.foldl (fun collected part => collected.merge (empty.insertAll part))
        (empty.insertAll xs) = empty.insertAll (xs ++ parts.flatten) := by
  have consistent := consistent_empty.insertAll xs
  have merged : (empty.insertAll xs).merge (empty.insertAll ys) = empty.insertAll (xs ++ ys) := by
    rw [consistent.merge_collected, ← insertAll_append]
  refine ⟨merged, ?_, ?_⟩
  · rw [← merged]
    exact size_insertAll ..
  · rw [consistent.foldl_merge, ← insertAll_append]

end Collector

end FederatedSearch
