import FederatedSearch.Federation.Run
import FederatedSearch.Proofs.Relation.Collecting

/-!
# Reaching the cap

The records of a backend are offered one by one, by any of its tasks and each with the definitions
of its task. As long as there is room every record is collected and counted. The first one that
finds the cap reached is refused and truncates the backend, and from then on records are refused
and change nothing (`offerAll_start`).
-/

namespace FederatedSearch

/-- A record that is offered, with the definitions of the task that offers it. -/
structure Offer where
  definitions : List RelationDefinition
  record : Record

namespace Offer

variable (source : String) (statsFields : List String) (offers : List Offer)

/-- The collector of all relations that are made of some records. -/
def collected : Collector :=
  Collector.empty.insertAll (offers.flatMap fun o => projections source o.definitions o.record)

/-- The counts of the values of some records. -/
def counted : Statistics :=
  offers.foldl (fun statistics o => statistics.update o.record) (.ofFields statsFields)

/-- A further offer is collected last. -/
theorem collected_concat (o : Offer) : collected source (offers ++ [o]) =
    (collected source offers).extract source o.definitions o.record := by
  rw [collected, List.flatMap_append, Collector.insertAll_append, List.flatMap_singleton]
  rfl

/-- A further offer is counted last. -/
theorem counted_concat (o : Offer) :
    counted statsFields (offers ++ [o]) = (counted statsFields offers).update o.record := by
  simp [counted]

/-- The records before a certain one are the first whose relations reach the cap. -/
structure FillAt (cap k : Nat) : Prop where
  more : k < offers.length
  full : cap ≤ (collected source (offers.take k)).size
  room : ∀ i < k, (collected source (offers.take i)).size < cap

end Offer

namespace Progress

variable {source : String} {cap : Nat} {statsFields : List String} {p : Progress} {o : Offer}
  {offers more : List Offer}

/-! ## One record -/

/-- A record for which there is room is collected and counted. -/
theorem accept_of_room (untruncated : p.truncated = false) (room : p.collector.size < cap) :
    p.accept source cap o.definitions o.record =
      (true, ⟨p.collector.extract source o.definitions o.record, p.statistics.update o.record,
        false⟩) := by
  rw [accept, if_neg (by simp [untruncated]), if_neg (Nat.not_le.mpr room), untruncated]

/-- The record that finds the cap reached truncates. -/
theorem accept_of_full (untruncated : p.truncated = false) (full : cap ≤ p.collector.size) :
    p.accept source cap o.definitions o.record = (false, { p with truncated := true }) := by
  rw [accept, if_neg (by simp [untruncated]), if_pos full]

/-- A truncated part accepts nothing and stays as it is. -/
theorem accept_of_truncated (truncated : p.truncated = true) :
    p.accept source cap o.definitions o.record = (false, p) := by
  rw [accept, if_pos truncated]

/-! ## One record after the other -/

/-- Offers records one after the other: which ones are accepted, and what is collected then. -/
def offerAll (source : String) (cap : Nat) : List Offer → Progress → List Bool × Progress
  | [], p => ([], p)
  | o :: rest, p =>
    let (accepted, p) := p.accept source cap o.definitions o.record
    let (answers, p) := p.offerAll source cap rest
    (accepted :: answers, p)

/-- A further offer is answered last. -/
theorem offerAll_concat : p.offerAll source cap (offers ++ [o]) =
    ((p.offerAll source cap offers).1 ++
        [((p.offerAll source cap offers).2.accept source cap o.definitions o.record).1],
      ((p.offerAll source cap offers).2.accept source cap o.definitions o.record).2) := by
  induction offers generalizing p with
  | nil => rfl
  | cons first offers ih =>
    rw [List.cons_append, offerAll, offerAll]
    simp only [ih, List.cons_append]

/-- What a number of records come to, of which the first `k` are accepted and no more. -/
def outcome (source : String) (statsFields : List String) (offers : List Offer) (k n : Nat) :
    List Bool × Progress :=
  (List.replicate (min n k) true ++ List.replicate (n - k) false,
    ⟨Offer.collected source (offers.take (min n k)),
      Offer.counted statsFields (offers.take (min n k)), decide (k < n)⟩)

/-- One more record is accepted before the first `k` are taken. -/
theorem outcome_succ_of_lt {k n : Nat} (before : n < k) (inside : n < offers.length) :
    outcome source statsFields offers k (n + 1) =
      (List.replicate n true ++ [true],
        ⟨(Offer.collected source (offers.take n)).extract source offers[n].definitions
            offers[n].record,
          (Offer.counted statsFields (offers.take n)).update offers[n].record, false⟩) := by
  rw [outcome, Nat.min_eq_left (by omega), Nat.sub_eq_zero_of_le (by omega),
    decide_eq_false (by omega), List.replicate_zero, List.append_nil, List.replicate_succ',
    ← List.take_append_getElem inside, Offer.collected_concat, Offer.counted_concat]

/-- One more record is refused after that. -/
theorem outcome_succ_of_ge {k n : Nat} (after : k ≤ n) :
    outcome source statsFields offers k (n + 1) =
      ((outcome source statsFields offers k n).1 ++ [false],
        { (outcome source statsFields offers k n).2 with truncated := true }) := by
  simp only [outcome, Nat.min_eq_right after, Nat.min_eq_right (Nat.le_succ_of_le after),
    Nat.succ_sub after, List.replicate_succ', List.append_assoc]
  rw [decide_eq_true (by omega)]

/-- If there is room before each of the first `k` records, and none after them, the first `k` are
accepted and no more. -/
theorem offerAll_take {k : Nat}
    (room : ∀ i < k, (Offer.collected source (offers.take i)).size < cap)
    (full : k < offers.length → cap ≤ (Offer.collected source (offers.take k)).size)
    {n : Nat} (inside : n ≤ offers.length) :
    (start statsFields).offerAll source cap (offers.take n) =
      outcome source statsFields offers k n := by
  induction n with
  | zero => simp [outcome, offerAll, start, Offer.collected, Offer.counted, Collector.insertAll_nil]
  | succ n ih =>
    have next : n < offers.length := inside
    rw [← List.take_append_getElem next, offerAll_concat, ih (Nat.le_of_lt next)]
    rcases Nat.lt_trichotomy n k with before | rfl | after
    · have here : outcome source statsFields offers k n = (List.replicate n true,
          ⟨Offer.collected source (offers.take n), Offer.counted statsFields (offers.take n),
            false⟩) := by
        simp [outcome, Nat.min_eq_left (Nat.le_of_lt before),
          Nat.sub_eq_zero_of_le (Nat.le_of_lt before), Nat.not_lt.mpr (Nat.le_of_lt before)]
      rw [outcome_succ_of_lt before next, here, accept_of_room rfl (room n before)]
    · rw [outcome_succ_of_ge (Nat.le_refl n), accept_of_full]
      · simp [outcome]
      · simpa [outcome] using full next
    · rw [outcome_succ_of_ge (Nat.le_of_lt after), accept_of_truncated]
      · simp [outcome, after]
      · simp [outcome, after]

/-- Of some records those before the first one that finds the cap reached are accepted, and nothing
but them is collected and counted, however many follow. That one and all after it are refused, and
with it the backend is truncated for good. If none finds the cap reached, all are accepted. -/
theorem offerAll_start (source : String) (cap : Nat) (statsFields : List String)
    (offers : List Offer) :
    (∀ k, Offer.FillAt source offers cap k → ∀ n ≤ offers.length,
      (start statsFields).offerAll source cap (offers.take n) =
        (List.replicate (min n k) true ++ List.replicate (n - k) false,
          ⟨Offer.collected source (offers.take (min n k)),
            Offer.counted statsFields (offers.take (min n k)), decide (k < n)⟩)) ∧
      ((∀ i < offers.length, (Offer.collected source (offers.take i)).size < cap) →
        ∀ n ≤ offers.length, (start statsFields).offerAll source cap (offers.take n) =
          (List.replicate n true, ⟨Offer.collected source (offers.take n),
            Offer.counted statsFields (offers.take n), false⟩)) := by
  refine ⟨fun k fills n inside => offerAll_take fills.room (fun _ => fills.full) inside,
    fun room n inside => ?_⟩
  have all : (start statsFields).offerAll source cap (offers.take n) =
      outcome source statsFields offers offers.length n :=
    offerAll_take room (fun more => absurd more (Nat.lt_irrefl _)) inside
  rw [all, outcome, Nat.min_eq_left inside, Nat.sub_eq_zero_of_le inside, List.replicate_zero,
    List.append_nil, decide_eq_false (Nat.not_lt.mpr inside)]

/-- Two tasks with different definitions, and a cap of two. A record that is offered again brings
nothing new, the other task brings the second relation, and the fourth and the fifth record are
refused although the last one would bring nothing. -/
theorem offerAll_start_refused :
    let node (field : String) : NodeDefinition := ⟨field, field, field, [], []⟩
    let hosts : List RelationDefinition := [⟨node "ip", node "host", none⟩]
    let ports : List RelationDefinition := [⟨node "ip", node "port", none⟩]
    let r (ip host : String) : Record :=
      ⟨[("host", .string host), ("ip", .string ip), ("port", .number (.integer 22))]⟩
    let offers : List Offer := [⟨hosts, r "1" "a"⟩, ⟨hosts, r "1" "a"⟩, ⟨ports, r "1" "a"⟩,
      ⟨hosts, r "2" "b"⟩, ⟨[], r "1" "a"⟩]
    Offer.FillAt "s" offers 2 3 ∧
      ((start ["host"]).offerAll "s" 2 offers).1 = [true, true, true, false, false] ∧
      ((start ["host"]).offerAll "s" 2 offers).2.truncated = true ∧
      ((start ["host"]).offerAll "s" 2 offers).2.collector.size = 2 ∧
      ((start ["host"]).offerAll "s" 2 offers).2.statistics.top = [("host", [⟨"a", 3⟩])] := by
  intro node hosts ports r offers
  have fills : Offer.FillAt "s" offers 2 3 :=
    ⟨by decide, by decide +kernel, by decide +kernel⟩
  have all := (offerAll_start "s" 2 ["host"] offers).1 3 fills 5 (Nat.le_refl 5)
  rw [show offers.take 5 = offers from rfl] at all
  rw [all]
  exact ⟨fills, rfl, rfl, by decide +kernel, by decide +kernel⟩

end Progress

end FederatedSearch
