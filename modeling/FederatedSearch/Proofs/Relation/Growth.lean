import FederatedSearch.Federation.Backend

/-!
# How definitions grow

A set of definitions grows at its end, and by definitions that join two fields which none before
them joins. A backend that has seen records knows the definitions that these have taught it, and
is otherwise as it was.
-/

namespace FederatedSearch

namespace RelationSet

variable {s : RelationSet} {d : RelationDefinition} {ds : List RelationDefinition}

/-- Adding a definition keeps those before it in their places. -/
theorem prefix_add (s : RelationSet) (d : RelationDefinition) :
    s.definitions <+: (s.add d).definitions := by
  unfold add
  split
  · exact List.prefix_refl _
  · exact List.prefix_append ..

/-- Definitions are appended one after the other. -/
theorem append_cons (s : RelationSet) (d : RelationDefinition) (ds : List RelationDefinition) :
    s.append (d :: ds) = (s.add d).append ds :=
  List.foldl_cons ..

/-- The definitions that are known stay where they are. -/
theorem prefix_append (s : RelationSet) (ds : List RelationDefinition) :
    s.definitions <+: (s.append ds).definitions := by
  induction ds generalizing s with
  | nil => exact List.prefix_refl _
  | cons d rest ih =>
    rw [append_cons]
    exact (s.prefix_add d).trans (ih _)

/-- What is contained stays so when more is known. -/
theorem contains_mono {t : RelationSet} (known : s.definitions ⊆ t.definitions)
    (contained : s.contains d = true) : t.contains d = true := by
  rw [contains, List.any_eq_true] at contained ⊢
  obtain ⟨e, member, same⟩ := contained
  exact ⟨e, known member, same⟩

/-- What has been added is contained. -/
theorem contains_add (s : RelationSet) (d : RelationDefinition) : (s.add d).contains d = true := by
  unfold add
  split
  · assumption
  · simp [contains, RelationDefinition.sameEndpoints]

/-- The fields of a definition that is added are joined from then on. -/
theorem contains_append (member : d ∈ ds) : (s.append ds).contains d = true := by
  induction ds generalizing s with
  | nil => cases member
  | cons e rest ih =>
    rw [append_cons]
    rcases List.mem_cons.mp member with rfl | later
    · exact contains_mono ((s.add d).prefix_append rest).subset (s.contains_add d)
    · exact ih later

/-- Definitions whose fields are joined already add nothing. -/
theorem append_of_contains (known : ∀ d ∈ ds, s.contains d = true) : s.append ds = s := by
  induction ds with
  | nil => rfl
  | cons d rest ih =>
    have first : s.add d = s := if_pos (known d (List.mem_cons_self ..))
    rw [append_cons, first]
    exact ih fun e later => known e (List.mem_cons_of_mem _ later)

/-- Adding definitions brings none that was not there exactly when the fields of each are joined
already. -/
theorem append_subset_iff :
    (s.append ds).definitions ⊆ s.definitions ↔ ∀ d ∈ ds, s.contains d = true := by
  constructor
  · intro nothing d member
    exact contains_mono nothing (contains_append member)
  · intro known
    rw [append_of_contains known]
    exact List.Subset.refl _

end RelationSet

namespace Backend

variable {b : Backend} {records : List Record}

/-- The definition that a record teaches a backend. -/
def lesson? (b : Backend) (r : Record) : Option RelationDefinition :=
  b.source.inference.bind (·.infer r)

/-- A backend that has seen some records. -/
def observeAll (b : Backend) (records : List Record) : Backend :=
  records.foldl observe b

/-- Observing a record appends what it teaches, if anything. -/
theorem observe_eq (b : Backend) (r : Record) :
    b.observe r = { b with relations := b.relations.append (b.lesson? r).toList } := by
  rw [observe, lesson?]
  cases b.source.inference.bind (·.infer r) with
  | none => rfl
  | some d => rfl

/-- Seeing records adds the definitions that they teach, in their order, and nothing else. -/
theorem observeAll_eq (b : Backend) (records : List Record) :
    b.observeAll records =
      { b with relations := b.relations.append (records.filterMap b.lesson?) } := by
  induction records generalizing b with
  | nil => rfl
  | cons r rest ih =>
    have more : b.observeAll (r :: rest) = (b.observe r).observeAll rest := rfl
    rw [more, ih, observe_eq]
    cases taught : b.lesson? r with
    | none =>
      rw [List.filterMap_cons_none taught]
      rfl
    | some d =>
      rw [List.filterMap_cons_some taught]
      rfl

/-- A further record is observed last. -/
theorem observeAll_append (b : Backend) (records : List Record) (r : Record) :
    b.observeAll (records ++ [r]) = (b.observeAll records).observe r := by
  rw [observeAll, List.foldl_append]
  rfl

end Backend

end FederatedSearch
