import FederatedSearch.Federation.Search
import FederatedSearch.Proofs.Federation.Chronicle

/-!
# Which definitions a task works with

A task takes the definitions that are published when it opens its answer, and keeps them
(`Snapshot`). These begin with the definitions that the search found. What comes after them was
learnt from records that other tasks of the search delivered in the meantime, so that a search
keeps to what it found as long as no task opens after a record has taught the backend something.
-/

namespace FederatedSearch

/-- At some earlier moment the task opened its answer, for the first time, and these definitions
were published then. -/
def Snapshot (b : Backend) (events : List Event) (task : Nat)
    (definitions : List RelationDefinition) : Prop :=
  ∃ earlier, earlier ++ [.opened task definitions] <+: events ∧
    (∀ e ∈ earlier, e.task ≠ task) ∧
    definitions = (b.observeAll (Event.lessons earlier)).relations.definitions

/-- A snapshot stays what it is while more happens. -/
theorem Snapshot.append {b : Backend} {events : List Event} {task : Nat}
    {definitions : List RelationDefinition} (snapshot : Snapshot b events task definitions)
    (more : List Event) : Snapshot b (events ++ more) task definitions := by
  obtain ⟨earlier, opened, first, published⟩ := snapshot
  exact ⟨earlier, opened.trans (List.prefix_append ..), first, published⟩

/-- The definitions that a task works with, once it has opened its answer. -/
def Stage.definitions? : Stage → Option (List RelationDefinition)
  | streaming definitions _ => some definitions
  | learning definitions _ _ => some definitions
  | _ => none

namespace Ensemble

/-- Tasks that have not opened have done nothing, those that have work with a snapshot, and each
record was projected through the snapshot of its task. -/
structure Keeping (b : Backend) (events : List Event) (stages : List Stage) : Prop where
  idle : ∀ i q, stages[i]? = some (.pending q) → ∀ e ∈ events, e.task ≠ i
  working : ∀ i stage definitions, stages[i]? = some stage →
    stage.definitions? = some definitions → Snapshot b events i definitions
  projected : ∀ earlier i definitions r, earlier ++ [.accepted i definitions r] <+: events →
    Snapshot b earlier i definitions

variable {b : Backend} {cap : Nat} {queries : List NativeQuery} {events : List Event}
  {before others : List Stage} {stage stage' : Stage} {s : Ensemble}

/-- A stage stands at the place after those before it. -/
theorem getElem?_place (before others : List Stage) (stage : Stage) :
    (before ++ stage :: others)[before.length]? = some stage := by
  simp

/-- A stage that is found is the one that has changed, or was there before. -/
theorem eq_or_getElem?_of_changed {i : Nat} {x : Stage} (stage : Stage)
    (found : (before ++ stage' :: others)[i]? = some x) :
    i = before.length ∧ x = stage' ∨
      i ≠ before.length ∧ (before ++ stage :: others)[i]? = some x := by
  rcases Nat.lt_trichotomy i before.length with less | rfl | greater
  · rw [List.getElem?_append_left less] at found ⊢
    exact .inr ⟨Nat.ne_of_lt less, found⟩
  · rw [getElem?_place] at found
    exact .inl ⟨rfl, (Option.some.inj found).symm⟩
  · obtain ⟨k, rfl⟩ := Nat.exists_eq_add_of_lt greater
    rw [Nat.add_assoc, List.getElem?_append_right (Nat.le_add_right ..),
      Nat.add_sub_cancel_left, List.getElem?_cons_succ] at found ⊢
    exact .inr ⟨by omega, found⟩

/-- At the start no snapshot has been taken. -/
theorem Keeping.start : Keeping b [] (queries.map .pending) where
  idle := by simp
  working i stage definitions found works := by
    rw [List.getElem?_map, Option.map_eq_some_iff] at found
    obtain ⟨q, _, rfl⟩ := found
    cases works
  projected := by simp

/-- A task that ends leaves the others to their snapshots. -/
theorem Keeping.ended {ending : TaskEnd} (keeping : Keeping b events (before ++ stage :: others)) :
    Keeping b events (before ++ .ended ending :: others) where
  idle i q found := by
    obtain ⟨_, same⟩ | ⟨_, kept⟩ := eq_or_getElem?_of_changed stage found
    · cases same
    · exact keeping.idle i q kept
  working i x definitions found works := by
    obtain ⟨_, rfl⟩ | ⟨_, kept⟩ := eq_or_getElem?_of_changed stage found
    · cases works
    · exact keeping.working i x definitions kept works
  projected := keeping.projected

/-- Of a task that does something it is enough to know that it works with a snapshot afterwards,
and that a record which it has had accepted was projected through one. -/
theorem Keeping.event {e : Event} {definitions : List RelationDefinition}
    (keeping : Keeping b events (before ++ stage :: others)) (own : e.task = before.length)
    (works : stage'.definitions? = some definitions)
    (snapshot : Snapshot b (events ++ [e]) before.length definitions)
    (projected : ∀ i definitions r, e = .accepted i definitions r →
      Snapshot b events i definitions) :
    Keeping b (events ++ [e]) (before ++ stage' :: others) where
  idle i q found := by
    obtain ⟨_, rfl⟩ | ⟨elsewhere, kept⟩ := eq_or_getElem?_of_changed stage found
    · cases works
    · intro x member
      rcases List.mem_append.mp member with early | now
      · exact keeping.idle i q kept x early
      · rw [List.mem_singleton.mp now, own]
        exact Ne.symm elsewhere
  working i x found' here works' := by
    obtain ⟨rfl, rfl⟩ | ⟨_, kept⟩ := eq_or_getElem?_of_changed stage here
    · cases works.symm.trans works'
      exact snapshot
    · exact (keeping.working i x found' kept works').append [e]
  projected earlier i definitions r accepted := by
    rcases List.prefix_concat_iff.mp accepted with now | early
    · obtain ⟨rfl, same⟩ := List.append_inj' now rfl
      exact projected i definitions r (List.singleton_inj.mp same).symm
    · exact keeping.projected earlier i definitions r early

/-- Whatever the tasks do, they keep their snapshots. -/
theorem keeping_of_chronicled (told : Chronicled (start b cap queries) events s) :
    Keeping b events s.stages := by
  induction told with
  | start => exact .start
  | @step events _ run _ before others _ _ told goes ih =>
    have reflects : run.Reflects b cap events := reflects_of_chronicled told
    -- A snapshot is made when a task opens; whatever it does later, it has its own already.
    cases goes with
    | opens q =>
      have first : ∀ e ∈ events, e.task ≠ before.length :=
        ih.idle before.length q (getElem?_place ..)
      refine ih.event rfl rfl ⟨events, List.prefix_refl _, first, ?_⟩ (by rintro _ _ _ ⟨⟩)
      rw [reflects.backend]
    | @accepts _ definitions r _ _ accepted =>
      have own : Snapshot b events before.length definitions :=
        ih.working before.length _ definitions (getElem?_place ..) rfl
      refine ih.event rfl rfl (own.append _) ?_
      rintro _ _ _ ⟨⟩
      exact own
    | learns definitions r coming =>
      have own : Snapshot b events before.length definitions :=
        ih.working before.length _ definitions (getElem?_place ..) rfl
      exact ih.event rfl rfl (own.append _) (by rintro _ _ _ ⟨⟩)
    | stops refused =>
      rw [List.append_nil]
      exact ih.ended
    | finishes definitions ending =>
      rw [List.append_nil]
      exact ih.ended
    | gives active truncated =>
      rw [List.append_nil]
      exact ih.ended

/-- A search that runs one task on a backend keeps to the definitions that it found. -/
theorem definitions_eq_of_single_task {q : NativeQuery} {task : Nat}
    {definitions : List RelationDefinition} {r : Record}
    (told : Chronicled (start b cap [q]) events s)
    (projected : .accepted task definitions r ∈ events) :
    definitions = b.relations.definitions := by
  have alone : ∀ e ∈ events, e.task = 0 :=
    fun e member => Nat.lt_one_iff.mp ((task_lt_of_chronicled told).2 e member)
  obtain ⟨before, after, split⟩ := List.append_of_mem projected
  have here : before ++ [.accepted task definitions r] <+: events :=
    ⟨after, by rw [split, List.append_assoc]; rfl⟩
  obtain ⟨earlier, opened, others, published⟩ :=
    (keeping_of_chronicled told).projected before task definitions r here
  have early : earlier <+: events :=
    ((List.prefix_append ..).trans opened).trans ((List.prefix_append ..).trans here)
  have nothing : earlier = [] := by
    refine List.eq_nil_iff_forall_not_mem.mpr fun e member => others e member ?_
    have own : task = 0 := alone _ projected
    rw [own]
    exact alone e (early.subset member)
  rw [published, nothing]
  rfl

/-- Each record is projected through the definitions that were published when its task opened:
those that the search found, and after them those that other tasks of the search had taught the
backend by then. They are only those that the search found exactly when the fields of all that had
been taught were joined already. -/
theorem projected_through_snapshot (told : Chronicled (start b cap queries) events s) :
    s.run.backend = b.observeAll (Event.lessons events) ∧
      s.run.progress.collector =
        Collector.empty.insertAll (Event.allOffers b.name events) ∧
      ∀ before task definitions r, before ++ [.accepted task definitions r] <+: events →
        ∃ earlier, earlier ++ [.opened task definitions] <+: before ∧
          (∀ e ∈ earlier, e.task ≠ task) ∧
          definitions =
            (b.relations.append ((Event.lessons earlier).filterMap b.lesson?)).definitions ∧
          b.relations.definitions <+: definitions ∧
          (definitions ⊆ b.relations.definitions ↔ ∀ x ∈ Event.lessons earlier, ∀ d,
            b.lesson? x = some d → b.relations.contains d = true) := by
  have reflects := reflects_of_chronicled told
  refine ⟨reflects.backend, reflects.collector, fun before task definitions r accepted => ?_⟩
  obtain ⟨earlier, opened, first, published⟩ :=
    (keeping_of_chronicled told).projected before task definitions r accepted
  rw [Backend.observeAll_eq] at published
  refine ⟨earlier, opened, first, published, ?_, ?_⟩
  · rw [published]
    exact b.relations.prefix_append _
  · rw [published, RelationSet.append_subset_iff]
    constructor
    · intro known x member d taught
      exact known d (List.mem_filterMap.mpr ⟨x, member, taught⟩)
    · intro known d member
      obtain ⟨x, delivered, taught⟩ := List.mem_filterMap.mp member
      exact known x delivered d taught

/-- A source that says of each record what type it has, and that has no definitions yet. -/
def typedHosts : Backend :=
  let r (ip host : String) : Record := ⟨[("event", .string "e"), ("host", .string host),
    ("ip", .string ip), ("type", .string "host")]⟩
  .ofStore ⟨"kv", true, false, false, 1, [], [], [], some ⟨"type", [], [],
    ⟨"event", "", "", [], []⟩, none⟩⟩ (.lookup "ip")
    (.keyValue (.ofRecords "ip" [r "1" "x", r "2" "y"]))

/-- Whether an event projects a record through a definition. -/
def projects : Event → Bool
  | .accepted _ definitions _ => !definitions.isEmpty
  | _ => false

/-- The second of two tasks opens after the backend has learnt from the record of the first: its
own record is projected through the definition that was learnt. -/
theorem projected_through_snapshot_late :
    let queries : List NativeQuery := [.lookup "ip" "1", .lookup "ip" "2"]
    let played := (start typedHosts 500 queries).play [0, 0, 0, 1, 1]
    Chronicled (start typedHosts 500 queries) played.1 played.2 ∧
      ∃ before task definitions r, before ++ [.accepted task definitions r] <+: played.1 ∧
        ¬ definitions ⊆ typedHosts.relations.definitions ∧
        ∃ earlier, earlier ++ [.opened task definitions] <+: before ∧
          ∃ x ∈ Event.lessons earlier, ∃ d, typedHosts.lesson? x = some d ∧
            typedHosts.relations.contains d = false := by
  intro queries played
  have told : Chronicled (start typedHosts 500 queries) played.1 played.2 := chronicled_play ..
  have learnt : played.1.any projects = true := by decide +kernel
  obtain ⟨e, member, learnt⟩ := List.any_eq_true.mp learnt
  obtain ⟨before, after, split⟩ := List.append_of_mem member
  cases e with
  | opened task definitions => cases learnt
  | learnt task r => cases learnt
  | accepted task definitions r =>
    have accepted : before ++ [.accepted task definitions r] <+: played.1 :=
      ⟨after, by rw [split, List.append_assoc]; rfl⟩
    have more : ¬ definitions ⊆ typedHosts.relations.definitions := by
      intro known
      rw [List.subset_nil.mp known] at learnt
      cases learnt
    obtain ⟨earlier, opened, _, _, _, found⟩ :=
      (projected_through_snapshot told).2.2 before task definitions r accepted
    have taught := found.not.mp more
    push Not at taught
    obtain ⟨x, delivered, d, lesson, unknown⟩ := taught
    exact ⟨told, before, task, definitions, r, accepted, more, earlier, opened, x, delivered, d,
      lesson, Bool.eq_false_iff.mpr unknown⟩

/-- A search does not keep to the definitions that it found: the one that asks for both records in
two tasks shows a relation, though no definition was known when it began. -/
theorem exists_projected_through_learnt :
    let queries : List NativeQuery := [.lookup "ip" "1", .lookup "ip" "2"]
    let f := Federation.ofRegistry (.ofBackends [typedHosts]) (.uniform 500)
    typedHosts.relations.definitions = [] ∧
      (f.search 0 "kv" "FROM kv WHERE ip IN ('1', '2')" none).1.relations.length = 1 ∧
      ¬ ∀ events s, Chronicled (start typedHosts 500 queries) events s →
        ∀ task definitions r, .accepted task definitions r ∈ events →
          definitions ⊆ typedHosts.relations.definitions := by
  intro queries f
  refine ⟨rfl, by decide +kernel, fun keeps => ?_⟩
  have learnt : ((start typedHosts 500 queries).play [0, 0, 0, 1, 1]).1.any projects = true := by
    decide +kernel
  obtain ⟨e, member, learnt⟩ := List.any_eq_true.mp learnt
  cases e with
  | opened task definitions => cases learnt
  | learnt task r => cases learnt
  | accepted task definitions r =>
    have known := keeps _ _ (chronicled_play ..) task definitions r member
    rw [List.subset_nil.mp known] at learnt
    cases learnt

end Ensemble

end FederatedSearch
