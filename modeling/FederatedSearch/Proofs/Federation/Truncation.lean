import FederatedSearch.Federation.Search
import FederatedSearch.Proofs.Federation.Chronicle

/-!
# Truncation

Whether the cap is reached is asked once for each record, before the record is projected. So the
record that meets the last free place may bring several relations (`size_merge_lt_of_chronicled`),
and there has to be room for the last record of all, even if it brings nothing
(`truncated_iff_of_follows`).
-/

namespace FederatedSearch

/-! ## Orders -/

/-- The items of some lists, one after the other, in an order that each of the lists keeps. -/
inductive Interleaving {α : Type} : List (List α) → List α → Prop
  | done {parts : List (List α)} (empty : ∀ part ∈ parts, part = []) : Interleaving parts []
  | next {before others : List (List α)} {x : α} {rest order : List α}
    (more : Interleaving (before ++ rest :: others) order) :
    Interleaving (before ++ (x :: rest) :: others) (x :: order)

namespace Interleaving

variable {α : Type} {parts : List (List α)} {order : List α}

/-- An interleaving holds what its parts hold. -/
theorem perm (merged : Interleaving parts order) : order.Perm parts.flatten := by
  induction merged with
  | done empty => rw [List.flatten_eq_nil_iff.mpr empty]
  | @next before others x rest order _ ih =>
    rw [List.flatten_append, List.flatten_cons] at ih ⊢
    exact (ih.cons x).trans List.perm_middle.symm

/-- A part with nothing in it does not matter to an interleaving. -/
theorem nil_cons (merged : Interleaving parts order) : Interleaving ([] :: parts) order := by
  induction merged with
  | done empty => exact .done (List.forall_mem_cons.mpr ⟨rfl, empty⟩)
  | @next before others x rest order _ ih =>
    have further : Interleaving (([] :: before) ++ rest :: others) order := ih
    exact further.next

/-- One list after the other is one of the orders. -/
theorem flatten (parts : List (List α)) : Interleaving parts parts.flatten := by
  induction parts with
  | nil => exact .done (by simp)
  | cons part others ih =>
    rw [List.flatten_cons]
    induction part with
    | nil => exact ih.nil_cons
    | cons x rest further =>
      have further : Interleaving ([] ++ rest :: others) (rest ++ others.flatten) := further
      exact further.next

end Interleaving

/-- Two arrangements that end with the same item arrange the same items before it. -/
theorem dropLast_perm_of_getLast?_eq {α : Type} {order order' : List α} (perm : order.Perm order')
    (last : order.getLast? = order'.getLast?) : order.dropLast.Perm order'.dropLast := by
  cases here : order.getLast? with
  | none =>
    have there := last.symm.trans here
    rw [List.getLast?_eq_none_iff] at here there
    rw [here, there]
  | some x =>
    obtain ⟨first, rfl⟩ := List.getLast?_eq_some_iff.mp here
    obtain ⟨first', rfl⟩ := List.getLast?_eq_some_iff.mp (last.symm.trans here)
    rw [List.dropLast_concat, List.dropLast_concat]
    exact (List.perm_append_right_iff [x]).mp perm

/-! ## What some records are worth -/

/-- How many distinct pairs a backend makes of some records. -/
def Backend.distinctPairs (b : Backend) (definitions : List RelationDefinition)
    (records : List Record) : Nat :=
  ((records.flatMap (projections b.name definitions)).map KeyedRelation.pair).dedup.length

/-- More records give no fewer distinct pairs. -/
theorem Backend.distinctPairs_le_of_subset {b : Backend} {definitions : List RelationDefinition}
    {records others : List Record} (known : records ⊆ others) :
    b.distinctPairs definitions records ≤ b.distinctPairs definitions others := by
  refine (List.subperm_of_subset (List.nodup_dedup _) fun p member => ?_).length_le
  rw [List.mem_dedup, List.mem_map] at member ⊢
  obtain ⟨e, offered, rfl⟩ := member
  obtain ⟨r, here, offered⟩ := List.mem_flatMap.mp offered
  exact ⟨e, List.mem_flatMap.mpr ⟨r, known here, offered⟩, rfl⟩

/-- Of some records it does not matter in which order they are. -/
theorem Backend.distinctPairs_eq_of_perm {b : Backend} {definitions : List RelationDefinition}
    {records others : List Record} (perm : records.Perm others) :
    b.distinctPairs definitions records = b.distinctPairs definitions others :=
  Nat.le_antisymm (distinctPairs_le_of_subset perm.subset)
    (distinctPairs_le_of_subset perm.symm.subset)

/-- A backend that does not learn stays as it is, however many records it has seen. -/
theorem Backend.observeAll_of_fixed {b : Backend} (fixed : b.source.inference = none)
    (records : List Record) : b.observeAll records = b := by
  induction records with
  | nil => rfl
  | cons r rest ih =>
    have more : b.observeAll (r :: rest) = (b.observe r).observeAll rest := rfl
    rw [more, observe_of_fixed fixed, ih]

namespace Stage

/-- The records that a task has yet to offer. -/
def coming (b : Backend) : Stage → List Record
  | pending q => (b.respond q).records
  | streaming _ coming => coming.records
  | learning _ _ coming => coming.records
  | ended _ => []

/-- A task works with these definitions, or is going to: the backend has them, and learns no
others. -/
def WorksWith (b : Backend) (definitions : List RelationDefinition) : Stage → Prop
  | pending _ => b.source.inference = none ∧ b.relations.definitions = definitions
  | streaming own _ => own = definitions
  | learning own _ _ => own = definitions
  | ended _ => True

end Stage

namespace Ensemble

variable {b : Backend} {cap : Nat} {definitions : List RelationDefinition}
  {stages : List Stage} {events more : List Event} {s : Ensemble} {order order' : List Record}

/-! ## How much is collected -/

/-- The place of one relation is free when a record is accepted, so that what the record brings
exceeds the cap by less than its number. -/
theorem size_lt_of_chronicled {k : Nat} (told : Chronicled ⟨Run.start b cap, stages⟩ events s)
    (positive : 1 ≤ cap) (few : ∀ e ∈ events, (e.offers b.name).length ≤ k) :
    s.run.progress.collector.size < cap + k := by
  induction told with
  | start => exact Nat.lt_add_right k positive
  | @step events more run _ _ _ _ _ told goes ih =>
    have reflects : run.Reflects b cap events := reflects_of_chronicled told
    have before : run.progress.collector.size < cap + k :=
      ih fun e early => few e (List.mem_append_left _ early)
    -- Only an accepted record adds relations, and a place was free for it.
    cases goes with
    | opens q => exact before
    | @accepts _ definitions r _ _ accepted =>
      obtain ⟨_, room, rfl⟩ := Run.accept_eq_true_iff.mp accepted
      have brought : (projections run.backend.name definitions r).length ≤ k := by
        rw [reflects.name]
        exact few (.accepted _ definitions r) (List.mem_append_right _ (List.mem_singleton_self _))
      have collected : (run.collect definitions r).progress.collector.size ≤
          run.progress.collector.size + (projections run.backend.name definitions r).length :=
        Collector.size_insertAll_le ..
      have allowed := reflects.cap
      change (run.collect definitions r).progress.collector.size < cap + k
      omega
    | learns definitions r coming => exact before
    | stops refused =>
      obtain ⟨_, rfl⟩ := Run.accept_eq_false_iff.mp refused
      exact before
    | finishes definitions ending => exact before
    | gives active truncated => exact before

/-- What a backend adds to the graph exceeds the cap by less than one record brings at most. So it
keeps to the cap if no record brings more than one relation. -/
theorem size_merge_lt_of_chronicled {k : Nat} {c : Contribution}
    (told : Chronicled ⟨Run.start b cap, stages⟩ events s) (ran : c.run = s.run)
    (positive : 1 ≤ cap) (few : ∀ e ∈ events, (e.offers b.name).length ≤ k)
    (collected : Collector) :
    (collected.merge c.collector).size < collected.size + cap + k := by
  have held : c.collector.size < cap + k := by
    unfold Contribution.collector
    split
    · exact Nat.lt_add_right k positive
    · rw [ran]
      exact size_lt_of_chronicled told positive few
  have merged := collected.size_merge_le c.collector
  omega

/-- With one definition, a backend keeps to the cap. -/
theorem size_le_of_single_definition (told : Chronicled ⟨Run.start b cap, stages⟩ events s)
    (positive : 1 ≤ cap)
    (single : ∀ i definitions r, .accepted i definitions r ∈ events → definitions.length ≤ 1) :
    s.run.progress.collector.size ≤ cap := by
  have few : ∀ e ∈ events, (e.offers b.name).length ≤ 1 := by
    intro e member
    cases e with
    | opened i definitions => exact Nat.zero_le 1
    | accepted i definitions r =>
      exact Nat.le_trans (List.length_filterMap_le ..) (single i definitions r member)
    | learnt i r => exact Nat.zero_le 1
  exact Nat.le_of_lt_succ (size_lt_of_chronicled told positive few)

/-- A source of records by address, with definitions that lead from the address to other fields. -/
def addresses (fields : List String) (records : List Record) : Backend :=
  let node (id : String) : NodeDefinition := ⟨id, "", "", [], []⟩
  .ofStore ⟨"kv", true, false, false, 1, [], [],
      fields.map fun field => ⟨node "ip", node field, none⟩, none⟩
    (.lookup "ip") (.keyValue (.ofRecords "ip" records))

/-- An address with a host and a domain. -/
def hostAndDomain : Record :=
  ⟨[("domain", .string "y"), ("host", .string "x"), ("ip", .string "1")]⟩

/-- One record brings two relations where the cap allows one. -/
theorem size_merge_lt_of_chronicled_twofold :
    let b := addresses ["host", "domain"] [hostAndDomain]
    let played := (start b 1 [.lookup "ip" "1"]).play [0, 0, 0, 0]
    let c : Contribution := ⟨played.2.run, [.lookup "ip" "1"], [], [.done]⟩
    Chronicled (start b 1 [.lookup "ip" "1"]) played.1 played.2 ∧ c.truncated = false ∧
      (∀ e ∈ played.1, (e.offers b.name).length ≤ 2) ∧ c.collector.size = 2 ∧
      ∀ collected : Collector, (collected.merge c.collector).size < collected.size + 1 + 2 := by
  intro b played c
  have told : Chronicled (start b 1 [.lookup "ip" "1"]) played.1 played.2 := chronicled_play ..
  have few : ∀ e ∈ played.1, (e.offers b.name).length ≤ 2 := by decide +kernel
  exact ⟨told, by decide +kernel, few, by decide +kernel,
    size_merge_lt_of_chronicled told rfl (Nat.le_refl 1) few⟩

/-- A backend that is not truncated does not keep to the cap, with one definition more than the cap
allows relations and with a record that fits both. -/
theorem exists_size_exceeds_cap :
    let b := addresses ["host", "domain"] [hostAndDomain]
    let f := Federation.ofRegistry (.ofBackends [b]) (.uniform 1)
    (f.search 0 "kv" "FROM kv WHERE ip = '1'" none).1.truncated = false ∧
      (f.search 0 "kv" "FROM kv WHERE ip = '1'" none).1.relations.length = 2 ∧
      ¬ ∀ events s, Chronicled (start b 1 [.lookup "ip" "1"]) events s → s.Ended →
        s.run.progress.truncated = false → s.run.progress.collector.size ≤ 1 := by
  intro b f
  refine ⟨by decide +kernel, by decide +kernel, fun keeps => ?_⟩
  have told := chronicled_play (start b 1 [.lookup "ip" "1"]) [0, 0, 0, 0]
  have kept := keeps _ _ told (by decide +kernel) (by decide +kernel)
  exact absurd kept (by decide +kernel)

/-! ## Whether a backend is truncated -/

/-- All tasks have come to their ends, and what was accepted on the way is the beginning of an
order. -/
structure Follows (s₀ : Ensemble) (order : List Record) (s : Ensemble) : Prop where
  told : ∃ events, Chronicled s₀ events s ∧ Event.records events <+: order
  ended : s.Ended

/-- While a backend is not truncated, what has been accepted and what is to come are together one
of the orders. One is truncated with a record left over, and not before the pairs of what has been
accepted fill the cap. -/
structure Ordered (b : Backend) (cap : Nat) (definitions : List RelationDefinition)
    (stages : List Stage) (events : List Event) (s : Ensemble) : Prop where
  works : ∀ stage ∈ s.stages, stage.WorksWith b definitions
  offered : Event.allOffers b.name events =
    (Event.records events).flatMap (projections b.name definitions)
  room : Event.records events ≠ [] →
    b.distinctPairs definitions (Event.records events).dropLast < cap
  whole : s.run.progress.truncated = false →
    ∀ rest, Interleaving (s.stages.map (Stage.coming b)) rest →
      Interleaving (stages.map (Stage.coming b)) (Event.records events ++ rest)
  cut : s.run.progress.truncated = true →
    cap ≤ b.distinctPairs definitions (Event.records events) ∧
      ∃ rest ≠ [], Interleaving (stages.map (Stage.coming b)) (Event.records events ++ rest)

variable {run after : Run} {before others : List Stage} {stage stage' : Stage}

/-- At the start all records of an order are to come. -/
theorem Ordered.start (works : ∀ stage ∈ stages, stage.WorksWith b definitions) :
    Ordered b cap definitions stages [] ⟨Run.start b cap, stages⟩ where
  works := works
  offered := rfl
  room := absurd rfl
  whole _ _ merged := merged
  cut := nofun

/-- As many relations are collected as there are distinct pairs in what has been accepted. -/
theorem Ordered.size_eq (ordered : Ordered b cap definitions stages events s)
    (reflects : s.run.Reflects b cap events) :
    s.run.progress.collector.size = b.distinctPairs definitions (Event.records events) := by
  rw [reflects.collector, Collector.size_insertAll_empty, ordered.offered]
  rfl

/-- The tasks beside the one that goes on work with what they worked with. -/
theorem Ordered.works_set (ordered : Ordered b cap definitions stages events
    ⟨run, before ++ stage :: others⟩) (works : stage'.WorksWith b definitions) :
    ∀ x ∈ before ++ stage' :: others, x.WorksWith b definitions := by
  have known := ordered.works
  simp only [List.forall_mem_append, List.forall_mem_cons] at known ⊢
  exact ⟨known.1, works, known.2.2⟩

/-- Each task works with its own definitions all along. -/
theorem Ordered.worksWith (ordered : Ordered b cap definitions stages events
    ⟨run, before ++ stage :: others⟩) : stage.WorksWith b definitions :=
  ordered.works stage (List.mem_append_right _ (List.mem_cons_self ..))

/-- A task that neither takes a record nor is refused one leaves the order alone. -/
theorem Ordered.quiet (ordered : Ordered b cap definitions stages events
    ⟨run, before ++ stage :: others⟩)
    (records : Event.records more = []) (offers : Event.allOffers b.name more = [])
    (same : after.progress.truncated = run.progress.truncated)
    (works : stage'.WorksWith b definitions)
    (coming : run.progress.truncated = false → stage'.coming b = stage.coming b) :
    Ordered b cap definitions stages (events ++ more) ⟨after, before ++ stage' :: others⟩ where
  works := ordered.works_set works
  offered := by
    rw [Event.allOffers_append, Event.records_append, offers, records, List.append_nil,
      List.append_nil, ordered.offered]
  room := by
    rw [Event.records_append, records, List.append_nil]
    exact ordered.room
  whole untruncated rest merged := by
    have untruncated : run.progress.truncated = false := same.symm.trans untruncated
    rw [List.map_append, List.map_cons, coming untruncated] at merged
    rw [Event.records_append, records, List.append_nil]
    refine ordered.whole untruncated rest ?_
    rw [List.map_append, List.map_cons]
    exact merged
  cut truncated := by
    rw [Event.records_append, records, List.append_nil]
    exact ordered.cut (same.symm.trans truncated)

/-- A record that is accepted is the next one of the order, and there was room for it. -/
theorem Ordered.accepts {own : List RelationDefinition} {r : Record} {rest : List Record}
    {ending : Ending} {i : Nat}
    (ordered : Ordered b cap definitions stages events
      ⟨run, before ++ .streaming own ⟨r :: rest, ending⟩ :: others⟩)
    (reflects : run.Reflects b cap events) (accepted : run.accept own r = (true, after)) :
    Ordered b cap definitions stages (events ++ [.accepted i own r])
      ⟨{ after with backend := run.backend },
        before ++ .learning own r ⟨rest, ending⟩ :: others⟩ := by
  obtain ⟨untruncated, room, rfl⟩ := Run.accept_eq_true_iff.mp accepted
  have same : own = definitions := ordered.worksWith
  refine ⟨ordered.works_set same, ?_, fun _ => ?_, fun _ tail merged => ?_, fun truncated => ?_⟩
  · rw [Event.allOffers_append, Event.records_append, ordered.offered, same, List.flatMap_append,
      Event.records_accepted, Event.allOffers_accepted, List.flatMap_singleton]
  · rw [ordered.size_eq reflects, reflects.cap] at room
    rw [Event.records_append, Event.records_accepted, List.dropLast_concat]
    exact room
  · rw [Event.records_append, Event.records_accepted, List.append_assoc]
    refine ordered.whole untruncated (r :: tail) ?_
    rw [List.map_append, List.map_cons] at merged ⊢
    exact merged.next
  · cases untruncated.symm.trans truncated

/-- A record that is refused is left over. -/
theorem Ordered.stops {own : List RelationDefinition} {r : Record} {rest : List Record}
    {ending : Ending}
    (ordered : Ordered b cap definitions stages events
      ⟨run, before ++ .streaming own ⟨r :: rest, ending⟩ :: others⟩)
    (reflects : run.Reflects b cap events) (refused : run.accept own r = (false, after)) :
    Ordered b cap definitions stages (events ++ []) ⟨after, before ++ .ended .done :: others⟩ := by
  obtain ⟨full, rfl⟩ := Run.accept_eq_false_iff.mp refused
  rw [List.append_nil]
  refine ⟨ordered.works_set trivial, ordered.offered, ordered.room, nofun, fun _ => ?_⟩
  cases truncated : run.progress.truncated with
  | true => exact ordered.cut truncated
  | false =>
    have full : cap ≤ run.progress.collector.size := by
      rw [truncated, reflects.cap] at full
      exact full.resolve_left Bool.false_ne_true
    rw [ordered.size_eq reflects] at full
    -- Any order of what is left will do, since the refused record is in all of them.
    refine ⟨full, _, ?_, ordered.whole truncated _ (.flatten _)⟩
    simp [Stage.coming]

/-- Whatever the tasks do, what they have had accepted begins one of the orders. -/
theorem ordered_of_chronicled (works : ∀ stage ∈ stages, stage.WorksWith b definitions)
    (told : Chronicled ⟨Run.start b cap, stages⟩ events s) :
    Ordered b cap definitions stages events s := by
  induction told with
  | start => exact .start works
  | @step events _ run _ _ _ _ _ told goes ih =>
    have reflects : run.Reflects b cap events := reflects_of_chronicled told
    -- The order goes on when a record is accepted and breaks off when one is refused.
    cases goes with
    | opens q =>
      have works : (Stage.pending q).WorksWith b definitions := ih.worksWith
      refine ih.quiet (Event.records_opened ..) (Event.allOffers_opened ..) rfl ?_ fun _ => ?_
      · rw [reflects.backend, Backend.observeAll_of_fixed works.1]
        exact works.2
      · simp only [Stage.coming, reflects.respond]
    | accepts accepted => exact ih.accepts reflects accepted
    | learns definitions r coming =>
      exact ih.quiet (Event.records_learnt ..) (Event.allOffers_learnt ..) rfl ih.worksWith
        fun _ => rfl
    | stops refused => exact ih.stops reflects refused
    | finishes definitions ending => exact ih.quiet rfl rfl rfl trivial fun _ => rfl
    | gives active truncated =>
      refine ih.quiet rfl rfl rfl trivial fun untruncated => ?_
      cases truncated.symm.trans untruncated

/-! ## Schedules for an order -/

/-- The tasks have gone on without a record. -/
structure Silent (s s' : Ensemble) : Prop where
  told : ∃ events, Chronicled s events s' ∧ Event.records events = []
  progress : s'.run.progress = s.run.progress
  respond : s'.run.backend.respond = s.run.backend.respond

/-- No step at all is silent. -/
theorem Silent.refl (s : Ensemble) : Silent s s :=
  ⟨⟨[], .start, rfl⟩, rfl, rfl⟩

/-- Silent stretches are put together. -/
theorem Silent.trans {t : Ensemble} (first : Silent s t) (second : Silent t s') :
    Silent s s' := by
  obtain ⟨events, told, none⟩ := first.told
  obtain ⟨more, further, none'⟩ := second.told
  refine ⟨⟨_, told.trans further, ?_⟩, second.progress.trans first.progress,
    second.respond.trans first.respond⟩
  rw [Event.records_append, none, none', List.append_nil]

/-- A schedule that goes on to follow an order follows it after what has been accepted. -/
theorem Follows.of_chronicled {t : Ensemble} (told : Chronicled s events t)
    (follows : Follows t order s') : Follows s (Event.records events ++ order) s' := by
  obtain ⟨⟨more, further, first⟩, ended⟩ := follows
  refine ⟨⟨_, told.trans further, ?_⟩, ended⟩
  rw [Event.records_append]
  exact (List.prefix_append_right_inj _).mpr first

/-- Silent steps in front take no record from an order. -/
theorem Follows.of_silent {t : Ensemble} (silent : Silent s t) (follows : Follows t order s') :
    Follows s order s' := by
  obtain ⟨events, told, none⟩ := silent.told
  have follows := Follows.of_chronicled told follows
  rw [none] at follows
  exact follows

/-- A task that has not ended can come to the point where it offers its next record. -/
theorem exists_streaming (respond : run.backend.respond = b.respond) (before others : List Stage)
    (stage : Stage) :
    (∃ ending, stage = .ended ending) ∨
      ∃ after own ending, Silent ⟨run, before ++ stage :: others⟩
        ⟨after, before ++ .streaming own ⟨stage.coming b, ending⟩ :: others⟩ := by
  cases stage with
  | pending q =>
    rw [Stage.coming, ← respond]
    exact .inr ⟨_, _, (run.backend.respond q).ending,
      ⟨_, chronicled_of_goes (.opens run q), rfl⟩, rfl, rfl⟩
  | streaming own coming => exact .inr ⟨run, own, coming.ending, .refl _⟩
  | learning own r coming =>
    refine .inr ⟨_, own, coming.ending,
      ⟨_, chronicled_of_goes (.learns run own r coming), rfl⟩, rfl, ?_⟩
    rw [Backend.observe_eq]
  | ended ending => exact .inl ⟨ending, rfl⟩

/-- A task can come to its end without a record, if it has none left or the backend is
truncated. -/
theorem exists_ended_task (respond : run.backend.respond = b.respond) (before others : List Stage)
    (stage : Stage) (spent : run.progress.truncated = true ∨ stage.coming b = []) :
    ∃ after ending, Silent ⟨run, before ++ stage :: others⟩
      ⟨after, before ++ .ended ending :: others⟩ := by
  rcases spent with truncated | empty
  · cases hasEnded : stage.isEnded with
    | true =>
      obtain ⟨ending, rfl⟩ := Stage.isEnded_iff.mp hasEnded
      exact ⟨run, ending, .refl _⟩
    | false => exact ⟨run, .done, ⟨_, chronicled_of_goes (.gives hasEnded truncated), rfl⟩, rfl, rfl⟩
  · obtain ⟨ending, rfl⟩ | ⟨after, own, ending, silent⟩ :=
      exists_streaming respond before others stage
    · exact ⟨run, ending, .refl _⟩
    · rw [empty] at silent
      exact ⟨after, _, silent.trans
        ⟨⟨_, chronicled_of_goes (.finishes after own ending), rfl⟩, rfl, rfl⟩⟩

/-- So can all tasks, one after the other. -/
theorem exists_ended (respond : run.backend.respond = b.respond) (endings : List TaskEnd)
    (spent : run.progress.truncated = true ∨ ∀ stage ∈ others, stage.coming b = []) :
    ∃ s, Silent ⟨run, endings.map .ended ++ others⟩ s ∧ s.Ended := by
  induction others generalizing run endings with
  | nil =>
    refine ⟨_, .refl _, fun stage member => ?_⟩
    rw [List.append_nil] at member
    obtain ⟨ending, _, rfl⟩ := List.mem_map.mp member
    exact ⟨ending, rfl⟩
  | cons stage rest ih =>
    obtain ⟨after, ending, silent⟩ := exists_ended_task respond (endings.map .ended) rest stage <|
      spent.imp_right fun empty => empty stage (List.mem_cons_self ..)
    have left : after.progress.truncated = true ∨ ∀ x ∈ rest, x.coming b = [] := by
      have same : after.progress = run.progress := silent.progress
      rw [same]
      exact spent.imp_right fun empty x later => empty x (List.mem_cons_of_mem _ later)
    obtain ⟨s, further, ended⟩ := ih (silent.respond.trans respond) (endings ++ [ending]) left
    rw [List.map_append, List.append_assoc] at further
    exact ⟨s, silent.trans further, ended⟩

/-- Tasks that end without a record follow any order. -/
theorem exists_follows_of_spent (respond : run.backend.respond = b.respond) (order : List Record)
    (spent : run.progress.truncated = true ∨ ∀ stage ∈ stages, stage.coming b = []) :
    ∃ s, Follows ⟨run, stages⟩ order s := by
  obtain ⟨s, silent, ended⟩ := exists_ended respond [] spent
  obtain ⟨events, told, none⟩ := silent.told
  exact ⟨s, ⟨events, told, none ▸ List.nil_prefix⟩, ended⟩

/-- A record that a task offers is accepted or refused, and is the first of the order in either
case. -/
theorem exists_follows_cons {own : List RelationDefinition} {r : Record} {rest : List Record}
    {ending : Ending} (respond : run.backend.respond = b.respond)
    (further : ∀ after : Run, after.backend.respond = b.respond →
      ∃ s, Follows ⟨after, before ++ .learning own r ⟨rest, ending⟩ :: others⟩ order s) :
    ∃ s, Follows ⟨run, before ++ .streaming own ⟨r :: rest, ending⟩ :: others⟩ (r :: order) s := by
  cases offered : run.accept own r with
  | mk accepted after =>
    cases accepted with
    | true =>
      obtain ⟨s, follows⟩ := further { after with backend := run.backend } respond
      exact ⟨s, .of_chronicled (chronicled_of_goes (.accepts offered)) follows⟩
    | false =>
      obtain ⟨_, rfl⟩ := Run.accept_eq_false_iff.mp offered
      have respond : run.truncate.backend.respond = b.respond := respond
      obtain ⟨s, follows⟩ := exists_follows_of_spent respond (r :: order) (.inl rfl)
      exact ⟨s, .of_chronicled (chronicled_of_goes (.stops offered)) follows⟩

/-- Every order of what is to come is followed by some schedule. -/
theorem exists_follows (respond : run.backend.respond = b.respond)
    (merged : Interleaving (stages.map (Stage.coming b)) order) :
    ∃ s, Follows ⟨run, stages⟩ order s := by
  generalize parted : stages.map (Stage.coming b) = parts at merged
  -- By the order: the task of its first record goes on until it offers it, and the others wait.
  induction merged generalizing run stages with
  | done empty =>
    rw [← parted, List.forall_mem_map] at empty
    exact exists_follows_of_spent respond [] (.inr empty)
  | @next _ _ r rest order _ ih =>
    obtain ⟨before, tail, rfl, rfl, later⟩ := List.map_eq_append_iff.mp parted
    obtain ⟨stage, others, rfl, coming, rfl⟩ := List.map_eq_cons_iff.mp later
    obtain ⟨ending, rfl⟩ | ⟨after, own, ending, silent⟩ :=
      exists_streaming respond before others stage
    · cases coming
    · rw [coming] at silent
      have offered : ∃ s, Follows ⟨after, before ++ .streaming own ⟨r :: rest, ending⟩ :: others⟩
          (r :: order) s := by
        refine exists_follows_cons (silent.respond.trans respond) fun next respond => ?_
        refine ih respond ?_
        rw [List.map_append, List.map_cons]
        rfl
      obtain ⟨s, follows⟩ := offered
      exact ⟨s, .of_silent silent follows⟩

/-! ## Two orders -/

/-- Tasks that have ended without truncation have had an order accepted as a whole. -/
theorem Ordered.interleaving (ordered : Ordered b cap definitions stages events s)
    (ended : s.Ended) (untruncated : s.run.progress.truncated = false) :
    Interleaving (stages.map (Stage.coming b)) (Event.records events) := by
  have nothing : Interleaving (s.stages.map (Stage.coming b)) [] := by
    refine .done (List.forall_mem_map.mpr fun stage member => ?_)
    obtain ⟨ending, rfl⟩ := ended stage member
    rfl
  have whole := ordered.whole untruncated [] nothing
  rw [List.append_nil] at whole
  exact whole

/-- Every schedule follows one of the orders. -/
theorem exists_order_of_chronicled (works : ∀ stage ∈ stages, stage.WorksWith b definitions)
    (told : Chronicled ⟨Run.start b cap, stages⟩ events s) (ended : s.Ended) :
    ∃ order, Interleaving (stages.map (Stage.coming b)) order ∧
      Follows ⟨Run.start b cap, stages⟩ order s := by
  have ordered : Ordered b cap definitions stages events s := ordered_of_chronicled works told
  cases truncated : s.run.progress.truncated with
  | true =>
    obtain ⟨_, rest, _, merged⟩ := ordered.cut truncated
    exact ⟨_, merged, ⟨events, told, List.prefix_append ..⟩, ended⟩
  | false =>
    exact ⟨_, ordered.interleaving ended truncated, ⟨events, told, List.prefix_refl _⟩, ended⟩

/-- Schedules that follow an order end truncated exactly when there is a last record and the pairs
of those before it fill the cap. -/
theorem truncated_iff_of_follows (works : ∀ stage ∈ stages, stage.WorksWith b definitions)
    (merged : Interleaving (stages.map (Stage.coming b)) order)
    (follows : Follows ⟨Run.start b cap, stages⟩ order s) :
    s.run.progress.truncated = true ↔
      order ≠ [] ∧ cap ≤ b.distinctPairs definitions order.dropLast := by
  obtain ⟨⟨events, told, tail, rfl⟩, ended⟩ := follows
  have ordered : Ordered b cap definitions stages events s := ordered_of_chronicled works told
  -- All orders have one length, so that this one has a record left exactly when the run has.
  have length := merged.perm.length_eq
  rw [List.length_append] at length
  cases truncated : s.run.progress.truncated with
  | true =>
    obtain ⟨full, rest, left, merged'⟩ := ordered.cut truncated
    have length' := merged'.perm.length_eq
    rw [List.length_append] at length'
    have more : tail ≠ [] := by
      rw [← List.length_pos_iff] at left ⊢
      omega
    refine iff_of_true rfl ⟨List.append_ne_nil_of_right_ne_nil _ more, Nat.le_trans full ?_⟩
    rw [List.dropLast_append_of_ne_nil more]
    exact Backend.distinctPairs_le_of_subset (List.subset_append_left ..)
  | false =>
    have length' := (ordered.interleaving ended truncated).perm.length_eq
    have none : tail = [] := by
      rw [← List.length_eq_zero_iff]
      omega
    rw [none, List.append_nil]
    refine iff_of_false Bool.false_ne_true ?_
    rintro ⟨any, full⟩
    exact absurd (ordered.room any) (Nat.not_lt.mpr full)

/-- Two orders that end with the same record agree on truncation: both are followed by schedules,
and all of these end truncated, or none does, as the pairs of the records before the last one fill
the cap or do not. -/
theorem truncated_eq_of_interleavings (works : ∀ stage ∈ stages, stage.WorksWith b definitions)
    (merged : Interleaving (stages.map (Stage.coming b)) order)
    (merged' : Interleaving (stages.map (Stage.coming b)) order')
    (last : order.getLast? = order'.getLast?) :
    (∃ s, Follows ⟨Run.start b cap, stages⟩ order s) ∧
      (∃ s, Follows ⟨Run.start b cap, stages⟩ order' s) ∧
      ∀ s s', Follows ⟨Run.start b cap, stages⟩ order s →
        Follows ⟨Run.start b cap, stages⟩ order' s' →
        s.run.progress.truncated = s'.run.progress.truncated ∧
          (s.run.progress.truncated = true ↔
            order ≠ [] ∧ cap ≤ b.distinctPairs definitions order.dropLast) := by
  have perm : order.Perm order' := merged.perm.trans merged'.perm.symm
  have same : order ≠ [] ∧ cap ≤ b.distinctPairs definitions order.dropLast ↔
      order' ≠ [] ∧ cap ≤ b.distinctPairs definitions order'.dropLast := by
    rw [Backend.distinctPairs_eq_of_perm (dropLast_perm_of_getLast?_eq perm last), ne_eq, ne_eq,
      ← List.getLast?_eq_none_iff, last, List.getLast?_eq_none_iff]
  refine ⟨exists_follows rfl merged, exists_follows rfl merged', fun s s' follows follows' => ?_⟩
  have here := truncated_iff_of_follows works merged follows
  have there := truncated_iff_of_follows works merged' follows'
  exact ⟨Bool.eq_iff_iff.mpr (here.trans (same.trans there.symm)), here⟩

/-- Records of addresses, of which the second has no host. -/
def hosts : List Record :=
  [⟨[("host", .string "x"), ("ip", .string "1")]⟩, ⟨[("ip", .string "2")]⟩,
    ⟨[("host", .string "z"), ("ip", .string "3")]⟩]

/-- Three tasks with one record each, of which the last comes last in two orders. -/
theorem truncated_eq_of_interleavings_three :
    let b := addresses ["host"] hosts
    let s₀ := start b 1 [.lookup "ip" "1", .lookup "ip" "2", .lookup "ip" "3"]
    let order := [hosts[0], hosts[1], hosts[2]]
    let order' := [hosts[1], hosts[0], hosts[2]]
    Interleaving (s₀.stages.map (Stage.coming b)) order ∧
      Interleaving (s₀.stages.map (Stage.coming b)) order' ∧
      (∃ s, Follows s₀ order s) ∧ (∃ s, Follows s₀ order' s) ∧
      ∀ s s', Follows s₀ order s → Follows s₀ order' s' →
        s.run.progress.truncated = true ∧ s'.run.progress.truncated = true := by
  intro b s₀ order order'
  have coming : s₀.stages.map (Stage.coming b) = [[hosts[0]], [hosts[1]], [hosts[2]]] := rfl
  have works : ∀ stage ∈ s₀.stages, stage.WorksWith b b.relations.definitions := by
    intro stage member
    obtain ⟨q, _, rfl⟩ := List.mem_map.mp member
    exact ⟨rfl, rfl⟩
  have merged : Interleaving (s₀.stages.map (Stage.coming b)) order := by
    rw [coming]
    exact .flatten _
  have merged' : Interleaving (s₀.stages.map (Stage.coming b)) order' := by
    have later : Interleaving ([[hosts[0]]] ++ [] :: [[hosts[2]]]) [hosts[0], hosts[2]] :=
      .flatten _
    rw [coming]
    exact later.next
  obtain ⟨first, second, agree⟩ := truncated_eq_of_interleavings works merged merged' rfl
  refine ⟨merged, merged', first, second, fun s s' follows follows' => ?_⟩
  obtain ⟨same, full⟩ := agree s s' follows follows'
  have truncated : s.run.progress.truncated = true := full.mpr (by decide +kernel)
  exact ⟨truncated, same.symm.trans truncated⟩

/-- Orders that end with different records do not agree: with room for one relation, the record
without a host is refused if it comes last, and accepted if it comes first. -/
theorem exists_truncated_ne_of_interleavings :
    let b := addresses ["host"] hosts
    let s₀ := start b 1 [.lookup "ip" "1", .lookup "ip" "2"]
    let f := Federation.ofRegistry (.ofBackends [b]) (.uniform 1)
    (f.search 0 "kv" "FROM kv WHERE ip IN ('1', '2')" none).1.truncated = true ∧
      (f.search 0 "kv" "FROM kv WHERE ip IN ('2', '1')" none).1.truncated = false ∧
      ¬ ∀ order order', Interleaving (s₀.stages.map (Stage.coming b)) order →
        Interleaving (s₀.stages.map (Stage.coming b)) order' →
        ∀ s s', Follows s₀ order s → Follows s₀ order' s' →
          s.run.progress.truncated = s'.run.progress.truncated := by
  intro b s₀ f
  have coming : s₀.stages.map (Stage.coming b) = [[hosts[0]], [hosts[1]]] := rfl
  have merged : Interleaving (s₀.stages.map (Stage.coming b)) [hosts[0], hosts[1]] := by
    rw [coming]
    exact .flatten _
  have merged' : Interleaving (s₀.stages.map (Stage.coming b)) [hosts[1], hosts[0]] := by
    have later : Interleaving ([[hosts[0]]] ++ [] :: []) [hosts[0]] := .flatten _
    rw [coming]
    exact later.next
  have follows : Follows s₀ [hosts[0], hosts[1]] (s₀.play [0, 0, 0, 0, 1, 1]).2 :=
    ⟨⟨_, chronicled_play .., [hosts[1]], rfl⟩, by decide +kernel⟩
  have follows' : Follows s₀ [hosts[1], hosts[0]] (s₀.play [1, 1, 1, 1, 0, 0, 0, 0]).2 :=
    ⟨⟨_, chronicled_play .., [], rfl⟩, by decide +kernel⟩
  refine ⟨by decide +kernel, by decide +kernel, fun agree => ?_⟩
  exact absurd (agree _ _ merged merged' _ _ follows follows') (by decide +kernel)

end Ensemble

end FederatedSearch
