import FederatedSearch.Federation.Run
import FederatedSearch.Proofs.Relation.Collecting
import Mathlib.Logic.Relation

/-!
# Tasks side by side

The tasks of a backend share what has been collected, and any of them may take the next step. A
task starts with the definitions that it finds, offers its records in their order, and ends with
its answer, at the first refusal, or once the backend is truncated. `Run.performAll` is the
schedule that lets each task run to its end before the next one starts (`steps_performAll`).

As long as there are fewer distinct pairs to collect than the cap allows, the schedule makes no
difference: nothing is refused, and each pair is collected once.
-/

namespace FederatedSearch

/-! ## One record -/

namespace Run

variable {run after : Run} {definitions : List RelationDefinition} {r : Record}

/-- A run that has reached its cap. -/
def truncate (run : Run) : Run :=
  { run with progress := { run.progress with truncated := true } }

/-- A run that has taken a record. -/
def collect (definitions : List RelationDefinition) (r : Record) (run : Run) : Run :=
  { run with
    backend := run.backend.observe r
    progress := { run.progress with
      collector := run.progress.collector.extract run.backend.name definitions r
      statistics := run.progress.statistics.update r } }

/-- A record is accepted exactly when the cap has not been reached, and then it is collected. -/
theorem accept_eq_true_iff : run.accept definitions r = (true, after) ↔
    run.progress.truncated = false ∧ run.progress.collector.size < run.cap ∧
      after = run.collect definitions r := by
  unfold accept Progress.accept
  by_cases truncated : run.progress.truncated = true
  · simp [truncated]
  · by_cases full : run.cap ≤ run.progress.collector.size
    · simp [truncated, full, Nat.not_lt.mpr full]
    · simp [truncated, full, Nat.lt_of_not_le full, collect, eq_comm]

/-- A record is refused exactly when the cap has been reached, and then the run is truncated. -/
theorem accept_eq_false_iff : run.accept definitions r = (false, after) ↔
    (run.progress.truncated = true ∨ run.cap ≤ run.progress.collector.size) ∧
      after = run.truncate := by
  unfold accept Progress.accept
  by_cases truncated : run.progress.truncated = true
  · have same : run.truncate = run := by
      rw [truncate, ← truncated]
    simp [truncated, same, eq_comm (a := run)]
  · by_cases full : run.cap ≤ run.progress.collector.size
    · simp [truncated, full, truncate, eq_comm]
    · simp [truncated, full]

end Run

/-! ## Tasks -/

/-- How far a task has come. -/
inductive Task
  /-- The task has not asked its query yet. -/
  | pending (q : NativeQuery)
  /-- The task works with the definitions that it found, and this is still to come. -/
  | streaming (definitions : List RelationDefinition) (coming : Arrivals)
  | ended (ending : TaskEnd)

/-- How a task has ended, if it has. -/
def Task.ending? : Task → Option TaskEnd
  | ended ending => some ending
  | _ => none

/-- What a task comes to that has taken an answer to its end. -/
def Ending.taskEnd (timeout : Nat) : Ending → TaskEnd
  | finished => .done
  | failed e => .failed e
  | stalled => if timeout = 0 then .failed (.timeout 0) else .waiting

/-- What a task can do next, and what becomes of the run that it shares. -/
inductive Advance : Run → Task → Run → Task → Prop
  | start (run : Run) (q : NativeQuery) :
    Advance run (.pending q) { run with executions := run.executions + 1 }
      (.streaming run.backend.relations.definitions (run.backend.respond q))
  | deliver {run after : Run} {definitions : List RelationDefinition} {r : Record}
    {rest : List Record} {ending : Ending} (accepted : run.accept definitions r = (true, after)) :
    Advance run (.streaming definitions ⟨r :: rest, ending⟩) after
      (.streaming definitions ⟨rest, ending⟩)
  | stop {run after : Run} {definitions : List RelationDefinition} {r : Record}
    {rest : List Record} {ending : Ending} (refused : run.accept definitions r = (false, after)) :
    Advance run (.streaming definitions ⟨r :: rest, ending⟩) after (.ended .done)
  | finish (run : Run) (definitions : List RelationDefinition) (ending : Ending) :
    Advance run (.streaming definitions ⟨[], ending⟩) run
      (.ended (ending.taskEnd run.backend.source.timeout))
  | cancel {run : Run} {task : Task} (active : task.ending? = none)
    (truncated : run.progress.truncated = true) : Advance run task run (.ended .done)

/-- A run with the tasks that share it. -/
structure Shared where
  run : Run
  tasks : List Task

namespace Shared

/-- Any task may take the next step. -/
inductive Step : Shared → Shared → Prop
  | task {run after : Run} {t t' : Task} (before others : List Task)
    (advance : Advance run t after t') :
    Step ⟨run, before ++ t :: others⟩ ⟨after, before ++ t' :: others⟩

/-- What can become of a run and its tasks. -/
abbrev Steps : Shared → Shared → Prop :=
  Relation.ReflTransGen Step

/-- A backend at the start of a search, with a task for each of its queries. -/
def start (b : Backend) (cap : Nat) (queries : List NativeQuery) : Shared :=
  ⟨Run.start b cap, queries.map .pending⟩

/-- All tasks have come to their ends. -/
def Ended (s : Shared) : Prop :=
  ∀ t ∈ s.tasks, ∃ ending, t = .ended ending

/-! ## The schedule of one task after the other -/

section Schedule

variable {run after : Run} {before others : List Task}

/-- The steps of one task are steps of all. -/
theorem steps_of_advance {t t' : Task} (advance : Advance run t after t') :
    Steps ⟨run, before ++ t :: others⟩ ⟨after, before ++ t' :: others⟩ :=
  Relation.ReflTransGen.single (.task before others advance)

/-- Delivering records until one is refused, or until none is left. -/
theorem steps_deliver {definitions : List RelationDefinition} {records : List Record}
    {ending : Ending} :
    (run.deliver definitions records = (true, after) →
      Steps ⟨run, before ++ .streaming definitions ⟨records, ending⟩ :: others⟩
        ⟨after, before ++ .streaming definitions ⟨[], ending⟩ :: others⟩) ∧
      (run.deliver definitions records = (false, after) →
        Steps ⟨run, before ++ .streaming definitions ⟨records, ending⟩ :: others⟩
          ⟨after, before ++ .ended .done :: others⟩) := by
  induction records generalizing run with
  | nil =>
    constructor
    · rintro ⟨⟩
      exact .refl
    · rintro ⟨⟩
  | cons r rest ih =>
    rw [Run.deliver]
    cases offered : run.accept definitions r with
    | mk accepted next =>
      cases accepted with
      | true =>
        have first : Steps ⟨run, before ++ .streaming definitions ⟨r :: rest, ending⟩ :: others⟩
            ⟨next, before ++ .streaming definitions ⟨rest, ending⟩ :: others⟩ :=
          steps_of_advance (.deliver offered)
        exact ⟨fun more => first.trans (ih.1 more), fun more => first.trans (ih.2 more)⟩
      | false =>
        constructor
        · rintro ⟨⟩
        · rintro ⟨⟩
          exact steps_of_advance (.stop offered)

/-- Performing a query is running its task from its start to its end. -/
theorem steps_perform {q : NativeQuery} {ending : TaskEnd}
    (performed : run.perform q = (ending, after)) :
    Steps ⟨run, before ++ .pending q :: others⟩ ⟨after, before ++ .ended ending :: others⟩ := by
  unfold Run.perform at performed
  split at performed
  · rename_i truncated
    cases performed
    exact steps_of_advance (.cancel rfl truncated)
  · refine (steps_of_advance (.start run q)).trans ?_
    dsimp only at performed
    split at performed
    · rename_i next delivered
      cases performed
      exact steps_deliver.2 delivered
    · rename_i next delivered
      refine (steps_deliver.1 delivered).trans ?_
      have same : ((run.backend.respond q).ending.taskEnd next.backend.source.timeout, next) =
          (ending, after) := by
        rw [← performed]
        cases (run.backend.respond q).ending with
        | finished => rfl
        | failed e => rfl
        | stalled =>
          rw [Ending.taskEnd]
          split <;> rfl
      cases same
      exact steps_of_advance (.finish ..)

/-- Performing queries one after the other is a schedule of their tasks. -/
theorem steps_performAll {queries : List NativeQuery} {endings : List TaskEnd}
    (performed : run.performAll queries = (endings, after)) :
    Steps ⟨run, before ++ queries.map .pending⟩ ⟨after, before ++ endings.map .ended⟩ := by
  induction queries generalizing run endings before with
  | nil =>
    cases performed
    exact .refl
  | cons q rest ih =>
    rw [Run.performAll] at performed
    cases first : run.perform q with
    | mk ending next =>
      cases others : next.performAll rest with
      | mk more last =>
        rw [first] at performed
        simp only [others] at performed
        cases performed
        refine (steps_perform first).trans ?_
        have further : Steps ⟨next, (before ++ [.ended ending]) ++ rest.map .pending⟩
            ⟨after, (before ++ [.ended ending]) ++ more.map .ended⟩ := ih others
        simp only [List.append_assoc, List.singleton_append] at further
        exact further

/-- Performing all queries of a backend is one of the schedules, and lets all tasks end. -/
theorem exists_steps_performAll (b : Backend) (cap : Nat) (queries : List NativeQuery) :
    ∃ s, Steps (start b cap queries) s ∧ s.Ended ∧
      s.run = ((Run.start b cap).performAll queries).2 := by
  have steps : Steps ⟨Run.start b cap, [] ++ queries.map .pending⟩
      ⟨_, [] ++ ((Run.start b cap).performAll queries).1.map .ended⟩ := steps_performAll rfl
  refine ⟨_, steps, fun t member => ?_, rfl⟩
  obtain ⟨ending, _, rfl⟩ := List.mem_map.mp member
  exact ⟨ending, rfl⟩

end Schedule

end Shared

/-! ## What there is to collect -/

/-- The relations that a backend makes of the answers to its queries. -/
def Backend.offers (b : Backend) (queries : List NativeQuery) : List KeyedRelation :=
  queries.flatMap fun q =>
    (b.respond q).records.flatMap (projections b.name b.relations.definitions)

/-- The relations that a task still makes of what is to come. -/
def Task.offers (b : Backend) : Task → List KeyedRelation
  | pending q => (b.respond q).records.flatMap (projections b.name b.relations.definitions)
  | streaming definitions coming => coming.records.flatMap (projections b.name definitions)
  | ended _ => []

/-- A backend that does not learn stays as it is. -/
theorem Backend.observe_of_fixed {b : Backend} (fixed : b.source.inference = none) (r : Record) :
    b.observe r = b := by
  rw [observe, fixed]
  rfl

namespace Shared

variable {b : Backend} {cap : Nat} {queries : List NativeQuery}

/-- Nothing has been refused, and what has been collected and what is to come is together what
there is to collect. -/
structure Undisturbed (b : Backend) (cap : Nat) (queries : List NativeQuery) (s : Shared) :
    Prop where
  backend : s.run.backend = b
  cap : s.run.cap = cap
  untruncated : s.run.progress.truncated = false
  consistent : s.run.progress.collector.Consistent
  collected : s.run.progress.collector.entries ⊆ b.offers queries
  coming : s.tasks.flatMap (Task.offers b) ⊆ b.offers queries
  complete : ∀ p ∈ (b.offers queries).map KeyedRelation.pair,
    p ∈ s.run.progress.collector.pairs ∨
      p ∈ (s.tasks.flatMap (Task.offers b)).map KeyedRelation.pair

/-- At the start nothing has been disturbed. -/
theorem undisturbed_start : (start b cap queries).Undisturbed b cap queries where
  backend := rfl
  cap := rfl
  untruncated := rfl
  consistent := Collector.consistent_empty
  collected := List.nil_subset _
  coming := by
    rw [start, List.flatMap_map]
    exact List.Subset.refl _
  complete := by
    intro p offered
    rw [start, List.flatMap_map]
    exact .inr offered

/-- What is collected does not reach the cap when there are fewer pairs than that. -/
theorem Undisturbed.size_lt {s : Shared} (undisturbed : s.Undisturbed b cap queries)
    (few : ((b.offers queries).map KeyedRelation.pair).dedup.length < cap) :
    s.run.progress.collector.size < s.run.cap := by
  rw [undisturbed.cap]
  refine Nat.lt_of_le_of_lt (undisturbed.consistent.size_le ?_) few
  exact List.map_subset _ undisturbed.collected

/-- A task that offers what it has offered before leaves everything undisturbed. -/
theorem Undisturbed.replace {run after : Run} {before others : List Task} {t t' : Task}
    (undisturbed : Undisturbed b cap queries ⟨run, before ++ t :: others⟩)
    (same : t'.offers b = t.offers b) (backend : after.backend = run.backend)
    (bound : after.cap = run.cap) (progress : after.progress = run.progress) :
    Undisturbed b cap queries ⟨after, before ++ t' :: others⟩ := by
  have offers : (before ++ t' :: others).flatMap (Task.offers b) =
      (before ++ t :: others).flatMap (Task.offers b) := by
    simp only [List.flatMap_append, List.flatMap_cons, same]
  obtain ⟨isBackend, isCap, untruncated, consistent, collected, coming, complete⟩ := undisturbed
  refine ⟨backend.trans isBackend, bound.trans isCap, ?_, ?_, ?_, ?_, ?_⟩
  · rwa [progress]
  · rwa [progress]
  · rwa [progress]
  · rwa [offers]
  · rwa [offers, progress]

/-- A record that is collected moves from what is to come to what has been collected. -/
theorem Undisturbed.collect {run : Run} {before others : List Task}
    {definitions : List RelationDefinition} {r : Record} {rest : List Record} {ending : Ending}
    (fixed : b.source.inference = none)
    (undisturbed : Undisturbed b cap queries
      ⟨run, before ++ .streaming definitions ⟨r :: rest, ending⟩ :: others⟩) :
    Undisturbed b cap queries ⟨run.collect definitions r,
      before ++ .streaming definitions ⟨rest, ending⟩ :: others⟩ := by
  obtain ⟨rfl, isCap, untruncated, consistent, collected, coming, complete⟩ := undisturbed
  have moves : ∀ e, e ∈ (before ++ Task.streaming definitions ⟨r :: rest, ending⟩ :: others).flatMap
        (Task.offers run.backend) ↔ e ∈ projections run.backend.name definitions r ∨
      e ∈ (before ++ Task.streaming definitions ⟨rest, ending⟩ :: others).flatMap
        (Task.offers run.backend) := by
    intro e
    simp only [List.flatMap_append, List.flatMap_cons, Task.offers, List.mem_append]
    tauto
  refine ⟨run.backend.observe_of_fixed fixed r, isCap, untruncated, consistent.insertAll _, ?_, ?_,
    fun p offered => ?_⟩
  · intro e member
    rcases List.mem_append.mp (consistent.entries_subset_insertAll member) with early | late
    · exact collected early
    · exact coming ((moves e).mpr (.inl late))
  · exact fun e member => coming ((moves e).mpr (.inr member))
  · have kept : p ∈ (run.progress.collector.insertAll
        (projections run.backend.name definitions r)).pairs ↔ _ := consistent.mem_pairs_insertAll
    rcases complete p offered with early | late
    · exact .inl (kept.mpr (.inl early))
    · obtain ⟨e, member, rfl⟩ := List.mem_map.mp late
      rcases (moves e).mp member with now | later
      · exact .inl (kept.mpr (.inr (List.mem_map_of_mem now)))
      · exact .inr (List.mem_map_of_mem later)

/-- No step disturbs a backend that does not learn and has fewer pairs to collect than its cap
allows. -/
theorem Undisturbed.step {s s' : Shared} (fixed : b.source.inference = none)
    (few : ((b.offers queries).map KeyedRelation.pair).dedup.length < cap)
    (undisturbed : s.Undisturbed b cap queries) (step : Step s s') :
    s'.Undisturbed b cap queries := by
  have room := undisturbed.size_lt few
  obtain ⟨before, others, advance⟩ := step
  cases advance with
  | start q =>
    refine undisturbed.replace ?_ rfl rfl rfl
    have known := undisturbed.backend
    dsimp only at known
    rw [known]
    rfl
  | deliver accepted =>
    obtain ⟨_, _, rfl⟩ := Run.accept_eq_true_iff.mp accepted
    exact undisturbed.collect fixed
  | stop refused =>
    obtain ⟨truncated | full, _⟩ := Run.accept_eq_false_iff.mp refused
    · exact absurd truncated (Bool.eq_false_iff.mp undisturbed.untruncated)
    · exact absurd full (Nat.not_le.mpr room)
  | finish definitions ending => exact undisturbed.replace rfl rfl rfl rfl
  | cancel active truncated =>
    exact absurd truncated (Bool.eq_false_iff.mp undisturbed.untruncated)

/-- No schedule disturbs such a backend. -/
theorem Undisturbed.steps {s : Shared} (fixed : b.source.inference = none)
    (few : ((b.offers queries).map KeyedRelation.pair).dedup.length < cap)
    (steps : Steps (start b cap queries) s) : s.Undisturbed b cap queries := by
  induction steps with
  | refl => exact undisturbed_start
  | tail _ step ih => exact ih.step fixed few step

/-- Whatever the schedule, a backend that does not learn and has fewer distinct pairs to collect
than its cap allows is not truncated, and holds each of those pairs once and nothing else when
its tasks are over. -/
theorem pairs_perm_of_steps (b : Backend) (cap : Nat) (queries : List NativeQuery)
    (fixed : b.source.inference = none)
    (few : ((b.offers queries).map KeyedRelation.pair).dedup.length < cap) {s : Shared}
    (steps : Steps (start b cap queries) s) (ended : s.Ended) :
    s.run.progress.truncated = false ∧
      s.run.progress.collector.pairs.Perm ((b.offers queries).map KeyedRelation.pair).dedup ∧
      s.run.progress.collector.relations = s.run.progress.collector.entries.map (·.2) ∧
      s.run.progress.collector.entries ⊆ b.offers queries := by
  have undisturbed := Undisturbed.steps fixed few steps
  have nothing : s.tasks.flatMap (Task.offers b) = [] := by
    refine List.flatMap_eq_nil_iff.mpr fun t member => ?_
    obtain ⟨ending, rfl⟩ := ended t member
    rfl
  refine ⟨undisturbed.untruncated, ?_, undisturbed.consistent.relations_eq, undisturbed.collected⟩
  refine (List.perm_ext_iff_of_nodup undisturbed.consistent.distinct (List.nodup_dedup _)).mpr ?_
  intro p
  rw [List.mem_dedup]
  constructor
  · exact fun held => List.map_subset _ undisturbed.collected held
  · intro offered
    have kept := undisturbed.complete p offered
    rw [nothing] at kept
    exact kept.resolve_right List.not_mem_nil

/-- A store of three records that two queries find, two of them alike: with a cap of three, the
schedule of one query after the other collects two relations. -/
theorem pairs_perm_of_steps_lookups :
    let node (field : String) : NodeDefinition := ⟨field, field, field, [], []⟩
    let source : Source := ⟨"hosts", true, false, false, 1, [], [],
      [⟨node "ip", node "host", none⟩], none⟩
    let r (ip host : String) : Record := ⟨[("host", .string host), ("ip", .string ip)]⟩
    let b := Backend.ofStore source (.lookup "ip")
      (.keyValue (.ofRecords "ip" [r "1" "a", r "2" "a", r "1" "a"]))
    let queries : List NativeQuery := [.lookup "ip" "1", .lookup "ip" "2"]
    let run := ((Run.start b 3).performAll queries).2
    b.source.inference = none ∧
      ((b.offers queries).map KeyedRelation.pair).dedup.length = 2 ∧
      run.progress.truncated = false ∧
      run.progress.collector.pairs.Perm ((b.offers queries).map KeyedRelation.pair).dedup := by
  intro node source r b queries run
  have two : ((b.offers queries).map KeyedRelation.pair).dedup.length = 2 := by decide +kernel
  obtain ⟨s, steps, ended, performed⟩ := exists_steps_performAll b 3 queries
  have held := pairs_perm_of_steps b 3 queries rfl (by omega) steps ended
  rw [performed] at held
  exact ⟨rfl, two, held.1, held.2.1⟩

end Shared

end FederatedSearch
