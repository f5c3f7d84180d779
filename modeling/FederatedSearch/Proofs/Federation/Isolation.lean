import FederatedSearch.Proofs.Federation.Faults

/-!
# Backends do not disturb one another

What a search tells of one backend depends on that backend alone: its native queries in any case,
its truncation and statistics on what reaches it, in that order, and its faults on the order of its
moves, which without truncation is only the order in which they are told. Other backends may hold,
send or fail with anything. A backend that is not truncated adds all that it has collected to the
merged graph.
-/

namespace FederatedSearch

/-! ## The parts of a search -/

namespace Fanout

variable {q : Query} {cap : Nat} {backends : List Backend} {b : Backend} {turns : List Turn}
  {s : Fanout}

/-- Each backend stands under its own name. -/
theorem parts_start (distinct : (backends.map Backend.name).Nodup) (member : b ∈ backends) :
    (start backends cap).parts b.name = some (Part.start b cap) := by
  have found : backends.find? (·.name = b.name) = some b := by
    induction backends with
    | nil => cases member
    | cons first rest ih =>
      rw [List.map_cons, List.nodup_cons] at distinct
      rcases List.mem_cons.mp member with rfl | later
      · exact List.find?_cons_of_pos (by simp)
      · have other : first.name ≠ b.name :=
          fun same => distinct.1 (same ▸ List.mem_map_of_mem later)
        rw [List.find?_cons_of_neg (by simpa using other)]
        exact ih distinct.2 later
  exact congrArg (Option.map (Part.start · cap)) found

end Fanout

/-! ## The outcome of a search -/

namespace Federation

/-- A global search in which no backend has made a move. -/
def fanout (f : Federation) : Fanout :=
  .start f.registry.globalBackends f.limits.resultCap

/-- What the backends of a global search add to it. -/
def contributions (f : Federation) (s : Fanout) : List Contribution :=
  s.contributions f.registry.globalBackends

/-- The graph of a global search before it is processed. -/
def merged (f : Federation) (s : Fanout) : Collector :=
  mergeCollectors (f.contributions s)

/-- The outcome of a global search, with what stands in its log. Warnings come from the cache. -/
def outcome (f : Federation) (warnings : List String) (s : Fanout) : SearchResult :=
  let (relations, faults) := processAll f.processors (f.merged s).relations
  let messages := s.log.map Notice.message ++ warnings ++ faults.map ProcessorError.message
  ⟨relations, truncatedStatistics (f.contributions s), (f.contributions s).any (·.truncated),
    askedQueries (f.contributions s), joinMessages messages⟩

/-- Whether a global search has come to its end: all native queries are written, and all tasks have
ended. -/
def settled (f : Federation) (s : Fanout) : Bool :=
  f.registry.globalBackends.all fun b => (s.parts b.name).any fun p =>
    p.asked.isSome && p.shared.tasks.all (·.ending?.isSome)

variable {f g : Federation} {q : Query} {b : Backend} {turns turns' : List Turn} {s s' : Fanout}
  {warnings warnings' : List String}

end Federation

/-! ## One backend after the other -/

namespace Part

variable {q : Query} {asked : Option (List NativeQuery × List SourceFault)} {run after : Run}
  {before others : List Task} {t t' : Task}

/-- One step of one task. -/
theorem run_of_advance? (goes : t.advance? run = some (after, t')) :
    Part.run q ⟨⟨run, before ++ t :: others⟩, asked⟩ [.advance before.length] =
      some (⟨⟨after, before ++ t' :: others⟩, asked⟩,
        (t'.ending?.map (TaskEnd.faults after.progress.truncated)).getD []) := by
  simp [Part.run, move, update, goes]

/-- Records that are all accepted do not truncate a backend. -/
theorem untruncated_of_deliver {definitions : List RelationDefinition} {records : List Record}
    (whole : run.progress.truncated = false)
    (delivered : run.deliver definitions records = (true, after)) :
    after.progress.truncated = false := by
  induction records generalizing run with
  | nil =>
    cases delivered
    exact whole
  | cons r rest ih =>
    rw [Run.deliver] at delivered
    cases offered : run.accept definitions r with
    | mk accepted next =>
      rw [offered] at delivered
      cases accepted with
      | true =>
        obtain ⟨_, _, same⟩ := Run.accept_eq_true_iff.mp offered
        exact ih (same ▸ whole) delivered
      | false => cases delivered

/-- Delivering records until one is refused, or until none is left, in moves of one task. -/
theorem exists_run_deliver {definitions : List RelationDefinition} {records : List Record}
    {ending : Ending} :
    (run.deliver definitions records = (true, after) →
      ∃ ms, Part.run q ⟨⟨run, before ++ .streaming definitions ⟨records, ending⟩ :: others⟩, asked⟩
        ms = some (⟨⟨after, before ++ .streaming definitions ⟨[], ending⟩ :: others⟩, asked⟩, [])) ∧
      (run.deliver definitions records = (false, after) →
        ∃ ms, Part.run q
          ⟨⟨run, before ++ .streaming definitions ⟨records, ending⟩ :: others⟩, asked⟩ ms =
            some (⟨⟨after, before ++ .ended .done :: others⟩, asked⟩, [])) := by
  induction records generalizing run with
  | nil =>
    constructor
    · rintro ⟨⟩
      exact ⟨[], rfl⟩
    · rintro ⟨⟩
  | cons r rest ih =>
    rw [Run.deliver]
    cases offered : run.accept definitions r with
    | mk accepted next =>
      cases accepted with
      | true =>
        have goes : Task.advance? run (.streaming definitions ⟨r :: rest, ending⟩) =
            some (next, .streaming definitions ⟨rest, ending⟩) := by
          rw [Task.advance?, offered]
        constructor
        · intro more
          obtain ⟨ms, ran⟩ := ih.1 more
          exact ⟨_, run_append (run_of_advance? goes) ran⟩
        · intro more
          obtain ⟨ms, ran⟩ := ih.2 more
          exact ⟨_, run_append (run_of_advance? goes) ran⟩
      | false =>
        constructor
        · rintro ⟨⟩
        · rintro ⟨⟩
          have goes : Task.advance? run (.streaming definitions ⟨r :: rest, ending⟩) =
              some (after, .ended .done) := by
            rw [Task.advance?, offered]
          exact ⟨_, run_of_advance? goes⟩

/-- What performing a query comes to: nothing once the backend is truncated, and else what the
delivery of the records and the end of the answer make of it. -/
theorem perform_cases {native : NativeQuery} {ending : TaskEnd}
    (performed : run.perform native = (ending, after)) :
    let started : Run := { run with executions := run.executions + 1 }
    let arrivals := run.backend.respond native
    let definitions := run.backend.relations.definitions
    (run.progress.truncated = true ∧ ending = .done ∧ after = run) ∨
      (run.progress.truncated = false ∧
        (started.deliver definitions arrivals.records = (false, after) ∧ ending = .done ∨
          started.deliver definitions arrivals.records = (true, after) ∧
            ending = arrivals.ending.taskEnd after.backend.source.timeout)) := by
  intro started arrivals definitions
  unfold Run.perform at performed
  split at performed
  · rename_i truncated
    cases performed
    exact .inl ⟨truncated, rfl, rfl⟩
  · rename_i whole
    refine .inr ⟨Bool.eq_false_iff.mpr whole, ?_⟩
    cases delivered : started.deliver definitions arrivals.records with
    | mk accepted next =>
      simp only [started, arrivals, definitions] at delivered ⊢
      dsimp only at performed
      rw [delivered] at performed
      cases accepted with
      | false =>
        cases performed
        exact .inl ⟨rfl, rfl⟩
      | true =>
        dsimp only at performed
        have same : ((run.backend.respond native).ending.taskEnd next.backend.source.timeout,
            next) = (ending, after) := by
          rw [← performed]
          cases (run.backend.respond native).ending with
          | finished => rfl
          | failed e => rfl
          | stalled =>
            rw [Ending.taskEnd]
            split <;> rfl
        cases same
        exact .inr ⟨rfl, rfl⟩

/-- Performing a query, in moves of its task. -/
theorem exists_run_perform {native : NativeQuery} {ending : TaskEnd}
    (performed : run.perform native = (ending, after)) :
    ∃ ms, Part.run q ⟨⟨run, before ++ .pending native :: others⟩, asked⟩ ms =
      some (⟨⟨after, before ++ .ended ending :: others⟩, asked⟩, ending.fault?.toList) := by
  rcases perform_cases performed with
    ⟨truncated, rfl, rfl⟩ | ⟨whole, ⟨delivered, rfl⟩ | ⟨delivered, rfl⟩⟩
  · refine ⟨[.abandon before.length], ?_⟩
    simp [Part.run, move, update, truncated, Task.ending?, TaskEnd.fault?]
  · have goes : Task.advance? run (.pending native) = some (_, _) := rfl
    obtain ⟨ms, ran⟩ := exists_run_deliver.2 delivered
    exact ⟨_, run_append (run_of_advance? goes) ran⟩
  · have goes : Task.advance? run (.pending native) = some (_, _) := rfl
    obtain ⟨ms, ran⟩ := exists_run_deliver.1 delivered
    have ends : Task.advance? after (.streaming run.backend.relations.definitions
        ⟨[], (run.backend.respond native).ending⟩) = some (after, .ended _) := rfl
    have started : Run.progress { run with executions := run.executions + 1 } = run.progress := rfl
    have still : after.progress.truncated = false :=
      untruncated_of_deliver (started ▸ whole) delivered
    refine ⟨_, (run_append (run_of_advance? goes) (run_append ran (run_of_advance? ends))).trans ?_⟩
    rw [still]
    simp only [Task.ending?, Option.map_none, Option.map_some, Option.getD_none, Option.getD_some,
      List.nil_append, TaskEnd.faults_false]

/-- Performing queries one after the other, in moves of their tasks. -/
theorem exists_run_performAll {natives : List NativeQuery} {endings : List TaskEnd}
    (performed : run.performAll natives = (endings, after)) :
    ∃ ms, Part.run q ⟨⟨run, before ++ natives.map .pending⟩, asked⟩ ms =
      some (⟨⟨after, before ++ endings.map .ended⟩, asked⟩,
        endings.filterMap TaskEnd.fault?) := by
  induction natives generalizing run endings before with
  | nil =>
    cases performed
    exact ⟨[], rfl⟩
  | cons native rest ih =>
    rw [Run.performAll] at performed
    cases first : run.perform native with
    | mk ending next =>
      cases others : next.performAll rest with
      | mk more last =>
        rw [first] at performed
        simp only [others] at performed
        cases performed
        obtain ⟨ms, ran⟩ := exists_run_perform first
        obtain ⟨ns, further⟩ := ih others
        have joined : (before ++ [Task.ended ending]) ++ rest.map .pending =
            before ++ .ended ending :: rest.map .pending := by
          rw [List.append_assoc]
          rfl
        rw [joined] at further
        refine ⟨_, (run_append ran further).trans ?_⟩
        cases failed : ending.fault? with
        | none => simp [failed]
        | some fault => simp [failed]

/-- The native queries of a backend are written in one move. -/
theorem run_prepare (b : Backend) (cap : Nat) (q : Query) :
    (start b cap).run q [.prepare] = some (prepared b cap q, (b.nativeQueries q).2) := by
  have moved : (start b cap).move q .prepare = some (prepared b cap q, (b.nativeQueries q).2) := rfl
  exact run_cons_eq_some_iff.mpr ⟨_, _, _, _, moved, rfl, by rw [List.append_nil]⟩

/-- A backend whose tasks have been performed one after the other. -/
def performed (b : Backend) (cap : Nat) (q : Query) : Part :=
  let (endings, run) := (Run.start b cap).performAll (b.nativeQueries q).1
  ⟨⟨run, endings.map .ended⟩, some (b.nativeQueries q)⟩

/-- A backend that performed a query alone contributes what it is said to. -/
theorem contribution_performed (b : Backend) (cap : Nat) (q : Query) :
    (performed b cap q).contribution = .ofBackend b cap q := by
  have endings (ends : List TaskEnd) : (ends.map Task.ended).filterMap Task.ending? = ends := by
    rw [List.filterMap_map]
    exact List.filterMap_some
  unfold contribution performed Contribution.ofBackend
  simp only [endings]
  rfl

/-- The tasks of a backend can be performed one after the other. -/
theorem exists_run_performed (b : Backend) (cap : Nat) (q : Query) :
    ∃ ms, (prepared b cap q).run q ms = some (performed b cap q,
      (Contribution.ofBackend b cap q).endings.filterMap TaskEnd.fault?) := by
  have all : ∃ ms, Part.run q ⟨⟨Run.start b cap, [] ++ (b.nativeQueries q).1.map .pending⟩,
      some (b.nativeQueries q)⟩ ms = some (_, _) := exists_run_performAll rfl
  exact all

end Part

namespace Fanout

variable {q : Query} {s s' s'' : Fanout} {turns others : List Turn}

/-- Two rows of turns run one after the other. -/
theorem run_append (first : s.run q turns = some s') (second : s'.run q others = some s'') :
    s.run q (turns ++ others) = some s'' := by
  induction turns generalizing s with
  | nil =>
    cases first
    exact second
  | cons t rest ih =>
    rw [run, Option.bind_eq_bind, Option.bind_eq_some_iff] at first
    obtain ⟨next, taken, ran⟩ := first
    rw [List.cons_append, run, Option.bind_eq_bind, Option.bind_eq_some_iff]
    exact ⟨next, taken, ih ran⟩

/-- Moves of a part as turns of its backend. -/
theorem run_of_part {name : String} {p p' : Part} {ms : List Move} {faults : List SourceFault}
    (present : s.parts name = some p) (ran : p.run q ms = some (p', faults)) :
    s.run q (ms.map (Turn.mk name)) = some
      ⟨Function.update s.parts name (some p'), s.log ++ faults.map (Notice.mk name)⟩ := by
  induction ms generalizing s p faults with
  | nil =>
    cases ran
    rw [← present, Function.update_eq_self, List.map_nil, List.map_nil, List.append_nil]
    rfl
  | cons m rest ih =>
    obtain ⟨p₁, early, p₂, late, moved, further, same⟩ := Part.run_cons_eq_some_iff.mp ran
    cases same
    have taken : s.turn q ⟨name, m⟩ = some _ :=
      turn_eq_some_iff.mpr ⟨p, p₁, early, present, moved, rfl⟩
    rw [List.map_cons, run, Option.bind_eq_bind, taken, Option.bind_some,
      ih (Function.update_self ..) further]
    simp only [Function.update_idem, List.map_append, List.append_assoc]

/-- What each of some backends can do by itself, they can do one after the other. -/
theorem exists_run_each {backends : List Backend} {p p' : Backend → Part}
    {faults : Backend → List SourceFault} (distinct : (backends.map Backend.name).Nodup)
    (each : ∀ b ∈ backends, ∃ ms, (p b).run q ms = some (p' b, faults b))
    (present : ∀ b ∈ backends, s.parts b.name = some (p b)) :
    ∃ turns s', s.run q turns = some s' ∧ (∀ b ∈ backends, s'.parts b.name = some (p' b)) ∧
      (∀ name ∉ backends.map Backend.name, s'.parts name = s.parts name) ∧
      s'.log = s.log ++ backends.flatMap fun b => (faults b).map (Notice.mk b.name) := by
  induction backends generalizing s with
  | nil => exact ⟨[], s, rfl, by simp, fun _ _ => rfl, by simp⟩
  | cons b rest ih =>
    rw [List.map_cons, List.nodup_cons] at distinct
    obtain ⟨ms, moved⟩ := each b (List.mem_cons_self ..)
    have first := run_of_part (present b (List.mem_cons_self ..)) moved
    have apart : ∀ other ∈ rest, other.name ≠ b.name :=
      fun other member same => distinct.1 (same ▸ List.mem_map_of_mem member)
    obtain ⟨turns, last, ran, ends, untouched, log⟩ := ih distinct.2
      (fun other member => each other (List.mem_cons_of_mem _ member))
      (s := ⟨Function.update s.parts b.name (some (p' b)),
        s.log ++ (faults b).map (Notice.mk b.name)⟩)
      (fun other member => (Function.update_of_ne (apart other member) _ _).trans
        (present other (List.mem_cons_of_mem _ member)))
    refine ⟨_, last, run_append first ran, fun other member => ?_, fun name absent => ?_, ?_⟩
    · rcases List.mem_cons.mp member with rfl | later
      · exact (untouched _ distinct.1).trans (Function.update_self ..)
      · exact ends other later
    · rw [List.map_cons, List.mem_cons, not_or] at absent
      exact (untouched name absent.2).trans (Function.update_of_ne absent.1 _ _)
    · rw [log, List.flatMap_cons, List.append_assoc]

end Fanout

/-! ## Searches as schedules -/

section Messages

variable {q : Query} {cap : Nat} {b : Backend}

/-- The contribution of a backend carries its name. -/
theorem name_ofBackend (b : Backend) (cap : Nat) (q : Query) :
    (Contribution.ofBackend b cap q).run.backend.name = b.name := by
  obtain ⟨_, ran⟩ := Part.exists_run_performed b cap q
  have sound : (Part.performed b cap q).shared.run.Sound b.name :=
    Part.sound_of_run (.start b cap) ran
  exact sound.named

/-- The messages of a backend are those of its faults under its name. -/
theorem message_ofBackend (fault : SourceFault) :
    (Contribution.ofBackend b cap q).message fault = Notice.message ⟨b.name, fault⟩ := by
  unfold Contribution.message Backend.message Notice.message
  rw [name_ofBackend]

/-- The rejections of a backend are the faults of its own queries, under its name. -/
theorem rejections_ofBackend : (Contribution.ofBackend b cap q).rejections =
    ((b.nativeQueries q).2.map (Notice.mk b.name)).map Notice.message := by
  rw [List.map_map]
  exact List.map_congr_left fun fault _ => message_ofBackend fault

/-- The failures of a backend are the faults its own tasks ended with, under its name. -/
theorem failures_ofBackend : (Contribution.ofBackend b cap q).failures =
    (((Contribution.ofBackend b cap q).endings.filterMap TaskEnd.fault?).map
      (Notice.mk b.name)).map Notice.message := by
  rw [List.map_map, List.map_filterMap]
  refine List.filterMap_congr fun ending _ => ?_
  cases ending with
  | done => rfl
  | failed e => exact congrArg some (message_ofBackend _)
  | waiting => rfl

/-- When no task waits there are no late messages. -/
theorem lateMessages_eq_nil {cancel : Option Nat} {cs : List Contribution}
    (quiet : ∀ c ∈ cs, c.waiting = 0) : lateMessages cancel cs = [] := by
  have silent {c : Contribution} (member : c ∈ cs) (error : ExecutionError) :
      c.waitingMessages error = [] := by
    rw [Contribution.waitingMessages, quiet c member, List.replicate_zero]
  unfold lateMessages
  simp only [List.partition_eq_filter_filter, List.append_eq_nil_iff, List.flatMap_eq_nil_iff,
    List.mem_mergeSort, List.mem_reverse, List.mem_filter]
  constructor
  · exact fun c member => silent member.1 _
  · exact fun c member => silent member.1 _

end Messages

namespace Federation

variable {f : Federation} {q : Query} {warnings : List String} {now : Int} {text : String}

/-- A global search that is not answered from the cache, and in which no answer stalls, shows the
outcome of one of the schedules. -/
theorem exists_run_search (keyed : f.registry.Keyed)
    (unknown : f.remembered now (cacheKey text) = .error warnings)
    (accepted : Query.prepare text f.limits.maxRowcount = .ok q)
    (quiet : ∀ b ∈ f.registry.globalBackends,
      (Contribution.ofBackend b f.limits.resultCap q).waiting = 0) :
    ∃ turns s, f.fanout.run q turns = some s ∧
      (f.search now globalName text none).1 = f.outcome warnings s := by
  have distinct := keyed.nodup_globalBackends
  have prepares : ∀ b ∈ f.registry.globalBackends, ∃ ms,
      (Part.start b f.limits.resultCap).run q ms =
        some (Part.prepared b f.limits.resultCap q, (b.nativeQueries q).2) :=
    fun b _ => ⟨_, Part.run_prepare b f.limits.resultCap q⟩
  obtain ⟨turns, s, ran, here, _, rejected⟩ := Fanout.exists_run_each distinct prepares
    (fun b member => Fanout.parts_start distinct member)
  have performs : ∀ b ∈ f.registry.globalBackends, ∃ ms,
      (Part.prepared b f.limits.resultCap q).run q ms =
        some (Part.performed b f.limits.resultCap q, _) :=
    fun b _ => Part.exists_run_performed b f.limits.resultCap q
  obtain ⟨turns', s', ran', there, _, failed⟩ := Fanout.exists_run_each distinct performs here
  refine ⟨_, s', Fanout.run_append ran ran', ?_⟩
  have added : f.contributions s' =
      f.registry.globalBackends.map fun b => .ofBackend b f.limits.resultCap q := by
    have each : ∀ b ∈ f.registry.globalBackends, (s'.parts b.name).map Part.contribution =
        some (.ofBackend b f.limits.resultCap q) := by
      intro b member
      rw [there b member, Option.map_some, Part.contribution_performed]
    rw [contributions, Fanout.contributions, List.filterMap_congr each]
    exact congrFun List.filterMap_eq_map _
  have messages : s'.log.map Notice.message = sourceMessages none (f.contributions s') := by
    have late : lateMessages none (f.contributions s') = [] := by
      refine lateMessages_eq_nil fun c member => ?_
      rw [added] at member
      obtain ⟨b, taking, rfl⟩ := List.mem_map.mp member
      exact quiet b taking
    rw [failed, rejected, sourceMessages, late, added]
    simp only [Fanout.start, List.nil_append, List.append_nil, List.map_append, List.map_flatMap,
      List.flatMap_map, rejections_ofBackend, failures_ofBackend]
  have shown : (f.search now globalName text none).1 =
      f.combine none warnings (f.contributions s') := by
    unfold search
    simp only [unknown, backendsFor, if_true, accepted, added]
  rw [shown]
  unfold combine outcome merged
  rw [messages]

end Federation

end FederatedSearch
