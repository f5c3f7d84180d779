import FederatedSearch.Proofs.Federation.Interleaving
import FederatedSearch.Proofs.Relation.Growth

/-!
# Chronicles

What the tasks of a backend do to what they share, in the order in which they do it: a task opens
its answer, with the definitions that are published at that moment; a record is accepted, and
projected through the definitions of its task; the backend learns from the record. Other tasks may
come in between any two of these. Whatever the order, its chronicle determines what has been
collected and what the backend has learnt (`reflects_of_chronicled`).
-/

namespace FederatedSearch

/-- What a task does to what it shares with others. -/
inductive Event
  /-- The task asks its query, and takes the definitions that are published. -/
  | opened (task : Nat) (definitions : List RelationDefinition)
  /-- A record of the task is accepted, and projected through its definitions. -/
  | accepted (task : Nat) (definitions : List RelationDefinition) (r : Record)
  /-- The backend learns from a record that was accepted. -/
  | learnt (task : Nat) (r : Record)

namespace Event

/-- The task that does it. -/
def task : Event → Nat
  | opened i _ => i
  | accepted i _ _ => i
  | learnt i _ => i

/-- The record that is accepted. -/
def accepted? : Event → Option Record
  | accepted _ _ r => some r
  | _ => none

/-- The record that is learnt from. -/
def learnt? : Event → Option Record
  | learnt _ r => some r
  | _ => none

/-- The relations that are offered for collection. -/
def offers (source : String) : Event → List KeyedRelation
  | accepted _ definitions r => projections source definitions r
  | _ => []

/-- The records that are accepted in the course of some events. -/
def records (events : List Event) : List Record :=
  events.filterMap accepted?

/-- The records that are learnt from in the course of some events. -/
def lessons (events : List Event) : List Record :=
  events.filterMap learnt?

/-- The relations that are offered in the course of some events. -/
def allOffers (source : String) (events : List Event) : List KeyedRelation :=
  events.flatMap (offers source)

section Append

variable (source : String) (events others : List Event) (i : Nat)
  (definitions : List RelationDefinition) (r : Record)

/-- The accepted records of two chronicles are those of the first and then those of the second. -/
theorem records_append : records (events ++ others) = records events ++ records others :=
  List.filterMap_append ..

@[simp]
theorem records_opened : records [opened i definitions] = [] := rfl

@[simp]
theorem records_accepted : records [accepted i definitions r] = [r] := rfl

@[simp]
theorem records_learnt : records [learnt i r] = [] := rfl

/-- The learnt records of two chronicles are those of the first and then those of the second. -/
theorem lessons_append : lessons (events ++ others) = lessons events ++ lessons others :=
  List.filterMap_append ..

@[simp]
theorem lessons_opened : lessons [opened i definitions] = [] := rfl

@[simp]
theorem lessons_accepted : lessons [accepted i definitions r] = [] := rfl

@[simp]
theorem lessons_learnt : lessons [learnt i r] = [r] := rfl

/-- The offers of two chronicles are those of the first and then those of the second. -/
theorem allOffers_append :
    allOffers source (events ++ others) = allOffers source events ++ allOffers source others :=
  List.flatMap_append ..

@[simp]
theorem allOffers_opened : allOffers source [opened i definitions] = [] := rfl

/-- An accepted record offers its projections through the definitions in force. -/
@[simp]
theorem allOffers_accepted : allOffers source [accepted i definitions r] =
    projections source definitions r :=
  List.append_nil _

@[simp]
theorem allOffers_learnt : allOffers source [learnt i r] = [] := rfl

end Append

end Event

/-! ## Tasks step by step -/

/-- How far a task has come. -/
inductive Stage
  /-- The task has not asked its query yet. -/
  | pending (q : NativeQuery)
  /-- The task works with the definitions that it found, and this is still to come. -/
  | streaming (definitions : List RelationDefinition) (coming : Arrivals)
  /-- A record was accepted, and has yet to be learnt from. -/
  | learning (definitions : List RelationDefinition) (r : Record) (coming : Arrivals)
  | ended (ending : TaskEnd)

/-- Whether a task has come to its end. -/
def Stage.isEnded : Stage → Bool
  | ended _ => true
  | _ => false

/-- A stage has ended when it carries an ending. -/
theorem Stage.isEnded_iff {stage : Stage} :
    stage.isEnded = true ↔ ∃ ending, stage = .ended ending := by
  cases stage <;> simp [isEnded]

/-- What the task of a number can do next, what it does to the run that it shares, and what is
told of it. -/
inductive Stage.Goes (i : Nat) : Run → Stage → List Event → Run → Stage → Prop
  | opens (run : Run) (q : NativeQuery) :
    Goes i run (.pending q) [.opened i run.backend.relations.definitions]
      { run with executions := run.executions + 1 }
      (.streaming run.backend.relations.definitions (run.backend.respond q))
  | accepts {run after : Run} {definitions : List RelationDefinition} {r : Record}
    {rest : List Record} {ending : Ending} (accepted : run.accept definitions r = (true, after)) :
    Goes i run (.streaming definitions ⟨r :: rest, ending⟩) [.accepted i definitions r]
      { after with backend := run.backend } (.learning definitions r ⟨rest, ending⟩)
  | learns (run : Run) (definitions : List RelationDefinition) (r : Record) (coming : Arrivals) :
    Goes i run (.learning definitions r coming) [.learnt i r]
      { run with backend := run.backend.observe r } (.streaming definitions coming)
  | stops {run after : Run} {definitions : List RelationDefinition} {r : Record}
    {rest : List Record} {ending : Ending} (refused : run.accept definitions r = (false, after)) :
    Goes i run (.streaming definitions ⟨r :: rest, ending⟩) [] after (.ended .done)
  | finishes (run : Run) (definitions : List RelationDefinition) (ending : Ending) :
    Goes i run (.streaming definitions ⟨[], ending⟩) [] run
      (.ended (ending.taskEnd run.backend.source.timeout))
  | gives {run : Run} {stage : Stage} (active : stage.isEnded = false)
    (truncated : run.progress.truncated = true) : Goes i run stage [] run (.ended .done)

/-- A run with the stages of the tasks that share it. -/
structure Ensemble where
  run : Run
  stages : List Stage

namespace Ensemble

/-- What some tasks have done since a certain state, and what has come of it. -/
inductive Chronicled (s₀ : Ensemble) : List Event → Ensemble → Prop
  | start : Chronicled s₀ [] s₀
  | step {events more : List Event} {run after : Run} {before others : List Stage}
    {stage stage' : Stage} (told : Chronicled s₀ events ⟨run, before ++ stage :: others⟩)
    (goes : stage.Goes before.length run more after stage') :
    Chronicled s₀ (events ++ more) ⟨after, before ++ stage' :: others⟩

/-- A backend at the start of a search, with a task for each of its queries. -/
def start (b : Backend) (cap : Nat) (queries : List NativeQuery) : Ensemble :=
  ⟨Run.start b cap, queries.map .pending⟩

/-- All tasks have come to their ends. -/
def Ended (s : Ensemble) : Prop :=
  ∀ stage ∈ s.stages, ∃ ending, stage = .ended ending

instance (s : Ensemble) : Decidable s.Ended :=
  decidable_of_iff (∀ stage ∈ s.stages, stage.isEnded = true) <|
    forall₂_congr fun _ _ => Stage.isEnded_iff

variable {s₀ s s' : Ensemble} {events more : List Event}

/-- The chronicles of two stretches are put together. -/
theorem Chronicled.trans (first : Chronicled s₀ events s) (second : Chronicled s more s') :
    Chronicled s₀ (events ++ more) s' := by
  induction second with
  | start =>
    rw [List.append_nil]
    exact first
  | step _ goes ih =>
    rw [← List.append_assoc]
    exact ih.step goes

/-- One step of one task. -/
theorem chronicled_of_goes {run after : Run} {before others : List Stage} {stage stage' : Stage}
    (goes : stage.Goes before.length run events after stage') :
    Chronicled ⟨run, before ++ stage :: others⟩ events ⟨after, before ++ stage' :: others⟩ :=
  Chronicled.start.step goes

/-- Whoever does something is the task whose turn it is. -/
theorem task_of_goes {i : Nat} {run after : Run} {stage stage' : Stage}
    (goes : stage.Goes i run events after stage') : ∀ e ∈ events, e.task = i := by
  cases goes <;> simp [Event.task]

/-- Tasks neither come nor go, and each event is the doing of one of them. -/
theorem task_lt_of_chronicled (told : Chronicled s₀ events s) :
    s.stages.length = s₀.stages.length ∧ ∀ e ∈ events, e.task < s₀.stages.length := by
  induction told with
  | start => exact ⟨rfl, by simp⟩
  | step told goes ih =>
    obtain ⟨same, bounded⟩ := ih
    simp only [List.length_append, List.length_cons] at same ⊢
    refine ⟨same, fun e member => ?_⟩
    rcases List.mem_append.mp member with early | now
    · exact bounded e early
    · rw [task_of_goes goes e now]
      omega

end Ensemble

/-! ## Coarser schedules -/

/-- How far a task has come that accepts records and learns from them at once. -/
def Task.stage : Task → Stage
  | pending q => .pending q
  | streaming definitions coming => .streaming definitions coming
  | ended ending => .ended ending

/-- A task that goes on in a coarser schedule has a stage that goes on. -/
theorem Task.isEnded_stage {t : Task} (active : t.ending? = none) : t.stage.isEnded = false := by
  cases t with
  | ended ending => cases active
  | _ => rfl

/-- The tasks of a coarser schedule. -/
def Shared.ensemble (s : Shared) : Ensemble :=
  ⟨s.run, s.tasks.map Task.stage⟩

namespace Ensemble

/-- A step of a coarser schedule has its chronicle. -/
theorem exists_chronicled_of_step {s s' : Shared} (step : Shared.Step s s') :
    ∃ events, Chronicled s.ensemble events s'.ensemble := by
  obtain ⟨before, others, advance⟩ := step
  unfold Shared.ensemble
  simp only [List.map_append, List.map_cons]
  cases advance with
  | start q => exact ⟨_, chronicled_of_goes (.opens ..)⟩
  | deliver accepted =>
    obtain ⟨_, _, same⟩ := Run.accept_eq_true_iff.mp accepted
    subst same
    exact ⟨_, (chronicled_of_goes (.accepts accepted)).trans (chronicled_of_goes (.learns ..))⟩
  | stop refused => exact ⟨_, chronicled_of_goes (.stops refused)⟩
  | finish definitions ending => exact ⟨_, chronicled_of_goes (.finishes ..)⟩
  | cancel active truncated =>
    exact ⟨_, chronicled_of_goes (.gives (Task.isEnded_stage active) truncated)⟩

/-- Every schedule in which records are accepted and learnt from at once has its chronicle. -/
theorem exists_chronicled_of_steps {s s' : Shared} (steps : Shared.Steps s s') :
    ∃ events, Chronicled s.ensemble events s'.ensemble := by
  induction steps with
  | refl => exact ⟨[], .start⟩
  | tail _ step ih =>
    obtain ⟨events, told⟩ := ih
    obtain ⟨more, further⟩ := exists_chronicled_of_step step
    exact ⟨_, told.trans further⟩

end Ensemble

/-! ## What a chronicle determines -/

/-- A run has come from its start by these events: the backend has learnt from some records, and
all relations that were offered are collected. -/
structure Run.Reflects (b : Backend) (cap : Nat) (events : List Event) (run : Run) : Prop where
  backend : run.backend = b.observeAll (Event.lessons events)
  cap : run.cap = cap
  collector : run.progress.collector =
    Collector.empty.insertAll (Event.allOffers b.name events)

namespace Run.Reflects

variable {b : Backend} {cap : Nat} {events more : List Event} {run after : Run}

/-- A run that has not begun reflects the empty chronicle. -/
theorem start (b : Backend) (cap : Nat) : (Run.start b cap).Reflects b cap [] :=
  ⟨rfl, rfl, rfl⟩

/-- A backend keeps its name, whatever it learns. -/
theorem name (reflects : run.Reflects b cap events) : run.backend.name = b.name := by
  rw [reflects.backend, Backend.observeAll_eq]
  rfl

/-- A backend keeps its answers, whatever it learns. -/
theorem respond (reflects : run.Reflects b cap events) : run.backend.respond = b.respond := by
  rw [reflects.backend, Backend.observeAll_eq]

/-- Whatever a task does is told. -/
theorem goes {i : Nat} {stage stage' : Stage} (reflects : run.Reflects b cap events)
    (goes : stage.Goes i run more after stage') : after.Reflects b cap (events ++ more) := by
  cases goes with
  | opens q =>
    refine ⟨?_, reflects.cap, ?_⟩
    · rw [Event.lessons_append, Event.lessons_opened, List.append_nil]
      exact reflects.backend
    · rw [Event.allOffers_append, Event.allOffers_opened, List.append_nil]
      exact reflects.collector
  | @accepts _ definitions r _ _ accepted =>
    obtain ⟨_, _, rfl⟩ := Run.accept_eq_true_iff.mp accepted
    refine ⟨?_, reflects.cap, ?_⟩
    · rw [Event.lessons_append, Event.lessons_accepted, List.append_nil]
      exact reflects.backend
    · have collected : (run.collect definitions r).progress.collector =
          run.progress.collector.insertAll (projections run.backend.name definitions r) := rfl
      rw [collected, reflects.collector, reflects.name, ← Collector.insertAll_append,
        Event.allOffers_append, Event.allOffers_accepted]
  | learns definitions r coming =>
    refine ⟨?_, reflects.cap, ?_⟩
    · rw [Event.lessons_append, Event.lessons_learnt, Backend.observeAll_append]
      exact congrArg (Backend.observe · r) reflects.backend
    · rw [Event.allOffers_append, Event.allOffers_learnt, List.append_nil]
      exact reflects.collector
  | stops refused =>
    obtain ⟨_, rfl⟩ := Run.accept_eq_false_iff.mp refused
    rw [List.append_nil]
    exact ⟨reflects.backend, reflects.cap, reflects.collector⟩
  | finishes definitions ending =>
    rw [List.append_nil]
    exact reflects
  | gives active truncated =>
    rw [List.append_nil]
    exact reflects

end Run.Reflects

/-- Whatever the tasks of a backend have done, the run that they share reflects it. -/
theorem Ensemble.reflects_of_chronicled {b : Backend} {cap : Nat} {stages : List Stage}
    {events : List Event} {s : Ensemble}
    (told : Chronicled ⟨Run.start b cap, stages⟩ events s) : s.run.Reflects b cap events := by
  induction told with
  | start => exact .start b cap
  | step _ goes ih => exact ih.goes goes

/-! ## Turns -/

/-- What a task does when it is its turn, unless it has ended. -/
def Stage.turn? (i : Nat) (run : Run) : Stage → Option (List Event × Run × Stage)
  | pending q => some ([.opened i run.backend.relations.definitions],
      { run with executions := run.executions + 1 },
      .streaming run.backend.relations.definitions (run.backend.respond q))
  | streaming definitions ⟨r :: rest, ending⟩ =>
    match run.accept definitions r with
    | (true, after) => some ([.accepted i definitions r], { after with backend := run.backend },
        .learning definitions r ⟨rest, ending⟩)
    | (false, after) => some ([], after, .ended .done)
  | streaming _ ⟨[], ending⟩ =>
    some ([], run, .ended (ending.taskEnd run.backend.source.timeout))
  | learning definitions r coming => some ([.learnt i r],
      { run with backend := run.backend.observe r }, .streaming definitions coming)
  | ended _ => none

/-- What a task does when it is its turn is one of the things that it can do. -/
theorem Stage.goes_of_turn? {i : Nat} {run after : Run} {stage stage' : Stage}
    {events : List Event} (turn : stage.turn? i run = some (events, after, stage')) :
    stage.Goes i run events after stage' := by
  cases stage with
  | pending q =>
    cases turn
    exact .opens run q
  | streaming definitions coming =>
    obtain ⟨records, ending⟩ := coming
    cases records with
    | nil =>
      cases turn
      exact .finishes run definitions ending
    | cons r rest =>
      rw [turn?] at turn
      cases offered : run.accept definitions r with
      | mk accepted next =>
        rw [offered] at turn
        cases accepted with
        | true =>
          cases turn
          exact .accepts offered
        | false =>
          cases turn
          exact .stops offered
  | learning definitions r coming =>
    cases turn
    exact .learns run definitions r coming
  | ended ending => cases turn

namespace Ensemble

/-- What the tasks of some numbers do when they take their turns one after the other, and what
comes of it. A turn that no task can take is passed over. -/
def play : Ensemble → List Nat → List Event × Ensemble
  | s, [] => ([], s)
  | s, i :: rest =>
    match s.stages[i]?.bind (Stage.turn? i s.run) with
    | none => s.play rest
    | some (events, run, stage) =>
      let (more, s') := Ensemble.play ⟨run, s.stages.set i stage⟩ rest
      (events ++ more, s')

/-- A task that takes its turn takes one step. -/
theorem chronicled_of_turn {run after : Run} {stages : List Stage} {stage : Stage}
    {events : List Event} {i : Nat} (inside : i < stages.length)
    (turn : stages[i].turn? i run = some (events, after, stage)) :
    Chronicled ⟨run, stages⟩ events ⟨after, stages.set i stage⟩ := by
  have split : stages = stages.take i ++ stages[i] :: stages.drop (i + 1) := by
    rw [List.getElem_cons_drop, List.take_append_drop]
  have changed : stages.set i stage = stages.take i ++ stage :: stages.drop (i + 1) := by
    rw [List.set_eq_take_append_cons_drop, if_pos inside]
  have place : (stages.take i).length = i := List.length_take_of_le (Nat.le_of_lt inside)
  have goes : stages[i].Goes (stages.take i).length run events after stage := by
    rw [place]
    exact Stage.goes_of_turn? turn
  have told : Chronicled ⟨run, stages.take i ++ stages[i] :: stages.drop (i + 1)⟩ events
      ⟨after, stages.take i ++ stage :: stages.drop (i + 1)⟩ := chronicled_of_goes goes
  rw [← split, ← changed] at told
  exact told

/-- Taking turns is one of the orders in which tasks can go on. -/
theorem chronicled_play (s : Ensemble) (turns : List Nat) :
    Chronicled s (s.play turns).1 (s.play turns).2 := by
  induction turns generalizing s with
  | nil => exact .start
  | cons i rest ih =>
    rw [play]
    cases turn : s.stages[i]?.bind (Stage.turn? i s.run) with
    | none => exact ih s
    | some moved =>
      obtain ⟨events, run, stage⟩ := moved
      rw [Option.bind_eq_some_iff] at turn
      obtain ⟨_, here, turn⟩ := turn
      obtain ⟨inside, rfl⟩ := List.getElem?_eq_some_iff.mp here
      exact (chronicled_of_turn inside turn).trans (ih _)

end Ensemble

end FederatedSearch
