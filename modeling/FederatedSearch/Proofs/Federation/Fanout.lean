import FederatedSearch.Proofs.Federation.Interleaving
import FederatedSearch.Proofs.Federation.Merging
import Mathlib.Logic.Function.Basic

/-!
# Backends side by side

A search fans out to its backends. Their tasks take turns in any order, and all of them put their
faults into one log. Each turn names its backend and moves its part alone, so that of a whole run
a part sees only its own moves (`Fanout.part_of_run`): what becomes of it, and what it puts into
the log, is what these moves make of it.
-/

namespace FederatedSearch

/-! ## Moves of one backend -/

/-- What a backend does in a search. -/
inductive Move
  /-- The native queries are written, and a task is made for each. -/
  | prepare
  /-- A task goes on by one step. -/
  | advance (task : Nat)
  /-- A task is given up, since the backend is truncated. -/
  | abandon (task : Nat)
  deriving DecidableEq, Repr

namespace Task

/-- What a task does next, unless it has ended. -/
def advance? (run : Run) : Task → Option (Run × Task)
  | pending q => some ({ run with executions := run.executions + 1 },
      .streaming run.backend.relations.definitions (run.backend.respond q))
  | streaming definitions ⟨r :: rest, ending⟩ =>
    match run.accept definitions r with
    | (true, after) => some (after, .streaming definitions ⟨rest, ending⟩)
    | (false, after) => some (after, .ended .done)
  | streaming _ ⟨[], ending⟩ => some (run, .ended (ending.taskEnd run.backend.source.timeout))
  | ended _ => none

/-- Going on is one of the things that a task can do. -/
theorem advance_of_advance? {run after : Run} {t t' : Task}
    (goes : t.advance? run = some (after, t')) : Advance run t after t' := by
  cases t with
  | pending q =>
    cases goes
    exact .start run q
  | streaming definitions coming =>
    obtain ⟨records, ending⟩ := coming
    cases records with
    | nil =>
      cases goes
      exact .finish run definitions ending
    | cons r rest =>
      rw [advance?] at goes
      cases offered : run.accept definitions r with
      | mk accepted next =>
        rw [offered] at goes
        cases accepted with
        | true =>
          cases goes
          exact .deliver offered
        | false =>
          cases goes
          exact .stop offered
  | ended ending => cases goes

end Task

/-- The fault of a task that failed. -/
def TaskEnd.fault? : TaskEnd → Option SourceFault
  | failed e => some (.execution e)
  | _ => none

/-- What an end puts into the log. That a task is cancelled is no fault of a truncated backend. -/
def TaskEnd.faults (truncated : Bool) : TaskEnd → List SourceFault
  | failed .cancelled => if truncated then [] else [.execution .cancelled]
  | ending => ending.fault?.toList

/-- A backend in the course of a search. -/
structure Part where
  /-- The run, and the tasks that share it. -/
  shared : Shared
  /-- The native queries, and the faults of what has no native form, once they are known. -/
  asked : Option (List NativeQuery × List SourceFault)

namespace Part

/-- A backend that has not made a move. -/
def start (b : Backend) (cap : Nat) : Part :=
  ⟨⟨Run.start b cap, []⟩, none⟩

/-- A backend whose native queries are written. -/
def prepared (b : Backend) (cap : Nat) (q : Query) : Part :=
  ⟨Shared.start b cap (b.nativeQueries q).1, some (b.nativeQueries q)⟩

/-- The part after a task has changed, and the run with it. -/
def update (p : Part) (task : Nat) (run : Run) (t : Task) : Part :=
  { p with shared := ⟨run, p.shared.tasks.set task t⟩ }

/-- What a move makes of a part, and what it puts into the log, if it can be made. -/
def move (q : Query) (p : Part) : Move → Option (Part × List SourceFault)
  | .prepare =>
    if p.asked.isSome then none
    else
      let asked := p.shared.run.backend.nativeQueries q
      some (⟨⟨p.shared.run, asked.1.map .pending⟩, some asked⟩, asked.2)
  | .advance task => do
    let t ← p.shared.tasks[task]?
    let (run, t) ← t.advance? p.shared.run
    return (p.update task run t,
      (t.ending?.map (TaskEnd.faults run.progress.truncated)).getD [])
  | .abandon task => do
    let t ← p.shared.tasks[task]?
    if p.shared.run.progress.truncated ∧ t.ending?.isNone then
      some (p.update task p.shared.run (.ended .done), [])
    else none

/-- What moves make of a part one after the other, and what they put into the log. -/
def run (q : Query) (p : Part) : List Move → Option (Part × List SourceFault)
  | [] => some (p, [])
  | m :: rest => do
    let (p, faults) ← p.move q m
    let (p, more) ← p.run q rest
    return (p, faults ++ more)

/-- What the part adds to the search. -/
def contribution (p : Part) : Contribution :=
  ⟨p.shared.run, (p.asked.getD ([], [])).1, (p.asked.getD ([], [])).2,
    p.shared.tasks.filterMap Task.ending?⟩

variable {q : Query} {p p' p'' : Part} {m : Move} {ms others : List Move}
  {faults more : List SourceFault}

/-- A part runs by making its first move and then the others. -/
theorem run_cons_eq_some_iff {result : Part × List SourceFault} :
    p.run q (m :: ms) = some result ↔ ∃ p' faults p'' more, p.move q m = some (p', faults) ∧
      p'.run q ms = some (p'', more) ∧ (p'', faults ++ more) = result := by
  simp only [run, Option.bind_eq_bind, Option.bind_eq_some_iff, Option.pure_def,
    Option.some.injEq, Prod.exists, exists_and_left]

/-- Moves that are made after others. -/
theorem run_append (first : p.run q ms = some (p', faults))
    (second : p'.run q others = some (p'', more)) :
    p.run q (ms ++ others) = some (p'', faults ++ more) := by
  induction ms generalizing p faults with
  | nil =>
    cases first
    exact second
  | cons m rest ih =>
    obtain ⟨p₁, early, p₂, late, moved, ran, same⟩ := run_cons_eq_some_iff.mp first
    cases same
    rw [List.append_assoc]
    exact run_cons_eq_some_iff.mpr ⟨p₁, early, _, _, moved, ih ran, rfl⟩

/-- A task stands between others, and they stay when it changes. -/
theorem exists_split {tasks : List Task} {task : Nat} {t : Task} (here : tasks[task]? = some t) :
    ∃ before others, tasks = before ++ t :: others ∧
      ∀ t', tasks.set task t' = before ++ t' :: others := by
  obtain ⟨inside, rfl⟩ := List.getElem?_eq_some_iff.mp here
  refine ⟨tasks.take task, tasks.drop (task + 1), ?_, fun t' => ?_⟩
  · rw [List.getElem_cons_drop, List.take_append_drop]
  · rw [List.set_eq_take_append_cons_drop, if_pos inside]

/-- A move writes the native queries, or is a step that the tasks take by themselves. -/
theorem step_of_move (moved : p.move q m = some (p', faults)) :
    p'.shared.run = p.shared.run ∨ Shared.Step p.shared p'.shared := by
  have steps {task : Nat} {t t' : Task} {run : Run} (here : p.shared.tasks[task]? = some t)
      (advance : Advance p.shared.run t run t') :
      Shared.Step p.shared (p.update task run t').shared := by
    obtain ⟨before, others, split, changed⟩ := exists_split here
    have step := Shared.Step.task before others advance
    rw [← split, ← changed] at step
    exact step
  cases m with
  | prepare =>
    simp only [move, Option.ite_none_left_eq_some, Option.some.injEq, Prod.mk.injEq] at moved
    obtain ⟨_, rfl, _⟩ := moved
    exact .inl rfl
  | advance task =>
    simp only [move, Option.bind_eq_bind, Option.bind_eq_some_iff, Option.pure_def,
      Option.some.injEq, Prod.exists, Prod.mk.injEq] at moved
    obtain ⟨t, here, run, t', goes, rfl, _⟩ := moved
    exact .inr (steps here (Task.advance_of_advance? goes))
  | abandon task =>
    simp only [move, Option.bind_eq_bind, Option.bind_eq_some_iff, Option.ite_none_right_eq_some,
      Option.some.injEq, Prod.mk.injEq] at moved
    obtain ⟨t, here, ⟨truncated, active⟩, rfl, _⟩ := moved
    exact .inr (steps here (.cancel (Option.isNone_iff_eq_none.mp active) truncated))

end Part

/-- A run keeps the name of its backend, and its collector holds each pair once. -/
structure Run.Sound (name : String) (run : Run) : Prop where
  named : run.backend.name = name
  consistent : run.progress.collector.Consistent

namespace Run.Sound

variable {name : String} {run after : Run}

/-- A run that has not begun is sound. -/
theorem start (b : Backend) (cap : Nat) : (Run.start b cap).Sound b.name :=
  ⟨rfl, Collector.consistent_empty⟩

/-- A backend keeps its name when it learns. -/
theorem name_observe (b : Backend) (r : Record) : (b.observe r).name = b.name := by
  unfold Backend.observe
  cases b.source.inference.bind (·.infer r) with
  | none => rfl
  | some d => rfl

/-- Collecting a record keeps a run sound. -/
theorem collect (sound : run.Sound name) (definitions : List RelationDefinition) (r : Record) :
    (run.collect definitions r).Sound name where
  named := (name_observe run.backend r).trans sound.named
  consistent := sound.consistent.insertAll _

/-- Whatever a task does keeps the run sound. -/
theorem advance {t t' : Task} (sound : run.Sound name) (advance : Advance run t after t') :
    after.Sound name := by
  cases advance with
  | start q => exact ⟨sound.named, sound.consistent⟩
  | deliver accepted =>
    obtain ⟨_, _, rfl⟩ := Run.accept_eq_true_iff.mp accepted
    exact sound.collect _ _
  | stop refused =>
    obtain ⟨_, rfl⟩ := Run.accept_eq_false_iff.mp refused
    exact ⟨sound.named, sound.consistent⟩
  | finish definitions ending => exact sound
  | cancel active truncated => exact sound

end Run.Sound

namespace Part

variable {q : Query} {p p' : Part} {name : String} {m : Move} {ms : List Move}
  {faults : List SourceFault}

/-- What no task changes of the run, no move changes. -/
theorem holds_of_move {P : Run → Prop}
    (kept : ∀ {run after : Run} {t t' : Task}, Advance run t after t' → P run → P after)
    (holds : P p.shared.run) (moved : p.move q m = some (p', faults)) : P p'.shared.run := by
  rcases step_of_move moved with same | step
  · rwa [same]
  · cases p with
    | mk before asked =>
      cases p' with
      | mk after asked' =>
        dsimp only at step holds ⊢
        obtain ⟨_, _, advance⟩ := step
        exact kept advance holds

/-- Nor do moves one after the other. -/
theorem holds_of_run {P : Run → Prop}
    (kept : ∀ {run after : Run} {t t' : Task}, Advance run t after t' → P run → P after)
    (holds : P p.shared.run) (ran : p.run q ms = some (p', faults)) : P p'.shared.run := by
  induction ms generalizing p faults with
  | nil =>
    cases ran
    exact holds
  | cons m rest ih =>
    obtain ⟨_, _, _, _, moved, others, same⟩ := run_cons_eq_some_iff.mp ran
    cases same
    exact ih (holds_of_move kept holds moved) others

/-- Whatever moves a part has made, its run is sound. -/
theorem sound_of_run (sound : p.shared.run.Sound name)
    (ran : p.run q ms = some (p', faults)) : p'.shared.run.Sound name :=
  holds_of_run (fun advance sound => Run.Sound.advance sound advance) sound ran

end Part

/-! ## Turns of all backends -/

/-- A fault in the log, with the name of the backend that put it there. -/
structure Notice where
  backend : String
  fault : SourceFault

/-- The message for a fault in the log. -/
def Notice.message (n : Notice) : String :=
  n.backend ++ " - " ++ n.fault.text

/-- The move of a backend. -/
structure Turn where
  backend : String
  move : Move
  deriving DecidableEq, Repr

/-- The parts of a search by the names of their backends, and the log that they share. -/
structure Fanout where
  parts : String → Option Part
  log : List Notice

namespace Fanout

/-- A search in which no backend has made a move. -/
def start (backends : List Backend) (cap : Nat) : Fanout where
  parts name := (backends.find? (·.name = name)).map (Part.start · cap)
  log := []

/-- What a turn makes of a search, if it can be taken. -/
def turn (q : Query) (s : Fanout) (t : Turn) : Option Fanout := do
  let p ← s.parts t.backend
  let (p, faults) ← p.move q t.move
  return ⟨Function.update s.parts t.backend (some p), s.log ++ faults.map (Notice.mk t.backend)⟩

/-- What turns make of a search one after the other. -/
def run (q : Query) (s : Fanout) : List Turn → Option Fanout
  | [] => some s
  | t :: rest => do (← s.turn q t).run q rest

/-- What some backends add to the search. -/
def contributions (backends : List Backend) (s : Fanout) : List Contribution :=
  backends.filterMap fun b => (s.parts b.name).map Part.contribution

variable {q : Query} {s s' : Fanout} {t : Turn} {turns : List Turn} {name : String} {p : Part}

/-- A turn is a move of one part, whose faults are appended to the log. -/
theorem turn_eq_some_iff : s.turn q t = some s' ↔ ∃ p p' faults, s.parts t.backend = some p ∧
    p.move q t.move = some (p', faults) ∧ ⟨Function.update s.parts t.backend (some p'),
      s.log ++ faults.map (Notice.mk t.backend)⟩ = s' := by
  simp only [turn, Option.bind_eq_bind, Option.bind_eq_some_iff, Option.pure_def,
    Option.some.injEq, Prod.exists]
  constructor
  · rintro ⟨p, present, p', faults, moved, same⟩
    exact ⟨p, p', faults, present, moved, same⟩
  · rintro ⟨p, p', faults, present, moved, same⟩
    exact ⟨p, present, p', faults, moved, same⟩

end Fanout

end FederatedSearch
