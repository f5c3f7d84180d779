import FederatedSearch.Federation.Backend
import FederatedSearch.Relation.Collector
import FederatedSearch.Statistics

/-!
# Runs

The part that one backend has in a search. Its native queries run as tasks that share what has
been collected so far. A task works with the definitions that are known when it starts. Once as
many relations are collected as the cap allows, the next record is refused, and with it all that
follow: the backend is truncated and shows statistics instead of relations.
-/

namespace FederatedSearch

/-- What the tasks of a backend have collected so far. -/
structure Progress where
  collector : Collector
  statistics : Statistics
  truncated : Bool
  deriving Inhabited

namespace Progress

/-- Nothing collected, with counts for some fields. -/
def start (statsFields : List String) : Progress :=
  ⟨.empty, .ofFields statsFields, false⟩

/-- Offers a record: whether it is accepted, and what is collected then. The record that finds
the cap reached is refused, and so are all after it. -/
def accept (source : String) (cap : Nat) (definitions : List RelationDefinition) (r : Record)
    (p : Progress) : Bool × Progress :=
  if p.truncated then (false, p)
  else if cap ≤ p.collector.size then (false, { p with truncated := true })
  else (true, { p with
    statistics := p.statistics.update r
    collector := p.collector.extract source definitions r })

end Progress

/-- A backend in the course of a search. -/
structure Run where
  backend : Backend
  cap : Nat
  progress : Progress
  /-- How many native queries have been run. -/
  executions : Nat

/-- What a task came to. -/
inductive TaskEnd
  /-- The answer was taken to its end, or as far as the cap allowed. -/
  | done
  | failed (error : ExecutionError)
  /-- The answer stalled, and the task waits. -/
  | waiting

namespace Run

/-- A backend at the start of a search. -/
def start (b : Backend) (cap : Nat) : Run :=
  ⟨b, cap, .start b.source.statsFields, 0⟩

/-- Offers a record; the backend learns from it if it is accepted. -/
def accept (definitions : List RelationDefinition) (r : Record) (run : Run) : Bool × Run :=
  match run.progress.accept run.backend.name run.cap definitions r with
  | (true, progress) => (true, { run with progress, backend := run.backend.observe r })
  | (false, progress) => (false, { run with progress })

/-- Offers records one after the other until one is refused, and says whether all were
accepted. -/
def deliver (definitions : List RelationDefinition) : List Record → Run → Bool × Run
  | [], run => (true, run)
  | r :: rest, run =>
    match run.accept definitions r with
    | (true, run) => deliver definitions rest run
    | (false, run) => (false, run)

/-- Runs a task as far as it goes. A task that is given no time at all may take what is there, but
it does not wait. -/
def perform (q : NativeQuery) (run : Run) : TaskEnd × Run :=
  if run.progress.truncated then (.done, run)
  else
    let arrivals := run.backend.respond q
    let run := { run with executions := run.executions + 1 }
    match run.deliver run.backend.relations.definitions arrivals.records with
    | (false, run) => (.done, run)
    | (true, run) =>
      match arrivals.ending with
      | .finished => (.done, run)
      | .failed e => (.failed e, run)
      | .stalled =>
        if run.backend.source.timeout = 0 then (.failed (.timeout 0), run) else (.waiting, run)

/-- Runs tasks one after the other. -/
def performAll : List NativeQuery → Run → List TaskEnd × Run
  | [], run => ([], run)
  | q :: rest, run =>
    let (ending, run) := run.perform q
    let (endings, run) := run.performAll rest
    (ending :: endings, run)

end Run

/-! ## Contributions -/

/-- What a backend adds to a search. -/
structure Contribution where
  /-- The backend after its tasks have run. -/
  run : Run
  queries : List NativeQuery
  /-- What could not be asked. -/
  rejected : List SourceFault
  endings : List TaskEnd

namespace Contribution

/-- The part of a backend in the search for a query. -/
def ofBackend (b : Backend) (cap : Nat) (q : Query) : Contribution :=
  let (queries, rejected) := b.nativeQueries q
  let (endings, run) := (Run.start b cap).performAll queries
  ⟨run, queries, rejected, endings⟩

/-- The name of the backend. -/
def name (c : Contribution) : String :=
  c.run.backend.name

/-- Whether the backend was truncated. -/
def truncated (c : Contribution) : Bool :=
  c.run.progress.truncated

/-- The relations that the backend adds, which are none when it was truncated. -/
def collector (c : Contribution) : Collector :=
  if c.truncated then .empty else c.run.progress.collector

/-- The message for a fault of the backend. -/
def message (c : Contribution) (fault : SourceFault) : String :=
  c.run.backend.message fault

/-- The messages for what could not be asked. -/
def rejections (c : Contribution) : List String :=
  c.rejected.map c.message

/-- The messages for tasks that failed on their way. -/
def failures (c : Contribution) : List String :=
  c.endings.filterMap fun ending =>
    match ending with
    | .failed e => some (c.message (.execution e))
    | _ => none

/-- How many tasks wait. A backend that was truncated has given up all of its tasks. -/
def waiting (c : Contribution) : Nat :=
  if c.truncated then 0
  else (c.endings.filter fun ending => match ending with
    | .waiting => true
    | _ => false).length

/-- The milliseconds after which waiting tasks give up. -/
def deadline (c : Contribution) : Nat :=
  c.run.backend.source.timeout * 1000

/-- The messages for waiting tasks that end in an error. -/
def waitingMessages (c : Contribution) (error : ExecutionError) : List String :=
  List.replicate c.waiting (c.message (.execution error))

end Contribution

/-- Whether waiting tasks reach their deadline before the search is cancelled. -/
def Contribution.expires (cancel : Option Nat) (c : Contribution) : Bool :=
  match cancel with
  | some time => c.deadline ≤ time
  | none => true

/-- The messages for tasks that wait, in the order in which they give up: those that reach their
deadline by time, and the others when the search is cancelled, the last backend first. -/
def lateMessages (cancel : Option Nat) (cs : List Contribution) : List String :=
  let (expiring, cancelled) := cs.partition (·.expires cancel)
  let byTime := expiring.mergeSort fun a b => a.deadline ≤ b.deadline
  byTime.flatMap (fun c => c.waitingMessages (.timeout c.run.backend.source.timeout)) ++
    cancelled.reverse.flatMap (·.waitingMessages .cancelled)

end FederatedSearch
