import FederatedSearch.Proofs.Relation.Growth
import Mathlib.Logic.Function.Basic

/-!
# Definitions that many publish

Those who watch the records of a source share one set of definitions. Each looks whether the
definition for a record is known, and adds it in a step of its own if it is not; others may have
added it in the meantime. In between, anyone adds definitions or takes a snapshot of what is
published. Adding looks again, so that the set only grows, and never by fields that are joined
already (`Noticeboard.Grown`).
-/

namespace FederatedSearch

namespace RelationSet

variable {s t u : RelationSet} {d : RelationDefinition} {added more : List RelationDefinition}

/-- A set with definitions put behind its own, each of which joins two fields that none before it
joins. -/
structure ExtendedBy (s : RelationSet) (added : List RelationDefinition) (t : RelationSet) :
    Prop where
  definitions_eq : t.definitions = s.definitions ++ added
  unknown : ∀ d ∈ added, ∀ e ∈ s.definitions, e.sameEndpoints d = false
  distinct : added.Pairwise fun e d => e.sameEndpoints d = false

/-- A set is extended by nothing to itself. -/
theorem ExtendedBy.refl (s : RelationSet) : s.ExtendedBy [] s where
  definitions_eq := (List.append_nil _).symm
  unknown := List.forall_mem_nil _
  distinct := .nil

/-- Extensions are put together. -/
theorem ExtendedBy.trans (first : s.ExtendedBy added t) (second : t.ExtendedBy more u) :
    s.ExtendedBy (added ++ more) u where
  definitions_eq := by
    rw [second.definitions_eq, first.definitions_eq, List.append_assoc]
  unknown d member e known := by
    rcases List.mem_append.mp member with early | late
    · exact first.unknown d early e known
    · refine second.unknown d late e ?_
      rw [first.definitions_eq]
      exact List.mem_append_left _ known
  distinct := by
    refine List.pairwise_append.mpr ⟨first.distinct, second.distinct, fun e early d late => ?_⟩
    refine second.unknown d late e ?_
    rw [first.definitions_eq]
    exact List.mem_append_right _ early

/-- Extending keeps the definitions before in their places. -/
theorem ExtendedBy.isPrefix (extended : s.ExtendedBy added t) :
    s.definitions <+: t.definitions :=
  ⟨added, extended.definitions_eq.symm⟩

/-- A definition is added unless its fields are joined already. -/
theorem exists_extendedBy_add (s : RelationSet) (d : RelationDefinition) :
    ∃ added, s.ExtendedBy added (s.add d) := by
  unfold add
  split
  · exact ⟨[], .refl s⟩
  · rename_i unknown
    refine ⟨[d], rfl, List.forall_mem_singleton.mpr fun e known => ?_, List.pairwise_singleton _ d⟩
    rw [contains, List.any_eq_true] at unknown
    exact Bool.eq_false_iff.mpr fun same => unknown ⟨e, known, same⟩

/-- Definitions that are added at once are looked for one by one, so that repetitions among them
do not get in. -/
theorem exists_extendedBy_append (s : RelationSet) (ds : List RelationDefinition) :
    ∃ added, s.ExtendedBy added (s.append ds) := by
  induction ds generalizing s with
  | nil => exact ⟨[], .refl s⟩
  | cons d rest ih =>
    obtain ⟨first, extended⟩ := s.exists_extendedBy_add d
    obtain ⟨others, further⟩ := ih (s.add d)
    rw [append_cons]
    exact ⟨_, extended.trans further⟩

/-- What is counted is what was added. -/
theorem ExtendedBy.appendCounting_eq {ds : List RelationDefinition}
    (extended : s.ExtendedBy added (s.append ds)) :
    s.appendCounting ds = (added.length, s.append ds) := by
  rw [appendCounting, extended.definitions_eq, List.length_append, Nat.add_sub_cancel_left]

end RelationSet

/-- What is done to a set of definitions that many share, and what comes of it. -/
inductive Deed
  /-- Someone takes the definitions that are published. -/
  | snapshot (definitions : List RelationDefinition)
  /-- Definitions are added, of which so many were new. -/
  | append (definitions : List RelationDefinition) (count : Nat)
  /-- An observer has found the definition for a record unknown, and has yet to add it. -/
  | found (r : Record)
  /-- An observer has found nothing to add for a record, and is done with it. -/
  | passed (r : Record)

namespace Deed

/-- The snapshots that are taken in the course of some deeds. -/
def snapshots (deeds : List Deed) : List (List RelationDefinition) :=
  deeds.filterMap fun
    | snapshot definitions => some definitions
    | _ => none

/-- How many definitions are said to be new in the course of some deeds. -/
def counted (deeds : List Deed) : Nat :=
  deeds.foldl (fun n deed => n + match deed with | append _ count => count | _ => 0) 0

/-- The definitions that are offered for publication in the course of some deeds, or that are
derived from records which an observer is done with. -/
def offered (b : Backend) (deeds : List Deed) : List RelationDefinition :=
  deeds.flatMap fun
    | append definitions _ => definitions
    | passed r => (b.lesson? r).toList
    | _ => []

end Deed

/-- A set of definitions that many share, and what each of them has found unknown and has yet to
add. -/
structure Noticeboard (ι : Type) where
  published : RelationSet
  pending : ι → Option RelationDefinition

namespace Noticeboard

variable {ι : Type}

/-- The definitions of a backend before anyone has looked at them. -/
def start (b : Backend) : Noticeboard ι :=
  ⟨b.relations, fun _ => none⟩

/-- What holds of a shared set after some deeds. -/
structure Grown (b : Backend) (s₀ : Noticeboard ι) (deeds : List Deed) (s : Noticeboard ι) :
    Prop where
  /-- Every snapshot begins with each one before it. -/
  ordered : (Deed.snapshots deeds).Pairwise (· <+: ·)
  /-- What is published begins with every snapshot. -/
  recent : ∀ definitions ∈ Deed.snapshots deeds, definitions <+: s.published.definitions
  /-- The set has grown at its end, by as many definitions as were counted. -/
  extended : ∃ added, s₀.published.ExtendedBy added s.published ∧ Deed.counted deeds = added.length
  /-- What was ever offered is known. -/
  known : ∀ d ∈ Deed.offered b deeds, s.published.contains d = true

/-- Without deeds nothing has grown. -/
theorem Grown.refl (b : Backend) (s : Noticeboard ι) : Grown b s [] s where
  ordered := .nil
  recent := List.forall_mem_nil _
  extended := ⟨[], .refl _, rfl⟩
  known := List.forall_mem_nil _

variable [DecidableEq ι]

/-- What anyone may do next. Looking for the definition of a record and adding it are two steps. -/
inductive Step (b : Backend) : Noticeboard ι → Deed → Noticeboard ι → Prop
  | snapshot (s : Noticeboard ι) : Step b s (.snapshot s.published.definitions) s
  | append (s : Noticeboard ι) (ds : List RelationDefinition) :
    Step b s (.append ds (s.published.appendCounting ds).1)
      { s with published := (s.published.appendCounting ds).2 }
  | pass {s : Noticeboard ι} {i : ι} {r : Record} (idle : s.pending i = none)
    (nothing : ∀ d, b.lesson? r = some d → s.published.contains d = true) : Step b s (.passed r) s
  | find {s : Noticeboard ι} {i : ι} {r : Record} {d : RelationDefinition}
    (idle : s.pending i = none) (taught : b.lesson? r = some d)
    (unknown : s.published.contains d = false) :
    Step b s (.found r) { s with pending := Function.update s.pending i (some d) }
  | publish {s : Noticeboard ι} {i : ι} {d : RelationDefinition} (found : s.pending i = some d) :
    Step b s (.append [d] (s.published.appendCounting [d]).1)
      ⟨(s.published.appendCounting [d]).2, Function.update s.pending i none⟩

/-- What has been done since a certain state, by anyone in any order, and what has come of it. -/
inductive Steps (b : Backend) (s₀ : Noticeboard ι) : List Deed → Noticeboard ι → Prop
  | refl : Steps b s₀ [] s₀
  | step {deeds : List Deed} {deed : Deed} {s s' : Noticeboard ι} (prior : Steps b s₀ deeds s)
    (next : Step b s deed s') : Steps b s₀ (deeds ++ [deed]) s'

variable {b : Backend} {deeds : List Deed} {deed : Deed} {s s₀ s' : Noticeboard ι}

/-- Whatever is done, the set grows by as many definitions as are counted. What was offered is
known from then on, and a snapshot is what was published. -/
theorem exists_extendedBy_of_step (step : Step b s deed s') :
    ∃ added, s.published.ExtendedBy added s'.published ∧ Deed.counted [deed] = added.length ∧
      (∀ d ∈ Deed.offered b [deed], s'.published.contains d = true) ∧
      ∀ definitions ∈ Deed.snapshots [deed], definitions = s.published.definitions := by
  have appends (ds : List RelationDefinition) :
      ∃ added, s.published.ExtendedBy added (s.published.appendCounting ds).2 ∧
        Deed.counted [.append ds (s.published.appendCounting ds).1] = added.length ∧
        ∀ d ∈ ds, (s.published.appendCounting ds).2.contains d = true := by
    obtain ⟨added, extended⟩ := s.published.exists_extendedBy_append ds
    rw [extended.appendCounting_eq]
    exact ⟨added, extended, Nat.zero_add _, fun _ => RelationSet.contains_append⟩
  cases step with
  | snapshot => exact ⟨[], .refl _, rfl, by simp [Deed.offered], by simp [Deed.snapshots]⟩
  | append ds =>
    obtain ⟨added, extended, counted, known⟩ := appends ds
    exact ⟨added, extended, counted, by simpa [Deed.offered] using known, by simp [Deed.snapshots]⟩
  | pass idle nothing =>
    refine ⟨[], .refl _, rfl, fun d member => nothing d ?_, by simp [Deed.snapshots]⟩
    simpa [Deed.offered] using member
  | find => exact ⟨[], .refl _, rfl, by simp [Deed.offered], by simp [Deed.snapshots]⟩
  | publish found =>
    obtain ⟨added, extended, counted, known⟩ := appends _
    exact ⟨added, extended, counted, by simpa [Deed.offered] using known, by simp [Deed.snapshots]⟩

/-- A step extends the published definitions by what its deed adds. -/
theorem Grown.step (grown : Grown b s₀ deeds s) (step : Step b s deed s') :
    Grown b s₀ (deeds ++ [deed]) s' := by
  obtain ⟨added, further, counted, offered, taken⟩ := exists_extendedBy_of_step step
  have snapshots : Deed.snapshots (deeds ++ [deed]) =
      Deed.snapshots deeds ++ Deed.snapshots [deed] := List.filterMap_append ..
  constructor
  case ordered =>
    rw [snapshots]
    refine List.pairwise_append.mpr ⟨grown.ordered, ?_, fun before early now late => ?_⟩
    · refine List.pairwise_of_forall_mem_list fun x first y second => ?_
      cases (taken x first).trans (taken y second).symm
      exact List.prefix_refl _
    · rw [taken now late]
      exact grown.recent before early
  case recent =>
    rw [snapshots]
    refine List.forall_mem_append.mpr ⟨fun before early => ?_, fun now late => ?_⟩
    · exact (grown.recent before early).trans further.isPrefix
    · rw [taken now late]
      exact further.isPrefix
  case extended =>
    obtain ⟨before, extended, total⟩ := grown.extended
    refine ⟨before ++ added, extended.trans further, ?_⟩
    rw [List.length_append, ← total, ← counted]
    simp [Deed.counted]
  case known =>
    have all : Deed.offered b (deeds ++ [deed]) =
        Deed.offered b deeds ++ Deed.offered b [deed] := List.flatMap_append ..
    rw [all]
    refine List.forall_mem_append.mpr ⟨fun d early => ?_, offered⟩
    exact RelationSet.contains_mono further.isPrefix.subset (grown.known d early)

/-- It holds after any deeds, whoever has done them and in whatever order. -/
theorem grown_of_steps (steps : Steps b s₀ deeds s) : Grown b s₀ deeds s := by
  induction steps with
  | refl => exact .refl b s₀
  | step _ next ih => exact ih.step next

/-- An observer whom nobody interrupts does what `Backend.observe` does. -/
theorem exists_steps_observe {i : ι} (idle : s.pending i = none) (r : Record) :
    ∃ deeds, Steps b s deeds
      { s with published := ({ b with relations := s.published }.observe r).relations } := by
  have observed : ({ b with relations := s.published }.observe r).relations =
      s.published.append (b.lesson? r).toList := by
    rw [Backend.observe_eq]
    rfl
  rw [observed]
  cases taught : b.lesson? r with
  | none =>
    refine ⟨[.passed r], Steps.refl.step (.pass idle fun d learnt => ?_)⟩
    cases taught.symm.trans learnt
  | some d =>
    cases known : s.published.contains d with
    | true =>
      have nothing : s.published.append [d] = s.published :=
        RelationSet.append_of_contains (List.forall_mem_singleton.mpr known)
      rw [Option.toList_some, nothing]
      refine ⟨[.passed r], Steps.refl.step (.pass idle fun e learnt => ?_)⟩
      cases taught.symm.trans learnt
      exact known
    | false =>
      have found : Step b s (.found r) { s with pending := Function.update s.pending i (some d) } :=
        .find idle taught known
      have added := Steps.refl.step found |>.step (.publish (Function.update_self ..))
      rw [Function.update_idem, ← idle, Function.update_eq_self] at added
      exact ⟨_, added⟩

/-- However those interleave who watch the records of a backend, add definitions and take
snapshots: every snapshot is the beginning of each later one; the definitions that were added stand
behind the first ones, and each joins two fields that none before it joins; there are as many of
them as were counted; and the fields of each definition that was offered, or derived from a record
that someone is done with, are joined. -/
theorem published_of_interleaving (steps : Steps b (start b) deeds s) :
    (Deed.snapshots deeds).Pairwise (· <+: ·) ∧
      (∃ added, s.published.definitions = b.relations.definitions ++ added ∧
        (∀ d ∈ added, ∀ e ∈ b.relations.definitions, e.sameEndpoints d = false) ∧
        (added.Pairwise fun e d => e.sameEndpoints d = false) ∧
        Deed.counted deeds = added.length) ∧
      ∀ d ∈ Deed.offered b deeds, ∃ e ∈ s.published.definitions, e.sameEndpoints d = true := by
  have grown := grown_of_steps steps
  obtain ⟨added, extended, counted⟩ := grown.extended
  refine ⟨grown.ordered, ⟨added, extended.definitions_eq, extended.unknown, extended.distinct,
    counted⟩, fun d member => ?_⟩
  have known := grown.known d member
  rwa [RelationSet.contains, List.any_eq_true] at known

/-- The definition that joins two fields and says nothing else. -/
def joining (source target : String) : RelationDefinition :=
  ⟨⟨source, source, source, [], []⟩, ⟨target, "", "", [], []⟩, none⟩

/-- A source that says of each record what type it has, with a definition that is there twice. -/
def repeating : Backend :=
  .ofStore ⟨"d", true, false, false, 1, [], [], [joining "ip" "event", joining "ip" "event"],
    some ⟨"type", [], [], ⟨"event", "", "", [], []⟩, none⟩⟩ .document (.documents [])

/-- Two observers find the definition for a type unknown before either of them adds it, and
someone adds a definition twice at once. -/
theorem published_of_interleaving_race :
    let r : Record := ⟨[("type", .string "host")]⟩
    let first := [joining "ip" "event", joining "ip" "event"]
    let deeds := [.found r, .found r, .snapshot first, .append [joining "host" "event"] 1,
      .snapshot (first ++ [joining "host" "event"]), .append [joining "host" "event"] 0,
      .append [joining "url" "ip", joining "ip" "event", joining "url" "ip"] 1, .passed r]
    ∃ s : Noticeboard Bool, Steps repeating (start repeating) deeds s ∧
      (Deed.snapshots deeds).Pairwise (· <+: ·) ∧
      (∃ added, s.published.definitions = repeating.relations.definitions ++ added ∧
        (∀ d ∈ added, ∀ e ∈ repeating.relations.definitions, e.sameEndpoints d = false) ∧
        (added.Pairwise fun e d => e.sameEndpoints d = false) ∧
        Deed.counted deeds = added.length) ∧
      ∀ d ∈ Deed.offered repeating deeds, ∃ e ∈ s.published.definitions,
        e.sameEndpoints d = true := by
  intro r first deeds
  have taught : repeating.lesson? r = some (joining "host" "event") := rfl
  have none_yet : Steps repeating (start repeating : Noticeboard Bool) [] (start repeating) := .refl
  have steps := none_yet
    |>.step (.find (i := false) rfl taught (by decide))
    |>.step (.find (i := true) rfl taught (by decide))
    |>.step (.snapshot _)
    |>.step (.publish (i := false) rfl)
    |>.step (.snapshot _)
    |>.step (.publish (i := true) rfl)
    |>.step (.append _ [joining "url" "ip", joining "ip" "event", joining "url" "ip"])
    |>.step (.pass (i := true) (r := r) rfl fun d learnt => by cases learnt; decide)
  exact ⟨_, steps, published_of_interleaving steps⟩

end Noticeboard

end FederatedSearch
