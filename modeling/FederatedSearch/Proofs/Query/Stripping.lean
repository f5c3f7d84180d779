import FederatedSearch.Proofs.Query.Specialization
import FederatedSearch.Proofs.Query.Splitting

/-!
# Which time ranges are left

A source without a time field gets a query without its time range. Stripping goes down through
AND and parentheses, along the spine of the predicate, and takes the ranges off it
(`Predicate.spine_of_stripDatetime`); an OR on the spine stays as it is. So an AND that joins a
range to something is left exactly when it stands below such an OR. Only a source that evaluates
AND and OR itself gets to see it: splitting refuses AND below OR.
-/

namespace FederatedSearch

namespace Predicate

/-- Somewhere in a predicate, a range of the time field is an operand of AND. -/
def JoinsRange : Predicate → Prop
  | and left right =>
    left.isDatetimeRange = true ∨ right.isDatetimeRange = true ∨ left.JoinsRange ∨ right.JoinsRange
  | or left right => left.JoinsRange ∨ right.JoinsRange
  | paren inner => inner.JoinsRange
  | compare _ _ _ => False
  | between _ _ _ => False

/-- What a predicate is a conjunction of: the parts that AND and parentheses lead to. -/
def spine : Predicate → List Predicate
  | and left right => left.spine ++ right.spine
  | paren inner => inner.spine
  | or left right => [or left right]
  | compare field op value => [compare field op value]
  | between field low high => [between field low high]

/-- Below an OR, a range of the time field is an operand of AND. -/
def JoinsRangeBelowOr (p : Predicate) : Prop :=
  ∃ left right, or left right ∈ p.spine ∧ (or left right).JoinsRange

section Spine

variable {p q left right : Predicate}

@[simp] theorem joinsRange_and : (and left right).JoinsRange ↔ left.isDatetimeRange = true ∨
    right.isDatetimeRange = true ∨ left.JoinsRange ∨ right.JoinsRange := Iff.rfl

@[simp] theorem joinsRange_or :
    (or left right).JoinsRange ↔ left.JoinsRange ∨ right.JoinsRange := Iff.rfl

@[simp] theorem joinsRange_paren : (paren p).JoinsRange ↔ p.JoinsRange := Iff.rfl

@[simp] theorem spine_and : (and left right).spine = left.spine ++ right.spine := rfl

@[simp] theorem spine_paren : (paren p).spine = p.spine := rfl

@[simp] theorem spine_or : (or left right).spine = [or left right] := rfl

/-- A range is all of its spine. -/
theorem spine_of_isDatetimeRange (range : p.isDatetimeRange = true) : p.spine = [p] := by
  cases p <;> first | rfl | cases range

/-- A part of the spine that joins a range is an OR. -/
theorem eq_or_of_mem_spine (member : q ∈ p.spine) (joins : q.JoinsRange) :
    ∃ left right, q = or left right := by
  induction p with
  | compare field op value =>
    cases List.mem_singleton.mp member
    exact joins.elim
  | between field low high =>
    cases List.mem_singleton.mp member
    exact joins.elim
  | and left right ihLeft ihRight => exact (List.mem_append.mp member).elim ihLeft ihRight
  | or left right _ _ => exact ⟨left, right, List.mem_singleton.mp member⟩
  | paren inner ih => exact ih member

/-- Without ranges on its spine, a predicate joins a range only where a part of the spine does. -/
theorem joinsRange_iff_of_spine (free : ∀ s ∈ p.spine, s.isDatetimeRange = false) :
    p.JoinsRange ↔ ∃ s ∈ p.spine, s.JoinsRange := by
  induction p with
  | compare field op value => simp [spine]
  | between field low high => simp [spine]
  | and left right ihLeft ihRight =>
    rw [spine_and, List.forall_mem_append] at free
    have noRange : ∀ {side : Predicate}, (∀ s ∈ side.spine, s.isDatetimeRange = false) →
        side.isDatetimeRange = false := by
      intro side clean
      by_contra range
      rw [Bool.not_eq_false] at range
      rw [spine_of_isDatetimeRange range, List.forall_mem_singleton, range] at clean
      cases clean
    simp only [joinsRange_and, noRange free.1, noRange free.2, Bool.false_eq_true, false_or,
      ihLeft free.1, ihRight free.2, spine_and, List.mem_append, or_and_right, exists_or]
  | or left right _ _ => simp
  | paren inner ih => exact ih free

/-- Stripping takes the ranges off the spine. Nothing is left when there is nothing else. -/
theorem spine_of_stripDatetime (p : Predicate) :
    (p.stripDatetime.elim [] spine) = p.spine.filter fun s => !s.isDatetimeRange := by
  induction p with
  | compare field op value => rfl
  | between field low high =>
    by_cases time : field = datetimeField
    · simp [stripDatetime, spine, isDatetimeRange, time]
    · simp [stripDatetime, spine, isDatetimeRange, time]
  | and left right ihLeft ihRight =>
    rw [spine_and, List.filter_append, ← ihLeft, ← ihRight, stripDatetime]
    cases left.stripDatetime <;> cases right.stripDatetime <;> simp
  | or left right _ _ => rfl
  | paren inner ih =>
    rw [spine_paren, ← ih, stripDatetime]
    cases inner.stripDatetime <;> rfl

/-- What is left after stripping joins a range exactly when an OR on the spine does. -/
theorem joinsRange_stripDatetime_iff (stripped : p.stripDatetime = some q) :
    q.JoinsRange ↔ p.JoinsRangeBelowOr := by
  have spine : q.spine = p.spine.filter fun s => !s.isDatetimeRange := by
    rw [← spine_of_stripDatetime, stripped, Option.elim_some]
  rw [joinsRange_iff_of_spine, spine]
  · constructor
    · rintro ⟨s, member, joins⟩
      have onSpine := List.mem_of_mem_filter member
      obtain ⟨left, right, rfl⟩ := eq_or_of_mem_spine onSpine joins
      exact ⟨left, right, onSpine, joins⟩
    · rintro ⟨left, right, onSpine, joins⟩
      exact ⟨or left right, List.mem_filter.mpr ⟨onSpine, rfl⟩, joins⟩
  · intro s member
    rw [spine, List.mem_filter] at member
    simpa using member.2

/-- The leaves of a predicate join nothing. -/
theorem not_joinsRange_of_mem_leaves (member : q ∈ p.leaves) : ¬ q.JoinsRange := by
  induction p with
  | compare field op value =>
    cases List.mem_singleton.mp member
    exact id
  | between field low high =>
    cases List.mem_singleton.mp member
    exact id
  | and left right ihLeft ihRight => exact (List.mem_append.mp member).elim ihLeft ihRight
  | or left right ihLeft ihRight => exact (List.mem_append.mp member).elim ihLeft ihRight
  | paren inner ih => exact ih member

/-- What is left after stripping is split into parts that join no range: there is none beside the
disjunction, and a disjunction holds no AND. -/
theorem SplitsInto.not_joinsRange {parts : List Predicate} {part : Predicate}
    (splits : p.SplitsInto parts) (free : ∀ s ∈ p.spine, s.isDatetimeRange = false)
    (member : part ∈ parts) : ¬ part.JoinsRange := by
  have absent : ∀ {side : Predicate}, side.isDatetimeRange = true → side.spine ⊆ p.spine →
      False := by
    intro side range onSpine
    rw [spine_of_isDatetimeRange range] at onSpine
    have clean := free side (onSpine (List.mem_singleton_self side))
    rw [range] at clean
    cases clean
  induction splits with
  | paren _ ih => exact ih free member absent
  | disjunction _ =>
    have leaf : part ∈ part.leaves := by
      rw [leaves_of_mem_unpackedLeaves member]
      exact List.mem_singleton_self part
    exact not_joinsRange_of_mem_leaves leaf
  | rangeRight range _ => exact (absent range (List.subset_append_right ..)).elim
  | rangeLeft range _ => exact (absent range (List.subset_append_left ..)).elim

end Spine

end Predicate

namespace Query

/-- What a source without a time field sees of a query is what stripping leaves. -/
theorem visiblePredicate_eq_ok_iff {q : Query} {p : Predicate} :
    q.visiblePredicate false = .ok p ↔ q.predicate.stripDatetime = some p := by
  unfold visiblePredicate
  cases q.predicate.stripDatetime <;> simp

/-- A source without a time field is given predicates in which a range of the time field is an
operand of AND exactly when the query has such an AND below an OR and the source evaluates AND
and OR itself. -/
theorem joinsRange_iff_of_specialize {q : Query} {table : Renaming} {native : Bool}
    {parts : List Query} (taken : q.specialize ⟨false, table, native⟩ = .ok parts) :
    ∃ (p : Predicate) (ps : List Predicate), q.visiblePredicate false = .ok p ∧
      ps.map (q.adapted table) = parts ∧ (p.JoinsRange ↔ q.predicate.JoinsRangeBelowOr) ∧
      ∀ part ∈ ps, part.JoinsRange ↔ native = true ∧ q.predicate.JoinsRangeBelowOr := by
  cases native with
  | true =>
    have single : ∃ p, q.visiblePredicate false = .ok p ∧ [q.adapted table p] = parts := by
      simpa [specialize, adapted, map_eq_ok_iff] using taken
    obtain ⟨p, visible, rfl⟩ := single
    have kept := Predicate.joinsRange_stripDatetime_iff (visiblePredicate_eq_ok_iff.mp visible)
    refine ⟨p, [p], visible, rfl, kept, ?_⟩
    simpa using kept
  | false =>
    obtain ⟨p, visible, ps, split, rfl⟩ := specialize_split_eq_ok_iff.mp taken
    have stripped := visiblePredicate_eq_ok_iff.mp visible
    have spine := Predicate.spine_of_stripDatetime q.predicate
    rw [stripped, Option.elim_some] at spine
    refine ⟨p, ps, visible, rfl, Predicate.joinsRange_stripDatetime_iff stripped,
      fun part member => iff_of_false ?_ (by simp)⟩
    refine (Predicate.splitsInto_of_split split).not_joinsRange (fun s onSpine => ?_) member
    rw [spine, List.mem_filter] at onSpine
    simpa using onSpine.2

/-- A range beside a disjunction goes, and each part is a comparison. -/
theorem joinsRange_iff_of_specialize_chain :
    let range : Predicate := .between "datetime" (.string "a") (.string "b")
    let p : Predicate := .and (.paren (.or (.compare "x" .eq (.integer 1))
      (.compare "y" .isIn (.list [.integer 2, .integer 3])))) range
    let q : Query := ⟨"d", p, [], 0, 7⟩
    ∃ first second third, q.specialize ⟨false, [("x", "z")], false⟩ = .ok [first, second, third] ∧
      ∃ (p : Predicate) (ps : List Predicate), q.visiblePredicate false = .ok p ∧
        ps.map (q.adapted [("x", "z")]) = [first, second, third] ∧
        (p.JoinsRange ↔ q.predicate.JoinsRangeBelowOr) ∧
        ∀ part ∈ ps, part.JoinsRange ↔ false = true ∧ q.predicate.JoinsRangeBelowOr :=
  ⟨_, _, _, rfl, joinsRange_iff_of_specialize rfl⟩

/-- A range that is joined to a comparison below an OR is left where it is, although the source has
no time field. -/
theorem joinsRange_below_or :
    ∃ (q : Query) (p : Predicate),
      Query.prepare "FROM d WHERE (a = 1 AND datetime BETWEEN 'x' AND 'y') OR b = 2" 500 = .ok q ∧
      q.specialize ⟨false, [], true⟩ = .ok [q.adapted [] p] ∧ p.JoinsRange := by
  let range : Predicate := .between "datetime" (.string "x") (.string "y")
  let p : Predicate :=
    .or (.paren (.and (.compare "a" .eq (.integer 1)) range)) (.compare "b" .eq (.integer 2))
  have accepted : Query.prepare
      "FROM d WHERE (a = 1 AND datetime BETWEEN 'x' AND 'y') OR b = 2" 500 =
        .ok ⟨"d", p, [], 0, 500⟩ := by decide +kernel
  exact ⟨_, p, accepted, rfl, .inl (.inr (.inl rfl))⟩

end Query

end FederatedSearch
