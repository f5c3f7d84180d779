import FederatedSearch.Proofs.Query.Splitting

/-!
# What a source has to run

A source that evaluates AND, OR and IN itself runs one query for what it sees of a predicate
(`Query.specialize_native_eq_ok_iff`), any other source one for each part of it
(`Query.specialize_split_eq_ok_iff`). Renaming comes last and is the same for all of them. What can
be taken into parts is what `Predicate.split_eq_ok_iff` says, and for anything else such a source
runs nothing (`Predicate.split_clean_disjunction`).
-/

namespace FederatedSearch

namespace Query

variable {q : Query} {hasDatetime : Bool} {table : Renaming}

/-- What a source has to run for one predicate of a query. -/
def adapted (q : Query) (table : Renaming) (p : Predicate) : Query :=
  Query.rename table { q with predicate := p }

/-- The predicate of an adapted query has the names of the backend. -/
theorem predicate_adapted (q : Query) (table : Renaming) (p : Predicate) :
    (q.adapted table p).predicate = p.mapFields table.apply :=
  Predicate.renameCounting_fst table p

/-- A source that evaluates AND, OR and IN runs one query, for what it sees of the predicate. -/
theorem specialize_native_eq_ok_iff {whole : Query} :
    q.specialize ⟨hasDatetime, table, true⟩ = .ok [whole] ↔
      ∃ p, q.visiblePredicate hasDatetime = .ok p ∧ q.adapted table p = whole := by
  simp [specialize, adapted, map_eq_ok_iff]

/-- Such a source runs nothing else. -/
theorem exists_of_specialize_native {parts : List Query}
    (taken : q.specialize ⟨hasDatetime, table, true⟩ = .ok parts) :
    ∃ p, q.visiblePredicate hasDatetime = .ok p ∧ parts = [q.adapted table p] := by
  obtain ⟨p, visible, rest⟩ := bind_eq_ok_iff.mp taken
  cases rest
  exact ⟨p, visible, rfl⟩

/-- Any other source runs one query for each part of what it sees of the predicate. -/
theorem specialize_split_eq_ok_iff {parts : List Query} :
    q.specialize ⟨hasDatetime, table, false⟩ = .ok parts ↔
      ∃ p, q.visiblePredicate hasDatetime = .ok p ∧
        ∃ ps, p.split = .ok ps ∧ ps.map (q.adapted table) = parts := by
  unfold specialize adapted
  rw [bind_eq_ok_iff]
  refine exists_congr fun p => and_congr_right fun _ => ?_
  rw [if_neg Bool.false_ne_true]
  cases p.split with
  | error e => simp [throw, throwThe, MonadExceptOf.throw, bind, Except.bind]
  | ok ps => simp

/-- A predicate that cannot be split is a fault of the query for such a source. -/
theorem specialize_of_split_error {p : Predicate} {e : SplitError}
    (visible : q.visiblePredicate hasDatetime = .ok p) (refused : p.split = .error e) :
    q.specialize ⟨hasDatetime, table, false⟩ = .error (.split e) := by
  simp [specialize, visible, refused, bind, Except.bind, throw, throwThe, MonadExceptOf.throw]

end Query

/-- Taken without the parentheses around it, a predicate can be split exactly when it is a
disjunction of equalities and lists, or joins one by AND to one range of the time field. The parts
are the equalities from left to right, lists unpacked in place, each joined to that range. For any
other predicate a source that does not evaluate AND and OR itself refuses the query as one that
cannot be split. -/
theorem Predicate.split_clean_disjunction (p : Predicate) :
    (∀ parts, p.split = .ok parts ↔
      p.bare.IsDisjunction ∧ parts = p.bare.unpackedLeaves ∨
        ∃ d range, p.bare.JoinsDisjunction d range ∧ parts = d.unpackedLeaves.map (and · range)) ∧
    (¬ p.bare.IsDisjunction → (∀ d range, ¬ p.bare.JoinsDisjunction d range) →
      ∃ e, p.split = .error e ∧ ∀ (q : Query) (hasDatetime : Bool) (table : Renaming),
        q.visiblePredicate hasDatetime = .ok p →
          q.specialize ⟨hasDatetime, table, false⟩ = .error (.split e)) := by
  refine ⟨fun parts => split_eq_ok_iff, fun noDisjunction noJoin => ?_⟩
  cases taken : p.split with
  | error e => exact ⟨e, rfl, fun q hasDatetime table visible =>
      Query.specialize_of_split_error visible taken⟩
  | ok parts =>
    rcases split_eq_ok_iff.mp taken with ⟨disjunction, -⟩ | ⟨d, range, joins, -⟩
    · exact (noDisjunction disjunction).elim
    · exact (noJoin d range joins).elim

end FederatedSearch
