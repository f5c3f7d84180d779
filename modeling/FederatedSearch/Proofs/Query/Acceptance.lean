import FederatedSearch.Proofs.Query.StatementReading
import FederatedSearch.Query.Preparation

/-!
# Accepted texts

What an accepted text is known to be. Its tokens are legal and have the form of a statement
(`Statement.form_of_ofTokens`), the query asks for what the statement does
(`Statement.accept_eq_ok`), and so its predicate is one of the grammar
(`Query.exists_derives_of_prepare`).
-/

namespace FederatedSearch

namespace Statement

variable {s : Statement} {ts : Parser.Tokens} {max : Nat} {q : Query} {p : Predicate}

/-- What the parser reads has no illegal token and the form of its statement. -/
theorem form_of_ofTokens (read : ofTokens ts = .ok s) :
    (∀ t ∈ ts, t.token ≠ .illegal) ∧ Grammar.Form ts s := by
  unfold ofTokens at read
  split at read
  · cases read
  · rename_i legal
    obtain ⟨⟨statement, rest⟩, clauses, ends⟩ := bind_eq_ok_iff.mp read
    cases rest with
    | nil =>
      cases ends
      exact ⟨by simpa using legal, Parser.clauses_sound clauses⟩
    | cons t rest => cases ends

/-- Filters are accepted where there are some. -/
theorem filters_eq_ok {selection : Option Predicate} (accepted : filters selection = .ok p) :
    selection = some p := by
  unfold filters at accepted
  split at accepted
  · cases accepted
  · cases accepted
  · split at accepted
    · cases accepted
    · cases accepted
      rfl

/-- An accepted statement asks for what its query does. -/
theorem accept_eq_ok (accepted : s.accept max = .ok q) :
    (∃ more, s.sources = q.source :: more) ∧ s.selection = some q.predicate ∧
      s.orderBy = q.orderBy ∧ page max s.limit = .ok (q.offset, q.rowcount) := by
  have refuse {α : Type} {e : ValidationError} {f : α → Except ValidationError Query}
      {x : Except ValidationError Query} {c : Prop} [Decidable c]
      (accepted : (if c then Except.error e >>= f else x) = .ok q) : x = .ok q := by
    split at accepted
    · cases accepted
    · exact accepted
  simp only [accept, throw, throwThe, MonadExceptOf.throw] at accepted
  obtain ⟨predicate, filtered, further⟩ := bind_eq_ok_iff.mp (refuse (refuse (refuse accepted)))
  obtain ⟨⟨offset, rowcount⟩, paged, last⟩ := bind_eq_ok_iff.mp further
  cases sources : s.sources with
  | nil =>
    rw [sources] at last
    cases last
  | cons source more =>
    rw [sources] at last
    cases last
    exact ⟨⟨more, rfl⟩, filters_eq_ok filtered, rfl, paged⟩

end Statement

namespace Query

variable {text : String} {max : Nat} {q : Query}

/-- A prepared query comes from a parsed and accepted statement. -/
theorem exists_of_prepare (prepared : prepare text max = .ok q) :
    ∃ s, Statement.ofTokens (tokens text) = .ok s ∧ s.accept max = .ok q := by
  unfold prepare at prepared
  split at prepared
  · cases prepared
  · rename_i s read
    split at prepared
    · cases prepared
    · rename_i accepted
      cases prepared
      exact ⟨s, read, accepted⟩

/-- The predicate of an accepted text is written in it. -/
theorem exists_derives_of_prepare (prepared : prepare text max = .ok q) :
    ∃ ts, Grammar.Derives .disjunction ts q.predicate := by
  obtain ⟨s, read, accepted⟩ := exists_of_prepare prepared
  generalize tokens text = ts at read
  obtain ⟨_, form⟩ := Statement.form_of_ofTokens read
  obtain ⟨_, selection, _⟩ := Statement.accept_eq_ok accepted
  obtain ⟨_, _, _, filters, _, _, _⟩ := form
  cases selection
  obtain _ | ⟨⟨_, derived⟩⟩ := filters
  exact ⟨_, derived⟩

end Query

end FederatedSearch
