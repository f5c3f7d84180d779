import FederatedSearch.Query.Syntax

/-!
# Renaming fields

Users name fields in one way and sources in another. A renaming is one simultaneous substitution:
each field of a query is looked up once, and names without an entry stay as they are.
-/

namespace FederatedSearch

/-- Field names of users with the names that a source has for them. -/
abbrev Renaming := List (String × String)

/-- The name that a source has for a field. -/
def Renaming.apply (table : Renaming) (field : String) : String :=
  (table.lookup field).getD field

namespace Predicate

/-- Rebuilds a predicate from the left to the right, passing each of its fields through `step`
together with a state. What becomes of a group is up to `group`, which is given the walk through
what the parentheses hold. -/
def traverseFields {σ : Type} (step : String → σ → String × σ)
    (group : (σ → Predicate × σ) → σ → Predicate × σ) : Predicate → σ → Predicate × σ
  | compare field op value, s =>
    let (field, s) := step field s
    (compare field op value, s)
  | between field low high, s =>
    let (field, s) := step field s
    (between field low high, s)
  | and left right, s =>
    let (left, s) := left.traverseFields step group s
    let (right, s) := right.traverseFields step group s
    (and left right, s)
  | or left right, s =>
    let (left, s) := left.traverseFields step group s
    let (right, s) := right.traverseFields step group s
    (or left right, s)
  | paren inner, s =>
    let (inner, s) := group (inner.traverseFields step group) s
    (paren inner, s)

/-- Looks up a field and counts it when it has an entry. -/
def renameStep (table : Renaming) (field : String) (count : Nat) : String × Nat :=
  match table.lookup field with
  | some name => (name, count + 1)
  | none => (field, count)

/-- Gives a group a pass of its own, which starts to count anew, and adds what it has counted. -/
def ownPass (pass : Nat → Predicate × Nat) (count : Nat) : Predicate × Nat :=
  let (inner, within) := pass 0
  (inner, count + within)

/-- Renames the fields of a predicate and counts those that have an entry. -/
def renameCounting (table : Renaming) (p : Predicate) : Predicate × Nat :=
  p.traverseFields (renameStep table) ownPass 0

/-- Renames the fields of a predicate. -/
def rename (table : Renaming) (p : Predicate) : Predicate :=
  if table.isEmpty then p else (p.renameCounting table).1

end Predicate

/-- Renames the fields of a query, those of its order included. -/
def Query.rename (table : Renaming) (q : Query) : Query :=
  { q with
    predicate := (q.predicate.renameCounting table).1
    orderBy := q.orderBy.map fun key => { key with field := table.apply key.field } }

end FederatedSearch
