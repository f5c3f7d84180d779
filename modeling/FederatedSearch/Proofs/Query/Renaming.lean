import FederatedSearch.Proofs.Query.Truth
import FederatedSearch.Query.Renaming
import Mathlib.Data.List.Forall2

/-!
# Renaming as substitution

Renaming walks through a predicate and carries a counter along, which every group starts anew. Its
result is the substitution `Predicate.mapFields`, which leaves the shape of a predicate alone, and
the counter says how many leaves it has reached (`renameCounting_eq`). A valuation of the renamed
leaves is one of the leaves that they came from: `trueUnder_mapFields`. Each field is looked up
once, so that renaming again changes nothing exactly when what the table yields stays as it is
(`Query.rename_substitutes`).
-/

namespace FederatedSearch

namespace Predicate

/-- Passes each field of a predicate through a function. -/
def mapFields (f : String → String) : Predicate → Predicate
  | compare field op value => compare (f field) op value
  | between field low high => between (f field) low high
  | and left right => and (left.mapFields f) (right.mapFields f)
  | or left right => or (left.mapFields f) (right.mapFields f)
  | paren inner => paren (inner.mapFields f)

/-- Looking up a field counts, but what it yields depends on the table alone. -/
theorem renameStep_fst (table : Renaming) (field : String) (count : Nat) :
    (renameStep table field count).1 = table.apply field := by
  unfold renameStep Renaming.apply
  cases table.lookup field <;> rfl

/-- A walk that looks up each field yields the substitution, whatever has been counted before. -/
theorem traverseFields_renameStep_fst (table : Renaming) (p : Predicate) (count : Nat) :
    (p.traverseFields (renameStep table) ownPass count).1 = p.mapFields table.apply := by
  induction p generalizing count with
  | compare field op value => simp only [traverseFields, mapFields, renameStep_fst]
  | between field low high => simp only [traverseFields, mapFields, renameStep_fst]
  | and left right ihLeft ihRight => simp only [traverseFields, mapFields, ihLeft, ihRight]
  | or left right ihLeft ihRight => simp only [traverseFields, mapFields, ihLeft, ihRight]
  | paren inner ih => simp only [traverseFields, ownPass, mapFields, ih]

/-- Renaming substitutes, whatever it counts. -/
theorem renameCounting_fst (table : Renaming) (p : Predicate) :
    (p.renameCounting table).1 = p.mapFields table.apply :=
  traverseFields_renameStep_fst table p 0

variable {f : String → String}

/-- Substitution reaches each leaf and leaves their order alone. -/
theorem leaves_mapFields (p : Predicate) :
    (p.mapFields f).leaves = p.leaves.map (mapFields f) := by
  induction p with
  | compare field op value => rfl
  | between field low high => rfl
  | and left right ihLeft ihRight =>
    rw [mapFields, leaves, leaves, List.map_append, ihLeft, ihRight]
  | or left right ihLeft ihRight =>
    rw [mapFields, leaves, leaves, List.map_append, ihLeft, ihRight]
  | paren inner ih => exact ih

/-- The truth of a substituted predicate is that of the predicate when each leaf counts as what
becomes of it. -/
theorem trueUnder_mapFields {leaf : Predicate → Prop} (p : Predicate) :
    (p.mapFields f).TrueUnder leaf ↔ p.TrueUnder fun q => leaf (q.mapFields f) := by
  induction p with
  | compare field op value => exact Iff.rfl
  | between field low high => exact Iff.rfl
  | and left right ihLeft ihRight => exact and_congr ihLeft ihRight
  | or left right ihLeft ihRight => exact or_congr ihLeft ihRight
  | paren inner ih => exact ih

/-- Replacing each name by itself changes nothing. -/
theorem mapFields_id (p : Predicate) : p.mapFields id = p := by
  induction p with
  | compare field op value => rfl
  | between field low high => rfl
  | and left right ihLeft ihRight => rw [mapFields, ihLeft, ihRight]
  | or left right ihLeft ihRight => rw [mapFields, ihLeft, ihRight]
  | paren inner ih => rw [mapFields, ih]

/-- Replacing twice is replacing by what the second makes of the first. -/
theorem mapFields_mapFields (g : String → String) (p : Predicate) :
    (p.mapFields f).mapFields g = p.mapFields (g ∘ f) := by
  induction p with
  | compare field op value => rfl
  | between field low high => rfl
  | and left right ihLeft ihRight => rw [mapFields, mapFields, mapFields, ihLeft, ihRight]
  | or left right ihLeft ihRight => rw [mapFields, mapFields, mapFields, ihLeft, ihRight]
  | paren inner ih => rw [mapFields, mapFields, mapFields, ih]

/-- Substitution takes each field for itself. -/
theorem fields_mapFields (p : Predicate) : (p.mapFields f).fields = p.fields.map f := by
  induction p with
  | compare field op value => rfl
  | between field low high => rfl
  | and left right ihLeft ihRight =>
    rw [mapFields, fields, fields, List.map_append, ihLeft, ihRight]
  | or left right ihLeft ihRight =>
    rw [mapFields, fields, fields, List.map_append, ihLeft, ihRight]
  | paren inner ih => exact ih

end Predicate

namespace Renaming

/-- Whether a field has an entry. -/
def covers (table : Renaming) (field : String) : Bool :=
  (table.lookup field).isSome

/-- A field becomes the name of its entry, or stays as it is when it has none. -/
def Becomes (table : Renaming) (field name : String) : Prop :=
  table.lookup field = some name ∨ table.lookup field = none ∧ name = field

/-- The names that a table yields stay as they are when they are looked up themselves. -/
def IsSettled (table : Renaming) : Prop :=
  ∀ field name further, table.lookup field = some name → table.lookup name = some further →
    further = name

variable {table : Renaming} {field name : String}

/-- A name in the table becomes its entry. -/
theorem apply_of_lookup (found : table.lookup field = some name) : table.apply field = name := by
  rw [apply, found, Option.getD_some]

/-- A name that is not in the table stays. -/
theorem apply_of_not_covered (absent : table.lookup field = none) : table.apply field = field := by
  rw [apply, absent, Option.getD_none]

/-- A name becomes what the table makes of it. -/
theorem becomes_apply (table : Renaming) (field : String) :
    table.Becomes field (table.apply field) := by
  cases found : table.lookup field with
  | none => exact .inr ⟨found, apply_of_not_covered found⟩
  | some name => exact .inl (found.trans (congrArg some (apply_of_lookup found).symm))

/-- A table is settled exactly when looking up twice is looking up once. -/
theorem isSettled_iff (table : Renaming) :
    table.IsSettled ↔ table.apply ∘ table.apply = table.apply := by
  constructor
  · intro settled
    funext field
    rw [Function.comp_apply]
    rcases table.becomes_apply field with found | ⟨_, same⟩
    · cases further : table.lookup (table.apply field) with
      | none => exact apply_of_not_covered further
      | some name => exact (apply_of_lookup further).trans (settled _ _ _ found further)
    · rw [same, same]
  · intro twice field name further found again
    have once := congrFun twice field
    rwa [Function.comp_apply, apply_of_lookup found, apply_of_lookup again] at once

end Renaming

namespace Predicate

/-- A step counts the names it replaces. -/
theorem renameStep_snd (table : Renaming) (field : String) (count : Nat) :
    (renameStep table field count).2 = count + if table.covers field then 1 else 0 := by
  unfold renameStep Renaming.covers
  cases table.lookup field <;> rfl

/-- What a walk counts is added to what has been counted before, whether a group is passed through
in its place or by a pass of its own. -/
theorem traverseFields_renameStep_snd (table : Renaming) (p : Predicate) (count : Nat) :
    (p.traverseFields (renameStep table) ownPass count).2 =
      count + p.leaves.countP fun leaf => leaf.fields.any table.covers := by
  have one (field : String) (leaf : Predicate) (only : leaf.fields = [field]) :
      [leaf].countP (fun leaf => leaf.fields.any table.covers) =
        if table.covers field then 1 else 0 := by
    simp [only, List.countP_singleton]
  induction p generalizing count with
  | compare field op value => exact (renameStep_snd ..).trans (by rw [leaves, one field _ rfl])
  | between field low high => exact (renameStep_snd ..).trans (by rw [leaves, one field _ rfl])
  | and left right ihLeft ihRight =>
    simp only [traverseFields, leaves, ihLeft, ihRight, List.countP_append, Nat.add_assoc]
  | or left right ihLeft ihRight =>
    simp only [traverseFields, leaves, ihLeft, ihRight, List.countP_append, Nat.add_assoc]
  | paren inner ih => simp only [traverseFields, ownPass, leaves, ih, Nat.zero_add]

/-- Renaming substitutes, and counts the leaves whose fields have entries. -/
theorem renameCounting_eq (table : Renaming) (p : Predicate) :
    p.renameCounting table =
      (p.mapFields table.apply, p.leaves.countP fun leaf => leaf.fields.any table.covers) :=
  Prod.ext (renameCounting_fst table p)
    ((traverseFields_renameStep_snd table p 0).trans (Nat.zero_add _))

/-- An empty table needs no special treatment. -/
theorem rename_eq (table : Renaming) (p : Predicate) :
    p.rename table = p.mapFields table.apply := by
  unfold rename
  split
  · rename_i empty
    have same : Renaming.apply [] = id := rfl
    rw [List.isEmpty_iff.mp empty, same, mapFields_id]
  · exact renameCounting_fst table p

/-- Each field becomes what its own entry says, whatever entry that name has. -/
theorem forall₂_becomes_mapFields (table : Renaming) (p : Predicate) :
    List.Forall₂ table.Becomes p.fields (p.mapFields table.apply).fields := by
  rw [fields_mapFields, List.forall₂_map_right_iff]
  exact List.forall₂_same.mpr fun field _ => table.becomes_apply field

end Predicate

namespace Query

variable {table : Renaming}

theorem rename_eq (table : Renaming) (q : Query) : q.rename table =
    ⟨q.source, q.predicate.mapFields table.apply,
      q.orderBy.map fun key => ⟨table.apply key.field, key.descending⟩, q.offset, q.rowcount⟩ := by
  rw [rename, Predicate.renameCounting_fst]

/-- Renaming twice looks up what the first renaming has yielded. -/
theorem rename_rename (table : Renaming) (q : Query) : (q.rename table).rename table =
    ⟨q.source, q.predicate.mapFields (table.apply ∘ table.apply),
      q.orderBy.map fun key => ⟨(table.apply ∘ table.apply) key.field, key.descending⟩,
      q.offset, q.rowcount⟩ := by
  simp only [rename_eq, Predicate.mapFields_mapFields, List.map_map]
  rfl

/-- A comparison of one field tells whether what a table yields stays as it is. -/
theorem apply_comp_apply_of_rename_rename
    (stable : ∀ p : Predicate, (p.rename table).rename table = p.rename table) :
    table.apply ∘ table.apply = table.apply := by
  funext field
  have leaf := stable (.compare field .eq (.bool true))
  simp only [Predicate.rename_eq, Predicate.mapFields_mapFields] at leaf
  injection leaf

/-- Renaming a query looks up each field of its predicate and of its order once and changes nothing
else; the predicate alone is renamed alike, also by an empty table. A walk counts the leaves, at any
depth of parentheses, whose fields have entries. What an entry yields is not looked up again, and
renaming twice is renaming once exactly when it would stay as it is. -/
theorem rename_substitutes (table : Renaming) :
    (∀ q : Query, q.rename table =
        ⟨q.source, q.predicate.mapFields table.apply,
          q.orderBy.map fun key => ⟨table.apply key.field, key.descending⟩, q.offset, q.rowcount⟩ ∧
      q.predicate.rename table = (q.rename table).predicate) ∧
    (∀ p : Predicate, (p.renameCounting table).1 = p.rename table ∧
      (p.renameCounting table).2 = p.leaves.countP (fun leaf => leaf.fields.any table.covers) ∧
      List.Forall₂ table.Becomes p.fields (p.rename table).fields) ∧
    (table.IsSettled ↔ ∀ q : Query, (q.rename table).rename table = q.rename table) ∧
    (table.IsSettled ↔ ∀ p : Predicate, (p.rename table).rename table = p.rename table) := by
  refine ⟨fun q => ⟨rename_eq table q, ?_⟩, fun p => ?_, ?_, ?_⟩
  · rw [rename_eq, Predicate.rename_eq]
  · rw [Predicate.renameCounting_eq, Predicate.rename_eq]
    exact ⟨rfl, rfl, p.forall₂_becomes_mapFields table⟩
  · rw [Renaming.isSettled_iff]
    constructor
    · intro twice q
      rw [rename_rename, twice, rename_eq]
    · intro stable
      refine apply_comp_apply_of_rename_rename fun p => ?_
      have predicates := congrArg predicate (stable ⟨"", p, [], 0, 0⟩)
      rwa [rename_rename, rename_eq, ← Predicate.mapFields_mapFields, ← Predicate.rename_eq,
        ← Predicate.rename_eq] at predicates
  · rw [Renaming.isSettled_iff]
    constructor
    · intro twice p
      rw [Predicate.rename_eq, Predicate.rename_eq, Predicate.mapFields_mapFields, twice]
    · exact apply_comp_apply_of_rename_rename

/-- Entries do not chain: a field becomes the name of its entry, which has an entry of its own. -/
example : (Predicate.paren (.compare "a" .eq (.column "a"))).renameCounting
    [("a", "b"), ("b", "c")] = (.paren (.compare "b" .eq (.column "a")), 1) :=
  rfl

end Query

end FederatedSearch
