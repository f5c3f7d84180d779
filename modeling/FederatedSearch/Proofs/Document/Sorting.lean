import FederatedSearch.Document.Collection
import FederatedSearch.Proofs.Document.FilterReading
import FederatedSearch.Proofs.StableSort

/-!
# Sorted pages of a collection

Records are sorted by what their values are, group by group: numbers by their doubles, strings by
themselves and everything else by its JSON text. `sortOrder_eq` says so with one rank, one number
and one text for each value. Truth values, which are compared as such, need no case of their own,
since their texts are in their order. The order of records by any sort keys is therefore
sign-symmetric and transitive, and what a collection answers is a page of its one stable sort.
-/

namespace FederatedSearch

namespace Document

/-! ## The order of values -/

/-- The number that counts for a value in its group. All other values are alike in this. -/
def sortNumber : Option Json → Int
  | some (.number n) => n.toDouble.units
  | _ => 0

/-- The text that counts for a value in its group. All numbers are alike in this. -/
def sortText : Option Json → String
  | none => ""
  | some (.number _) => ""
  | some (.string s) => s
  | some value => value.compact

/-- Values are ordered by their groups, then as numbers, then as texts. -/
theorem sortOrder_eq : sortOrder =
    compareLex (compareOn sortRank) (compareLex (compareOn sortNumber) (compareOn sortText)) := by
  funext a b
  cases a with
  | none =>
    cases b with
    | none => rfl
    | some y => cases y <;> rfl
  | some x =>
    cases b with
    | none => cases x <;> rfl
    | some y =>
      cases x with
      | number m =>
        cases y with
        | number n => exact Ordering.then_eq.symm
        | _ => rfl
      | bool p =>
        cases y with
        | bool q => cases p <;> cases q <;> rfl
        | _ => rfl
      | _ => cases y <;> rfl

instance : Std.TransCmp sortOrder := by
  rw [sortOrder_eq]
  infer_instance

/-! ## The order of records -/

/-- The order of two records by one field, ascending. -/
def fieldOrder (field : String) (a b : Record) : Ordering :=
  sortOrder (a.lookup field) (b.lookup field)

instance (field : String) : Std.TransCmp (fieldOrder field) where
  eq_swap := by
    unfold fieldOrder
    exact Std.OrientedCmp.eq_swap
  isLE_trans first second := by
    unfold fieldOrder at first second ⊢
    exact Std.TransCmp.isLE_trans first second

/-- A descending key exchanges the records. -/
theorem SortKey.order_eq (key : SortKey) : key.order =
    if key.direction < 0 then fun a b => fieldOrder key.field b a else fieldOrder key.field := by
  funext a b
  unfold SortKey.order
  split
  · exact Std.OrientedCmp.eq_swap.symm
  · rfl

instance (key : SortKey) : Std.TransCmp key.order := by
  rw [SortKey.order_eq]
  split <;> infer_instance

/-- The order of records is sign-symmetric and transitive, whatever their values are. -/
instance transCmp_recordOrder (keys : List SortKey) : Std.TransCmp (recordOrder keys) := by
  induction keys with
  | nil => exact { eq_swap := rfl, isLE_trans := fun _ _ => rfl }
  | cons key rest ih =>
    have lexicographic : recordOrder (key :: rest) = compareLex key.order (recordOrder rest) := rfl
    rw [lexicographic]
    infer_instance

/-! ## Pages -/

/-- Records are never ordered inconsistently, and what a collection answers is the page that is
asked for of the one stable sort of the records that pass the filter. -/
theorem run_eq_page_of_stableSort (documents : List Record) (q : Query) {filter : Filter}
    (read : Filter.ofJson q.filter = .ok filter) :
    Std.TransCmp (recordOrder q.sort) ∧
      ∃ sorted, IsStableSort (recordOrder q.sort) (documents.filter (filter.matches ·)) sorted ∧
        (∀ other, IsStableSort (recordOrder q.sort) (documents.filter (filter.matches ·)) other →
          other = sorted) ∧
        run documents q = .ok ((sorted.drop q.skip).take q.limit) := by
  have sorts : IsStableSort (recordOrder q.sort) (documents.filter (filter.matches ·))
    (sortRecords q.sort (documents.filter (filter.matches ·))) := isStableSort_mergeSort _
  refine ⟨inferInstance, _, sorts, fun other stable => stable.eq sorts, ?_⟩
  rw [run, read]
  rfl

/-- Truth values, arrays and numbers of both kinds under a descending key, and a second key that
only some records have. -/
theorem run_eq_page_of_stableSort_mixed :
    let documents : List Record := [⟨[("a", .bool true)]⟩, ⟨[("a", .array [.null])]⟩,
      ⟨[("a", .number (.integer 1)), ("b", .string "x")]⟩, ⟨[("b", .null)]⟩,
      ⟨[("a", .number (.double (.ofNat 1)))]⟩, ⟨[("a", .bool false)]⟩]
    let q : Query :=
      ⟨single "a" (single "$exists" (.bool true)), [⟨"a", -1⟩, ⟨"b", 1⟩], 1, 3⟩
    ∃ filter, Filter.ofJson q.filter = .ok filter ∧ Std.TransCmp (recordOrder q.sort) ∧
      ∃ sorted, IsStableSort (recordOrder q.sort) (documents.filter (filter.matches ·)) sorted ∧
        run documents q = .ok ((sorted.drop 1).take 3) := by
  intro documents q
  have read : Filter.ofJson q.filter = .ok (.field "a" [.presence true]) :=
    ofJson_single_field (by decide) (conditionsOf_exists true)
  obtain ⟨preorder, sorted, sorts, _, page⟩ := run_eq_page_of_stableSort documents q read
  exact ⟨_, read, preorder, sorted, sorts, page⟩

end Document

end FederatedSearch
