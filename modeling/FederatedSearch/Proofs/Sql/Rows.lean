import FederatedSearch.Document.Collection
import FederatedSearch.Proofs.SortedMap
import FederatedSearch.Proofs.Sql.Literals

/-!
# Rows as records

The record of a row holds the cells under the names of their columns. When the names differ and the
cells have the types of their columns, a column of the row and the field of the record agree on what
is absent, on every comparison with a value of the column's type and on the order of two rows.
-/

namespace FederatedSearch

/-- A text without the character of code 0. -/
def IsNulFree (s : String) : Prop :=
  s.toList.all (·.toNat != 0) = true

/-- An integer that doubles hold exactly, as all integers up to it. -/
def IsSmallInteger (n : Int) : Prop :=
  n.natAbs ≤ 2 ^ 53

instance (s : String) : Decidable (IsNulFree s) :=
  inferInstanceAs (Decidable (s.toList.all (·.toNat != 0) = true))

instance (n : Int) : Decidable (IsSmallInteger n) :=
  inferInstanceAs (Decidable (n.natAbs ≤ 2 ^ 53))

namespace Record

/-! ## Steps of paths -/

/-- A path has a step. -/
theorem pathSteps_ne_nil (l : List Char) : pathSteps l ≠ [] := by
  cases l with
  | nil => exact List.cons_ne_nil _ _
  | cons c l =>
    rw [pathSteps]
    split
    · exact List.cons_ne_nil _ _
    · split <;> exact List.cons_ne_nil _ _

/-- A path with a dot has several steps. -/
theorem exists_pathSteps {l : List Char} (dotted : '.' ∈ l) :
    ∃ first second rest, pathSteps l = first :: second :: rest := by
  induction l with
  | nil => cases dotted
  | cons c l ih =>
    rw [pathSteps]
    split
    · obtain ⟨second, rest, steps⟩ := List.exists_cons_of_ne_nil (pathSteps_ne_nil l)
      exact ⟨[], second, rest, by rw [steps]⟩
    · rename_i plain
      obtain ⟨first, second, rest, steps⟩ :=
        ih ((List.mem_cons.mp dotted).resolve_left (Ne.symm plain))
      exact ⟨c :: first, second, rest, by rw [steps]⟩

/-- In a record without objects, paths of several steps lead nowhere. -/
theorem nested?_eq_none {r : Record}
    (flat : ∀ key value, SortedMap.get? r.members key = some value →
      ∀ step, value.member? step = none) (path : String) : r.nested? path = none := by
  rw [nested?]
  split
  · rename_i dotted
    obtain ⟨first, second, rest, steps⟩ := exists_pathSteps (List.contains_iff_mem.mp dotted)
    rw [steps, descend]
    split
    · rename_i inner found
      rw [descend, flat _ _ found]
    · rfl
  · rfl

end Record

namespace Sql

/-- A cell has the type of its column, or is absent. -/
def Cell.Suits (type : ColumnType) : Cell → Prop
  | null => True
  | integer n => type = .integer ∧ IsSmallInteger n
  | real x => type = .real ∧ x.isFinite = true
  | text s => type = .text ∧ IsNulFree s

instance (type : ColumnType) : (cell : Cell) → Decidable (cell.Suits type)
  | .null => inferInstanceAs (Decidable True)
  | .integer n => inferInstanceAs (Decidable (type = .integer ∧ IsSmallInteger n))
  | .real x => inferInstanceAs (Decidable (type = .real ∧ x.isFinite = true))
  | .text s => inferInstanceAs (Decidable (type = .text ∧ IsNulFree s))

/-- A value of a query has the type of a column. A real number keeps its value in the text of a
statement. -/
def ColumnType.Admits [Numerals] (type : ColumnType) : Scalar → Prop
  | .string s => type = .text ∧ IsNulFree s
  | .integer n => type = .integer ∧ IsSmallInteger n
  | .float x => type = .real ∧ x.isFinite = true ∧ Keeps x
  | .bool _ => False

/-- The columns of a table have different names, each row has a cell for each column, and the cells
have the types of their columns. -/
structure Table.IsTyped (t : Table) : Prop where
  distinct : t.columns.Pairwise fun a b => sameName a.name b.name = false
  complete : ∀ row ∈ t.rows, row.length = t.columns.length
  suits : ∀ row ∈ t.rows, ∀ entry ∈ t.columns.zip row, entry.2.Suits entry.1.type

section Rows

variable {columns : List Column} {row : List Cell} {column : Column} {cell : Cell}

/-! ## Cells under the names of their columns -/

/-- A name is the same as itself. -/
theorem sameName_self (a : String) : sameName a a = true :=
  beq_self_eq_true _

/-- Columns with different names stay so next to the cells of a row. -/
theorem pairwise_zip (distinct : columns.Pairwise fun a b => sameName a.name b.name = false)
    (row : List Cell) :
    (columns.zip row).Pairwise fun a b => sameName a.1.name b.1.name = false := by
  induction distinct generalizing row with
  | nil => exact .nil
  | cons first _ ih =>
    cases row with
    | nil => exact .nil
    | cons cell row =>
      exact .cons (fun entry member => first entry.1 (List.of_mem_zip member).1) (ih row)

/-- The name of a column stands for its cell. -/
theorem operand_of_mem (distinct : columns.Pairwise fun a b => sameName a.name b.name = false)
    (entry : (column, cell) ∈ columns.zip row) :
    operand columns row column.name = (cell, some column.type) := by
  have found : (columns.zip row).find? (fun entry => sameName entry.1.name column.name)
      = some (column, cell) := by
    have apart := pairwise_zip distinct row
    generalize columns.zip row = entries at entry apart
    induction apart with
    | nil => cases entry
    | cons first _ ih =>
      rcases List.mem_cons.mp entry with rfl | later
      · exact List.find?_cons_of_pos (sameName_self _)
      · rw [List.find?_cons_of_neg (by simp [first _ later])]
        exact ih later
  rw [operand, found]

/-- The record of a row has each cell under the name of its column. -/
theorem get?_rowRecord (distinct : columns.Pairwise fun a b => sameName a.name b.name = false)
    (entry : (column, cell) ∈ columns.zip row) :
    SortedMap.get? (rowRecord columns row).members column.name = some cell.toJson := by
  refine SortedMap.get?_ofList_of_mem ?_ (List.mem_map_of_mem entry)
  rw [List.map_map]
  refine List.Pairwise.map _ ?_ (pairwise_zip distinct row)
  intro a b different same
  rw [show a.1.name = b.1.name from same, sameName_self] at different
  cases different

/-- The record of a row holds nothing but cells. -/
theorem exists_cell_of_get?_rowRecord
    (distinct : columns.Pairwise fun a b => sameName a.name b.name = false) {key : String}
    {value : Json} (found : SortedMap.get? (rowRecord columns row).members key = some value) :
    ∃ cell : Cell, value = cell.toJson := by
  by_cases named : ∃ entry ∈ columns.zip row, entry.1.name = key
  · obtain ⟨⟨column, cell⟩, entry, rfl⟩ := named
    rw [get?_rowRecord distinct entry] at found
    exact ⟨cell, (Option.some.inj found).symm⟩
  · have absent : SortedMap.get? (rowRecord columns row).members key = none :=
      SortedMap.get?_ofList_of_not_mem (by simpa using named)
    rw [absent] at found
    cases found

/-! ## Looking up fields -/

/-- A cell has no members. -/
theorem member?_toJson (cell : Cell) (key : String) : cell.toJson.member? key = none := by
  cases cell with
  | real x =>
    rw [Cell.toJson, Json.ofDouble]
    split <;> rfl
  | _ => rfl

/-- The name of a column leads to its cell, unless that is absent. -/
theorem lookup_rowRecord (distinct : columns.Pairwise fun a b => sameName a.name b.name = false)
    (entry : (column, cell) ∈ columns.zip row) :
    (rowRecord columns row).lookup column.name = cell.toJson.present? := by
  have flat : (rowRecord columns row).nested? column.name = none := by
    refine Record.nested?_eq_none (fun key value found step => ?_) _
    obtain ⟨cell, rfl⟩ := exists_cell_of_get?_rowRecord distinct found
    exact member?_toJson cell step
  rw [Record.lookup, get?_rowRecord distinct entry, Option.bind_some, flat]
  split
  · rename_i value found
    exact found.symm
  · rename_i absent
    exact absent.symm

/-! ## Comparing cells -/

/-- Small integers are ordered as the doubles that JSON compares them by. -/
theorem compare_mul_unitsPerOne {m n : Int} (left : IsSmallInteger m) (right : IsSmallInteger n) :
    compare (m * Double.unitsPerOne) (n * Double.unitsPerOne)
      = (Double.ofInt m).order (Double.ofInt n) := by
  rw [Double.order, Double.units_ofInt left, Double.units_ofInt right]

/-- Two numbers are ordered by their values, whatever kind each is of. -/
theorem order_of_units {a b : Cell} {m n : Int} (left : a.units? = some m)
    (right : b.units? = some n) : a.order b = compare m n := by
  cases a with
  | text s => cases left
  | _ => simp only [Cell.order, left, right]

/-- A finite real number is present in the record of its row. -/
theorem present?_toJson_real {x : Double} (finite : x.isFinite = true) :
    (Cell.real x).toJson.present? = some (.number (.double x)) := by
  rw [Cell.toJson, Json.ofDouble, if_pos finite]
  rfl

/-- Two cells of one column are ordered as their JSON values are. -/
theorem order_eq_sortOrder {type : ColumnType} {a b : Cell} (first : a.Suits type)
    (second : b.Suits type) :
    a.order b = Document.sortOrder a.toJson.present? b.toJson.present? := by
  cases a with
  | null =>
    cases b with
    | real y =>
      rw [present?_toJson_real second.2]
      rfl
    | _ => rfl
  | text s =>
    obtain ⟨rfl, _⟩ := first
    cases b with
    | null => rfl
    | text t => rfl
    | _ => cases second.1
  | integer m =>
    obtain ⟨rfl, small⟩ := first
    cases b with
    | null => rfl
    | integer n => exact (order_of_units rfl rfl).trans (compare_mul_unitsPerOne small second.2)
    | _ => cases second.1
  | real x =>
    obtain ⟨rfl, finite⟩ := first
    rw [present?_toJson_real finite]
    cases b with
    | null => rfl
    | real y =>
      rw [present?_toJson_real second.2]
      rfl
    | _ => cases second.1

/-! ## Comparing cells with values of statements -/

variable [Numerals]

/-- A number keeps its value when it is compared with a column of numbers. -/
theorem coerce_of_units {type : ColumnType} (number : type ≠ .text) {n : Int}
    (value : cell.units? = some n) : cell.coerce type = cell := by
  cases cell with
  | null => cases value
  | text s => cases value
  | _ => cases type <;> first | rfl | exact absurd rfl number

/-- A column of numbers compares with a number by value. -/
theorem orderWith_of_units {type : ColumnType} (number : type ≠ .text) {s : Scalar} {m n : Int}
    (left : cell.units? = some m) (right : (Cell.ofScalar s).units? = some n) :
    orderWith (cell, some type) s = some (compare m n) := by
  cases cell with
  | null => cases left
  | text t => cases left
  | _ => simp only [orderWith, coerce_of_units number right, order_of_units left right]

/-- A cell and a value of its column's type compare as their JSON values do. -/
theorem orderWith_eq_compareWith {type : ColumnType} {s : Scalar} (suits : cell.Suits type)
    (admits : type.Admits s) :
    orderWith (cell, some type) s = Document.compareWith cell.toJson.present? s.toJson := by
  cases cell with
  | null => rfl
  | text t =>
    obtain ⟨rfl, _⟩ := suits
    cases s with
    | string u => rfl
    | bool b => exact admits.elim
    | _ => cases admits.1
  | integer m =>
    obtain ⟨rfl, small⟩ := suits
    cases s with
    | integer n =>
      rw [orderWith_of_units (by decide) rfl rfl, compare_mul_unitsPerOne small admits.2]
      rfl
    | bool b => exact admits.elim
    | _ => cases admits.1
  | real x =>
    obtain ⟨rfl, finite⟩ := suits
    cases s with
    | float y =>
      obtain ⟨_, bounded, kept⟩ := admits
      rw [orderWith_of_units (by decide) rfl kept, present?_toJson_real finite, Scalar.toJson,
        Json.ofDouble, if_pos bounded]
      rfl
    | bool b => exact admits.elim
    | _ => cases admits.1

end Rows

end Sql

end FederatedSearch
