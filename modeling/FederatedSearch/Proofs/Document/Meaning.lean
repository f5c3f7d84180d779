import FederatedSearch.Document.Filter
import FederatedSearch.Document.Query
import FederatedSearch.Proofs.Query.Truth
import Mathlib.Data.String.Basic

/-!
# What a predicate says of a record

`Predicate.Holds` is the meaning of predicates that document stores have to realise, stated
without filters. A leaf speaks of the value at its field. A literal stands for its JSON form, and
two values are compared only when they are numbers, strings or truth values alike; numbers count
by their doubles. A comparison with a negation in its name is the negation of the one without.

Below the definitions stand the laws that tie the comparisons of stored values to them.
-/

namespace FederatedSearch

namespace Json

/-- Equality of values: numbers by their doubles, all else exactly. -/
def SameValue : Json → Json → Prop
  | number m, number n => m.toDouble.units = n.toDouble.units
  | x, y => x = y

/-- A value lies strictly below another one of its kind. -/
def Below : Json → Json → Prop
  | number m, number n => m.toDouble.units < n.toDouble.units
  | string s, string t => s < t
  | bool a, bool b => a = false ∧ b = true
  | _, _ => False

/-- A value without parts: neither an array nor an object. -/
def IsAtom : Json → Prop
  | array _ => False
  | object _ => False
  | _ => True

end Json

namespace Literal

/-- The literals that a comparison with a list ranges over. -/
def items : Literal → List Literal
  | list items => items
  | value => [value]

/-- A value is present and, unless the literal asks for no more, equal to it. -/
def Equals (v : Literal) (value : Option Json) : Prop :=
  ∃ x ∈ value, v.isExists = true ∨ x.SameValue v.toJson

/-- A value is present and strictly below the literal. -/
def Exceeds (v : Literal) (value : Option Json) : Prop :=
  ∃ x ∈ value, x.Below v.toJson

/-- A value is present and strictly above the literal. -/
def FallsShortOf (v : Literal) (value : Option Json) : Prop :=
  ∃ x ∈ value, v.toJson.Below x

/-- A string is present that the regular expression of a LIKE pattern matches. -/
def Resembles (v : Literal) (value : Option Json) : Prop :=
  ∃ s pattern regex, value = some (.string s) ∧ v = string pattern ∧
    Regex.ofTextIgnoringCase? (Like.toRegexText pattern) = some regex ∧ regex.isMatch s = true

end Literal

/-- What a comparison with a literal says of the value of a field. -/
def CompareOp.Holds (value : Option Json) (v : Literal) : CompareOp → Prop
  | eq => v.Equals value
  | notEq => ¬ v.Equals value
  | lt => v.Exceeds value
  | gt => v.FallsShortOf value
  | lte => v.Exceeds value ∨ v.Equals value
  | gte => v.FallsShortOf value ∨ v.Equals value
  | isIn => ∃ item ∈ v.items, item.Equals value
  | notIn => ¬ ∃ item ∈ v.items, item.Equals value
  | like => v.Resembles value
  | notLike => ¬ v.Resembles value

namespace Predicate

/-- What a leaf says of a record. Connectives are no leaves. -/
def LeafHolds (r : Record) : Predicate → Prop
  | compare field op v => op.Holds (r.lookup field) v
  | between field low high =>
    CompareOp.gte.Holds (r.lookup field) low ∧ CompareOp.lte.Holds (r.lookup field) high
  | _ => False

/-- What a predicate says of a record. -/
def Holds (p : Predicate) (r : Record) : Prop :=
  p.TrueUnder (LeafHolds r)

end Predicate

/-! ## Records -/

/-- The value at a path is never `null`. -/
theorem Record.lookup_ne_null (r : Record) (path : String) : r.lookup path ≠ some .null := by
  have present : ∀ {value : Option Json}, value.bind Json.present? ≠ some .null := by
    rintro (_ | value) found
    · cases found
    · cases value <;> cases found
  unfold Record.lookup
  split
  · rename_i value found
    rintro same
    exact present (found.trans same)
  · exact present

/-! ## Comparisons of stored values -/

namespace Document

/-- Stored values are compared with an atom as what they are. -/
theorem valuesEqual_iff {x y : Json} (atom : y.IsAtom) :
    valuesEqual x y = true ↔ x.SameValue y := by
  cases y with
  | null => cases x <;> simp [valuesEqual, Json.equal, Json.SameValue]
  | bool b => cases x <;> simp [valuesEqual, Json.equal, Json.SameValue]
  | number n => cases x <;> simp [valuesEqual, Json.equal, Json.SameValue, Double.equal]
  | string t => cases x <;> simp [valuesEqual, Json.equal, Json.SameValue]
  | array items => exact atom.elim
  | object members => exact atom.elim

/-- A present value is in the middle of the order exactly when it is the same value. -/
theorem compareValues_eq_eq {x y : Json} (atom : y.IsAtom) (present : x ≠ .null) :
    compareValues x y = some .eq ↔ x.SameValue y := by
  cases y with
  | null => cases x <;> simp_all [compareValues, Json.SameValue]
  | bool b => cases x <;> simp [compareValues, Json.SameValue]
  | number n =>
    cases x <;> simp [compareValues, Json.SameValue, Double.order]
  | string t => cases x <;> simp [compareValues, Json.SameValue]
  | array items => exact atom.elim
  | object members => exact atom.elim

/-- The order of stored values finds a value below another one exactly when it is. -/
theorem compareValues_eq_lt {x y : Json} : compareValues x y = some .lt ↔ x.Below y := by
  cases x with
  | number m => cases y <;> simp [compareValues, Json.Below, Double.order, Int.compare_eq_lt]
  | string s => cases y <;> simp [compareValues, Json.Below, Std.LawfulLTCmp.eq_lt_iff_lt]
  | bool a =>
    cases y with
    | bool b =>
      simp only [compareValues, Json.Below]
      cases a <;> cases b <;> decide
    | _ => simp [compareValues, Json.Below]
  | _ => simp [compareValues, Json.Below]

/-- Exchanging two stored values turns their order around. -/
theorem swap_compareValues (x y : Json) :
    (compareValues x y).map Ordering.swap = compareValues y x := by
  cases x with
  | number m => cases y <;> simp [compareValues, Double.order, Int.compare_swap]
  | string s => cases y <;> simp [compareValues, ← Std.OrientedCmp.eq_swap]
  | bool a =>
    cases y with
    | bool b => cases a <;> cases b <;> rfl
    | _ => rfl
  | _ => cases y <;> rfl

/-- The order of stored values finds a value above another one exactly when it is. -/
theorem compareValues_eq_gt {x y : Json} : compareValues x y = some .gt ↔ y.Below x := by
  rw [← compareValues_eq_lt, ← swap_compareValues x y]
  cases compareValues x y with
  | none => simp
  | some order => cases order <;> simp

end Document

end FederatedSearch
