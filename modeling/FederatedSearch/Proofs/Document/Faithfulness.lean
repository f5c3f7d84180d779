import FederatedSearch.Proofs.Document.FilterReading
import FederatedSearch.Proofs.Document.Meaning

/-!
# Filters mean what their predicates say

The filter of a predicate is a document that is read again before it decides on records.
`Conveys` says of a condition, and `Decides` of a filter, that reading succeeds and that what has
been read decides as it should. Every shape that the compiler writes is shown to convey its
meaning, the chains by induction on the predicate: `decides_filterOf`.
-/

namespace FederatedSearch

namespace Document

/-- A condition is accepted, and holds for exactly those values that it is meant for. A present
value is never `null`. -/
def Conveys (condition : Json) (meant : Option Json → Prop) : Prop :=
  ∃ conditions, conditionsOf condition = .ok conditions ∧
    ∀ value, value ≠ some .null → (Condition.allHold value conditions = true ↔ meant value)

/-- A filter is accepted, and is passed by exactly those records that it is meant for. -/
def Decides (filter : Json) (meant : Record → Prop) : Prop :=
  ∃ accepted, Filter.ofJson filter = .ok accepted ∧
    ∀ record : Record, accepted.matches record = true ↔ meant record

/-- What a filter decides may be said in other words. -/
theorem Decides.congr {filter : Json} {meant other : Record → Prop} (decided : Decides filter meant)
    (same : ∀ record, meant record ↔ other record) : Decides filter other := by
  obtain ⟨accepted, read, agrees⟩ := decided
  exact ⟨accepted, read, fun record => (agrees record).trans (same record)⟩

/-! ## Scalars -/

section Scalars

variable {v : Literal} {s : Scalar}

/-- A scalar has the JSON form of the literal that it was taken from. -/
theorem toJson_of_scalar (taken : v.scalar = .ok s) : v.toJson = s.toJson := by
  cases v <;> cases taken <;> rfl

/-- No literal with a scalar stands for presence. -/
theorem isExists_of_scalar (taken : v.scalar = .ok s) : v.isExists = false := by
  cases v <;> cases taken <;> rfl

/-- The JSON form of a scalar has no parts. -/
theorem isAtom_toJson (s : Scalar) : s.toJson.IsAtom := by
  cases s with
  | float x =>
    rw [Scalar.toJson, Json.ofDouble]
    generalize x.isFinite = finite
    cases finite <;> exact True.intro
  | string t => exact True.intro
  | integer n => exact True.intro
  | bool b => exact True.intro

/-- A value is equal to a literal with a scalar when it is the value of that scalar. -/
theorem equals_iff_of_scalar (taken : v.scalar = .ok s) {value : Option Json} :
    v.Equals value ↔ ∃ x ∈ value, x.SameValue s.toJson := by
  simp [Literal.Equals, isExists_of_scalar taken, toJson_of_scalar taken]

/-- A value is among those of some scalars when it is equal to one of their literals. -/
theorem isAmong_toJson {items : List Literal} {scalars : List Scalar}
    (taken : List.Forall₂ (fun item s => item.scalar = .ok s) items scalars)
    (value : Option Json) :
    isAmong value (scalars.map Scalar.toJson) = true ↔ ∃ item ∈ items, item.Equals value := by
  induction taken with
  | nil => cases value <;> simp [isAmong]
  | @cons item s _ _ first _ ih =>
    rw [List.exists_mem_cons_iff, ← ih, equals_iff_of_scalar first]
    cases value with
    | none => simp [isAmong]
    | some x => simp [isAmong, valuesEqual_iff (isAtom_toJson s)]

/-- The scalars of a literal are those of its items, one by one. -/
theorem forall₂_of_scalars {scalars : List Scalar} (taken : v.scalars = .ok scalars) :
    List.Forall₂ (fun item s => item.scalar = .ok s) v.items scalars := by
  cases v with
  | list items => exact mapM_eq_ok_iff.mp taken
  | _ =>
    obtain ⟨s, first, rest⟩ := bind_eq_ok_iff.mp taken
    cases rest
    exact .cons first .nil

end Scalars

/-! ## Conditions -/

/-- How a value stands to a literal: below it, level with it or above it. -/
def Stands (value : Option Json) (v : Literal) : Ordering → Prop
  | .lt => v.Exceeds value
  | .eq => v.Equals value
  | .gt => v.FallsShortOf value

/-- An atom stands for equality with it. -/
theorem conditionsOf_atom {value : Json} (atom : value.IsAtom) :
    conditionsOf value = .ok [.eq value] := by
  cases value with
  | array items => exact atom.elim
  | object members => exact atom.elim
  | _ => rfl

section Conditions

variable {v : Literal} {s : Scalar} {meant : Option Json → Prop}

/-- One condition conveys what it holds for. -/
theorem conveys_one {written : Json} {condition : Condition}
    (read : conditionsOf written = .ok [condition])
    (holds : ∀ value, value ≠ some .null → (condition.holds value = true ↔ meant value)) :
    Conveys written meant := by
  refine ⟨[condition], read, fun value present => ?_⟩
  rw [allHold_eq_true_iff, List.forall_mem_singleton]
  exact holds value present

/-- The negation of conditions conveys the negation of what they convey. -/
theorem conveys_not {written : Json} (conveyed : Conveys written meant) :
    Conveys (single "$not" written) fun value => ¬ meant value := by
  obtain ⟨conditions, read, holds⟩ := conveyed
  refine conveys_one (conditionsOf_not read) fun value present => ?_
  simp only [holds_eq]
  rw [Bool.not_eq_true', ← holds value present, Bool.not_eq_true]

/-- The order of an optional value and a bound is that of the value, if there is one. -/
theorem compareWith_eq_some {value : Option Json} {bound : Json} {order : Ordering} :
    compareWith value bound = some order ↔ ∃ x ∈ value, compareValues x bound = some order :=
  Option.bind_eq_some_iff

/-- Equality with the JSON form of a scalar is equality with its literal. -/
theorem holds_eq_toJson (taken : v.scalar = .ok s) (value : Option Json) :
    (Condition.eq s.toJson).holds value = true ↔ v.Equals value := by
  have one : List.Forall₂ (fun item t => item.scalar = .ok t) [v] [s] := .cons taken .nil
  simp only [holds_eq]
  rw [← List.map_singleton, isAmong_toJson one]
  simp

/-- A present value is level with a scalar exactly when it is equal to its literal. -/
theorem compareWith_eq_eq (taken : v.scalar = .ok s) {value : Option Json}
    (present : value ≠ some .null) :
    compareWith value s.toJson = some .eq ↔ v.Equals value := by
  rw [compareWith_eq_some, equals_iff_of_scalar taken]
  refine exists_congr fun x => and_congr_right fun found => ?_
  refine compareValues_eq_eq (isAtom_toJson s) ?_
  rintro rfl
  exact present found

/-- The order of a value and a scalar says how the value stands to the literal. -/
theorem compareWith_eq_some_iff (taken : v.scalar = .ok s) {value : Option Json}
    (present : value ≠ some .null) (order : Ordering) :
    compareWith value s.toJson = some order ↔ Stands value v order := by
  cases order with
  | eq => exact compareWith_eq_eq taken present
  | lt =>
    simp only [compareWith_eq_some, compareValues_eq_lt, Stands, Literal.Exceeds,
      toJson_of_scalar taken]
  | gt =>
    simp only [compareWith_eq_some, compareValues_eq_gt, Stands, Literal.FallsShortOf,
      toJson_of_scalar taken]

/-- What asks for one order holds for the values that stand in it to the literal. -/
theorem holds_strict_toJson (taken : v.scalar = .ok s) {value : Option Json}
    (present : value ≠ some .null) {comparison : Json → Condition} {order : Ordering}
    (strict : ∀ bound, (comparison bound).holds value = (compareWith value bound == some order)) :
    (comparison s.toJson).holds value = true ↔ Stands value v order := by
  rw [strict, beq_iff_eq, compareWith_eq_some_iff taken present]

/-- What asks for one order or equality holds for the values that stand in one of them. -/
theorem holds_weak_toJson (taken : v.scalar = .ok s) {value : Option Json}
    (present : value ≠ some .null) {comparison : Json → Condition} {order : Ordering}
    (weak : ∀ bound, (comparison bound).holds value
      = (compareWith value bound == some order || compareWith value bound == some .eq)) :
    (comparison s.toJson).holds value = true ↔ Stands value v order ∨ v.Equals value := by
  rw [weak, Bool.or_eq_true, beq_iff_eq, beq_iff_eq, compareWith_eq_some_iff taken present,
    compareWith_eq_eq taken present]

/-- Only strings match a pattern. -/
theorem holds_regex (isMatch : String → Bool) (value : Option Json) :
    (Condition.regex isMatch).holds value = true ↔
      ∃ t, value = some (.string t) ∧ isMatch t = true := by
  cases value with
  | none => simp [holds_eq]
  | some x => cases x <;> simp [holds_eq]

/-- The object of a LIKE pattern conveys what the pattern matches. -/
theorem conveys_likeCondition {pattern : String} (taken : v.pattern = .ok pattern) :
    Conveys (likeCondition pattern) v.Resembles := by
  have literal : v = .string pattern := by
    cases v <;> cases taken
    rfl
  refine conveys_one (conditionsOf_likeCondition pattern) fun value _ => ?_
  rw [holds_regex, literal]
  constructor
  · rintro ⟨t, found, matched⟩
    exact ⟨t, pattern, _, found, rfl, Like.ofText_toRegexText pattern, matched⟩
  · rintro ⟨t, _, regex, found, ⟨⟩, read, matched⟩
    rw [Like.ofText_toRegexText, Option.some.injEq] at read
    exact ⟨t, found, read ▸ matched⟩

/-- An operator that compares with its operand conveys what the comparison holds for. -/
theorem conveys_valueOperator {operator : String} {comparison : Json → Condition}
    (listed : (operator, comparison) ∈ valueOperators)
    (holds : ∀ value, value ≠ some .null →
      ((comparison s.toJson).holds value = true ↔ meant value)) :
    Conveys (single operator s.toJson) meant :=
  conveys_one (conditionsOf_valueOperator s.toJson (operator, comparison) listed) holds

/-- Every condition that the compiler writes conveys what the comparison says. -/
theorem conveys_condition {op : CompareOp} {written : Json}
    (compiled : condition op v = .ok written) :
    Conveys written fun value => op.Holds value v := by
  cases op with
  | eq =>
    obtain ⟨s, taken, rest⟩ := bind_eq_ok_iff.mp compiled
    cases rest
    exact conveys_one (conditionsOf_atom (isAtom_toJson s)) fun value _ =>
      holds_eq_toJson taken value
  | notEq =>
    obtain ⟨s, taken, rest⟩ := bind_eq_ok_iff.mp compiled
    cases rest
    have listed : ("$ne", Condition.ne) ∈ valueOperators := by simp [valueOperators]
    refine conveys_valueOperator listed fun value _ => ?_
    rw [CompareOp.Holds, ← holds_eq_toJson taken]
    simp only [holds_eq]
    rw [Bool.not_eq_true', Bool.not_eq_true]
  | lt =>
    obtain ⟨s, taken, rest⟩ := bind_eq_ok_iff.mp compiled
    cases rest
    exact conveys_valueOperator (by simp [valueOperators]) fun value present =>
      holds_strict_toJson taken present fun bound => holds_eq value (.lt bound)
  | gt =>
    obtain ⟨s, taken, rest⟩ := bind_eq_ok_iff.mp compiled
    cases rest
    exact conveys_valueOperator (by simp [valueOperators]) fun value present =>
      holds_strict_toJson taken present fun bound => holds_eq value (.gt bound)
  | lte =>
    obtain ⟨s, taken, rest⟩ := bind_eq_ok_iff.mp compiled
    cases rest
    exact conveys_valueOperator (by simp [valueOperators]) fun value present =>
      holds_weak_toJson taken present fun bound => holds_eq value (.lte bound)
  | gte =>
    obtain ⟨s, taken, rest⟩ := bind_eq_ok_iff.mp compiled
    cases rest
    exact conveys_valueOperator (by simp [valueOperators]) fun value present =>
      holds_weak_toJson taken present fun bound => holds_eq value (.gte bound)
  | isIn =>
    obtain ⟨scalars, taken, rest⟩ := bind_eq_ok_iff.mp compiled
    cases rest
    refine conveys_one (conditionsOf_listOperator _ ("$in", .isIn) (by simp [listOperators])) ?_
    intro value _
    simp only [holds_eq]
    rw [isAmong_toJson (forall₂_of_scalars taken)]
    rfl
  | notIn =>
    obtain ⟨scalars, taken, rest⟩ := bind_eq_ok_iff.mp compiled
    cases rest
    refine conveys_one (conditionsOf_listOperator _ ("$nin", .notIn) (by simp [listOperators])) ?_
    intro value _
    simp only [holds_eq]
    rw [Bool.not_eq_true', CompareOp.Holds,
      ← isAmong_toJson (forall₂_of_scalars taken), Bool.not_eq_true]
  | like =>
    obtain ⟨pattern, taken, rest⟩ := bind_eq_ok_iff.mp compiled
    cases rest
    exact conveys_likeCondition taken
  | notLike =>
    obtain ⟨pattern, taken, rest⟩ := bind_eq_ok_iff.mp compiled
    cases rest
    exact conveys_not (conveys_likeCondition taken)

/-- Asking for presence conveys what equality with the name for presence says. -/
theorem conveys_exists (presence : v.isExists = true) (wanted : Bool) :
    Conveys (single "$exists" (.bool wanted)) fun value => v.Equals value ↔ wanted = true := by
  refine conveys_one (conditionsOf_exists wanted) fun value _ => ?_
  simp only [holds_eq]
  rw [beq_iff_eq]
  cases wanted <;> cases value <;> simp [Literal.Equals, presence]

/-- The two bounds of a range convey that a value lies between them. -/
theorem conveys_range {low high : Literal} {s t : Scalar} (lower : low.scalar = .ok s)
    (upper : high.scalar = .ok t) :
    Conveys (.object [("$gte", s.toJson), ("$lte", t.toJson)]) fun value =>
      CompareOp.gte.Holds value low ∧ CompareOp.lte.Holds value high := by
  refine ⟨_, conditionsOf_range s.toJson t.toJson, fun value present => ?_⟩
  rw [allHold_eq_true_iff, List.forall_mem_cons, List.forall_mem_singleton,
    holds_weak_toJson lower present fun bound => holds_eq value (.gte bound),
    holds_weak_toJson upper present fun bound => holds_eq value (.lte bound)]
  rfl

end Conditions

/-! ## Filters -/

section Filters

/-- A condition on a field decides by the value of that field. -/
theorem decides_single {field : String} {written : Json} {meant : Option Json → Prop}
    (unreserved : field.toList.head? ≠ some '$') (conveyed : Conveys written meant) :
    Decides (single field written) fun record => meant (record.lookup field) := by
  obtain ⟨conditions, read, holds⟩ := conveyed
  refine ⟨.field field conditions, ofJson_single_field unreserved read, fun record => ?_⟩
  exact holds _ (record.lookup_ne_null field)

/-- Filters that each decide are read one by one. -/
theorem itemsOf_of_decides {ps : List Predicate} {filters : List Json}
    (decided : List.Forall₂ (fun p filter => Decides filter p.Holds) ps filters) :
    ∃ accepted, Filter.itemsOf filters = .ok accepted ∧ ∀ record : Record,
      List.Forall₂ (fun p filter => filter.matches record = true ↔ p.Holds record) ps accepted := by
  induction decided with
  | nil => exact ⟨[], rfl, fun _ => .nil⟩
  | cons first _ ih =>
    obtain ⟨filter, read, agrees⟩ := first
    obtain ⟨more, readMore, agree⟩ := ih
    refine ⟨filter :: more, ?_, fun record => .cons (agrees record) (agree record)⟩
    rw [Filter.itemsOf, read, readMore]
    rfl

/-- A chain of AND decides whether each of its operands holds. -/
theorem decides_and {ps : List Predicate} {filters : List Json}
    (decided : List.Forall₂ (fun p filter => Decides filter p.Holds) ps filters) :
    Decides (single "$and" (.array filters)) fun record => ∀ p ∈ ps, p.Holds record := by
  obtain ⟨accepted, read, agree⟩ := itemsOf_of_decides decided
  refine ⟨.all accepted, ofJson_single_and read, fun record => ?_⟩
  exact allMatch_eq_true_iff.trans (forall_mem_iff_of_forall₂ (agree record))

/-- A chain of OR decides whether one of its operands holds. -/
theorem decides_or {ps : List Predicate} {filters : List Json}
    (decided : List.Forall₂ (fun p filter => Decides filter p.Holds) ps filters) :
    Decides (single "$or" (.array filters)) fun record => ∃ p ∈ ps, p.Holds record := by
  obtain ⟨accepted, read, agree⟩ := itemsOf_of_decides decided
  refine ⟨.any accepted, ofJson_single_or read, fun record => ?_⟩
  exact anyMatches_eq_true_iff.trans (exists_mem_iff_of_forall₂ (agree record))

/-- The filter of a comparison decides what the comparison says of its field. -/
theorem decides_comparison {field : String} {op : CompareOp} {v : Literal} {filter : Json}
    (unreserved : field.toList.head? ≠ some '$') (compiled : comparison field op v = .ok filter) :
    Decides filter (Predicate.compare field op v).Holds := by
  unfold comparison at compiled
  split at compiled
  · rename_i presence
    split at compiled
    · cases compiled
      exact (decides_single unreserved (conveys_exists presence true)).congr fun record =>
        iff_true_right rfl
    · cases compiled
      exact (decides_single unreserved (conveys_exists presence false)).congr fun record =>
        iff_false_right Bool.false_ne_true
    · cases compiled
  · obtain ⟨written, condition, rest⟩ := bind_eq_ok_iff.mp compiled
    cases rest
    exact decides_single unreserved (conveys_condition condition)

/-- The filter of a range decides whether the value of its field lies in the range. -/
theorem decides_range {field : String} {low high : Literal} {filter : Json}
    (unreserved : field.toList.head? ≠ some '$') (compiled : range field low high = .ok filter) :
    Decides filter (Predicate.between field low high).Holds := by
  obtain ⟨s, lower, rest⟩ := bind_eq_ok_iff.mp compiled
  obtain ⟨t, upper, rest⟩ := bind_eq_ok_iff.mp rest
  cases rest
  exact decides_single unreserved (conveys_range lower upper)

/-- A conjunction becomes the filter of its flattened operands. -/
theorem filterOf_and (left right : Predicate) :
    filterOf (.and left right) = do
      let filters ← ((Predicate.and left right).operands .and).mapM filterOf
      return single "$and" (.array filters) := by
  rw [filterOf]
  simp

/-- A disjunction becomes the filter of its flattened operands. -/
theorem filterOf_or (left right : Predicate) :
    filterOf (.or left right) = do
      let filters ← ((Predicate.or left right).operands .or).mapM filterOf
      return single "$or" (.array filters) := by
  rw [filterOf]
  simp

/-- The operands of a chain are compiled one by one. -/
theorem forall₂_decides {p : Predicate} {c : Connective} {filters : List Json}
    (ih : ∀ q ∈ p.operands c, ∀ {filter : Json},
      (∀ field ∈ q.fields, field.toList.head? ≠ some '$') → filterOf q = .ok filter →
        Decides filter q.Holds)
    (unreserved : ∀ field ∈ p.fields, field.toList.head? ≠ some '$')
    (compiled : (p.operands c).mapM filterOf = .ok filters) :
    List.Forall₂ (fun q filter => Decides filter q.Holds) (p.operands c) filters := by
  have each : ∀ q ∈ p.operands c, ∀ filter, filterOf q = .ok filter → Decides filter q.Holds :=
    fun q member filter => ih q member fun field inside =>
      unreserved field (Predicate.fields_subset_of_mem_operands member inside)
  exact ((List.forall₂_and_left ..).mpr ⟨each, mapM_eq_ok_iff.mp compiled⟩).imp
    fun q filter both => both.1 filter both.2

/-- The filter of a predicate is accepted and passed by exactly the records that the predicate
holds for. -/
theorem decides_filterOf (p : Predicate) {filter : Json}
    (unreserved : ∀ field ∈ p.fields, field.toList.head? ≠ some '$')
    (compiled : filterOf p = .ok filter) : Decides filter p.Holds := by
  induction p using filterOf.induct generalizing filter with
  | case1 left right ih =>
    rw [filterOf_and] at compiled
    obtain ⟨filters, operands, rest⟩ := bind_eq_ok_iff.mp compiled
    cases rest
    exact (decides_and (forall₂_decides ih unreserved operands)).congr fun record =>
      (Predicate.trueUnder_iff_forall_operands _).symm
  | case2 left right ih =>
    rw [filterOf_or] at compiled
    obtain ⟨filters, operands, rest⟩ := bind_eq_ok_iff.mp compiled
    cases rest
    exact (decides_or (forall₂_decides ih unreserved operands)).congr fun record =>
      (Predicate.trueUnder_iff_exists_operand _).symm
  | case3 inner ih =>
    rw [filterOf] at compiled
    exact ih unreserved compiled
  | case4 field low high =>
    rw [filterOf] at compiled
    exact decides_range (unreserved field (by simp [Predicate.fields])) compiled
  | case5 field op value =>
    rw [filterOf] at compiled
    exact decides_comparison (unreserved field (by simp [Predicate.fields])) compiled

end Filters

/-! ## Queries -/

/-- The filter of a compiled query is accepted, and the records that pass it are exactly those
that the predicate of the query holds for. -/
theorem matches_compile_iff (q : FederatedSearch.Query) (compiled : Query)
    (written : compile q = .ok compiled)
    (unreserved : ∀ field ∈ q.predicate.fields, field.toList.head? ≠ some '$') :
    ∃ filter, Filter.ofJson compiled.filter = .ok filter ∧
      ∀ record : Record, filter.matches record = true ↔ q.predicate.Holds record := by
  obtain ⟨filter, predicate, rest⟩ := bind_eq_ok_iff.mp written
  cases rest
  exact decides_filterOf q.predicate unreserved predicate

/-- Negations, presence and nested groups come together in one filter. -/
theorem matches_compile_iff_nested :
    let p : Predicate := .and (.compare "tags" .notLike (.string "%dns"))
      (.paren (.or (.compare "port" .lte (.integer 100))
        (.compare "geo.ip" .notEq (.column "exist"))))
    ∃ compiled, compile ⟨"d", p, [], 0, 500⟩ = .ok compiled ∧
      (∀ field ∈ p.fields, field.toList.head? ≠ some '$') ∧
      ∃ filter, Filter.ofJson compiled.filter = .ok filter ∧
        ∀ record : Record, filter.matches record = true ↔ p.Holds record := by
  intro p
  have written : ∃ compiled, compile ⟨"d", p, [], 0, 500⟩ = .ok compiled := by
    simp [p, compile, filterOf, comparison, condition, Predicate.operands, Predicate.isJoinedBy,
      Literal.isExists, Literal.scalar, Literal.pattern, existsName, bind, Except.bind, pure,
      Except.pure]
  have unreserved : ∀ field ∈ p.fields, field.toList.head? ≠ some '$' := by
    simp [p, Predicate.fields]
  obtain ⟨compiled, written⟩ := written
  exact ⟨compiled, written, unreserved, matches_compile_iff _ compiled written unreserved⟩

/-- A literal that is too large for a double has no JSON form but `null`, which bounds nothing:
5 lies strictly below it, and yet does not pass. -/
theorem infinite_bound_excludes_numbers :
    let bound : Double := ⟨false, Double.infiniteMagnitude⟩
    let record : Record := ⟨[("a", .number (.integer 5))]⟩
    ∃ compiled filter,
      compile ⟨"d", .compare "a" .lt (.float bound), [], 0, 500⟩ = .ok compiled ∧
        Filter.ofJson compiled.filter = .ok filter ∧
        record.lookup "a" = some (.number (.integer 5)) ∧
        (Json.Number.integer 5).toDouble.units < bound.units ∧
        filter.matches record = false := by
  intro bound record
  have infinite : bound.isFinite = false := by
    simp [bound, Double.isFinite]
  have form : (Scalar.float bound).toJson = .null := by
    rw [Scalar.toJson, Json.ofDouble, infinite]
    rfl
  have written : filterOf (.compare "a" .lt (.float bound)) =
      .ok (single "a" (single "$lt" .null)) := by
    rw [← form]
    simp [filterOf, comparison, condition, Literal.isExists, Literal.scalar, bind, Except.bind,
      pure, Except.pure]
  refine ⟨⟨single "a" (single "$lt" .null), [], 0, 500⟩, .field "a" [.lt .null], ?_, ?_, ?_, ?_, ?_⟩
  · rw [compile, written]
    rfl
  · have listed : ("$lt", Condition.lt) ∈ valueOperators := by simp [valueOperators]
    exact ofJson_single_field (by decide) (conditionsOf_valueOperator .null _ listed)
  · rfl
  · decide +kernel
  · rfl

end Document

end FederatedSearch
