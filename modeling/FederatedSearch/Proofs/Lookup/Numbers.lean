import FederatedSearch.Proofs.Lookup.NumberTexts
import FederatedSearch.Proofs.Query.Paging

/-!
# Looking numbers up

A collection of documents compares numbers by value. A store that is asked for one value is asked
for the text of a number as queries write it, and knows its records by the text of the stored number
as JSON writes it. `Json.Number.IsWrittenLike` says of numbers of one value when these two texts
are the same, which is when a record that the collection finds is found by its value too.
-/

namespace FederatedSearch

namespace Json.Number

/-- The literal that a number is in a query. -/
def literal : Number → Literal
  | integer n => .integer n
  | double x => .float x

/-- A number that a query or a record can have: a double is one of the format. -/
def IsFormat : Number → Prop
  | integer _ => True
  | double x => Double.IsFormat x.magnitude

/-- When a query writes a number like JSON writes a stored number of its value. Integers are only
written like themselves. A double is written like an integer unless it is a zero with a sign or,
from `2 ^ 53` on, its shortest decimal is another integer. It is written like a stored double only
if it has a fraction, no exponent in JSON, and but one nearest decimal. -/
def IsWrittenLike : Number → Number → Prop
  | integer m, integer n => m = n
  | integer _, double _ => False
  | double x, integer n =>
    (n = 0 → x.negative = false) ∧
      (2 ^ 53 ≤ n.natAbs → (Double.shortest .away x.magnitude).significand *
        10 ^ (Double.shortest .away x.magnitude).exponent.toNat = n.natAbs)
  | double x, double _ => ¬ Double.unitsPerOne ∣ x.magnitude ∧ x.IsWrittenOut ∧
    Double.shortest .toEven x.magnitude = Double.shortest .away x.magnitude

/-- The text by which a number is looked up. -/
def lookupText : Number → String
  | integer n => toString n
  | double x => x.display

variable {v stored : Number}

/-- A number is looked up as its text for look-ups. -/
theorem literalText_literal (v : Number) : Lookup.literalText v.literal = .ok v.lookupText := by
  cases v <;> rfl

/-- A value is equal to a number if it is a number of that value. An infinite one has none. -/
theorem sameValue_literal_iff {value : Json} (present : value ≠ .null) :
    value.SameValue v.literal.toJson ↔ v.literal.toJson = .number v ∧
      ∃ stored, value = .number stored ∧ stored.toDouble.units = v.toDouble.units := by
  have shape : v.literal.toJson = .number v ∨ v.literal.toJson = .null := by
    cases v with
    | integer n => exact .inl rfl
    | double x =>
      rw [literal, Literal.toJson, Json.ofDouble]
      split
      · exact .inl rfl
      · exact .inr rfl
  obtain form | form := shape
  · rw [form, and_iff_right rfl]
    cases value <;> simp [Json.SameValue]
  · rw [form]
    cases value <;> simp_all [Json.SameValue]

/-- A number is looked up by the text of a stored number of its value exactly when it is written
like that. -/
theorem text_eq_lookupText_iff (format : v.IsFormat) (form : v.literal.toJson = .number v)
    (same : stored.toDouble.units = v.toDouble.units) :
    stored.text = v.lookupText ↔ v.IsWrittenLike stored := by
  cases v with
  | integer m =>
    cases stored with
    | integer n => exact eq_comm.trans Double.toString_inj
    | double y =>
      refine iff_of_false (fun texts => Double.not_isWholeText_jsonText y ?_) id
      exact (show y.jsonText = toString m from texts) ▸ Double.isWholeText_toString m
  | double x =>
    have finite : x.isFinite = true := by
      by_contra infinite
      rw [literal, Literal.toJson, Json.ofDouble, if_neg infinite] at form
      cases form
    cases stored with
    | integer n => exact eq_comm.trans (Double.display_eq_toString_iff format finite same)
    | double y => exact Double.jsonText_eq_display_iff format finite same

end Json.Number

/-! ## Equalities under parentheses -/

namespace Predicate

/-- The compiler of look-ups passes over parentheses. -/
theorem lookup_compile_bare (field : String) (p : Predicate) :
    Lookup.compile field p = Lookup.compile field p.bare := by
  induction p with
  | paren inner ih => exact ih
  | _ => rfl

/-- The compiler of document filters passes over parentheses. -/
theorem filterOf_bare (p : Predicate) : Document.filterOf p = Document.filterOf p.bare := by
  induction p with
  | paren inner ih =>
    rw [Document.filterOf]
    exact ih
  | _ => rfl

/-- Parentheses name no fields. -/
theorem fields_bare (p : Predicate) : p.fields = p.bare.fields := by
  induction p with
  | paren inner ih => exact ih
  | _ => rfl

/-- Parentheses do not change which records a predicate holds of. -/
theorem holds_bare_iff (p : Predicate) (r : Record) : p.Holds r ↔ p.bare.Holds r := by
  induction p with
  | paren inner ih => exact ih
  | _ => exact Iff.rfl

end Predicate

/-! ## What a collection and a store find -/

namespace Document

/-- A collection only finds records that pass the filter. -/
theorem mem_of_mem_run {records found : List Record} {q : Query} {filter : Filter} {r : Record}
    (read : Filter.ofJson q.filter = .ok filter) (ran : run records q = .ok found)
    (member : r ∈ found) : r ∈ records ∧ filter.matches r = true := by
  unfold run at ran
  rw [read] at ran
  cases ran
  exact List.mem_filter.mp <| List.mem_mergeSort.mp <| List.mem_of_mem_drop <|
    List.mem_of_mem_take member

end Document

namespace Compiler

open Json (Number)

section Equality

variable {p : Predicate} {q : Query} {field : String} {v : Number} {records : List Record}

/-- An equality with a number has a filter, for the records with a number of this value. -/
theorem exists_filterOf_equality (asked : p.bare = .compare field .eq v.literal)
    (unreserved : field.toList.head? ≠ some '$') :
    ∃ filter, Document.filterOf p = .ok filter ∧ Document.Decides filter fun r =>
      v.literal.toJson = .number v ∧ ∃ stored : Number,
        r.lookup field = some (.number stored) ∧ stored.toDouble.units = v.toDouble.units := by
  have fields : ∀ name ∈ p.fields, name.toList.head? ≠ some '$' := by
    rw [Predicate.fields_bare, asked]
    exact List.forall_mem_singleton.mpr unreserved
  obtain ⟨filter, predicate⟩ : ∃ filter, Document.filterOf p = .ok filter := by
    rw [Predicate.filterOf_bare, asked, Document.filterOf]
    cases v <;> exact ⟨_, rfl⟩
  refine ⟨filter, predicate, (Document.decides_filterOf p fields predicate).congr fun r => ?_⟩
  have named : v.literal.isExists = false := by cases v <;> rfl
  rw [Predicate.holds_bare_iff, asked]
  constructor
  · rintro ⟨value, present, exists_ | same⟩
    · rw [named] at exists_
      cases exists_
    · have nonnull : value ≠ .null := by
        rintro rfl
        exact r.lookup_ne_null field present
      obtain ⟨form, stored, rfl, units⟩ := (Number.sameValue_literal_iff nonnull).mp same
      exact ⟨form, stored, present, units⟩
  · rintro ⟨form, stored, present, units⟩
    exact ⟨_, present, .inr ((Number.sameValue_literal_iff (by rintro ⟨⟩)).mpr
      ⟨form, stored, rfl, units⟩)⟩

/-- What the document compiler and its run find is the answer of the backend. -/
theorem answer_documents_eq {filter : Json} {found : List Record}
    (predicate : Document.filterOf q.predicate = .ok filter)
    (ran : Document.run records
      ⟨filter, q.orderBy.map Document.SortKey.ofQuery, q.offset, q.rowcount⟩ = .ok found) :
    document.answer (.documents records) q = .ok (.ok found) := by
  simp only [answer, compile, Document.compile_of_filterOf predicate]
  exact congrArg Except.ok (by rw [Store.execute, ran])

/-- An equality on the key is answered by what is filed under its text. -/
theorem answer_lookup_eq (asked : q.predicate.bare = .compare field .eq v.literal) :
    (lookup field).answer (.keyValue (.ofRecords field records)) q =
      .ok (.ok ((Lookup.Store.ofRecords field records).find v.lookupText)) := by
  have text : Lookup.compile field q.predicate = .ok v.lookupText := by
    rw [Predicate.lookup_compile_bare, asked, Lookup.compile, if_pos rfl]
    exact v.literalText_literal
  simp only [answer, compile, text]
  exact congrArg Except.ok (Lookup.Store.execute_ofRecords field v.lookupText records)

end Equality

/-- Where a query asks for a number, looking it up finds of the records that a collection finds
those in which the stored number is written like the one of the query, and misses all others. -/
theorem mem_lookup_iff_of_mem_found {q : Query} {field : String} (v : Number)
    (records : List Record) (asked : q.predicate.bare = .compare field .eq v.literal)
    (unreserved : field.toList.head? ≠ some '$') (format : v.IsFormat) :
    ∃ found all, document.answer (.documents records) q = .ok (.ok found) ∧
      (lookup field).answer (.keyValue (.ofRecords field records)) q = .ok (.ok all) ∧
      ∀ r ∈ found, ∃ stored : Number, r.lookup field = some (.number stored) ∧
        stored.toDouble.units = v.toDouble.units ∧ (r ∈ all ↔ v.IsWrittenLike stored) := by
  obtain ⟨filter, predicate, accepted, read, agrees⟩ := exists_filterOf_equality asked unreserved
  obtain ⟨found, ran⟩ : ∃ found, Document.run records
      ⟨filter, q.orderBy.map Document.SortKey.ofQuery, q.offset, q.rowcount⟩ = .ok found := by
    rw [Document.run, read]
    exact ⟨_, rfl⟩
  refine ⟨found, _, answer_documents_eq predicate ran, answer_lookup_eq asked, fun r member => ?_⟩
  obtain ⟨listed, passes⟩ := Document.mem_of_mem_run read ran member
  obtain ⟨form, stored, present, same⟩ := (agrees r).mp passes
  refine ⟨stored, present, same, ?_⟩
  rw [Lookup.Store.mem_find_ofRecords, and_iff_right listed,
    ← Number.text_eq_lookupText_iff format form same, present]
  simp [Json.plainText, Json.compact]

/-- Of a double, an integer, and a text that look the same, two have the value that is asked for. -/
theorem mem_lookup_iff_of_mem_found_two :
    let v : Number := .double (.ofNat 2)
    let records : List Record := [⟨[("f", .number (.double (.ofNat 2)))]⟩,
      ⟨[("f", .number (.integer 2))]⟩, ⟨[("f", .string "2")]⟩]
    let q : Query := ⟨"d", .paren (.compare "f" .eq v.literal), [⟨"f", true⟩], 0, 500⟩
    q.predicate.bare = .compare "f" .eq v.literal ∧ "f".toList.head? ≠ some '$' ∧ v.IsFormat ∧
    ∃ found all, document.answer (.documents records) q = .ok (.ok found) ∧
      (lookup "f").answer (.keyValue (.ofRecords "f" records)) q = .ok (.ok all) ∧
      ∀ r ∈ found, ∃ stored : Number, r.lookup "f" = some (.number stored) ∧
        stored.toDouble.units = v.toDouble.units ∧ (r ∈ all ↔ v.IsWrittenLike stored) := by
  intro v records q
  have format : v.IsFormat := ⟨1, 1075, by decide, by decide +kernel⟩
  exact ⟨rfl, by decide, format,
    mem_lookup_iff_of_mem_found v records rfl (by decide) format⟩

/-- The record with 2.0 is found by `f = 2.0` in a collection. Looking 2.0 up asks for `2`, and the
record is filed under `2.0`. -/
theorem mem_found_and_not_mem_lookup_two :
    let r : Record := ⟨[("f", .number (.double (.ofNat 2)))]⟩
    let q : Query := ⟨"d", .compare "f" .eq (.float (.ofNat 2)), [], 0, 500⟩
    document.answer (.documents [r]) q = .ok (.ok [r]) ∧
      (lookup "f").answer (.keyValue (.ofRecords "f" [r])) q = .ok (.ok []) := by
  intro r q
  have asked : q.predicate.bare = .compare "f" .eq (Number.double (.ofNat 2)).literal := rfl
  have stored : r.lookup "f" = some (.number (.double (.ofNat 2))) := rfl
  constructor
  · obtain ⟨filter, predicate, accepted, read, agrees⟩ :=
      exists_filterOf_equality asked (by decide)
    have finite : (Double.ofNat 2).isFinite = true := by decide +kernel
    have form : (Number.double (.ofNat 2)).literal.toJson = .number (.double (.ofNat 2)) := by
      rw [Number.literal, Literal.toJson, Json.ofDouble, if_pos finite]
    have passes : accepted.matches r = true := (agrees r).mpr ⟨form, _, stored, rfl⟩
    let whole : Document.Query := ⟨filter, [], 0, 500⟩
    obtain ⟨found, ran, order⟩ : ∃ found, Document.run [r] whole = .ok found ∧ _ :=
      Document.run_eq_ok_of_le read rfl (show 1 ≤ 500 by decide)
    rw [List.filter_cons, if_pos passes, List.filter_nil, List.perm_singleton] at order
    rw [answer_documents_eq predicate ran, order]
  · have filed : (Double.ofNat 2).jsonText = "2.0" := by decide +kernel
    have text : (Double.ofNat 2).display = "2" := by decide +kernel
    have entries : Lookup.Store.ofRecords "f" [r] = ⟨"f", [("2.0", r)]⟩ := by
      simp only [Lookup.Store.ofRecords, List.filterMap, stored, Option.map_some, Json.plainText,
        Json.compact, Number.text, filed]
    rw [answer_lookup_eq asked, entries, Number.lookupText, text]
    rfl

end Compiler

end FederatedSearch
