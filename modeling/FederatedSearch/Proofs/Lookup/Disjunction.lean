import FederatedSearch.Proofs.Document.Decomposition
import FederatedSearch.Store

/-!
# Looking values up one by one

A store that is asked for one value answers a disjunction of equalities of its field when it is
asked for each of the values. `Predicate.AsksFor` names the values that such a predicate asks for.
On its way to the store the predicate is split into one equality for each value, which finds the
records with that value; a collection of documents evaluates the whole predicate, which holds for
the records with one of the values.
-/

namespace FederatedSearch

namespace Predicate

/-- A predicate asks for some texts in a field: by equalities and lists of strings, joined by OR
under any parentheses. -/
inductive AsksFor (field : String) : Predicate → List String → Prop
  | equality (s : String) : AsksFor field (compare field .eq (.string s)) [s]
  | membership (texts : List String) :
    AsksFor field (compare field .isIn (.list (texts.map .string))) texts
  | or {left right : Predicate} {texts more : List String} (first : AsksFor field left texts)
    (second : AsksFor field right more) : AsksFor field (or left right) (texts ++ more)
  | paren {inner : Predicate} {texts : List String} (within : AsksFor field inner texts) :
    AsksFor field (paren inner) texts

/-- The equality of a field with a text. -/
def asks (field s : String) : Predicate :=
  compare field .eq (.string s)

/-- Only a string is equal to a text. -/
theorem equals_string_iff {s : String} {value : Option Json} :
    (Literal.string s).Equals value ↔ value = some (.string s) := by
  have same : ∀ x : Json, x.SameValue (.string s) ↔ x = .string s := by
    intro x
    cases x <;> simp [Json.SameValue]
  simp [Literal.Equals, Literal.isExists, Literal.toJson, same]

namespace AsksFor

variable {field : String} {p : Predicate} {texts : List String}

/-- What asks for texts on a key is a disjunction. -/
theorem isDisjunction (asked : AsksFor field p texts) : p.IsDisjunction := by
  induction asked with
  | equality s => trivial
  | membership texts => trivial
  | or _ _ first second => exact ⟨first, second⟩
  | paren _ within => exact within

/-- What asks for texts on a key unpacks to one equality for each. -/
theorem unpackedLeaves_eq (asked : AsksFor field p texts) :
    p.unpackedLeaves = texts.map (asks field) := by
  induction asked with
  | equality s => rfl
  | membership texts =>
    rw [unpackedLeaves_compare, unpacked, List.map_map]
    rfl
  | or _ _ first second => rw [unpackedLeaves_or, first, second, List.map_append]
  | paren _ within => exact within

/-- There is no range to be stripped. -/
theorem stripDatetime_eq (asked : AsksFor field p texts) : p.stripDatetime = some p := by
  induction asked with
  | equality s => rfl
  | membership texts => rfl
  | or _ _ _ _ => rfl
  | paren _ within => rw [stripDatetime, within, Option.map_some]

/-- It is split into one equality for each text. -/
theorem split_eq (asked : AsksFor field p texts) : p.split = .ok (texts.map (asks field)) := by
  have taken := disjuncts_eq_ok_iff.mpr ⟨asked.isDisjunction, asked.unpackedLeaves_eq.symm⟩
  induction asked with
  | equality s => exact taken
  | membership texts => exact taken
  | or _ _ _ _ => exact taken
  | paren _ within => exact within taken

/-- What asks for texts on a key names no other field. -/
theorem eq_of_mem_fields (asked : AsksFor field p texts) : ∀ name ∈ p.fields, name = field := by
  induction asked with
  | equality s => exact fun _ => List.mem_singleton.mp
  | membership texts => exact fun _ => List.mem_singleton.mp
  | or _ _ first second =>
    exact fun name inside => (List.mem_append.mp inside).elim (first name) (second name)
  | paren _ within => exact within

/-- It holds for the records with one of the texts. -/
theorem holds_iff (asked : AsksFor field p texts) (r : Record) :
    p.Holds r ↔ ∃ s ∈ texts, r.lookup field = some (.string s) := by
  have lists : ListsAreEqualities (LeafHolds r) := fun _ _ => Iff.rfl
  rw [Holds, asked.isDisjunction.trueUnder_iff lists, asked.unpackedLeaves_eq]
  simp only [List.mem_map, exists_exists_and_eq_and]
  exact exists_congr fun s => and_congr_right fun _ => equals_string_iff

/-- It has a filter. -/
theorem exists_filterOf (asked : AsksFor field p texts) :
    ∃ filter, Document.filterOf p = .ok filter := by
  rw [Document.exists_filterOf_iff]
  induction asked with
  | equality s =>
    refine List.forall_mem_singleton.mpr ⟨Document.single field (.string s), ?_⟩
    rw [Document.filterOf]
    rfl
  | membership texts =>
    obtain ⟨scalars, taken⟩ : ∃ scalars,
        (texts.map Literal.string).mapM Literal.scalar = .ok scalars :=
      exists_mapM_eq_ok_iff.mpr (List.forall_mem_map.mpr fun s _ => ⟨.string s, rfl⟩)
    refine List.forall_mem_singleton.mpr
      ⟨Document.single field (Document.single "$in" (.array (scalars.map Scalar.toJson))), ?_⟩
    simp [Document.filterOf, Document.comparison, Document.condition, Literal.isExists,
      Literal.scalars, taken, bind, Except.bind, pure, Except.pure]
  | or _ _ first second => exact List.forall_mem_append.mpr ⟨first, second⟩
  | paren _ within => exact within

end AsksFor

end Predicate

/-! ## What the stores find -/

namespace Lookup.Store

/-- A text finds the records in which the value of the field has this text. -/
theorem mem_find_ofRecords {field s : String} {records : List Record} {r : Record} :
    r ∈ (ofRecords field records).find s ↔
      r ∈ records ∧ ∃ value, r.lookup field = some value ∧ value.plainText = s := by
  simp only [find, ofRecords, List.mem_filterMap, Option.map_eq_some_iff]
  constructor
  · rintro ⟨_, ⟨r, stored, value, present, rfl⟩, found⟩
    split at found
    · rename_i same
      cases found
      exact ⟨stored, value, present, same⟩
    · cases found
  · rintro ⟨stored, value, present, same⟩
    exact ⟨_, ⟨r, stored, value, present, rfl⟩, if_pos same⟩

/-- Among records with nothing but strings in the field, it finds those with this string. -/
theorem mem_find_ofRecords_string {field s : String} {records : List Record}
    (strings : ∀ r ∈ records, ∀ value, r.lookup field = some value → ∃ t, value = .string t)
    {r : Record} :
    r ∈ (ofRecords field records).find s ↔
      r ∈ records ∧ r.lookup field = some (.string s) := by
  rw [mem_find_ofRecords]
  refine and_congr_right fun stored => ⟨?_, fun present => ⟨_, present, rfl⟩⟩
  rintro ⟨value, present, same⟩
  obtain ⟨t, rfl⟩ := strings r stored value present
  cases same
  exact present

/-- A store that is asked for a text by its field answers. -/
theorem execute_ofRecords (field s : String) (records : List Record) :
    (FederatedSearch.Store.keyValue (ofRecords field records)).execute (.lookup field s) =
      .ok ((ofRecords field records).find s) :=
  if_pos rfl

end Lookup.Store

namespace Document

/-- No more records pass a filter than there are. -/
theorem length_sortRecords_filter_le (keys : List SortKey) (records : List Record)
    (passes : Record → Bool) :
    (sortRecords keys (records.filter passes)).length ≤ records.length := by
  rw [sortRecords, List.length_mergeSort]
  exact List.length_filter_le _ _

/-- A collection that is asked for everything that passes a filter yields it all, in some order. -/
theorem run_eq_ok_of_le {records : List Record} {q : Query} {filter : Filter}
    (read : Filter.ofJson q.filter = .ok filter) (start : q.skip = 0)
    (room : records.length ≤ q.limit) :
    ∃ found, run records q = .ok found ∧ found.Perm (records.filter (filter.matches ·)) := by
  refine ⟨sortRecords q.sort (records.filter (filter.matches ·)), ?_, List.mergeSort_perm _ _⟩
  have fits : (sortRecords q.sort (records.filter (filter.matches ·))).length ≤ q.limit :=
    (length_sortRecords_filter_le ..).trans room
  rw [run, read, start]
  exact congrArg Except.ok (List.take_of_length_le fits)

end Document

/-! ## Both ways -/

namespace Query

/-- A source without AND, OR and IN runs one equality for each text that a query asks for. -/
theorem specialize_of_asksFor {q : Query} {field : String} {texts : List String}
    (asked : q.predicate.AsksFor field texts) (hasDatetime : Bool) (table : Renaming) :
    q.specialize ⟨hasDatetime, table, false⟩ =
      .ok (texts.map fun s => q.adapted table (Predicate.asks field s)) := by
  refine specialize_split_eq_ok_iff.mpr ⟨q.predicate, ?_, _, asked.split_eq, List.map_map ..⟩
  unfold visiblePredicate
  rw [asked.stripDatetime_eq]
  cases hasDatetime <;> rfl

/-- An equality with a text compiles to looking up the text. -/
theorem compile_lookup_asks (q : Query) {table : Renaming} {field : String}
    (named : table.apply field = field) (s : String) :
    (Compiler.lookup field).compile (q.adapted table (Predicate.asks field s)) =
      .ok ⟨.lookup field s, []⟩ := by
  rw [Compiler.compile, predicate_adapted, Predicate.asks, Predicate.mapFields, named,
    Lookup.compile, if_pos rfl]
  rfl

/-- A query asks for texts in a field whose values are strings. Looking the texts up one by one and
evaluating the whole predicate both succeed, and they find the same records. -/
theorem mem_lookups_iff_mem_found {field : String} {records : List Record} {q : Query}
    {texts : List String} (hasDatetime : Bool) (table : Renaming)
    (asked : q.predicate.AsksFor field texts) (unreserved : field.toList.head? ≠ some '$')
    (named : table.apply field = field)
    (strings : ∀ r ∈ records, ∀ value, r.lookup field = some value → ∃ s, value = .string s)
    (start : q.offset = 0) (room : records.length ≤ q.rowcount) :
    ∃ parts results compiled found,
      q.specialize ⟨hasDatetime, table, false⟩ = .ok parts ∧
      List.Forall₂ (fun part result => ∃ compiledPart,
        (Compiler.lookup field).compile part = .ok compiledPart ∧
        (Store.keyValue (.ofRecords field records)).execute compiledPart.native = .ok result)
        parts results ∧
      Compiler.document.compile q = .ok compiled ∧
      (Store.documents records).execute compiled.native = .ok found ∧
      ∀ r, r ∈ results.flatten ↔ r ∈ found := by
  obtain ⟨filter, predicate⟩ := asked.exists_filterOf
  have fields : ∀ name ∈ q.predicate.fields, name.toList.head? ≠ some '$' := by
    intro name inside
    rw [asked.eq_of_mem_fields name inside]
    exact unreserved
  obtain ⟨accepted, read, agrees⟩ := Document.decides_filterOf q.predicate fields predicate
  have written : Compiler.document.compile q =
      .ok ⟨.document ⟨filter, q.orderBy.map Document.SortKey.ofQuery, q.offset, q.rowcount⟩,
        Document.optimizations q.predicate⟩ := by
    rw [Compiler.compile, Document.compile_of_filterOf predicate]
    rfl
  let asked' : Document.Query :=
    ⟨filter, q.orderBy.map Document.SortKey.ofQuery, q.offset, q.rowcount⟩
  obtain ⟨found, ran, order⟩ := Document.run_eq_ok_of_le (q := asked') read start room
  refine ⟨_, texts.map (Lookup.Store.ofRecords field records).find, _, found,
    specialize_of_asksFor asked hasDatetime table, ?_, written, ?_, fun r => ?_⟩
  · rw [List.forall₂_map_left_iff, List.forall₂_map_right_iff, List.forall₂_same]
    exact fun s _ => ⟨_, compile_lookup_asks q named s,
      Lookup.Store.execute_ofRecords field s records⟩
  · rw [Store.execute, ran]
  · rw [order.mem_iff, List.mem_filter, agrees r, asked.holds_iff, ← List.flatMap_def,
      List.mem_flatMap]
    simp only [Lookup.Store.mem_find_ofRecords_string strings]
    tauto

/-- A nested field, a text that is asked for twice, and a record that cannot be looked up. -/
theorem mem_lookups_iff_mem_found_nested :
    let records : List Record := [⟨[("geo", .object [("ip", .string "a")])]⟩,
      ⟨[("geo.ip", .null)]⟩, ⟨[("geo.ip", .string "b"), ("port", .number (.integer 22))]⟩]
    let p : Predicate := .or (.paren (.compare "geo.ip" .isIn (.list [.string "b", .string "a"])))
      (.compare "geo.ip" .eq (.string "b"))
    let q : Query := ⟨"d", p, [⟨"port", true⟩], 0, 3⟩
    p.AsksFor "geo.ip" ["b", "a", "b"] ∧ "geo.ip".toList.head? ≠ some '$' ∧
    Renaming.apply [("host", "geo.ip")] "geo.ip" = "geo.ip" ∧
    (∀ r ∈ records, ∀ value, r.lookup "geo.ip" = some value → ∃ s, value = .string s) ∧
    q.offset = 0 ∧ records.length ≤ q.rowcount ∧
    ∃ parts results compiled found,
      q.specialize ⟨false, [("host", "geo.ip")], false⟩ = .ok parts ∧
      List.Forall₂ (fun part result => ∃ compiledPart,
        (Compiler.lookup "geo.ip").compile part = .ok compiledPart ∧
        (Store.keyValue (.ofRecords "geo.ip" records)).execute compiledPart.native = .ok result)
        parts results ∧
      Compiler.document.compile q = .ok compiled ∧
      (Store.documents records).execute compiled.native = .ok found ∧
      ∀ r, r ∈ results.flatten ↔ r ∈ found := by
  intro records p q
  have asked : p.AsksFor "geo.ip" ["b", "a", "b"] :=
    .or (.paren (.membership ["b", "a"])) (.equality "b")
  have strings : ∀ r ∈ records, ∀ value, r.lookup "geo.ip" = some value →
      ∃ s, value = .string s := by
    simp only [records, List.forall_mem_cons, List.not_mem_nil, false_imp_iff, implies_true,
      and_true]
    refine ⟨?_, ?_, ?_⟩ <;> intro value present <;> cases present <;> exact ⟨_, rfl⟩
  exact ⟨asked, by decide, rfl, strings, rfl, le_refl 3,
    mem_lookups_iff_mem_found false _ asked (by decide) rfl strings rfl (le_refl 3)⟩

end Query

end FederatedSearch
