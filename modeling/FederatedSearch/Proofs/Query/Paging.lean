import FederatedSearch.Proofs.Lookup.Disjunction

/-!
# Pages

A query asks for one page of what it finds. A collection of documents cuts the page out of all that
it finds, in its order. A store that is asked for one value is told the value and nothing of the
page, so that it yields every record with the value: no more than the page only where the page
holds them all.
-/

namespace FederatedSearch

namespace Query

variable {q : Query} {α : Type} {found : List α}

/-- The page of a list that a query asks for. -/
def page (q : Query) (found : List α) : List α :=
  (found.drop q.offset).take q.rowcount

/-- The query for the first `n` records. -/
def widened (q : Query) (n : Nat) : Query :=
  { q with offset := 0, rowcount := n }

/-- A page is no longer than asked. -/
theorem length_page_le : (q.page found).length ≤ q.rowcount :=
  List.length_take_le ..

/-- Nothing is cut away exactly when the page starts with the first record and has room for all. -/
theorem page_eq_self_iff :
    q.page found = found ↔ found = [] ∨ q.offset = 0 ∧ found.length ≤ q.rowcount := by
  constructor
  · intro same
    have length : min q.rowcount (found.length - q.offset) = found.length := by
      rw [← List.length_drop, ← List.length_take, ← page, same]
    rw [← List.length_eq_zero_iff]
    omega
  · rintro (rfl | ⟨start, room⟩)
    · rw [page, List.drop_nil, List.take_nil]
    · rw [page, start, List.drop_zero, List.take_of_length_le room]

end Query

namespace Document

/-- A page of what a filter finds is cut out of all that it finds. -/
theorem run_eq_page (q : FederatedSearch.Query) (filter : Json) (sort : List SortKey)
    {records : List Record} {n : Nat} (room : records.length ≤ n) :
    run records ⟨filter, sort, q.offset, q.rowcount⟩ =
      q.page <$> run records ⟨filter, sort, 0, n⟩ := by
  unfold run
  cases Filter.ofJson filter with
  | error e => rfl
  | ok accepted =>
    have fits : (sortRecords sort (records.filter (accepted.matches ·))).length ≤ n :=
      (length_sortRecords_filter_le ..).trans room
    refine congrArg (fun found => Except.ok (q.page found)) ?_
    rw [List.drop_zero, List.take_of_length_le fits]

end Document

namespace Compiler

/-- What a store answers to a query that is compiled for it. -/
def answer (compiler : Compiler) (store : Store) (q : Query) :
    Except CompileError (Except ExecutionError (List Record)) := do
  return store.execute (← compiler.compile q).native

variable {q : Query} {n : Nat} {records : List Record}

/-- A collection refuses a query with and without its page alike, and answers with the page. -/
theorem answer_documents (room : records.length ≤ n) :
    document.answer (.documents records) q =
      (q.page <$> ·) <$> document.answer (.documents records) (q.widened n) := by
  unfold answer compile Document.compile
  rw [show (q.widened n).predicate = q.predicate from rfl]
  cases Document.filterOf q.predicate with
  | error e => rfl
  | ok filter =>
    refine congrArg Except.ok ?_
    simp only [Store.execute]
    rw [Document.run_eq_page q filter _ room, Query.widened]
    cases Document.run records ⟨filter, q.orderBy.map Document.SortKey.ofQuery, 0, n⟩ <;> rfl

/-- A filter without operators among its fields is understood, so that a compiled query is
answered. -/
theorem exists_answer_documents (unreserved : ∀ name ∈ q.predicate.fields,
    name.toList.head? ≠ some '$') {result : Except ExecutionError (List Record)}
    (answered : document.answer (.documents records) q = .ok result) :
    ∃ found, result = .ok found := by
  obtain ⟨compiled, written, rest⟩ := bind_eq_ok_iff.mp answered
  cases rest
  obtain ⟨asked, compiledQuery, rest⟩ := bind_eq_ok_iff.mp written
  cases rest
  obtain ⟨filter, predicate, rest⟩ := bind_eq_ok_iff.mp compiledQuery
  cases rest
  obtain ⟨accepted, read, -⟩ := Document.decides_filterOf q.predicate unreserved predicate
  simp only [Store.execute, Document.run, read]
  exact ⟨_, rfl⟩

/-- A look-up finds all records with a value, whatever page a query asks for. -/
theorem answer_lookup {field : String} {result : Except ExecutionError (List Record)}
    (answered : (lookup field).answer (.keyValue (.ofRecords field records)) q = .ok result) :
    ∃ all, result = .ok all ∧
      (lookup field).answer (.keyValue (.ofRecords field records)) (q.widened n) = .ok result := by
  obtain ⟨compiled, written, rest⟩ := bind_eq_ok_iff.mp answered
  cases rest
  obtain ⟨value, _, rest⟩ := bind_eq_ok_iff.mp written
  cases rest
  exact ⟨_, Lookup.Store.execute_ofRecords field value records, answered⟩

/-- A collection honours the page of every query: it answers with at most as many records as the
query asks for, which are those of its page among all that it finds. A store that is asked for one
value answers every query that it is asked with all that it finds, so that it honours the page only
where nothing is to be cut away. -/
theorem answer_eq_page (q : Query) (field : String) (records : List Record) {n : Nat}
    (room : records.length ≤ n) :
    (document.answer (.documents records) q =
        (q.page <$> ·) <$> document.answer (.documents records) (q.widened n) ∧
      (∀ found, document.answer (.documents records) q = .ok (.ok found) →
        found.length ≤ q.rowcount) ∧
      ((∀ name ∈ q.predicate.fields, name.toList.head? ≠ some '$') →
        ∀ result, document.answer (.documents records) q = .ok result →
          ∃ found, result = .ok found)) ∧
    ∀ result, (lookup field).answer (.keyValue (.ofRecords field records)) q = .ok result →
      ∃ all, result = .ok all ∧
        (lookup field).answer (.keyValue (.ofRecords field records)) (q.widened n)
          = .ok (.ok all) ∧
        (all = q.page all ↔ all = [] ∨ q.offset = 0 ∧ all.length ≤ q.rowcount) := by
  refine ⟨⟨answer_documents room, fun found answered => ?_,
    fun unreserved _ => exists_answer_documents unreserved⟩, fun result answered => ?_⟩
  · rw [answer_documents room] at answered
    obtain ⟨wide, _, paged⟩ := map_eq_ok_iff.mp answered
    obtain ⟨all, _, rfl⟩ := map_eq_ok_iff.mp paged
    exact Query.length_page_le
  · obtain ⟨all, rfl, wide⟩ := answer_lookup (n := n) answered
    exact ⟨all, rfl, wide, eq_comm.trans Query.page_eq_self_iff⟩

/-- Two documents of which the second is asked for, and one value that both are found by. -/
theorem answer_eq_page_second :
    let records : List Record :=
      [⟨[("ip", .string "1"), ("n", .number (.integer 1))]⟩,
        ⟨[("ip", .string "1"), ("n", .number (.integer 2))]⟩]
    let q : Query := ⟨"kv", .compare "ip" .eq (.string "1"), [], 1, 1⟩
    records.length ≤ 2 ∧
    (document.answer (.documents records) q =
        (q.page <$> ·) <$> document.answer (.documents records) (q.widened 2) ∧
      (∀ found, document.answer (.documents records) q = .ok (.ok found) →
        found.length ≤ q.rowcount) ∧
      ((∀ name ∈ q.predicate.fields, name.toList.head? ≠ some '$') →
        ∀ result, document.answer (.documents records) q = .ok result →
          ∃ found, result = .ok found)) ∧
    ∀ result, (lookup "ip").answer (.keyValue (.ofRecords "ip" records)) q = .ok result →
      ∃ all, result = .ok all ∧
        (lookup "ip").answer (.keyValue (.ofRecords "ip" records)) (q.widened 2)
          = .ok (.ok all) ∧
        (all = q.page all ↔ all = [] ∨ q.offset = 0 ∧ all.length ≤ q.rowcount) := by
  intro records q
  exact ⟨le_refl 2, answer_eq_page q "ip" records (le_refl 2)⟩

/-- A query for one record is answered by a look-up with two. -/
theorem answer_ne_page :
    let first : Record := ⟨[("ip", .string "1"), ("n", .number (.integer 1))]⟩
    let second : Record := ⟨[("ip", .string "1"), ("n", .number (.integer 2))]⟩
    let store : Store := .keyValue (.ofRecords "ip" [first, second])
    ∃ q, Query.prepare "FROM kv WHERE ip = '1' LIMIT 1" 500 = .ok q ∧ q.rowcount = 1 ∧
      (lookup "ip").answer store q = .ok (.ok [first, second]) ∧
      (lookup "ip").answer store (q.widened 2) = .ok (.ok [first, second]) ∧
      q.page [first, second] = [first] ∧ first ≠ second := by
  intro first second store
  refine ⟨⟨"kv", .compare "ip" .eq (.string "1"), [], 0, 1⟩, by decide +kernel, rfl, rfl, rfl, rfl, ?_⟩
  simp [first, second]

end Compiler

end FederatedSearch
