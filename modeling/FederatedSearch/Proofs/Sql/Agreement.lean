import FederatedSearch.Proofs.Document.Decomposition
import FederatedSearch.Proofs.Sql.Depth
import FederatedSearch.Proofs.Sql.Leaves
import FederatedSearch.Store

/-!
# Databases and document stores agree

A query finds the same records in a table and in a collection of the records of its rows. The
agreement goes from the leaves to predicates, whose outcome is true where their meaning holds, and
with the order of rows to the records that are found. It ends where the database reads a real
literal as another number, where a page is too far out to be counted with 64 bits, and where a
condition is too deep.
-/

namespace FederatedSearch

namespace Sql

/-! ## Conditions that are read back -/

section Reread

variable {d : Dialect} {threshold : Nat} {p : Predicate} {condition : Condition}

/-- Conditions that are each read back as they are are so together. -/
theorem rereadAll?_of_forall {conditions : List Condition}
    (kept : ∀ c ∈ conditions, c.reread? d = some c) :
    Condition.rereadAll? d conditions = some conditions := by
  induction conditions with
  | nil => rfl
  | cons c conditions ih =>
    obtain ⟨first, others⟩ := List.forall_mem_cons.mp kept
    rw [Condition.rereadAll?, first, ih others]
    rfl

/-- A group is read back when the conditions of its operands are. -/
theorem reread?_group {qs : List Predicate} {conditions : List Condition} (c : Connective)
    (kept : ∀ q ∈ qs, ∀ condition, conditionOf threshold q = .ok condition →
      condition.reread? d = some condition)
    (compiled : qs.mapM (conditionOf threshold) = .ok conditions) :
    (Condition.group c conditions).reread? d = some (.group c conditions) := by
  have each := (List.forall₂_and_left ..).mpr ⟨kept, mapM_eq_ok_iff.mp compiled⟩
  rw [Condition.reread?, rereadAll?_of_forall
    (forall_mem_of_forall₂ (each.imp fun _ condition both => both.1 condition both.2))]
  rfl

/-- The values of a chain that is written as a list are read back when its equalities are. -/
theorem kept_of_orToIn {operands : List Predicate} {field : String} {values : List Scalar}
    (listed : orToIn? threshold operands = some (field, values))
    (kept : ∀ q ∈ operands, ∀ leaf ∈ q.leaves, ∀ c, conditionOf 0 leaf = .ok c →
      c.reread? d = some c) : ∀ s ∈ values, d.rereadScalar? s = some s := by
  have each := (List.forall₂_and_left ..).mpr ⟨kept, forall₂_of_orToIn listed⟩
  refine forall_mem_of_forall₂ (each.imp fun q s both => ?_)
  obtain ⟨v, rfl, taken⟩ := equality_eq_some_iff.mp both.2
  have back := both.1 _ (List.mem_singleton_self _) _ (conditionOf_equality field taken)
  rw [Condition.reread?, Option.map_eq_some_iff] at back
  obtain ⟨other, same, rest⟩ := back
  cases rest
  exact same

/-- What a database reads back of every leaf, it reads back of the predicate. -/
theorem reread?_of_conditionOf (compiled : conditionOf threshold p = .ok condition)
    (kept : ∀ leaf ∈ p.leaves, ∀ c, conditionOf 0 leaf = .ok c → c.reread? d = some c) :
    condition.reread? d = some condition := by
  induction p using conditionOf.induct threshold generalizing condition with
  | case1 left right chain =>
    rename_i ih
    rw [conditionOf_and] at compiled
    obtain ⟨conditions, operands, rest⟩ := bind_eq_ok_iff.mp compiled
    cases rest
    rw [← Predicate.flatMap_leaves_operands .and, List.forall_mem_flatMap] at kept
    exact reread?_group .and (fun q member _ here => ih q member here (kept q member)) operands
  | case2 left right chain field values =>
    rename_i listed
    rw [conditionOf_or_list listed] at compiled
    cases compiled
    rw [← Predicate.flatMap_leaves_operands .or, List.forall_mem_flatMap] at kept
    rw [Condition.reread?, mapM_rereadScalar? (kept_of_orToIn listed kept)]
    rfl
  | case3 left right chain =>
    rename_i unlisted ih
    rw [conditionOf_or_chain unlisted] at compiled
    obtain ⟨conditions, operands, rest⟩ := bind_eq_ok_iff.mp compiled
    cases rest
    rw [← Predicate.flatMap_leaves_operands .or, List.forall_mem_flatMap] at kept
    exact reread?_group .or (fun q member _ here => ih q member here (kept q member)) operands
  | case4 inner ih =>
    rw [conditionOf] at compiled
    exact ih compiled kept
  | case5 field op value =>
    rw [conditionOf_compare, ← conditionOf_compare 0] at compiled
    exact kept _ (List.mem_singleton_self _) condition compiled
  | case6 field low high =>
    rw [conditionOf_between, ← conditionOf_between 0] at compiled
    exact kept _ (List.mem_singleton_self _) condition compiled

end Reread

/-! ## Statements and document queries -/

section Statements

variable {t : Table} {threshold : Nat} {p : Predicate} {condition : Condition}

/-- Rows are ordered by columns as their records are by fields. -/
theorem rowOrder_eq_recordOrder (typed : t.IsTyped) {keys : List SortKey}
    (named : ∀ key ∈ keys, ∃ column ∈ t.columns, column.name = key.field) {a b : List Cell}
    (first : a ∈ t.rows) (second : b ∈ t.rows) :
    rowOrder t.columns keys a b = Document.recordOrder (keys.map Document.SortKey.ofQuery)
      (rowRecord t.columns a) (rowRecord t.columns b) := by
  induction keys with
  | nil => rfl
  | cons key keys ih =>
    obtain ⟨⟨column, member, name⟩, others⟩ := List.forall_mem_cons.mp named
    obtain ⟨x, entryA, suitsA⟩ := typed.exists_cell member first
    obtain ⟨y, entryB, suitsB⟩ := typed.exists_cell member second
    have one : keyOrder t.columns key a b = Document.SortKey.order (.ofQuery key)
        (rowRecord t.columns a) (rowRecord t.columns b) := by
      rw [keyOrder, Document.SortKey.order, Document.SortKey.ofQuery, ← name,
        operand_of_mem typed.distinct entryA, operand_of_mem typed.distinct entryB,
        lookup_rowRecord typed.distinct entryA, lookup_rowRecord typed.distinct entryB,
        order_eq_sortOrder suitsA suitsB]
      cases key.descending <;> rfl
    rw [rowOrder, one, ih others]
    rfl

/-- A collection answers a compiled query with one page of the sorted records that pass the filter
which has been read. -/
theorem execute_documents {q : Query} {filter : Json} {accepted : Document.Filter}
    (read : Document.Filter.ofJson filter = .ok accepted) (records : List Record) :
    (Store.documents records).execute
        (.document ⟨filter, q.orderBy.map Document.SortKey.ofQuery, q.offset, q.rowcount⟩)
      = .ok (((Document.sortRecords (q.orderBy.map Document.SortKey.ofQuery)
          (records.filter (accepted.matches ·))).drop q.offset).take q.rowcount) := by
  simp only [Store.execute, Document.run, read]
  rfl

/-- A query whose predicate has a condition is compiled to a statement with it. -/
theorem compile_of_conditionOf {q : Query} (name : String)
    (written : conditionOf threshold q.predicate = .ok condition) :
    (Compiler.sql name .sqlite threshold).compile q
      = .ok ⟨.sql (.select .sqlite ⟨name, condition, q.orderBy, q.rowcount, q.offset⟩),
          optimizations threshold q.predicate⟩ := by
  rw [Compiler.compile, compile, written]
  rfl

/-- A query whose predicate has a filter is compiled to a document query with it. -/
theorem compile_document_of_filterOf {q : Query} {filter : Json}
    (predicate : Document.filterOf q.predicate = .ok filter) :
    Compiler.document.compile q
      = .ok ⟨.document
          ⟨filter, q.orderBy.map Document.SortKey.ofQuery, q.offset, q.rowcount⟩,
          Document.optimizations q.predicate⟩ := by
  rw [Compiler.compile, Document.compile_of_filterOf predicate]
  rfl

/-! ### Limits -/

/-- The limits of a statement, for pages that are given as natural numbers. -/
theorem isWithinLimits_iff {s : Select} :
    s.isWithinLimits = true ↔
      s.limit < 2 ^ 63 ∧ s.offset < 2 ^ 63 ∧ s.condition.depth ≤ greatestDepth := by
  have counted (n : Nat) : WordRange.isSigned n = true ↔ n < 2 ^ 63 := by
    rw [WordRange.isSigned, WordRange.least, WordRange.greatest]
    simp only [Bool.and_eq_true, decide_eq_true_eq]
    omega
  rw [Select.isWithinLimits, Bool.and_eq_true, Bool.and_eq_true, counted, counted,
    decide_eq_true_eq, and_assoc]

variable [Numerals]

/-- A row is selected exactly when the predicate holds for its record. -/
theorem truth_eq_true_iff_holds (agrees : ∀ leaf ∈ p.leaves, leaf.AgreesOn t)
    (compiled : conditionOf threshold p = .ok condition) {row : List Cell} (inside : row ∈ t.rows) :
    condition.truth t.columns row = some true ↔ p.Holds (rowRecord t.columns row) := by
  rw [Condition.truth_eq_truthUnder, truthUnder_of_conditionOf compiled,
    Predicate.truthFrom_eq_true_iff, Predicate.Holds]
  refine Predicate.trueUnder_congr fun leaf member => ?_
  obtain ⟨c, written, _, decides⟩ := (agrees leaf member).condition
  rw [leafTruth_of_conditionOf written]
  exact decides row inside

/-- A statement selects from a table the records that a document query with a filter of the same
meaning finds among the records of its rows. -/
theorem select_eq_of_matches (typed : t.IsTyped) {s : Select} {filter : Document.Filter}
    (same : ∀ row ∈ t.rows, s.condition.truth t.columns row = some true ↔
      filter.matches (rowRecord t.columns row) = true)
    (named : ∀ key ∈ s.orderBy, ∃ column ∈ t.columns, column.name = key.field) :
    t.select s = ((Document.sortRecords (s.orderBy.map Document.SortKey.ofQuery)
      ((t.rows.map (rowRecord t.columns)).filter (filter.matches ·))).drop s.offset).take
        s.limit := by
  have selected : (t.rows.map (rowRecord t.columns)).filter (filter.matches ·)
      = (t.rows.filter fun row => s.condition.truth t.columns row == some true).map
          (rowRecord t.columns) := by
    rw [List.filter_map]
    congr 1
    refine List.filter_congr fun row inside => ?_
    rw [Bool.eq_iff_iff, beq_iff_eq]
    exact (same row inside).symm
  rw [Table.select, Document.sortRecords, selected, List.map_take, List.map_drop,
    List.map_mergeSort]
  intro a first b second
  rw [rowOrder_eq_recordOrder typed named (List.mem_of_mem_filter first)
    (List.mem_of_mem_filter second)]

/-- A database answers a statement within its limits when it reads the condition back. -/
theorem run_eq_some {db : Database} {s : Select} (found : db.table? s.table = some t)
    (back : s.condition.reread? .sqlite = some s.condition) (within : s.isWithinLimits = true) :
    db.run .sqlite s = some (t.select s) := by
  rw [Database.run, found, Option.bind_eq_bind, Option.bind_some, back]
  simp [within, Select.namesKnown]

/-- What a database selects is the answer of its store. -/
theorem execute_relational {db : Database} {s : Select} (found : db.table? s.table = some t)
    (back : s.condition.reread? .sqlite = some s.condition) (within : s.isWithinLimits = true)
    (name : String) :
    (Store.relational db name).execute (.sql (.select .sqlite s)) = .ok (t.select s) := by
  simp only [Store.execute, run_eq_some found back within]

/-- A database refuses a statement beyond its limits. -/
theorem execute_relational_of_beyond (db : Database) {s : Select}
    (back : s.condition.reread? .sqlite = some s.condition) (beyond : s.isWithinLimits = false)
    (name : String) :
    (Store.relational db name).execute (.sql (.select .sqlite s)) = .error .database := by
  have refused : db.run .sqlite s = none := by
    rw [Database.run]
    cases db.table? s.table with
    | none => rfl
    | some t => simp [back, beyond]
  simp only [Store.execute, refused]

end Statements

/-- A statement keeps within what is documented of SQLite: the depth of expressions, the number of
sort keys and the bytes of a statement. -/
structure Select.KeepsLimits (s : Select) : Prop where
  depth : s.condition.depth ≤ greatestDepth
  keys : s.orderBy.length ≤ 2000
  bytes : (s.text .sqlite).utf8ByteSize ≤ 1000000000

/-- A query that suits a typed table finds the same records in the same order as a statement of any
threshold, run on the database, and as a document query, run on the records of the table. The
statement keeps within the limits of the database, which may read decimals in its own way. -/
theorem execute_eq_execute_documents [Numerals] (db : Database) (name : String) (t : Table)
    (q : Query) (threshold : Nat) (found : db.table? name = some t) (typed : t.IsTyped)
    (suits : q.Suits t)
    (limits : ∀ statement, compile name threshold q = .ok statement → statement.KeepsLimits) :
    ∃ statement document records,
      (Compiler.sql name .sqlite threshold).compile q = .ok statement ∧
      Compiler.document.compile q = .ok document ∧
      (Store.relational db name).execute statement.native = .ok records ∧
      (Store.documents (t.rows.map (rowRecord t.columns))).execute document.native
        = .ok records := by
  have agrees : ∀ leaf ∈ q.predicate.leaves, leaf.AgreesOn t := fun leaf member =>
    agreesOn_of_suits typed (suits.leaves leaf member)
  have conditions : ∀ leaf ∈ q.predicate.leaves, ∃ c, conditionOf 0 leaf = .ok c :=
    fun leaf member => (agrees leaf member).condition.imp fun _ both => both.1
  have filters : ∀ leaf ∈ q.predicate.leaves, ∃ filter, Document.filterOf leaf = .ok filter :=
    fun leaf member => (agrees leaf member).filter
  obtain ⟨condition, written⟩ := (exists_conditionOf_iff threshold q.predicate).mpr conditions
  obtain ⟨filter, predicate⟩ := (Document.exists_filterOf_iff q.predicate).mpr filters
  obtain ⟨accepted, read, passes⟩ :=
    Document.decides_filterOf q.predicate suits.unreserved predicate
  have back : condition.reread? .sqlite = some condition := by
    refine reread?_of_conditionOf written fun leaf member c here => ?_
    obtain ⟨other, same, kept, _⟩ := (agrees leaf member).condition
    cases here.symm.trans same
    exact kept
  let statement : Select := ⟨name, condition, q.orderBy, q.rowcount, q.offset⟩
  have within : statement.isWithinLimits = true := by
    refine isWithinLimits_iff.mpr ⟨suits.rowcount, suits.offset, (limits statement ?_).depth⟩
    rw [compile, written]
    rfl
  have same : ∀ row ∈ t.rows, statement.condition.truth t.columns row = some true ↔
      accepted.matches (rowRecord t.columns row) = true := fun row inside =>
    (truth_eq_true_iff_holds agrees written inside).trans (passes _).symm
  refine ⟨_, _, t.select statement, compile_of_conditionOf name written,
    compile_document_of_filterOf predicate, ?_, ?_⟩
  · exact execute_relational (s := statement) found back within name
  · rw [select_eq_of_matches typed same suits.keys]
    exact execute_documents read _

/-- A chain that becomes a list, a real literal with a fraction, an absent cell under a comparison
and one under a descending order. -/
theorem execute_eq_execute_documents_mixed :
    let half : Double := ⟨false, 2 ^ 1073⟩
    let t : Table := ⟨"hits", [⟨"host", .text⟩, ⟨"port", .integer⟩, ⟨"score", .real⟩],
      [[.text "a", .integer 80, .real half], [.text "b", .integer 22, .null],
        [.null, .integer 80, .real half.neg], [.text "a", .integer 443, .real half]]⟩
    let q : Query := ⟨"hits", .and
      (.paren (.or (.compare "host" .eq (.string "a")) (.compare "host" .eq (.string "b"))))
      (.paren (.or (.compare "port" .notEq (.integer 443))
        (.compare "score" .gte (.float half)))), [⟨"score", true⟩], 1, 2⟩
    (Database.mk [t]).table? "hits" = some t ∧ t.IsTyped ∧ q.Suits t ∧
    (∀ statement, compile "hits" 2 q = .ok statement → statement.KeepsLimits) ∧
    ∃ statement document records,
      (Compiler.sql "hits" .sqlite 2).compile q = .ok statement ∧
      Compiler.document.compile q = .ok document ∧
      (Store.relational ⟨[t]⟩ "hits").execute statement.native = .ok records ∧
      (Store.documents (t.rows.map (rowRecord t.columns))).execute document.native
        = .ok records := by
  intro half t q
  have found : (Database.mk [t]).table? "hits" = some t :=
    List.find?_cons_of_pos (by decide +kernel)
  have typed : t.IsTyped := ⟨by decide +kernel, by decide, by decide +kernel⟩
  have score : (Literal.float half).Suits .real := by
    have format : Double.IsFormat half.magnitude := ⟨1, 1073, by decide, by decide +kernel⟩
    have small : half.magnitude < 2 ^ 53 * Double.unitsPerOne := by decide +kernel
    exact ⟨.float half, rfl, rfl, by decide +kernel, nearest_keeps format small⟩
  have suits : q.Suits t := by
    refine ⟨?_, by simp [q, Predicate.fields], by simp [q, t], by decide, by decide⟩
    simp only [q, Predicate.leaves, List.cons_append, List.nil_append, List.forall_mem_cons]
    refine ⟨⟨⟨"host", .text⟩, by simp [t], rfl, .inr ?_⟩,
      ⟨⟨"host", .text⟩, by simp [t], rfl, .inr ?_⟩,
      ⟨⟨"port", .integer⟩, by simp [t], rfl, .inr ⟨?_, ?_⟩⟩,
      ⟨⟨"score", .real⟩, by simp [t], rfl, score⟩, List.forall_mem_nil _⟩
    · exact ⟨.string "a", rfl, rfl, by decide⟩
    · exact ⟨.string "b", rfl, rfl, by decide⟩
    · exact ⟨.integer 443, rfl, rfl, by decide⟩
    · simp [t, Table.IsFilled]
  have limits : ∀ statement, compile "hits" 2 q = .ok statement → statement.KeepsLimits := by
    have written : conditionOf 2 q.predicate = .ok (.group .and
        [.member "host" false [.string "a", .string "b"],
          .group .or [.compare "port" .ne (.integer 443), .compare "score" .ge (.float half)]]) := by
      let hosts : Predicate :=
        .or (.compare "host" .eq (.string "a")) (.compare "host" .eq (.string "b"))
      let scores : Predicate :=
        .or (.compare "port" .notEq (.integer 443)) (.compare "score" .gte (.float half))
      have list : conditionOf 2 hosts = .ok (.member "host" false [.string "a", .string "b"]) :=
        conditionOf_or_list rfl
      have chain : conditionOf 2 scores = .ok (.group .or
          [.compare "port" .ne (.integer 443), .compare "score" .ge (.float half)]) := by
        have parts : scores.operands .or = [.compare "port" .notEq (.integer 443),
          .compare "score" .gte (.float half)] := rfl
        refine (conditionOf_or_chain rfl).trans ?_
        rw [parts, List.mapM_cons, List.mapM_cons, conditionOf_compare, conditionOf_compare]
        rfl
      have parts : (Predicate.and (.paren hosts) (.paren scores)).operands .and
          = [.paren hosts, .paren scores] := rfl
      refine (conditionOf_and 2 (.paren hosts) (.paren scores)).trans ?_
      rw [parts, List.mapM_cons, List.mapM_cons, conditionOf_paren, conditionOf_paren, list, chain]
      rfl
    intro statement compiled
    rw [compile, written] at compiled
    cases compiled
    exact ⟨by decide +kernel, by decide, by decide +kernel⟩
  exact ⟨found, typed, suits, limits,
    execute_eq_execute_documents _ _ t q 2 found typed suits limits⟩

/-! ## Where they part -/

/-- What a query finds in a database with one table, and among the records of its rows. -/
def Table.Answers [Numerals] (t : Table) (q : Query)
    (rows records : Except ExecutionError (List Record)) : Prop :=
  ∃ statement document,
    (Compiler.sql t.name .sqlite defaultThreshold).compile q = .ok statement ∧
    Compiler.document.compile q = .ok document ∧
    (Store.relational ⟨[t]⟩ t.name).execute statement.native = rows ∧
    (Store.documents (t.rows.map (rowRecord t.columns))).execute document.native = records

/-- A table with one real number. -/
def Table.ofReal (x : Double) : Table :=
  ⟨"t", [⟨"r", .real⟩], [[.real x]]⟩

/-- The record of its row. -/
def recordOfReal (x : Double) : Record :=
  rowRecord (Table.ofReal x).columns [.real x]

section Parting

variable {x : Double} {condition : Condition}

/-- A table with one finite real number is typed. -/
theorem isTyped_ofReal (finite : x.isFinite = true) : (Table.ofReal x).IsTyped where
  distinct := List.pairwise_singleton ..
  complete := by simp [Table.ofReal]
  suits := by simp [Table.ofReal, Cell.Suits, finite]

/-- The table of one real column is found by its name. -/
theorem table?_ofReal (x : Double) : (Database.mk [.ofReal x]).table? "t" = some (.ofReal x) :=
  List.find?_cons_of_pos (sameName_self _)

/-- The only record has the number under the name of the column. -/
theorem lookup_recordOfReal (finite : x.isFinite = true) :
    (recordOfReal x).lookup "r" = some (.number (.double x)) := by
  have entry : ((⟨"r", .real⟩ : Column), Cell.real x) ∈ (Table.ofReal x).columns.zip [.real x] :=
    List.mem_singleton_self _
  exact (lookup_rowRecord (isTyped_ofReal finite).distinct entry).trans
    (present?_toJson_real finite)

/-- Repeating a predicate in a chain of AND does not change what it holds for. -/
theorem holds_repeated (p : Predicate) (record : Record) (n : Nat) :
    (p.repeated .and n).Holds record ↔ p.Holds record := by
  induction n with
  | zero => exact Iff.rfl
  | succ n ih => exact (and_congr_left fun _ => ih).trans and_self_iff

variable [Numerals]

/-- A query that holds for the only record finds it there, if the page begins with it. What the
statement finds is as it is said to be. -/
theorem answers_ofReal {q : Query} {filter : Json} {rows : Except ExecutionError (List Record)}
    (written : conditionOf defaultThreshold q.predicate = .ok condition)
    (predicate : Document.filterOf q.predicate = .ok filter)
    (unreserved : ∀ field ∈ q.predicate.fields, field.toList.head? ≠ some '$')
    (holds : q.predicate.Holds (recordOfReal x))
    (answer : (Store.relational ⟨[.ofReal x]⟩ "t").execute
      (.sql (.select .sqlite ⟨"t", condition, q.orderBy, q.rowcount, q.offset⟩)) = rows) :
    (Table.ofReal x).Answers q rows
      (.ok (([recordOfReal x].drop q.offset).take q.rowcount)) := by
  obtain ⟨accepted, read, passes⟩ := Document.decides_filterOf q.predicate unreserved predicate
  have passed : accepted.matches (recordOfReal x) = true := (passes _).mpr holds
  have records : (Table.ofReal x).rows.map (rowRecord (Table.ofReal x).columns)
      = [recordOfReal x] := rfl
  refine ⟨_, _, compile_of_conditionOf "t" written, compile_document_of_filterOf predicate,
    answer, (execute_documents (q := q) read _).trans ?_⟩
  rw [records, List.filter_cons_of_pos (p := (accepted.matches ·)) passed, List.filter_nil,
    Document.sortRecords, List.mergeSort_singleton]

/-- A real number that the database reads from the statement as another one is not found where it
stands, while the collection finds it. -/
theorem answers_equality_of_not_keeps (finite : x.isFinite = true) (lost : ¬ Keeps x) :
    (Table.ofReal x).Answers ⟨"t", .compare "r" .eq (.float x), [], 0, 500⟩ (.ok [])
      (.ok [recordOfReal x]) := by
  have taken : (Literal.float x).scalar = .ok (.float x) := rfl
  obtain ⟨filter, document⟩ := exists_document_comparison "r"
    (show CompareOp.ofQuery? .eq = some .eq from rfl) taken
  have predicate : Document.filterOf (.compare "r" .eq (.float x)) = .ok filter := by
    rw [Document.filterOf, document]
  have missed : (Condition.compare "r" .eq (.float x)).truth (Table.ofReal x).columns [.real x]
      = some false := by
    have entry : ((⟨"r", .real⟩ : Column), Cell.real x)
        ∈ (Table.ofReal x).columns.zip [.real x] := List.mem_singleton_self _
    obtain ⟨n, value⟩ := Cell.exists_units?_ofScalar_float x
    have other : compare x.units n ≠ .eq := by
      rw [ne_eq, Int.compare_eq_eq]
      rintro rfl
      exact lost value
    rw [Condition.truth, operand_of_mem (isTyped_ofReal finite).distinct entry, compareTruth,
      orderWith_of_units (by decide) rfl value, Option.map_some, CompareOp.accepts,
      beq_false_of_ne other]
  refine answers_ofReal (conditionOf_equality "r" taken) predicate
    (by simp [Predicate.fields]) ?_ ?_
  · refine ⟨.number (.double x), lookup_recordOfReal finite, .inr ?_⟩
    rw [Document.toJson_of_scalar taken, Scalar.toJson, Json.ofDouble, if_pos finite]
    rfl
  · let statement : Select := ⟨"t", .compare "r" .eq (.float x), [], 500, 0⟩
    have back : statement.condition.reread? .sqlite = some statement.condition := by
      rw [Condition.reread?, Dialect.rereadScalar?, if_pos finite]
      rfl
    have within : statement.isWithinLimits = true := by
      have value := valueDepth_le (.float x)
      refine isWithinLimits_iff.mpr
        ⟨show 500 < 2 ^ 63 by decide, show 0 < 2 ^ 63 by decide, ?_⟩
      rw [Condition.depth, greatestDepth]
      omega
    have nothing : (Table.ofReal x).select statement = [] := by
      have selected : (Table.ofReal x).rows.filter (fun row =>
          statement.condition.truth (Table.ofReal x).columns row == some true) = [] :=
        List.filter_cons_of_neg (by rw [missed]; decide)
      rw [Table.select, selected]
      simp
    rw [← nothing]
    exact execute_relational (s := statement) (table?_ofReal x) back within "t"

/-- A query that asks for presence again and again, or far out, is refused by the database, while
the collection answers it. -/
theorem answers_presence_of_beyond (finite : x.isFinite = true) {offset n : Nat}
    (beyond : 2 ^ 63 ≤ offset ∨ greatestDepth ≤ n + 1) :
    (Table.ofReal x).Answers
      ⟨"t", (Predicate.compare "r" .eq (.column "exist")).repeated .and n, [], offset, 500⟩
      (.error .database) (.ok (([recordOfReal x].drop offset).take 500)) := by
  have presence (threshold : Nat) :
      conditionOf threshold (.compare "r" .eq (.column "exist")) = .ok (.null "r" true) := by
    rw [conditionOf_compare]
    rfl
  obtain ⟨condition, written, depth⟩ :=
    exists_conditionOf_repeated rfl (presence defaultThreshold) n
  have back : condition.reread? .sqlite = some condition := by
    refine reread?_of_conditionOf written fun leaf member c here => ?_
    cases List.mem_singleton.mp (mem_leaves_repeated member)
    cases (presence 0).symm.trans here
    rfl
  obtain ⟨filter, predicate⟩ := (Document.exists_filterOf_iff
      ((Predicate.compare "r" .eq (.column "exist")).repeated .and n)).mpr fun leaf member => by
    cases List.mem_singleton.mp (mem_leaves_repeated member)
    rw [Document.filterOf]
    exact ⟨_, rfl⟩
  refine answers_ofReal written predicate (fun field member => ?_) ?_ ?_
  · cases List.mem_singleton.mp (mem_fields_repeated member)
    decide
  · refine (holds_repeated ..).mpr ⟨.number (.double x), lookup_recordOfReal finite, .inl rfl⟩
  · refine execute_relational_of_beyond _ back (Bool.eq_false_iff.mpr fun within => ?_) "t"
    obtain ⟨-, counted, shallow⟩ := isWithinLimits_iff.mp within
    rw [depth, Condition.depth] at shallow
    dsimp only at counted
    omega

end Parting

/-- Beyond these queries the two part. The digits `72057594037927940` tell `2 ^ 56` from all other
doubles, but as an integer they are another number, so that the database misses a record that is
there. So does a database that takes `7.47e-199` for the double before the nearest one. An offset
beyond 64 bits and a chain of 1000 comparisons are refused by the database alone. -/
theorem execute_ne_execute_documents :
    let big : Double := ⟨false, 2 ^ 56 * Double.unitsPerOne⟩
    let small : Double := .ofDecimal false 747 (-201)
    let inexact : Numerals := ⟨fun negative significand exponent =>
      if significand = 747 ∧ exponent = -201 then .ofDecimal negative 74699999999999995 (-215)
      else .ofDecimal negative significand exponent⟩
    let equality (x : Double) : Query := ⟨"t", .compare "r" .eq (.float x), [], 0, 500⟩
    let presence : Predicate := .compare "r" .eq (.column "exist")
    (Table.ofReal big).IsTyped ∧ Double.IsFormat big.magnitude ∧
    (Table.ofReal small).IsTyped ∧ Double.IsFormat small.magnitude ∧
    (Table.ofReal big).Answers (equality big) (.ok []) (.ok [recordOfReal big]) ∧
    @Table.Answers inexact (.ofReal small) (equality small) (.ok []) (.ok [recordOfReal small]) ∧
    (Table.ofReal big).Answers ⟨"t", presence, [], 2 ^ 63, 500⟩ (.error .database) (.ok []) ∧
    (Table.ofReal big).Answers ⟨"t", presence.repeated .and 999, [], 0, 500⟩ (.error .database)
      (.ok [recordOfReal big]) := by
  intro big small inexact equality presence
  have finite : big.isFinite = true ∧ small.isFinite = true := by decide +kernel
  have format : Double.IsFormat big.magnitude := ⟨1, 1130, by decide, by decide +kernel⟩
  have format_small : Double.IsFormat small.magnitude :=
    ⟨8047250469799189, 363, by decide, by decide +kernel⟩
  have lost : ¬ Keeps big := by decide +kernel
  have lost_small : ¬ @Keeps inexact small := by decide +kernel
  clear_value big small
  have far := answers_presence_of_beyond finite.1 (n := 0) (.inl (Nat.le_refl (2 ^ 63)))
  rw [List.drop_eq_nil_of_le (show 1 ≤ 2 ^ 63 by decide)] at far
  exact ⟨isTyped_ofReal finite.1, format, isTyped_ofReal finite.2, format_small,
    answers_equality_of_not_keeps finite.1 lost, answers_equality_of_not_keeps finite.2 lost_small,
    far, answers_presence_of_beyond finite.1 (.inr (by decide))⟩

end Sql

end FederatedSearch
