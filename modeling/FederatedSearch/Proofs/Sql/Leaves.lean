import FederatedSearch.Proofs.Document.Faithfulness
import FederatedSearch.Proofs.Sql.Rows
import FederatedSearch.Proofs.Sql.Truth

/-!
# Leaves agree

A database knows a third outcome for what is absent, while a document store takes absence for
falsehood. Yet on a leaf that suits a table both decide alike. A comparison that is not negated is
true in neither when its value is absent, and a negated one is only asked of a column that is never
absent. For each kind of leaf it is shown that both have a form of it, that the database reads its
own form back as it was, and that the two decide alike row by row.
-/

namespace FederatedSearch

/-! ## Queries that suit a table -/

section Suitability

variable [Sql.Numerals]

/-- A literal has the type of a column. -/
def Literal.Suits (type : Sql.ColumnType) (v : Literal) : Prop :=
  ∃ s, v.scalar = .ok s ∧ type.Admits s

/-- What comparisons may ask of a column: presence, or how it relates to values of its type. Only a
column that is filled in every row may be asked to be different from something. -/
def CompareOp.Suits (type : Sql.ColumnType) (filled : Prop) (v : Literal) : CompareOp → Prop
  | eq => v.isExists = true ∨ v.Suits type
  | notEq => v.isExists = true ∨ v.Suits type ∧ filled
  | isIn => ∀ item ∈ v.items, item.Suits type
  | notIn => (∀ item ∈ v.items, item.Suits type) ∧ filled
  | like => False
  | notLike => False
  | _ => v.Suits type

/-- A column is absent in no row of a table. -/
def Sql.Table.IsFilled (t : Table) (column : Column) : Prop :=
  ∀ row ∈ t.rows, (column, Cell.null) ∉ t.columns.zip row

/-- A leaf names a column of a table and asks of it what suits it. Connectives are no leaves. -/
def Predicate.Suits (t : Sql.Table) : Predicate → Prop
  | compare field op v =>
    ∃ column ∈ t.columns, column.name = field ∧ op.Suits column.type (t.IsFilled column) v
  | between field low high =>
    ∃ column ∈ t.columns, column.name = field ∧ low.Suits column.type ∧ high.Suits column.type
  | _ => False

/-- A query suits a table: its leaves do, it orders by columns, and its page can be counted with 64
bits. -/
structure Query.Suits (t : Sql.Table) (q : Query) : Prop where
  leaves : ∀ leaf ∈ q.predicate.leaves, leaf.Suits t
  unreserved : ∀ field ∈ q.predicate.fields, field.toList.head? ≠ some '$'
  keys : ∀ key ∈ q.orderBy, ∃ column ∈ t.columns, column.name = key.field
  rowcount : q.rowcount < 2 ^ 63
  offset : q.offset < 2 ^ 63

end Suitability

namespace Sql

/-! ## Outcomes of comparisons -/

/-- The comparison of a column that a comparison with a scalar is compiled to. -/
def CompareOp.ofQuery? : FederatedSearch.CompareOp → Option CompareOp
  | .eq => some .eq
  | .notEq => some .ne
  | .lt => some .lt
  | .gt => some .gt
  | .lte => some .le
  | .gte => some .ge
  | _ => none

section Outcomes

variable {cell : Cell} {type : ColumnType} {v : Literal} {s : Scalar}

/-- No cell is present as a null. -/
theorem present?_toJson_ne_null (cell : Cell) : cell.toJson.present? ≠ some .null := by
  cases cell.toJson <;> simp [Json.present?]

/-- A cell that suits its column is present when it is not null. -/
theorem isSome_present?_toJson (suits : cell.Suits type) :
    cell.toJson.present?.isSome = true ↔ cell ≠ .null := by
  cases cell with
  | real x => simp [present?_toJson_real suits.2]
  | _ => simp [Cell.toJson, Json.present?, Json.ofInt]

variable [Numerals]

/-- A value that is present has an order with every scalar. -/
theorem orderWith_ne_none (filled : cell ≠ .null) (s : Scalar) :
    orderWith (cell, some type) s ≠ none := by
  cases cell with
  | null => exact absurd rfl filled
  | _ => exact Option.some_ne_none _

/-- A comparison with a scalar comes out true for a cell exactly when it holds for its JSON value.
Only the one that is negated asks for a cell that is present. -/
theorem compareTruth_eq_true_iff {op : FederatedSearch.CompareOp} {sqlOp : CompareOp}
    (same : CompareOp.ofQuery? op = some sqlOp) (suits : cell.Suits type)
    (taken : v.scalar = .ok s) (admits : type.Admits s) (filled : op = .notEq → cell ≠ .null) :
    compareTruth (cell, some type) sqlOp s = some true ↔ op.Holds cell.toJson.present? v := by
  have known : op = .notEq → orderWith (cell, some type) s ≠ none :=
    fun negated => orderWith_ne_none (filled negated) s
  have stands := Document.compareWith_eq_some_iff taken (present?_toJson_ne_null cell)
  have equal : _ ↔ v.Equals cell.toJson.present? := stands .eq
  have below : _ ↔ v.Exceeds cell.toJson.present? := stands .lt
  have above : _ ↔ v.FallsShortOf cell.toJson.present? := stands .gt
  rw [orderWith_eq_compareWith suits admits] at known
  rw [compareTruth, orderWith_eq_compareWith suits admits]
  generalize Document.compareWith cell.toJson.present? s.toJson = order at *
  cases op with
  | eq | lt | gt | lte | gte =>
    cases same
    simp only [FederatedSearch.CompareOp.Holds, ← equal, ← below, ← above]
    cases order with
    | none => simp
    | some o => cases o <;> simp [CompareOp.accepts]
  | notEq =>
    cases same
    simp only [FederatedSearch.CompareOp.Holds, ← equal]
    cases order with
    | none => exact absurd rfl (known rfl)
    | some o => cases o <;> simp [CompareOp.accepts]
  | isIn | notIn | like | notLike => cases same

/-- Looking for a cell among scalars comes out true exactly when its JSON value is equal to one of
their literals. -/
theorem member_eq_true_iff {items : List Literal} {scalars : List Scalar} (suits : cell.Suits type)
    (taken : List.Forall₂ (fun item s => item.scalar = .ok s ∧ type.Admits s) items scalars) :
    Truth.joinAll .or (scalars.map (compareTruth (cell, some type) .eq)) = some true ↔
      ∃ item ∈ items, item.Equals cell.toJson.present? := by
  simp only [Truth.joinAll_or_eq_true_iff, List.mem_map, exists_exists_and_eq_and]
  refine exists_mem_iff_of_forall₂ (taken.imp fun item s both => ?_)
  exact compareTruth_eq_true_iff (show CompareOp.ofQuery? .eq = some .eq from rfl) suits both.1
    both.2 nofun

/-- Looking for a cell that is present among scalars is never unknown. -/
theorem member_ne_none (filled : cell ≠ .null) (scalars : List Scalar) :
    Truth.joinAll .or (scalars.map (compareTruth (cell, some type) .eq)) ≠ none := by
  refine Truth.joinAll_ne_none (List.forall_mem_map.mpr fun s _ => ?_)
  rw [compareTruth, ne_eq, Option.map_eq_none_iff]
  exact orderWith_ne_none filled s

end Outcomes

end Sql

/-! ## Leaves -/

/-- A leaf is compiled for a database and for a document store, the database reads its condition
back, and both decide alike on the rows of a table and their records. -/
structure Predicate.AgreesOn [Sql.Numerals] (t : Sql.Table) (leaf : Predicate) : Prop where
  condition : ∃ condition, Sql.conditionOf 0 leaf = .ok condition ∧
    condition.reread? .sqlite = some condition ∧
    ∀ row ∈ t.rows, condition.truthUnder (.ofRow t.columns row) = some true ↔
      leaf.LeafHolds (Sql.rowRecord t.columns row)
  filter : ∃ filter, Document.filterOf leaf = .ok filter

namespace Sql

section Leaves

variable {t : Table} {column : Column} {v low high : Literal} {s : Scalar}

/-- Each row has a cell for each column. -/
theorem Table.IsTyped.exists_cell (typed : t.IsTyped) (member : column ∈ t.columns)
    {row : List Cell} (inside : row ∈ t.rows) :
    ∃ cell, (column, cell) ∈ t.columns.zip row ∧ cell.Suits column.type := by
  obtain ⟨i, bound, rfl⟩ := List.mem_iff_getElem.mp member
  have length := typed.complete row inside
  have entry : (t.columns[i], row[i]) ∈ t.columns.zip row := by
    rw [← List.getElem_zip (h := by rw [List.length_zip]; omega)]
    exact List.getElem_mem _
  exact ⟨row[i], entry, typed.suits row inside _ entry⟩

/-- A list of values is read back when each of them is. -/
theorem mapM_rereadScalar? {d : Dialect} {values : List Scalar}
    (kept : ∀ s ∈ values, d.rereadScalar? s = some s) :
    values.mapM d.rereadScalar? = some values := by
  induction values with
  | nil => rfl
  | cons s values ih =>
    obtain ⟨first, others⟩ := List.forall_mem_cons.mp kept
    rw [List.mapM_cons, first, ih others]
    rfl

/-- A comparison with a scalar is compiled to one of the column with it. -/
theorem comparison_of_scalar (field : String) {op : FederatedSearch.CompareOp} {sqlOp : CompareOp}
    (same : CompareOp.ofQuery? op = some sqlOp) (taken : v.scalar = .ok s) :
    comparison field op v = .ok (.compare field sqlOp s) := by
  unfold comparison
  rw [Document.isExists_of_scalar taken, if_neg Bool.false_ne_true, taken]
  cases op <;> cases same <;> rfl

/-- A comparison with a scalar has a document filter. -/
theorem exists_document_comparison (field : String) {op : FederatedSearch.CompareOp}
    {sqlOp : CompareOp} (same : CompareOp.ofQuery? op = some sqlOp) (taken : v.scalar = .ok s) :
    ∃ filter, Document.comparison field op v = .ok filter := by
  unfold Document.comparison Document.condition
  rw [Document.isExists_of_scalar taken, if_neg Bool.false_ne_true, taken]
  cases op <;> cases same <;> exact ⟨_, rfl⟩

variable [Numerals]

/-- A comparison agrees when its condition and its meaning agree on the cells of its column. -/
theorem agreesOn_compare (typed : t.IsTyped) (member : column ∈ t.columns)
    {op : FederatedSearch.CompareOp} {condition : Condition} {filter : Json}
    (sql : comparison column.name op v = .ok condition)
    (back : condition.reread? .sqlite = some condition)
    (document : Document.comparison column.name op v = .ok filter)
    (decides : ∀ row ∈ t.rows, ∀ cell : Cell, cell.Suits column.type →
      (column, cell) ∈ t.columns.zip row →
      (condition.truthUnder (.ofRow t.columns row) = some true ↔
        op.Holds cell.toJson.present? v)) :
    (Predicate.compare column.name op v).AgreesOn t where
  condition := by
    refine ⟨condition, (conditionOf_compare ..).trans sql, back, fun row inside => ?_⟩
    obtain ⟨cell, entry, suits⟩ := typed.exists_cell member inside
    rw [decides row inside cell suits entry, Predicate.LeafHolds,
      lookup_rowRecord typed.distinct entry]
  filter := ⟨filter, by rw [Document.filterOf, document]⟩

/-- What a database reads where the dialect has written a value that a column admits. -/
theorem rereadScalar?_of_admits {type : ColumnType} (admits : type.Admits s) :
    Dialect.sqlite.rereadScalar? s = some s := by
  cases s with
  | string u => rfl
  | integer n => rfl
  | float x => rw [Dialect.rereadScalar?, if_pos admits.2.1]
  | bool b => exact admits.elim

/-- A comparison on a column of a typed table tests the cell there. -/
theorem ofRow_compare (typed : t.IsTyped) {row : List Cell} {cell : Cell}
    (entry : (column, cell) ∈ t.columns.zip row) (op : CompareOp) (s : Scalar) :
    (Tests.ofRow t.columns row).compare column.name op s
      = compareTruth (cell, some column.type) op s :=
  congrArg (compareTruth · op s) (operand_of_mem typed.distinct entry)

/-- What stands for presence asks of a cell whether it is absent. -/
theorem truthUnder_null_eq_true_iff (typed : t.IsTyped) {row : List Cell} {cell : Cell}
    (entry : (column, cell) ∈ t.columns.zip row) (suits : cell.Suits column.type) (wanted : Bool) :
    (Condition.null column.name wanted).truthUnder (.ofRow t.columns row) = some true ↔
      cell.toJson.present?.isSome = wanted := by
  have present := isSome_present?_toJson suits
  simp only [Condition.truthUnder, Tests.ofRow, operand_of_mem typed.distinct entry]
  cases wanted <;> by_cases absent : cell = .null <;>
    simp_all [negateIf, Truth.not, Cell.toJson, Json.present?]

/-- Presence is asked alike of a cell and of a field. -/
theorem agreesOn_presence (typed : t.IsTyped) (member : column ∈ t.columns)
    (presence : v.isExists = true) (wanted : Bool) :
    (Predicate.compare column.name (if wanted then .eq else .notEq) v).AgreesOn t := by
  have equals (value : Option Json) : v.Equals value ↔ value.isSome = true := by
    cases value <;> simp [Literal.Equals, presence]
  have sql : comparison column.name (if wanted then .eq else .notEq) v
      = .ok (.null column.name wanted) := by
    unfold comparison
    rw [presence, if_pos rfl]
    cases wanted <;> rfl
  obtain ⟨filter, document⟩ : ∃ filter,
      Document.comparison column.name (if wanted then .eq else .notEq) v = .ok filter := by
    unfold Document.comparison
    rw [presence, if_pos rfl]
    cases wanted <;> exact ⟨_, rfl⟩
  refine agreesOn_compare typed member sql rfl document fun row _ cell suits entry => ?_
  rw [truthUnder_null_eq_true_iff typed entry suits]
  cases wanted with
  | true => exact (equals _).symm
  | false => rw [if_neg Bool.false_ne_true, FederatedSearch.CompareOp.Holds, equals,
      Bool.not_eq_true]

/-- A comparison with a value of the column's type agrees. -/
theorem agreesOn_scalar (typed : t.IsTyped) (member : column ∈ t.columns)
    {op : FederatedSearch.CompareOp} {sqlOp : CompareOp} (same : CompareOp.ofQuery? op = some sqlOp)
    (suits : v.Suits column.type) (filled : op = .notEq → t.IsFilled column) :
    (Predicate.compare column.name op v).AgreesOn t := by
  obtain ⟨s, taken, admits⟩ := suits
  obtain ⟨filter, document⟩ := exists_document_comparison column.name same taken
  refine agreesOn_compare typed member (comparison_of_scalar column.name same taken) ?_ document
    fun row inside cell suits entry => ?_
  · rw [Condition.reread?, rereadScalar?_of_admits admits]
    rfl
  · rw [Condition.truthUnder, ofRow_compare typed entry]
    refine compareTruth_eq_true_iff same suits taken admits fun negated absent => ?_
    exact filled negated row inside (absent ▸ entry)

/-- The items of a literal that suit a column are scalars that it admits. -/
theorem exists_scalars {type : ColumnType} (suits : ∀ item ∈ v.items, item.Suits type) :
    ∃ scalars, v.scalars = .ok scalars ∧
      List.Forall₂ (fun item s => item.scalar = .ok s ∧ type.Admits s) v.items scalars := by
  obtain ⟨scalars, taken⟩ : ∃ scalars, v.scalars = .ok scalars := by
    cases v with
    | list items =>
      refine exists_mapM_eq_ok_iff.mpr fun item member => ?_
      obtain ⟨s, found, _⟩ := suits item member
      exact ⟨s, found⟩
    | _ =>
      obtain ⟨s, found, _⟩ := suits _ (List.mem_singleton_self _)
      exact ⟨[s], bind_eq_ok_iff.mpr ⟨s, found, rfl⟩⟩
  refine ⟨scalars, taken, ?_⟩
  have each : ∀ item ∈ v.items, ∀ s, item.scalar = .ok s → type.Admits s := by
    intro item member s found
    obtain ⟨other, same, admits⟩ := suits item member
    cases found.symm.trans same
    exact admits
  exact ((List.forall₂_and_left ..).mpr ⟨each, Document.forall₂_of_scalars taken⟩).imp
    fun item s both => ⟨both.2, both.1 s both.2⟩

/-- A comparison with a list of values of the column's type agrees. -/
theorem agreesOn_list (typed : t.IsTyped) (member : column ∈ t.columns)
    (suits : ∀ item ∈ v.items, item.Suits column.type) (negated : Bool)
    (filled : negated = true → t.IsFilled column) :
    (Predicate.compare column.name (if negated then .notIn else .isIn) v).AgreesOn t := by
  obtain ⟨scalars, taken, each⟩ := exists_scalars suits
  have plain : v.isExists = false := by
    cases v <;> first | rfl | cases taken
  have sql : comparison column.name (if negated then .notIn else .isIn) v
      = .ok (.member column.name negated scalars) := by
    unfold comparison
    rw [plain, if_neg Bool.false_ne_true, taken]
    cases negated <;> rfl
  obtain ⟨filter, document⟩ : ∃ filter,
      Document.comparison column.name (if negated then .notIn else .isIn) v = .ok filter := by
    unfold Document.comparison Document.condition
    rw [plain, if_neg Bool.false_ne_true, taken]
    cases negated <;> exact ⟨_, rfl⟩
  refine agreesOn_compare typed member sql ?_ document fun row inside cell suits entry => ?_
  · have kept : ∀ s ∈ scalars, Dialect.sqlite.rereadScalar? s = some s :=
      forall_mem_of_forall₂ (each.imp fun _ _ both => rereadScalar?_of_admits both.2)
    rw [Condition.reread?, mapM_rereadScalar? kept]
    rfl
  · have tests : (Tests.ofRow t.columns row).member column.name scalars
        = Truth.joinAll .or (scalars.map (compareTruth (cell, some column.type) .eq)) := by
      rw [Tests.member, funext (ofRow_compare typed entry .eq)]
    rw [Condition.truthUnder, tests]
    cases negated with
    | false => exact member_eq_true_iff suits each
    | true =>
      have present : cell ≠ .null := fun absent => filled rfl row inside (absent ▸ entry)
      rw [negateIf, if_pos rfl, Truth.not_eq_true_iff (member_ne_none present scalars),
        member_eq_true_iff suits each]
      rfl

/-- A range of values of the column's type agrees. -/
theorem agreesOn_between (typed : t.IsTyped) (member : column ∈ t.columns)
    (lower : low.Suits column.type) (upper : high.Suits column.type) :
    (Predicate.between column.name low high).AgreesOn t where
  condition := by
    obtain ⟨s, takenLow, admitsLow⟩ := lower
    obtain ⟨u, takenHigh, admitsHigh⟩ := upper
    refine ⟨.between column.name s u, ?_, ?_, fun row inside => ?_⟩
    · rw [conditionOf_between, takenLow, takenHigh]
      rfl
    · rw [Condition.reread?, rereadScalar?_of_admits admitsLow, rereadScalar?_of_admits admitsHigh]
      rfl
    · obtain ⟨cell, entry, suits⟩ := typed.exists_cell member inside
      rw [Condition.truthUnder, Truth.and_eq_true_iff, ofRow_compare typed entry,
        ofRow_compare typed entry, Predicate.LeafHolds, lookup_rowRecord typed.distinct entry]
      have above : CompareOp.ofQuery? .gte = some .ge := rfl
      have below : CompareOp.ofQuery? .lte = some .le := rfl
      exact and_congr
        (compareTruth_eq_true_iff above suits takenLow admitsLow (by rintro ⟨⟩))
        (compareTruth_eq_true_iff below suits takenHigh admitsHigh (by rintro ⟨⟩))
  filter := by
    obtain ⟨s, takenLow, _⟩ := lower
    obtain ⟨u, takenHigh, _⟩ := upper
    rw [Document.filterOf, Document.range, takenLow, takenHigh]
    exact ⟨_, rfl⟩

/-- Every leaf that suits a table agrees. -/
theorem agreesOn_of_suits (typed : t.IsTyped) {leaf : Predicate} (suits : leaf.Suits t) :
    leaf.AgreesOn t := by
  cases leaf with
  | compare field op v =>
    obtain ⟨column, member, rfl, asks⟩ := suits
    cases op with
    | eq =>
      exact asks.elim (fun presence => agreesOn_presence typed member presence true)
        fun value => agreesOn_scalar typed member rfl value nofun
    | notEq =>
      exact asks.elim (fun presence => agreesOn_presence typed member presence false)
        fun value => agreesOn_scalar typed member rfl value.1 fun _ => value.2
    | lt | gt | lte | gte => exact agreesOn_scalar typed member rfl asks nofun
    | isIn => exact agreesOn_list typed member asks false nofun
    | notIn => exact agreesOn_list typed member asks.1 true fun _ => asks.2
    | like | notLike => exact asks.elim
  | between field low high =>
    obtain ⟨column, member, rfl, lower, upper⟩ := suits
    exact agreesOn_between typed member lower upper
  | and | or | paren => exact suits.elim

end Leaves

end Sql

end FederatedSearch
