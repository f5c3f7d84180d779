import FederatedSearch.NativeQuery
import FederatedSearch.Proofs.Query.Truth
import FederatedSearch.Proofs.Success
import FederatedSearch.Sql.Table
import Mathlib.Data.Fintype.Option

/-!
# Conditions with three outcomes

What a condition says of a row depends on how a database tests single columns, and in this
databases differ. `Condition.truthUnder` takes those tests as given and adds what all of them share:
AND and OR with three outcomes, a list as a chain of equalities, a range as two comparisons. The
outcome of a condition is then that of its predicate, joined leaf by leaf
(`truthUnder_of_conditionOf`). No threshold occurs there, so that writing chains as lists is a pure
simplification (`select_eq_of_thresholds`).
-/

namespace FederatedSearch

namespace Sql

/-! ## Joining outcomes -/

namespace Truth

/-- Joining is associative. -/
theorem join_assoc (c : Connective) (s t u : Truth) :
    join c (join c s t) u = join c s (join c t u) := by
  revert s t u
  cases c <;> decide

/-- The unit of a connective is neutral on the left. -/
theorem unit_join (c : Connective) (t : Truth) : join c (unit c) t = t := by
  revert t
  cases c <;> decide

/-- The unit of a connective is neutral on the right. -/
theorem join_unit (c : Connective) (t : Truth) : join c t (unit c) = t := by
  revert t
  cases c <;> decide

/-- Both of two outcomes are true exactly when each is. -/
theorem and_eq_true_iff (s t : Truth) : s.and t = some true ↔ s = some true ∧ t = some true := by
  revert s t
  decide

/-- One of two outcomes is true exactly when one of them is. -/
theorem or_eq_true_iff (s t : Truth) : s.or t = some true ↔ s = some true ∨ t = some true := by
  revert s t
  decide

/-- Any number of outcomes joined by a connective. -/
def joinAll (c : Connective) (ts : List Truth) : Truth :=
  ts.foldr (join c) (unit c)

@[simp] theorem joinAll_nil (c : Connective) : joinAll c [] = unit c := rfl

@[simp] theorem joinAll_cons (c : Connective) (t : Truth) (ts : List Truth) :
    joinAll c (t :: ts) = join c t (joinAll c ts) := rfl

/-- One truth value is joined to itself. -/
theorem joinAll_singleton (c : Connective) (t : Truth) : joinAll c [t] = t :=
  join_unit c t

/-- Two lists are joined by joining what each gives. -/
theorem joinAll_append (c : Connective) (ts us : List Truth) :
    joinAll c (ts ++ us) = join c (joinAll c ts) (joinAll c us) := by
  induction ts with
  | nil => rw [List.nil_append, joinAll_nil, unit_join]
  | cons t ts ih => rw [List.cons_append, joinAll_cons, joinAll_cons, ih, join_assoc]

/-- One of some outcomes is true exactly when some one of them is. -/
theorem joinAll_or_eq_true_iff {ts : List Truth} :
    joinAll .or ts = some true ↔ ∃ t ∈ ts, t = some true := by
  induction ts with
  | nil => simp [unit]
  | cons t ts ih => rw [joinAll_cons, join, or_eq_true_iff, ih, List.exists_mem_cons_iff]

/-- Known truth values are joined to a known one. -/
theorem join_ne_none (c : Connective) {t u : Truth} (left : t ≠ none) (right : u ≠ none) :
    join c t u ≠ none := by
  revert t u
  cases c <;> decide

/-- When none of some outcomes is unknown, neither is what joins them. -/
theorem joinAll_ne_none {c : Connective} {ts : List Truth} (known : ∀ t ∈ ts, t ≠ none) :
    joinAll c ts ≠ none := by
  induction ts with
  | nil => cases c <;> decide
  | cons t ts ih =>
    obtain ⟨first, others⟩ := List.forall_mem_cons.mp known
    exact join_ne_none c first (ih others)

/-- The opposite of a known outcome is true exactly when the outcome is not. -/
theorem not_eq_true_iff {t : Truth} (known : t ≠ none) : t.not = some true ↔ ¬ t = some true := by
  revert t
  decide

end Truth

end Sql

namespace Predicate

/-- The outcome of a predicate when the outcomes of its leaves are given. -/
def truthFrom (leaf : Predicate → Sql.Truth) : Predicate → Sql.Truth
  | and left right => (left.truthFrom leaf).and (right.truthFrom leaf)
  | or left right => (left.truthFrom leaf).or (right.truthFrom leaf)
  | paren inner => inner.truthFrom leaf
  | compare field op value => leaf (compare field op value)
  | between field low high => leaf (between field low high)

section Operands

variable {leaf : Predicate → Sql.Truth}

/-- The outcome of a chain is that of its operands, joined. -/
theorem joinAll_operands (c : Connective) (p : Predicate) :
    Sql.Truth.joinAll c ((p.operands c).map (truthFrom leaf)) = p.truthFrom leaf := by
  induction p with
  | compare field op value => exact Sql.Truth.joinAll_singleton c _
  | between field low high => exact Sql.Truth.joinAll_singleton c _
  | and left right ihLeft ihRight =>
    cases c with
    | and =>
      rw [operands_and_of_and, List.map_append, Sql.Truth.joinAll_append, ihLeft, ihRight]
      rfl
    | or => exact Sql.Truth.joinAll_singleton .or _
  | or left right ihLeft ihRight =>
    cases c with
    | and => exact Sql.Truth.joinAll_singleton .and _
    | or =>
      rw [operands_or_of_or, List.map_append, Sql.Truth.joinAll_append, ihLeft, ihRight]
      rfl
  | paren inner ih =>
    rw [operands]
    split
    · exact ih
    · exact Sql.Truth.joinAll_singleton c _

/-- A predicate comes out true exactly when it is true of the leaves that do. -/
theorem truthFrom_eq_true_iff (p : Predicate) :
    p.truthFrom leaf = some true ↔ p.TrueUnder fun q => leaf q = some true := by
  induction p with
  | compare field op value => exact Iff.rfl
  | between field low high => exact Iff.rfl
  | and left right ihLeft ihRight =>
    rw [truthFrom, Sql.Truth.and_eq_true_iff, ihLeft, ihRight, trueUnder_and]
  | or left right ihLeft ihRight =>
    rw [truthFrom, Sql.Truth.or_eq_true_iff, ihLeft, ihRight, trueUnder_or]
  | paren inner ih => exact ih

end Operands

end Predicate

namespace Sql

/-! ## Conditions under given tests -/

/-- How a database tests single columns of a row. Whether a column is absent is never unknown. -/
structure Tests where
  compare : String → CompareOp → Scalar → Truth
  like : String → String → Truth
  absent : String → Bool

namespace Tests

/-- The outcome of looking for a column among scalars. -/
def member (tests : Tests) (column : String) (values : List Scalar) : Truth :=
  Truth.joinAll .or (values.map (tests.compare column .eq))

/-- How the tables of this library test the columns of a row. -/
def ofRow [Numerals] (columns : List Column) (row : List Cell) : Tests where
  compare column op value := compareTruth (operand columns row column) op value
  like column pattern := ((operand columns row column).1.asText?).map fun s =>
    likeMatches pattern.toList (asciiLowerText s).toList
  absent column := (operand columns row column).1 == .null

end Tests

mutual

/-- The outcome of a condition when the outcomes of tests on single columns are given. -/
def Condition.truthUnder (tests : Tests) : Condition → Truth
  | .compare column op value => tests.compare column op value
  | .member column negated values => negateIf negated (tests.member column values)
  | .like column negated pattern => negateIf negated (tests.like column pattern)
  | .null column negated => negateIf negated (some (tests.absent column))
  | .between column low high => (tests.compare column .ge low).and (tests.compare column .le high)
  | .group c operands => Condition.joinUnder tests c operands

/-- The outcome of operands joined by a connective. -/
def Condition.joinUnder (tests : Tests) (c : Connective) : List Condition → Truth
  | [] => Truth.unit c
  | first :: rest => Truth.join c (first.truthUnder tests) (Condition.joinUnder tests c rest)

end

section Rows

variable [Numerals]

/-- Looking for a value among scalars is one of the tests of its column. -/
theorem memberTruth_eq_member (columns : List Column) (row : List Cell) (column : String)
    (values : List Scalar) : memberTruth (operand columns row column) values =
      (Tests.ofRow columns row).member column values := by
  unfold memberTruth Tests.member Truth.joinAll
  rw [List.foldr_map]
  rfl

mutual

/-- A row of a table decides on a condition by the tests of its columns. -/
theorem Condition.truth_eq_truthUnder (columns : List Column) (row : List Cell) :
    (c : Condition) → c.truth columns row = c.truthUnder (Tests.ofRow columns row)
  | .compare _ _ _ => rfl
  | .member column negated values =>
    congrArg (negateIf negated) (memberTruth_eq_member columns row column values)
  | .like _ _ _ => rfl
  | .null _ _ => rfl
  | .between _ _ _ => rfl
  | .group c operands => Condition.joinTruth_eq_joinUnder columns row c operands

/-- So it does on conditions that are joined. -/
theorem Condition.joinTruth_eq_joinUnder (columns : List Column) (row : List Cell)
    (c : Connective) : (cs : List Condition) →
      Condition.joinTruth columns row c cs = Condition.joinUnder (Tests.ofRow columns row) c cs
  | [] => rfl
  | first :: rest => congrArg₂ (Truth.join c) (Condition.truth_eq_truthUnder columns row first)
      (Condition.joinTruth_eq_joinUnder columns row c rest)

end

end Rows

/-- Conditions under a connective have the joined outcome of each. -/
theorem Condition.joinUnder_eq_joinAll (tests : Tests) (c : Connective) (cs : List Condition) :
    Condition.joinUnder tests c cs = Truth.joinAll c (cs.map (Condition.truthUnder tests)) := by
  induction cs with
  | nil => rfl
  | cons first rest ih => rw [Condition.joinUnder, ih, List.map_cons, Truth.joinAll_cons]

/-! ## The condition of a predicate -/

section Compiled

variable {threshold : Nat} {p : Predicate} {condition : Condition} {tests : Tests}

/-- Parentheses leave no trace in a condition. -/
theorem conditionOf_paren (threshold : Nat) (inner : Predicate) :
    conditionOf threshold (.paren inner) = conditionOf threshold inner := by
  rw [conditionOf]

/-- A conjunction becomes the group of its flattened operands. -/
theorem conditionOf_and (threshold : Nat) (left right : Predicate) :
    conditionOf threshold (.and left right) = do
      let operands ← ((Predicate.and left right).operands .and).mapM (conditionOf threshold)
      return .group .and operands := by
  rw [conditionOf]
  simp

/-- A disjunction of enough equalities on one field becomes a test for membership. -/
theorem conditionOf_or_list {left right : Predicate} {field : String} {values : List Scalar}
    (listed : orToIn? threshold ((Predicate.or left right).operands .or) = some (field, values)) :
    conditionOf threshold (.or left right) = .ok (.member field false values) := by
  rw [conditionOf]
  simp only [listed]

/-- Any other disjunction becomes the group of its flattened operands. -/
theorem conditionOf_or_chain {left right : Predicate}
    (unlisted : orToIn? threshold ((Predicate.or left right).operands .or) = none) :
    conditionOf threshold (.or left right) = do
      let operands ← ((Predicate.or left right).operands .or).mapM (conditionOf threshold)
      return .group .or operands := by
  rw [conditionOf]
  simp only [unlisted, List.mapM_subtype, List.unattach_attach]

/-- The outcome of a leaf is that of its condition, on which no threshold bears. -/
def leafTruth (tests : Tests) (leaf : Predicate) : Truth :=
  match conditionOf 0 leaf with
  | .ok condition => condition.truthUnder tests
  | .error _ => none

/-- The truth of a leaf is that of its condition. -/
theorem leafTruth_of_conditionOf {leaf : Predicate}
    (compiled : conditionOf 0 leaf = .ok condition) :
    leafTruth tests leaf = condition.truthUnder tests := by
  rw [leafTruth, compiled]

/-- A comparison compiles the same at every threshold. -/
theorem conditionOf_compare (threshold : Nat) (field : String)
    (op : FederatedSearch.CompareOp) (value : Literal) :
    conditionOf threshold (.compare field op value) = comparison field op value := by
  rw [conditionOf]

/-- A range compiles to a range between the scalars of its bounds, at every threshold. -/
theorem conditionOf_between (threshold : Nat) (field : String) (low high : Literal) :
    conditionOf threshold (.between field low high) = do
      let low ← low.scalar
      let high ← high.scalar
      return .between field low high := by
  rw [conditionOf]

/-! ### Chains that are written as lists -/

/-- An equality is a comparison by equality with a scalar. -/
theorem equality_eq_some_iff {q : Predicate} {field : String} {value : Scalar} :
    equality? q = some (field, value) ↔
      ∃ v, q = .compare field .eq v ∧ v.scalar = .ok value := by
  constructor
  · intro equality
    unfold equality? at equality
    split at equality
    · rename_i name v
      split at equality
      · rename_i s taken
        cases equality
        exact ⟨v, rfl, taken⟩
      · cases equality
    · cases equality
  · rintro ⟨v, rfl, taken⟩
    rw [equality?, taken]

/-- An equality with a scalar is a test for that scalar. -/
theorem conditionOf_equality {v : Literal} {value : Scalar} (field : String)
    (taken : v.scalar = .ok value) :
    conditionOf threshold (.compare field .eq v) = .ok (.compare field .eq value) := by
  have plain : v.isExists = false := by
    cases v <;> cases taken <;> rfl
  rw [conditionOf_compare]
  unfold comparison
  rw [plain, if_neg Bool.false_ne_true, taken]
  rfl

/-- When all operands are equalities of one field, they are equalities with the values found. -/
theorem forall₂_of_equalities {operands : List Predicate} {entries : List (String × Scalar)}
    {field : String} (taken : operands.mapM equality? = some entries)
    (same : ∀ entry ∈ entries, entry.1 = field) :
    List.Forall₂ (fun q value => equality? q = some (field, value)) operands
      (entries.map (·.2)) := by
  induction operands generalizing entries with
  | nil =>
    cases taken
    exact .nil
  | cons q operands ih =>
    rw [List.mapM_cons] at taken
    obtain ⟨entry, first, taken⟩ := Option.bind_eq_some_iff.mp taken
    obtain ⟨more, others, taken⟩ := Option.bind_eq_some_iff.mp taken
    cases taken
    obtain ⟨sameFirst, sameOthers⟩ := List.forall_mem_cons.mp same
    cases sameFirst
    exact .cons first (ih others sameOthers)

/-- The operands of a chain that is written as a list are equalities of one field with its
values. -/
theorem forall₂_of_orToIn {operands : List Predicate} {field : String} {values : List Scalar}
    (listed : orToIn? threshold operands = some (field, values)) :
    List.Forall₂ (fun q value => equality? q = some (field, value)) operands values := by
  unfold orToIn? at listed
  split at listed
  · cases listed
  · unfold valueList? at listed
    split at listed
    · rename_i name value rest taken
      split at listed
      · rename_i same
        cases listed
        refine forall₂_of_equalities taken (List.forall_mem_cons.mpr ⟨rfl, ?_⟩)
        simpa using same
      · cases listed
    · cases listed

/-- A chain that is written as a list has the outcome of looking for its field in the list. -/
theorem member_of_orToIn {operands : List Predicate} {field : String} {values : List Scalar}
    (listed : orToIn? threshold operands = some (field, values)) :
    tests.member field values =
      Truth.joinAll .or (operands.map (Predicate.truthFrom (leafTruth tests))) := by
  have equalities := forall₂_of_orToIn listed
  clear listed
  unfold Tests.member
  congr 1
  induction equalities with
  | nil => rfl
  | cons equality _ ih =>
    obtain ⟨v, rfl, taken⟩ := equality_eq_some_iff.mp equality
    rw [List.map_cons, List.map_cons, ih, Predicate.truthFrom,
      leafTruth_of_conditionOf (conditionOf_equality field taken)]
    rfl

/-- The operands of a chain that is written as a list are leaves with conditions. -/
theorem exists_conditionOf_of_orToIn {operands : List Predicate} {field : String}
    {values : List Scalar} (listed : orToIn? threshold operands = some (field, values)) :
    ∀ q ∈ operands, ∀ leaf ∈ q.leaves, ∃ condition, conditionOf 0 leaf = .ok condition := by
  have equalities := forall₂_of_orToIn listed
  clear listed
  induction equalities with
  | nil => simp
  | cons equality _ ih =>
    obtain ⟨v, rfl, taken⟩ := equality_eq_some_iff.mp equality
    refine List.forall_mem_cons.mpr ⟨?_, ih⟩
    intro leaf inside
    cases List.mem_singleton.mp inside
    exact ⟨_, conditionOf_equality field taken⟩

/-! ### All predicates -/

/-- A predicate has a condition exactly when each of its leaves has, whatever the threshold. -/
theorem exists_conditionOf_iff (threshold : Nat) (p : Predicate) :
    (∃ condition, conditionOf threshold p = .ok condition) ↔
      ∀ leaf ∈ p.leaves, ∃ condition, conditionOf 0 leaf = .ok condition := by
  induction p using conditionOf.induct threshold with
  | case1 left right chain ih =>
    rw [conditionOf_and, ← Predicate.flatMap_leaves_operands .and]
    simp only [bind_eq_ok_iff, pure_eq_ok_iff, exists_comm (α := Condition), exists_and_left,
      exists_eq', and_true, exists_mapM_eq_ok_iff, List.forall_mem_flatMap]
    exact forall₂_congr ih
  | case2 left right chain field values listed =>
    rw [conditionOf_or_list listed, ← Predicate.flatMap_leaves_operands .or,
      List.forall_mem_flatMap]
    exact iff_of_true ⟨_, rfl⟩ (exists_conditionOf_of_orToIn listed)
  | case3 left right chain unlisted ih =>
    rw [conditionOf_or_chain unlisted, ← Predicate.flatMap_leaves_operands .or]
    simp only [bind_eq_ok_iff, pure_eq_ok_iff, exists_comm (α := Condition), exists_and_left,
      exists_eq', and_true, exists_mapM_eq_ok_iff, List.forall_mem_flatMap]
    exact forall₂_congr ih
  | case4 inner ih =>
    rw [conditionOf, Predicate.leaves]
    exact ih
  | case5 field op value => simp [Predicate.leaves, conditionOf_compare]
  | case6 field low high =>
    simp only [Predicate.leaves, conditionOf_between, List.forall_mem_singleton]

/-- Conditions of operands have the outcomes of the operands. -/
theorem map_truthUnder {qs : List Predicate} {conditions : List Condition}
    (ih : ∀ q ∈ qs, ∀ {condition : Condition}, conditionOf threshold q = .ok condition →
      condition.truthUnder tests = q.truthFrom (leafTruth tests))
    (compiled : qs.mapM (conditionOf threshold) = .ok conditions) :
    conditions.map (Condition.truthUnder tests) =
      qs.map (Predicate.truthFrom (leafTruth tests)) := by
  have each : ∀ q ∈ qs, ∀ condition, conditionOf threshold q = .ok condition →
      condition.truthUnder tests = q.truthFrom (leafTruth tests) := fun q member _ => ih q member
  have alike := ((List.forall₂_and_left ..).mpr ⟨each, mapM_eq_ok_iff.mp compiled⟩).imp
    fun q condition both => both.1 condition both.2
  clear ih each compiled
  induction alike with
  | nil => rfl
  | cons first _ others => rw [List.map_cons, List.map_cons, first, others]

/-- A condition has the outcome of its predicate, whatever the threshold. -/
theorem truthUnder_of_conditionOf (compiled : conditionOf threshold p = .ok condition) :
    condition.truthUnder tests = p.truthFrom (leafTruth tests) := by
  induction p using conditionOf.induct threshold generalizing condition with
  | case1 left right chain =>
    rename_i ih
    rw [conditionOf_and] at compiled
    obtain ⟨conditions, operands, rest⟩ := bind_eq_ok_iff.mp compiled
    cases rest
    rw [Condition.truthUnder, Condition.joinUnder_eq_joinAll, map_truthUnder ih operands,
      Predicate.joinAll_operands]
  | case2 left right chain field values =>
    rename_i listed
    rw [conditionOf_or_list listed] at compiled
    cases compiled
    rw [Condition.truthUnder, member_of_orToIn listed, Predicate.joinAll_operands]
    rfl
  | case3 left right chain =>
    rename_i unlisted ih
    rw [conditionOf_or_chain unlisted] at compiled
    obtain ⟨conditions, operands, rest⟩ := bind_eq_ok_iff.mp compiled
    cases rest
    rw [Condition.truthUnder, Condition.joinUnder_eq_joinAll, map_truthUnder ih operands,
      Predicate.joinAll_operands]
  | case4 inner ih =>
    rw [conditionOf] at compiled
    exact ih compiled
  | case5 field op value =>
    rw [conditionOf_compare, ← conditionOf_compare 0] at compiled
    rw [Predicate.truthFrom, leafTruth_of_conditionOf compiled]
  | case6 field low high =>
    rw [conditionOf_between, ← conditionOf_between 0] at compiled
    rw [Predicate.truthFrom, leafTruth_of_conditionOf compiled]

end Compiled

/-! ## Statements -/

/-- When a query is compiled with one threshold, it is with any other. The statements order and page
alike, and their conditions have the same outcome for every row, however columns are tested; hence
they select the same records from every table. -/
theorem select_eq_of_thresholds [Numerals] (q : Query) (table : String) (dialect : Dialect)
    (m n : Nat) {first : Compilation} (compiled : (Compiler.sql table dialect m).compile q = .ok first) :
    ∃ (s s' : Select) (second : Compilation), first.native = .sql (.select dialect s) ∧
      (Compiler.sql table dialect n).compile q = .ok second ∧
      second.native = .sql (.select dialect s') ∧
      s'.orderBy = s.orderBy ∧ s'.limit = s.limit ∧ s'.offset = s.offset ∧
      (∀ tests, s'.condition.truthUnder tests = s.condition.truthUnder tests) ∧
      (∀ columns row, s'.condition.truth columns row = s.condition.truth columns row) ∧
      ∀ t : Table, t.select s' = t.select s := by
  obtain ⟨s, written, rest⟩ := bind_eq_ok_iff.mp compiled
  cases rest
  obtain ⟨condition, predicate, rest⟩ := bind_eq_ok_iff.mp written
  cases rest
  have leaves := (exists_conditionOf_iff m q.predicate).mp ⟨condition, predicate⟩
  obtain ⟨condition', predicate'⟩ := (exists_conditionOf_iff n q.predicate).mpr leaves
  have outcomes : ∀ tests, condition'.truthUnder tests = condition.truthUnder tests :=
    fun tests => (truthUnder_of_conditionOf predicate').trans
      (truthUnder_of_conditionOf predicate).symm
  have rows : ∀ columns row, condition'.truth columns row = condition.truth columns row := by
    intro columns row
    rw [Condition.truth_eq_truthUnder, Condition.truth_eq_truthUnder, outcomes]
  let s' : Select := ⟨table, condition', q.orderBy, q.rowcount, q.offset⟩
  refine ⟨_, s', ⟨.sql (.select dialect s'), optimizations n q.predicate⟩, rfl, ?_, rfl, rfl, rfl,
    rfl, outcomes, rows, fun t => ?_⟩
  · rw [Compiler.compile, compile, predicate']
    rfl
  · simp only [s', Table.select, rows]

/-- A chain below AND that is written as a list with threshold 3 and as a group with threshold 5. -/
theorem select_eq_of_thresholds_nested :
    let p : Predicate := .and
      (.paren (.or (.compare "a" .eq (.integer 1))
        (.paren (.or (.compare "a" .eq (.integer 2)) (.compare "a" .eq (.string "x"))))))
      (.compare "b" .notEq (.column "exist"))
    let q : Query := ⟨"d", p, [⟨"a", true⟩], 2, 7⟩
    ∃ first s s' second, (Compiler.sql "t" .mysql 3).compile q = .ok first ∧
      first.native = .sql (.select .mysql s) ∧
      s.condition = .group .and
        [.member "a" false [.integer 1, .integer 2, .string "x"], .null "b" false] ∧
      (Compiler.sql "t" .mysql 5).compile q = .ok second ∧
      second.native = .sql (.select .mysql s') ∧
      ∀ columns row, s'.condition.truth columns row = s.condition.truth columns row := by
  intro p q
  have listed : orToIn? 3 [.compare "a" .eq (.integer 1), .compare "a" .eq (.integer 2),
      .compare "a" .eq (.string "x")] = some ("a", [.integer 1, .integer 2, .string "x"]) := rfl
  have presence : comparison "b" .notEq (.column "exist") = .ok (.null "b" false) := rfl
  have compiled : ∃ first s, (Compiler.sql "t" .mysql 3).compile q = .ok first ∧
      first.native = .sql (.select .mysql s) ∧ s.condition = .group .and
        [.member "a" false [.integer 1, .integer 2, .string "x"], .null "b" false] := by
    simp [q, p, Compiler.compile, compile, conditionOf, listed, presence, Predicate.operands,
      Predicate.isJoinedBy, bind, Except.bind, pure, Except.pure]
  obtain ⟨first, s, compiled, native, written⟩ := compiled
  obtain ⟨s₁, s', second, native₁, compiled', native', _, _, _, _, rows, _⟩ :=
    select_eq_of_thresholds q "t" .mysql 3 5 compiled
  cases native.symm.trans native₁
  exact ⟨first, s, s', second, compiled, native, written, compiled', native', rows⟩

end Sql

end FederatedSearch
