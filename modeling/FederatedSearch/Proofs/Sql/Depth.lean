import FederatedSearch.Proofs.Query.Chains
import FederatedSearch.Proofs.Sql.Truth

/-!
# How deep conditions are

A database refuses expressions that are too deep. The test of one leaf is at most 5 deep, and each
further leaf of a predicate adds at most one to that, however the predicate is nested, so that
queries of up to 995 leaves are never refused for their depth. A chain of comparisons adds one for
each of them, so that chains of 1000 are.
-/

namespace FederatedSearch

/-- A predicate joined to itself some more times. -/
def Predicate.repeated (c : Connective) (p : Predicate) : Nat → Predicate
  | 0 => p
  | n + 1 => c.join (p.repeated c n) p

namespace Sql

section Depth

variable {threshold : Nat} {p : Predicate} {condition : Condition}

/-! ## Single tests -/

/-- A value has at most a sign above it. -/
theorem valueDepth_le (s : Scalar) : valueDepth s ≤ 2 := by
  unfold valueDepth
  split <;> first | split <;> decide | decide

/-- A list of values is no deeper than its deepest value and the test itself. -/
theorem memberDepth_le (values : List Scalar) : memberDepth values ≤ 4 := by
  have deepest (depth : Nat) (bound : depth ≤ 2) :
      (values.map valueDepth).foldl max depth ≤ 2 := by
    induction values generalizing depth with
    | nil => exact bound
    | cons s values ih => exact ih _ (max_le bound (valueDepth_le s))
  unfold memberDepth
  split
  · decide
  · exact Nat.add_le_add_right (valueDepth_le _) 2
  · exact (Nat.add_le_add_right (deepest 1 (by decide)) 1).trans (by decide)

/-- The test of a comparison is at most 5 deep, as that of a list of one negative value which is
not to be met. -/
theorem depth_comparison_le {field : String} {op : FederatedSearch.CompareOp} {v : Literal}
    (written : comparison field op v = .ok condition) : condition.depth ≤ 5 := by
  have value (s : Scalar) (sqlOp : CompareOp) :
      (Condition.compare field sqlOp s).depth ≤ 5 := by
    have := valueDepth_le s
    rw [Condition.depth]
    omega
  have list (values : List Scalar) (negated : Bool) :
      (Condition.member field negated values).depth ≤ 5 := by
    have := memberDepth_le values
    rw [Condition.depth]
    split <;> omega
  have pattern (negated : Bool) (s : String) : (Condition.like field negated s).depth ≤ 5 := by
    rw [Condition.depth]
    cases negated <;> decide
  have presence (negated : Bool) : (Condition.null field negated).depth ≤ 5 := by
    rw [Condition.depth]
    decide
  unfold comparison at written
  split at written
  · cases op <;> cases written <;> exact presence _
  · cases op with
    | isIn | notIn =>
      obtain ⟨values, _, rest⟩ := bind_eq_ok_iff.mp written
      cases rest
      exact list values _
    | like | notLike =>
      obtain ⟨s, _, rest⟩ := bind_eq_ok_iff.mp written
      cases rest
      exact pattern _ _
    | _ =>
      obtain ⟨s, _, rest⟩ := bind_eq_ok_iff.mp written
      cases rest
      exact value s _

/-! ## Chains -/

/-- Every predicate has a leaf. -/
theorem length_leaves_pos (p : Predicate) : 0 < p.leaves.length := by
  induction p with
  | and left right ih _ | or left right ih _ =>
    rw [Predicate.leaves, List.length_append]
    omega
  | paren inner ih => exact ih
  | compare | between => exact Nat.one_pos

/-- A chain whose operands are not much deeper than they have leaves is not either: each operand
adds one to the depth, and one leaf at least. -/
theorem chainDepth_le {qs : List Predicate} {conditions : List Condition}
    (bounded : List.Forall₂ (fun q c => c.depth ≤ q.leaves.length + 4) qs conditions)
    {before n : Nat} (shallow : before ≤ n + 4) (positive : 0 < n) :
    Condition.chainDepth before conditions ≤ n + (qs.flatMap Predicate.leaves).length + 4 := by
  induction bounded generalizing before n with
  | nil => exact shallow
  | @cons q c _ _ first _ ih =>
    have some_leaf := length_leaves_pos q
    have joined : max before c.depth + 1 ≤ n + q.leaves.length + 4 := by omega
    rw [Condition.chainDepth, List.flatMap_cons, List.length_append, ← Nat.add_assoc n]
    exact ih joined (by omega)

/-- The condition of a chain is not much deeper than the chain has leaves. -/
theorem depth_group_le (connective : Connective) {qs : List Predicate}
    {conditions : List Condition}
    (bounded : List.Forall₂ (fun q c => c.depth ≤ q.leaves.length + 4) qs conditions) :
    (Condition.group connective conditions).depth
      ≤ (qs.flatMap Predicate.leaves).length + 4 := by
  cases bounded with
  | nil => exact Nat.zero_le _
  | @cons q _ _ _ first others =>
    rw [Condition.depth, List.flatMap_cons, List.length_append]
    exact chainDepth_le others first (length_leaves_pos q)

/-- A query of few leaves has a condition of little depth, however its leaves are nested. -/
theorem depth_le_of_conditionOf (compiled : conditionOf threshold p = .ok condition) :
    condition.depth ≤ p.leaves.length + 4 := by
  induction p using conditionOf.induct threshold generalizing condition with
  | case1 left right chain =>
    rename_i ih
    rw [conditionOf_and] at compiled
    obtain ⟨conditions, operands, rest⟩ := bind_eq_ok_iff.mp compiled
    cases rest
    rw [← Predicate.flatMap_leaves_operands .and]
    have each := (List.forall₂_and_left ..).mpr ⟨ih, mapM_eq_ok_iff.mp operands⟩
    exact depth_group_le .and (each.imp fun _ _ both => both.1 both.2)
  | case2 left right chain field values =>
    rename_i listed
    rw [conditionOf_or_list listed] at compiled
    cases compiled
    exact (memberDepth_le values).trans (Nat.le_add_left ..)
  | case3 left right chain =>
    rename_i unlisted ih
    rw [conditionOf_or_chain unlisted] at compiled
    obtain ⟨conditions, operands, rest⟩ := bind_eq_ok_iff.mp compiled
    cases rest
    rw [← Predicate.flatMap_leaves_operands .or]
    have each := (List.forall₂_and_left ..).mpr ⟨ih, mapM_eq_ok_iff.mp operands⟩
    exact depth_group_le .or (each.imp fun _ _ both => both.1 both.2)
  | case4 inner ih =>
    rw [conditionOf_paren] at compiled
    exact ih compiled
  | case5 field op value =>
    rw [conditionOf_compare] at compiled
    exact depth_comparison_le compiled
  | case6 field low high =>
    rw [conditionOf_between] at compiled
    obtain ⟨_, _, rest⟩ := bind_eq_ok_iff.mp compiled
    obtain ⟨_, _, rest⟩ := bind_eq_ok_iff.mp rest
    cases rest
    exact Nat.le_add_left ..

/-! ## Repeated leaves -/

/-- Each operand of a chain adds one to the depth. -/
theorem chainDepth_replicate {before : Nat} (shallow : condition.depth ≤ before) (n : Nat) :
    Condition.chainDepth before (List.replicate n condition) = before + n := by
  induction n generalizing before with
  | zero => rfl
  | succ n ih =>
    rw [List.replicate_succ, Condition.chainDepth, max_eq_left shallow, ih (by omega)]
    omega

/-- A repeated predicate has its repetitions as operands. -/
theorem operands_repeated {c : Connective} (single : p.isJoinedBy c = false) (n : Nat) :
    (p.repeated c n).operands c = List.replicate (n + 1) p := by
  induction n with
  | zero => exact Predicate.operands_of_not_isJoinedBy single
  | succ n ih =>
    rw [Predicate.repeated, Predicate.operands_join, ih,
      Predicate.operands_of_not_isJoinedBy single, ← List.replicate_succ']

/-- Repeating a predicate brings no other leaves. -/
theorem mem_leaves_repeated {leaf : Predicate} {n : Nat}
    (member : leaf ∈ (p.repeated .and n).leaves) : leaf ∈ p.leaves := by
  induction n with
  | zero => exact member
  | succ n ih => exact (List.mem_append.mp member).elim ih id

/-- Repeating a predicate brings no other fields. -/
theorem mem_fields_repeated {field : String} {n : Nat}
    (member : field ∈ (p.repeated .and n).fields) : field ∈ p.fields := by
  induction n with
  | zero => exact member
  | succ n ih => exact (List.mem_append.mp member).elim ih id

/-- A test that is asked for again and again makes the condition one deeper each time. -/
theorem exists_conditionOf_repeated (single : p.isJoinedBy .and = false)
    (written : conditionOf threshold p = .ok condition) (n : Nat) :
    ∃ joined, conditionOf threshold (p.repeated .and n) = .ok joined ∧
      joined.depth = condition.depth + n := by
  cases n with
  | zero => exact ⟨condition, written, rfl⟩
  | succ n =>
    refine ⟨.group .and (List.replicate (n + 2) condition), ?_, ?_⟩
    · have operands := operands_repeated single (n + 1)
      have each : (List.replicate (n + 2) p).mapM (conditionOf threshold)
          = .ok (List.replicate (n + 2) condition) := by
        refine mapM_eq_ok_iff.mpr (List.forall₂_iff_get.mpr ⟨by simp, fun i _ _ => ?_⟩)
        simpa using written
      rw [Predicate.repeated, Connective.join] at operands ⊢
      rw [conditionOf_and, operands, each]
      rfl
    · rw [List.replicate_succ, Condition.depth, chainDepth_replicate le_rfl]

end Depth

end Sql

end FederatedSearch
