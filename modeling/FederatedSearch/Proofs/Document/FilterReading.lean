import FederatedSearch.Document.Filter
import FederatedSearch.Document.Query
import FederatedSearch.Proofs.Query.LikePattern
import FederatedSearch.Proofs.Success

/-!
# Filters and conditions, read piece by piece

Reading a filter goes through its members one after the other. The equations of the readers come
first, with the reading of one operator named `operatorCondition`; from them follows what each
shape stands for that the compiler writes. All this holds however patterns are read; only the
pattern of a LIKE is read as this library does it.
-/

namespace FederatedSearch

namespace Document

section AnyReader

variable [PatternReader]

/-! ## Conditions -/

/-- The condition of one operator. -/
def operatorCondition (options : Option Json) (operator : String) (operand : Json) :
    Except FilterError Condition :=
  if operator = "$eq" then pure (.eq operand)
  else if operator = "$ne" then pure (.ne operand)
  else if operator = "$lt" then pure (.lt operand)
  else if operator = "$gt" then pure (.gt operand)
  else if operator = "$lte" then pure (.lte operand)
  else if operator = "$gte" then pure (.gte operand)
  else if operator = "$in" then Condition.isIn <$> arrayOf operand
  else if operator = "$nin" then Condition.notIn <$> arrayOf operand
  else if operator = "$exists" then pure (.presence (operand.bool?.getD true))
  else if operator = "$regex" then Condition.regex <$> regexOf operand options
  else if operator = "$not" then Condition.not <$> conditionsOf operand
  else throw (.unknownOperator operator)

/-- An object is read as its operators when all its names are, and else as equality with it. -/
theorem conditionsOf_object (members : List (String × Json)) :
    conditionsOf (.object members) =
      if isOperatorObject members then operatorConditions (members.lookup "$options") members
      else .ok [.eq (.object members)] := rfl

theorem operatorConditions_nil (options : Option Json) :
    operatorConditions options [] = .ok [] := rfl

/-- Operators are read one after the other, passing over the options of patterns. -/
theorem operatorConditions_cons (options : Option Json) (operator : String) (operand : Json)
    (rest : List (String × Json)) :
    operatorConditions options ((operator, operand) :: rest) =
      if operator = "$options" then operatorConditions options rest
      else do
        let condition ← operatorCondition options operator operand
        return condition :: (← operatorConditions options rest) := by
  unfold operatorCondition
  simp only [ite_bind]
  rfl

/-- An object with one operator has the condition of that operator. -/
theorem conditionsOf_single {operator : String} {operand : Json} {condition : Condition}
    (isKey : isOperator operator = true) (apart : operator ≠ "$options")
    (read : operatorCondition none operator operand = .ok condition) :
    conditionsOf (single operator operand) = .ok [condition] := by
  have noOptions : [(operator, operand)].lookup "$options" = none := by
    rw [List.lookup_cons, beq_false_of_ne apart.symm]
    rfl
  rw [single, conditionsOf_object, noOptions, operatorConditions_cons, if_neg apart, read,
    operatorConditions_nil]
  simp [isOperatorObject, isKey, bind, Except.bind, pure, Except.pure]

/-- The operators that compare with their operand as it stands. -/
def valueOperators : List (String × (Json → Condition)) :=
  [("$eq", .eq), ("$ne", .ne), ("$lt", .lt), ("$gt", .gt), ("$lte", .lte), ("$gte", .gte)]

/-- The operators that compare with the items of an array. -/
def listOperators : List (String × (List Json → Condition)) :=
  [("$in", .isIn), ("$nin", .notIn)]

/-- An operator that compares with its operand stands for that comparison. -/
theorem conditionsOf_valueOperator (operand : Json) :
    ∀ entry ∈ valueOperators, conditionsOf (single entry.1 operand) = .ok [entry.2 operand] := by
  rintro ⟨operator, comparison⟩ listed
  simp only [valueOperators, List.mem_cons, Prod.mk.injEq, List.not_mem_nil, or_false] at listed
  obtain ⟨rfl, rfl⟩ | ⟨rfl, rfl⟩ | ⟨rfl, rfl⟩ | ⟨rfl, rfl⟩ | ⟨rfl, rfl⟩ | ⟨rfl, rfl⟩ := listed <;>
    exact conditionsOf_single (by decide) (by decide) (by simp [operatorCondition])

/-- An operator that compares with the items of an array stands for that comparison. -/
theorem conditionsOf_listOperator (items : List Json) :
    ∀ entry ∈ listOperators,
      conditionsOf (single entry.1 (.array items)) = .ok [entry.2 items] := by
  rintro ⟨operator, comparison⟩ listed
  simp only [listOperators, List.mem_cons, Prod.mk.injEq, List.not_mem_nil, or_false] at listed
  obtain ⟨rfl, rfl⟩ | ⟨rfl, rfl⟩ := listed <;>
    exact conditionsOf_single (by decide) (by decide) (by simp [operatorCondition, arrayOf])

/-- A negation is read as that of its conditions. -/
theorem conditionsOf_not {condition : Json} {conditions : List Condition}
    (read : conditionsOf condition = .ok conditions) :
    conditionsOf (single "$not" condition) = .ok [.not conditions] :=
  conditionsOf_single (by decide) (by decide) (by simp [operatorCondition, read])

/-- A test for existence is read as one for presence. -/
theorem conditionsOf_exists (wanted : Bool) :
    conditionsOf (single "$exists" (.bool wanted)) = .ok [.presence wanted] :=
  conditionsOf_single (by decide) (by decide) (by simp [operatorCondition, Json.bool?])

/-- A range is read as its two bounds. -/
theorem conditionsOf_range (low high : Json) :
    conditionsOf (.object [("$gte", low), ("$lte", high)]) = .ok [.gte low, .lte high] := by
  rw [conditionsOf_object, operatorConditions_cons, operatorConditions_cons,
    operatorConditions_nil]
  simp [operatorCondition, isOperatorObject, isOperator]

/-! ## Filters -/

/-- A chain of AND is read operand by operand. -/
theorem ofJson_single_and {filters : List Json} {accepted : List Filter}
    (read : Filter.itemsOf filters = .ok accepted) :
    Filter.ofJson (single "$and" (.array filters)) = .ok (.all accepted) := by
  change Filter.both <$> (do
    let clause ← Filter.all <$> Filter.itemsOf filters
    return clause :: []) = _
  rw [read]
  rfl

/-- A chain of OR is read operand by operand. -/
theorem ofJson_single_or {filters : List Json} {accepted : List Filter}
    (read : Filter.itemsOf filters = .ok accepted) :
    Filter.ofJson (single "$or" (.array filters)) = .ok (.any accepted) := by
  change Filter.both <$> (do
    let clause ← Filter.any <$> Filter.itemsOf filters
    return clause :: []) = _
  rw [read]
  rfl

/-- A condition on a field is read as such when the field does not look like an operator. -/
theorem ofJson_single_field {field : String} {written : Json} {conditions : List Condition}
    (unreserved : field.toList.head? ≠ some '$') (read : conditionsOf written = .ok conditions) :
    Filter.ofJson (single field written) = .ok (.field field conditions) := by
  have notAnd : field ≠ "$and" := by
    rintro rfl
    exact unreserved (by decide)
  have notOr : field ≠ "$or" := by
    rintro rfl
    exact unreserved (by decide)
  have clause : Filter.clausesOf [(field, written)] = .ok [.field field conditions] := by
    rw [Filter.clausesOf, if_neg notAnd, if_neg notOr, isOperator, beq_false_of_ne unreserved,
      read]
    rfl
  change Filter.both <$> Filter.clausesOf [(field, written)] = _
  rw [clause]
  rfl

end AnyReader

/-- The object of a LIKE pattern is accepted, since its text is always a regular expression. -/
theorem conditionsOf_likeCondition (pattern : String) :
    conditionsOf (likeCondition pattern) =
      .ok [.regex (Regex.isMatch ⟨.sequence (Like.parts pattern.toList), []⟩)] := by
  rw [likeCondition, conditionsOf_object, operatorConditions_cons, operatorConditions_cons,
    operatorConditions_nil]
  simp [operatorCondition, isOperatorObject, isOperator, regexOf, ignoresCase,
    PatternReader.read, Like.ofText_toRegexText, bind, Except.bind]

/-! ## Deciding on records -/

/-- What a condition asks of a value. -/
theorem holds_eq (value : Option Json) (condition : Condition) :
    condition.holds value = match condition with
      | .eq wanted => isAmong value [wanted]
      | .ne wanted => !isAmong value [wanted]
      | .lt bound => compareWith value bound == some .lt
      | .gt bound => compareWith value bound == some .gt
      | .lte bound => compareWith value bound == some .lt || compareWith value bound == some .eq
      | .gte bound => compareWith value bound == some .gt || compareWith value bound == some .eq
      | .isIn values => isAmong value values
      | .notIn values => !isAmong value values
      | .presence wanted => value.isSome == wanted
      | .regex isMatch =>
        match value with
        | some (.string s) => isMatch s
        | _ => false
      | .not conditions => !Condition.allHold value conditions := by
  cases condition <;> rfl

/-- Conditions hold of a value together when each does. -/
theorem allHold_eq_true_iff {value : Option Json} {conditions : List Condition} :
    Condition.allHold value conditions = true ↔ ∀ c ∈ conditions, c.holds value = true := by
  induction conditions with
  | nil => exact iff_of_true rfl (List.forall_mem_nil _)
  | cons condition rest ih =>
    rw [List.forall_mem_cons, ← ih]
    exact Bool.and_eq_true_iff

/-- A record passes a chain of AND when it passes each of its filters. -/
theorem allMatch_eq_true_iff {record : Record} {filters : List Filter} :
    Filter.allMatch record filters = true ↔ ∀ f ∈ filters, f.matches record = true := by
  induction filters with
  | nil => exact iff_of_true rfl (List.forall_mem_nil _)
  | cons filter rest ih =>
    rw [List.forall_mem_cons, ← ih]
    exact Bool.and_eq_true_iff

/-- A record passes a chain of OR when it passes one of its filters. -/
theorem anyMatches_eq_true_iff {record : Record} {filters : List Filter} :
    Filter.anyMatches record filters = true ↔ ∃ f ∈ filters, f.matches record = true := by
  induction filters with
  | nil => simp [Filter.anyMatches]
  | cons filter rest ih =>
    rw [List.exists_mem_cons_iff, ← ih]
    exact Bool.or_eq_true_iff

end Document

end FederatedSearch
