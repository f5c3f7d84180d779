import FederatedSearch.Proofs.Document.FilterReading
import FederatedSearch.Proofs.SortedMap
import Mathlib.Logic.Relation

/-!
# Rewriting filter documents

Filter documents may be written otherwise without another outcome: members taken apart, filters
wrapped, conditions negated twice, negative operators spelled out, conditions on one field
separated. `Recasts` lists the steps on the condition of a field and `Rewrites` those on filters,
each at any depth. Reading goes through the members of an object and the items of an array one by
one, so that it is enough to know of one part that it is read alike when it is replaced
(`Carries.all`, `Carries.any`).
-/

namespace FederatedSearch

namespace Document

/-! ## Steps -/

/-- Sorted members in which one stands in place of another. -/
structure Swaps (old new : String × Json) (members members' : Json.Members) : Prop where
  sorted : members.Sorted
  sorted' : members'.Sorted
  others : ∃ rest, members.Perm (old :: rest) ∧ members'.Perm (new :: rest)

/-- The operators that deny what another operator says. -/
def negations : List (String × String) :=
  [("$ne", "$eq"), ("$nin", "$in")]

/-- A step that writes the condition of a field otherwise. -/
inductive Recasts : Json → Json → Prop
  | twice (condition : Json) : Recasts condition (single "$not" (single "$not" condition))
  | negation {members members' : Json.Members} {operator positive : String} {operand : Json}
    (known : (operator, positive) ∈ negations) (operators : isOperatorObject members = true)
    (swaps : Swaps (operator, operand) ("$not", single positive operand) members members') :
    Recasts (.object members) (.object members')
  | within {members members' : Json.Members} {condition condition' : Json}
    (inner : Recasts condition condition') (operators : isOperatorObject members = true)
    (swaps : Swaps ("$not", condition) ("$not", condition') members members') :
    Recasts (.object members) (.object members')

/-- A step that writes a filter otherwise. -/
inductive Rewrites : Json → Json → Prop
  | parts (members : Json.Members) :
    Rewrites (.object members) (single "$and" (.array (members.map fun m => single m.1 m.2)))
  | wrap {key : String} (joins : key ∈ ["$and", "$or"]) (filter : Json) :
    Rewrites filter (single key (.array [filter]))
  | condition {members members' : Json.Members} {field : String} {condition condition' : Json}
    (plain : isOperator field = false) (recasts : Recasts condition condition')
    (swaps : Swaps (field, condition) (field, condition') members members') :
    Rewrites (.object members) (.object members')
  | separate {members members' conditions : Json.Members} {field : String}
    (plain : isOperator field = false) (operators : isOperatorObject conditions = true)
    (free : "$options" ∉ conditions.map (·.1))
    (swaps : Swaps (field, .object conditions)
      ("$and", .array (conditions.map fun c => single field (single c.1 c.2))) members members') :
    Rewrites (.object members) (.object members')
  | within {members members' : Json.Members} {key : String} {before after : List Json}
    {filter filter' : Json} (joins : key ∈ ["$and", "$or"]) (inner : Rewrites filter filter')
    (swaps : Swaps (key, .array (before ++ filter :: after))
      (key, .array (before ++ filter' :: after)) members members') :
    Rewrites (.object members) (.object members')

/-! ## Reading alike -/

section Carries

variable {ε α β μ ι κ : Type} {holds : α → ι → Prop} {read : μ → Except ε α} {xs ys rest : List μ}
  {old new : μ}

/-- When one reading succeeds, so does the other one, and what they yield decides alike. -/
def Carries (holds : α → ι → Prop) (x y : Except ε α) : Prop :=
  ∀ a, x = .ok a → ∃ b, y = .ok b ∧ ∀ i, holds b i ↔ holds a i

/-- What succeeds with a result succeeds with one that holds as much. -/
theorem Carries.refl (x : Except ε α) : Carries holds x x :=
  fun a read => ⟨a, read, fun _ => Iff.rfl⟩

/-- Carrying over is transitive. -/
theorem Carries.trans {x y z : Except ε α} (first : Carries holds x y)
    (second : Carries holds y z) : Carries holds x z := by
  intro a read
  obtain ⟨b, read, alike⟩ := first a read
  obtain ⟨c, read, alike'⟩ := second b read
  exact ⟨c, read, fun i => (alike' i).trans (alike i)⟩

/-- What is made of two readings decides alike when it decides by what they yield. -/
theorem Carries.map {holds' : β → κ → Prop} {f g : α → β} {x y : Except ε α}
    (carries : Carries holds x y)
    (decides : ∀ a b, (∀ i, holds b i ↔ holds a i) → ∀ k, holds' (g b) k ↔ holds' (f a) k) :
    Carries holds' (f <$> x) (g <$> y) := by
  intro _ made
  obtain ⟨a, read, rfl⟩ := map_eq_ok_iff.mp made
  obtain ⟨b, read', alike⟩ := carries a read
  exact ⟨g b, map_eq_ok_iff.mpr ⟨b, read', rfl⟩, decides a b alike⟩

/-- All that is read holds when it does of each thing that is read. -/
theorem forall_mem_mapM_iff {as : List α} {P : α → Prop} (taken : xs.mapM read = .ok as) :
    (∀ a ∈ as, P a) ↔ ∀ x ∈ xs, ∃ a, read x = .ok a ∧ P a := by
  refine forall_mem_iff_of_forall₂ ((mapM_eq_ok_iff.mp taken).imp fun x a here => ?_)
  rw [here]
  simp

/-- Some result has a property when some item is read as one with it. -/
theorem exists_mem_mapM_iff {as : List α} {P : α → Prop} (taken : xs.mapM read = .ok as) :
    (∃ a ∈ as, P a) ↔ ∃ x ∈ xs, ∃ a, read x = .ok a ∧ P a := by
  refine exists_mem_iff_of_forall₂ ((mapM_eq_ok_iff.mp taken).imp fun x a here => ?_)
  rw [here]
  simp

/-- In any order, all have a property when a chosen one and the others have it. -/
theorem forall_mem_iff_of_perm {P : μ → Prop} {z : μ} (order : xs.Perm (z :: rest)) :
    (∀ x ∈ xs, P x) ↔ P z ∧ ∀ x ∈ rest, P x := by
  simp only [order.mem_iff, List.forall_mem_cons]

/-- In any order, some one has a property when a chosen one or one of the others has it. -/
theorem exists_mem_iff_of_perm {P : μ → Prop} {z : μ} (order : xs.Perm (z :: rest)) :
    (∃ x ∈ xs, P x) ↔ P z ∨ ∃ x ∈ rest, P x := by
  simp only [order.mem_iff, List.exists_mem_cons_iff]

/-- Things are read when one of them is replaced by one that is read alike, also in another order,
and what the one that is replaced asks for does not change. -/
theorem Carries.exists_mapM (carries : Carries holds (read old) (read new))
    (before : xs.Perm (old :: rest)) (after : ys.Perm (new :: rest)) {as : List α}
    (taken : xs.mapM read = .ok as) : ∃ bs, ys.mapM read = .ok bs ∧
      ∀ i, (∃ b, read new = .ok b ∧ holds b i) ↔ ∃ a, read old = .ok a ∧ holds a i := by
  obtain ⟨⟨a, first⟩, others⟩ :=
    (forall_mem_iff_of_perm before).mp (exists_mapM_eq_ok_iff.mp ⟨as, taken⟩)
  obtain ⟨b, second, alike⟩ := carries a first
  obtain ⟨bs, taken'⟩ :=
    exists_mapM_eq_ok_iff.mpr ((forall_mem_iff_of_perm after).mpr ⟨⟨b, second⟩, others⟩)
  refine ⟨bs, taken', fun i => ?_⟩
  rw [first, second]
  simpa using alike i

/-- Where all have to hold, one may be replaced by one that is read alike. -/
theorem Carries.all (carries : Carries holds (read old) (read new))
    (before : xs.Perm (old :: rest)) (after : ys.Perm (new :: rest)) :
    Carries (fun as i => ∀ a ∈ as, holds a i) (xs.mapM read) (ys.mapM read) := by
  intro as here
  obtain ⟨bs, there, alike⟩ := carries.exists_mapM before after here
  refine ⟨bs, there, fun i => ?_⟩
  dsimp only
  rw [forall_mem_mapM_iff here, forall_mem_mapM_iff there, forall_mem_iff_of_perm before,
    forall_mem_iff_of_perm after, alike i]

/-- Where one has to hold, one may be replaced by one that is read alike. -/
theorem Carries.any (carries : Carries holds (read old) (read new))
    (before : xs.Perm (old :: rest)) (after : ys.Perm (new :: rest)) :
    Carries (fun as i => ∃ a ∈ as, holds a i) (xs.mapM read) (ys.mapM read) := by
  intro as here
  obtain ⟨bs, there, alike⟩ := carries.exists_mapM before after here
  refine ⟨bs, there, fun i => ?_⟩
  dsimp only
  rw [exists_mem_mapM_iff here, exists_mem_mapM_iff there, exists_mem_iff_of_perm before,
    exists_mem_iff_of_perm after, alike i]

end Carries

/-! ## Conditions -/

section Conditions

variable {options : Option Json} {members members' : Json.Members} {condition condition' : Json}

/-- A value satisfies a condition. -/
abbrev Condition.HoldsFor (c : Condition) (value : Option Json) : Prop :=
  c.holds value = true

/-- A value satisfies all of some conditions. -/
abbrev Satisfied (conditions : List Condition) (value : Option Json) : Prop :=
  ∀ c ∈ conditions, c.HoldsFor value

/-- Negated conditions hold of the values that do not satisfy them. -/
theorem holdsFor_not_iff {conditions : List Condition} {value : Option Json} :
    (Condition.not conditions).HoldsFor value ↔ ¬ Satisfied conditions value := by
  rw [Condition.HoldsFor, holds_eq, Satisfied, ← allHold_eq_true_iff]
  simp

/-- Members that are swapped leave alone what goes with them. -/
theorem Swaps.lookup_eq {old new : String × Json} (swaps : Swaps old new members members')
    {key : String} (here : old.1 ≠ key) (there : new.1 ≠ key) :
    members'.lookup key = members.lookup key := by
  obtain ⟨sorted, sorted', rest, before, after⟩ := swaps
  have mem_iff (value : Json) : (key, value) ∈ members' ↔ (key, value) ∈ members := by
    rw [before.mem_iff, after.mem_iff, List.mem_cons, List.mem_cons]
    refine or_congr_left (iff_of_false ?_ ?_)
    · rintro rfl
      exact there rfl
    · rintro rfl
      exact here rfl
  refine Option.ext fun value => ⟨fun found => ?_, fun found => ?_⟩
  · exact sorted.get?_of_mem ((mem_iff value).mp (SortedMap.mem_of_get? found))
  · exact sorted'.get?_of_mem ((mem_iff value).mpr (SortedMap.mem_of_get? found))

/-- An object of operators has members, and the names of all are operators. -/
theorem isOperatorObject_iff : isOperatorObject members = true ↔
    members ≠ [] ∧ ∀ m ∈ members, isOperator m.1 = true := by
  cases members <;> simp [isOperatorObject]

variable [PatternReader]

/-- Conditions are read one by one, and `$options` is none. -/
theorem operatorConditions_eq (options : Option Json) (members : Json.Members) :
    operatorConditions options members =
      (members.filter (·.1 ≠ "$options")).mapM fun m => operatorCondition options m.1 m.2 := by
  induction members with
  | nil => rfl
  | cons m rest ih =>
    obtain ⟨operator, operand⟩ := m
    rw [operatorConditions_cons, ih]
    by_cases same : operator = "$options"
    · rw [if_pos same, List.filter_cons_of_neg (by simpa using same)]
    · rw [if_neg same, List.filter_cons_of_pos (by simpa using same), List.mapM_cons]

/-- Conditions are read alike when one of them is replaced by one that is read alike. -/
theorem Carries.conditions {old new : String × Json} (swaps : Swaps old new members members')
    (operators : isOperatorObject members = true) (here : old.1 ≠ "$options")
    (there : new.1 ≠ "$options") (isKey : isOperator new.1 = true)
    (carries : ∀ options, Carries Condition.HoldsFor (operatorCondition options old.1 old.2)
      (operatorCondition options new.1 new.2)) :
    Carries Satisfied (conditionsOf (.object members)) (conditionsOf (.object members')) := by
  have same := swaps.lookup_eq here there
  obtain ⟨-, -, rest, before, after⟩ := swaps
  have operators' : isOperatorObject members' = true := by
    obtain ⟨-, all⟩ := isOperatorObject_iff.mp operators
    simp only [before.mem_iff, List.forall_mem_cons] at all
    refine isOperatorObject_iff.mpr ⟨fun empty => ?_, ?_⟩
    · rw [empty] at after
      exact absurd after.nil_eq (List.cons_ne_nil _ _).symm
    · simp only [after.mem_iff, List.forall_mem_cons]
      exact ⟨isKey, all.2⟩
  rw [conditionsOf_object, conditionsOf_object, if_pos operators, if_pos operators',
    operatorConditions_eq, operatorConditions_eq, same]
  have order := before.filter (·.1 ≠ "$options")
  have order' := after.filter (·.1 ≠ "$options")
  rw [List.filter_cons_of_pos (by simpa using here)] at order
  rw [List.filter_cons_of_pos (by simpa using there)] at order'
  exact (carries _).all order order'

/-- What a negative operator says is the negation of what the other one says. -/
theorem carries_negation {operator positive : String} (known : (operator, positive) ∈ negations)
    (options : Option Json) (operand : Json) :
    Carries Condition.HoldsFor (operatorCondition options operator operand)
      (operatorCondition options "$not" (single positive operand)) := by
  have denied {c d : Condition} (read : conditionsOf (single positive operand) = .ok [d])
      (opposite : ∀ value, c.HoldsFor value ↔ ¬ d.HoldsFor value) :
      ∃ e, operatorCondition options "$not" (single positive operand) = .ok e ∧
        ∀ value, e.HoldsFor value ↔ c.HoldsFor value := by
    refine ⟨.not [d], by simp [operatorCondition, read], fun value => ?_⟩
    rw [holdsFor_not_iff, opposite, Satisfied, List.forall_mem_singleton]
  intro c read
  simp only [negations, List.mem_cons, Prod.mk.injEq, List.not_mem_nil, or_false] at known
  obtain ⟨rfl, rfl⟩ | ⟨rfl, rfl⟩ := known
  · have same : Condition.ne operand = c := by simpa [operatorCondition, pure_eq_ok_iff] using read
    subst same
    refine denied (conditionsOf_valueOperator operand ("$eq", .eq) (by simp [valueOperators])) ?_
    intro value
    simp [Condition.HoldsFor, holds_eq]
  · have taken : Condition.notIn <$> arrayOf operand = .ok c := by
      simpa [operatorCondition] using read
    obtain ⟨items, array, rfl⟩ := map_eq_ok_iff.mp taken
    obtain rfl : operand = .array items := by
      cases operand <;> simp_all [arrayOf]
    refine denied (conditionsOf_listOperator items ("$in", .isIn) (by simp [listOperators])) ?_
    intro value
    simp [Condition.HoldsFor, holds_eq]

/-- A condition that is written otherwise is read alike. -/
theorem Recasts.carries (recasts : Recasts condition condition') :
    Carries Satisfied (conditionsOf condition) (conditionsOf condition') := by
  have denies : isOperator "$not" = true := by decide
  induction recasts with
  | twice condition =>
    intro conditions read
    refine ⟨_, conditionsOf_not (conditionsOf_not read), fun value => ?_⟩
    simp only [Satisfied, List.forall_mem_singleton, holdsFor_not_iff, not_not]
  | @negation _ _ operator _ operand known operators swaps =>
    have apart : operator ≠ "$options" := by
      rintro rfl
      simp [negations] at known
    exact .conditions swaps operators apart (by simp) denies
      fun options => carries_negation known options operand
  | within _ operators swaps ih =>
    refine .conditions swaps operators (by simp) (by simp) denies fun options => ?_
    have read (condition : Json) : operatorCondition options "$not" condition =
        Condition.not <$> conditionsOf condition := by
      simp [operatorCondition]
    rw [read, read]
    refine ih.map fun a b alike value => ?_
    rw [holdsFor_not_iff, holdsFor_not_iff, alike value]

end Conditions

/-! ## Filters -/

section Filters

variable {members members' : Json.Members} {filter filter' : Json}

/-- A record passes a filter. -/
abbrev Filter.Passed (f : Filter) (record : Record) : Prop :=
  f.matches record = true

/-- A conjunction of filters passes what all of them pass. -/
theorem passed_all_iff {filters : List Filter} {record : Record} :
    (Filter.all filters).Passed record ↔ ∀ f ∈ filters, f.Passed record :=
  allMatch_eq_true_iff

/-- A disjunction of filters passes what one of them passes. -/
theorem passed_any_iff {filters : List Filter} {record : Record} :
    (Filter.any filters).Passed record ↔ ∃ f ∈ filters, f.Passed record :=
  anyMatches_eq_true_iff

/-- The clauses of one object pass what all of them pass. -/
theorem passed_both_iff {filters : List Filter} {record : Record} :
    (Filter.both filters).Passed record ↔ ∀ f ∈ filters, f.Passed record := by
  unfold Filter.both
  split
  · rw [List.forall_mem_singleton]
  · exact allMatch_eq_true_iff

/-- The conditions on a field pass the records whose value there satisfies them. -/
theorem passed_field_iff {field : String} {conditions : List Condition} {record : Record} :
    (Filter.field field conditions).Passed record ↔
      Satisfied conditions (record.lookup field) :=
  allHold_eq_true_iff

variable [PatternReader]

/-- The filter that a member of a filter document stands for. -/
def clauseOf (key : String) (value : Json) : Except FilterError Filter :=
  if key = "$and" then Filter.all <$> Filter.listOf value
  else if key = "$or" then Filter.any <$> Filter.listOf value
  else if isOperator key then throw (.unknownTopLevel key)
  else Filter.field key <$> conditionsOf value

/-- The clauses of an object are read member by member. -/
theorem clausesOf_eq (members : Json.Members) :
    Filter.clausesOf members = members.mapM fun m => clauseOf m.1 m.2 := by
  induction members with
  | nil => rfl
  | cons m rest ih =>
    obtain ⟨key, value⟩ := m
    have first : Filter.clausesOf ((key, value) :: rest) = do
        let clause ← clauseOf key value
        return clause :: (← Filter.clausesOf rest) := by
      unfold clauseOf
      simp only [ite_bind]
      rfl
    rw [first, ih, List.mapM_cons]

/-- The operands of a connective are read one by one. -/
theorem itemsOf_eq (items : List Json) : Filter.itemsOf items = items.mapM Filter.ofJson := by
  induction items with
  | nil => rfl
  | cons item rest ih =>
    have first : Filter.itemsOf (item :: rest) = do
        return (← Filter.ofJson item) :: (← Filter.itemsOf rest) := rfl
    rw [first, ih, List.mapM_cons]

/-- An object is read as the conjunction of its clauses. -/
theorem ofJson_object (members : Json.Members) : Filter.ofJson (.object members) =
    Filter.both <$> members.mapM fun m => clauseOf m.1 m.2 := by
  rw [← clausesOf_eq]
  rfl

/-- An object with one member is read as that member. -/
theorem ofJson_single (key : String) (value : Json) :
    Filter.ofJson (single key value) = clauseOf key value := by
  rw [single, ofJson_object, List.mapM_cons, List.mapM_nil]
  cases clauseOf key value <;> rfl

/-- The operands of a conjunction are read one by one. -/
theorem clauseOf_and (items : List Json) :
    clauseOf "$and" (.array items) = Filter.all <$> items.mapM Filter.ofJson := by
  rw [clauseOf, if_pos rfl, ← itemsOf_eq]
  rfl

/-- The operands of a disjunction are read one by one. -/
theorem clauseOf_or (items : List Json) :
    clauseOf "$or" (.array items) = Filter.any <$> items.mapM Filter.ofJson := by
  rw [clauseOf, if_neg (by decide), if_pos rfl, ← itemsOf_eq]
  rfl

/-- A member whose name is no operator is read as conditions on this field. -/
theorem clauseOf_field {field : String} (plain : isOperator field = false) (value : Json) :
    clauseOf field value = Filter.field field <$> conditionsOf value := by
  have notAnd : field ≠ "$and" := by
    rintro rfl
    cases plain
  have notOr : field ≠ "$or" := by
    rintro rfl
    cases plain
  rw [clauseOf, if_neg notAnd, if_neg notOr, plain]
  rfl

/-- A filter is read alike when one of its members is replaced by one that is read alike. -/
theorem Carries.object {old new : String × Json} (swaps : Swaps old new members members')
    (carries : Carries Filter.Passed (clauseOf old.1 old.2) (clauseOf new.1 new.2)) :
    Carries Filter.Passed (Filter.ofJson (.object members)) (Filter.ofJson (.object members')) := by
  obtain ⟨-, -, rest, before, after⟩ := swaps
  rw [ofJson_object, ofJson_object]
  have together : Carries (fun fs record => ∀ f ∈ fs, Filter.Passed f record)
      (members.mapM fun m => clauseOf m.1 m.2) (members'.mapM fun m => clauseOf m.1 m.2) :=
    Carries.all carries before after
  refine together.map ?_
  intro fs gs alike record
  rw [passed_both_iff, passed_both_iff, alike record]

/-- A filter in a list is replaced by one that is read alike. -/
theorem Carries.joined {key : String} (joins : key ∈ ["$and", "$or"]) {before after : List Json}
    (carries : Carries Filter.Passed (Filter.ofJson filter) (Filter.ofJson filter')) :
    Carries Filter.Passed (clauseOf key (.array (before ++ filter :: after)))
      (clauseOf key (.array (before ++ filter' :: after))) := by
  simp only [List.mem_cons, List.not_mem_nil, or_false] at joins
  obtain rfl | rfl := joins
  · rw [clauseOf_and, clauseOf_and]
    refine (carries.all List.perm_middle List.perm_middle).map fun fs gs alike record => ?_
    rw [passed_all_iff, passed_all_iff, alike record]
  · rw [clauseOf_or, clauseOf_or]
    refine (carries.any List.perm_middle List.perm_middle).map fun fs gs alike record => ?_
    rw [passed_any_iff, passed_any_iff, alike record]

/-- The members of a filter are filters that have to hold together. -/
theorem carries_parts (members : Json.Members) :
    Carries Filter.Passed (Filter.ofJson (.object members))
      (Filter.ofJson (single "$and" (.array (members.map fun m => single m.1 m.2)))) := by
  have parts : (members.map fun m => single m.1 m.2).mapM Filter.ofJson =
      members.mapM fun m => clauseOf m.1 m.2 := by
    rw [List.mapM_map]
    exact congrArg (members.mapM ·) (funext fun m => ofJson_single m.1 m.2)
  rw [ofJson_single, clauseOf_and, ofJson_object, parts]
  have together : Carries (fun fs record => ∀ f ∈ fs, Filter.Passed f record)
      (members.mapM fun m => clauseOf m.1 m.2) (members.mapM fun m => clauseOf m.1 m.2) := .refl _
  refine together.map ?_
  intro fs gs alike record
  rw [passed_all_iff, passed_both_iff, alike record]

/-- A filter alone in a list is the filter itself. -/
theorem carries_wrap {key : String} (joins : key ∈ ["$and", "$or"]) (filter : Json) :
    Carries Filter.Passed (Filter.ofJson filter)
      (Filter.ofJson (single key (.array [filter]))) := by
  intro f read
  have alone : [filter].mapM Filter.ofJson = .ok [f] := by
    rw [List.mapM_cons, List.mapM_nil, read]
    rfl
  simp only [List.mem_cons, List.not_mem_nil, or_false] at joins
  rw [ofJson_single]
  obtain rfl | rfl := joins
  · refine ⟨.all [f], by rw [clauseOf_and, alone]; rfl, fun record => ?_⟩
    rw [passed_all_iff, List.forall_mem_singleton]
  · refine ⟨.any [f], by rw [clauseOf_or, alone]; rfl, fun record => ?_⟩
    rw [passed_any_iff]
    simp

/-- Conditions on one field are filters that have to hold together, as long as they are read one by
one. -/
theorem carries_separate {field : String} {conditions : Json.Members}
    (plain : isOperator field = false) (operators : isOperatorObject conditions = true)
    (free : "$options" ∉ conditions.map (·.1)) :
    Carries Filter.Passed (clauseOf field (.object conditions))
      (clauseOf "$and" (.array (conditions.map fun c => single field (single c.1 c.2)))) := by
  have apart : ∀ c ∈ conditions, c.1 ≠ "$options" :=
    fun c member same => free (List.mem_map.mpr ⟨c, member, same⟩)
  have noOptions : conditions.lookup "$options" = none :=
    List.lookup_eq_none_iff.mpr fun c member => bne_iff_ne.mpr (apart c member).symm
  have all : conditions.filter (·.1 ≠ "$options") = conditions :=
    List.filter_eq_self.mpr fun c member => decide_eq_true (apart c member)
  intro f read
  rw [clauseOf_field plain, conditionsOf_object, if_pos operators, noOptions,
    operatorConditions_eq, all] at read
  obtain ⟨cs, taken, rfl⟩ := map_eq_ok_iff.mp read
  have each : conditions.Forall₂
      (fun c d => Filter.ofJson (single field (single c.1 c.2)) = .ok (.field field [d])) cs := by
    have keys : ∀ c ∈ conditions, isOperator c.1 = true ∧ c.1 ≠ "$options" :=
      fun c member => ⟨(isOperatorObject_iff.mp operators).2 c member, apart c member⟩
    refine ((List.forall₂_and_left _ _).mpr ⟨keys, mapM_eq_ok_iff.mp taken⟩).imp fun c d here => ?_
    obtain ⟨⟨isKey, apart⟩, here⟩ := here
    rw [ofJson_single, clauseOf_field plain, conditionsOf_single isKey apart here]
    rfl
  refine ⟨.all (cs.map fun d => .field field [d]), ?_, fun record => ?_⟩
  · rw [clauseOf_and]
    refine map_eq_ok_iff.mpr ⟨_, mapM_eq_ok_iff.mpr ?_, rfl⟩
    rwa [List.forall₂_map_left_iff, List.forall₂_map_right_iff]
  · simp only [passed_all_iff, List.forall_mem_map, passed_field_iff, Satisfied,
      List.forall_mem_singleton]

/-- A filter that is written otherwise is read alike. -/
theorem Rewrites.carries (rewrites : Rewrites filter filter') :
    Carries Filter.Passed (Filter.ofJson filter) (Filter.ofJson filter') := by
  induction rewrites with
  | parts members => exact carries_parts members
  | wrap joins filter => exact carries_wrap joins filter
  | condition plain recasts swaps =>
    refine .object swaps ?_
    rw [clauseOf_field plain, clauseOf_field plain]
    refine recasts.carries.map fun a b alike record => ?_
    rw [passed_field_iff, passed_field_iff, alike]
  | separate plain operators free swaps =>
    exact .object swaps (carries_separate plain operators free)
  | within joins _ swaps ih => exact .object swaps (.joined joins ih)

end Filters

/-- Whatever steps a filter document is rewritten by, it is still accepted, and it matches the same
records, however patterns are read. -/
theorem matches_of_rewrites [PatternReader] {filter filter' : Json} {accepted : Filter}
    (read : Filter.ofJson filter = .ok accepted)
    (rewrites : Relation.ReflTransGen Rewrites filter filter') :
    ∃ accepted', Filter.ofJson filter' = .ok accepted' ∧
      ∀ record, accepted'.matches record = accepted.matches record := by
  have carries : Carries Filter.Passed (Filter.ofJson filter) (Filter.ofJson filter') := by
    induction rewrites with
    | refl => exact .refl _
    | tail _ step ih => exact ih.trans step.carries
  obtain ⟨accepted', read', alike⟩ := carries accepted read
  exact ⟨accepted', read', fun record => Bool.eq_iff_iff.mpr (alike record)⟩

/-- Within a list two conditions on one field are separated, and then a negative one is spelled
out. -/
theorem matches_of_rewrites_two_steps :
    let either (filter : Json) : Json :=
      single "$or" (.array [filter, single "name" (.string "x")])
    let positive : Json := single "age" (single "$gt" (.ofInt 1))
    let filter := either (single "age" (.object [("$gt", .ofInt 1), ("$ne", .ofInt 5)]))
    let filter' := either (single "$and"
      (.array [positive, single "age" (single "$not" (single "$eq" (.ofInt 5)))]))
    Relation.ReflTransGen Rewrites filter filter' ∧
      ∃ accepted accepted', Filter.ofJson filter = .ok accepted ∧
        Filter.ofJson filter' = .ok accepted' ∧
        ∀ record, accepted'.matches record = accepted.matches record := by
  intro either positive filter filter'
  have alone (old new : String × Json) : Swaps old new [old] [new] :=
    ⟨List.pairwise_singleton .., List.pairwise_singleton .., [], .refl _, .refl _⟩
  have separated : Rewrites (single "age" (.object [("$gt", .ofInt 1), ("$ne", .ofInt 5)]))
      (single "$and" (.array [positive, single "age" (single "$ne" (.ofInt 5))])) :=
    .separate (by decide) (by decide) (by decide) (alone _ _)
  have spelled : Rewrites (single "age" (single "$ne" (.ofInt 5)))
      (single "age" (single "$not" (single "$eq" (.ofInt 5)))) :=
    .condition (by decide) (.negation (by decide) (by decide) (alone _ _)) (alone _ _)
  have inEither {old new : Json} (step : Rewrites old new) : Rewrites (either old) (either new) :=
    @Rewrites.within _ _ "$or" [] _ _ _ (by decide) step (alone _ _)
  have steps : Relation.ReflTransGen Rewrites filter filter' :=
    .tail (.single (inEither separated))
      (inEither (@Rewrites.within _ _ "$and" [positive] _ _ _ (by decide) spelled (alone _ _)))
  obtain ⟨accepted, read⟩ : ∃ accepted, Filter.ofJson filter = .ok accepted := ⟨_, rfl⟩
  obtain ⟨accepted', read', alike⟩ := matches_of_rewrites read steps
  exact ⟨steps, accepted, accepted', read, read', alike⟩

end Document

end FederatedSearch
