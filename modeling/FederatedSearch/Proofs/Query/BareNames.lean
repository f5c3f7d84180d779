import FederatedSearch.Proofs.Query.Acceptance
import FederatedSearch.Proofs.Query.Refusal
import FederatedSearch.Proofs.Query.Stripping

/-!
# Bare names are all that is left to refuse

A text can only put values where they belong: lists after IN, strings after LIKE, single values
everywhere else. `Predicate.IsWellFormed` says so of a predicate. The grammar yields no other
predicates, and adapting a query to a source keeps its leaves, up to lists that are unpacked, so
that every query for a source is well formed. What a compiler can still object to in such a query is
a bare name, and only where it does not ask for the presence of a field.
-/

namespace FederatedSearch

namespace Literal

/-- A value that is no list. -/
def IsSingle : Literal → Prop
  | list _ => False
  | _ => True

mutual

/-- A bare name stands in a value. -/
def HasName : Literal → Prop
  | column _ => True
  | list items => SomeHasName items
  | _ => False

/-- A bare name stands in one of some values. -/
def SomeHasName : List Literal → Prop
  | [] => False
  | item :: rest => item.HasName ∨ SomeHasName rest

end

/-- The word for existence is a bare name. -/
theorem isExists_iff {v : Literal} : v.isExists = true ↔ v = .column existsName := by
  cases v <;> simp [isExists]

end Literal

/-- The values that a comparison can be written with. -/
def CompareOp.Allows (v : Literal) : CompareOp → Prop
  | isIn => ∃ items, v = .list items ∧ ∀ item ∈ items, item.IsSingle
  | notIn => ∃ items, v = .list items ∧ ∀ item ∈ items, item.IsSingle
  | like => ∃ s, v = .string s
  | notLike => ∃ s, v = .string s
  | _ => v.IsSingle

namespace Predicate

/-- Every value is of the kind that its place can be written with. -/
def IsWellFormed : Predicate → Prop
  | compare _ op value => op.Allows value
  | between _ low high => low.IsSingle ∧ high.IsSingle
  | and left right => left.IsWellFormed ∧ right.IsWellFormed
  | or left right => left.IsWellFormed ∧ right.IsWellFormed
  | paren inner => inner.IsWellFormed

/-- Somewhere a bare name stands in a value, other than as `= exist` or `!= exist`. -/
def HasStrayName : Predicate → Prop
  | compare _ op value =>
    value.HasName ∧ ¬ (value = .column existsName ∧ (op = .eq ∨ op = .notEq))
  | between _ low high => low.HasName ∨ high.HasName
  | and left right => left.HasStrayName ∨ right.HasStrayName
  | or left right => left.HasStrayName ∨ right.HasStrayName
  | paren inner => inner.HasStrayName

end Predicate

/-! ## What the grammar yields -/

namespace Grammar

open FederatedSearch.Parser (Tokens)

variable {ts : Tokens}

/-- What reads as a value is no list. -/
theorem Value.isSingle {v : Literal} (value : Value ts v) : v.IsSingle := by
  cases value <;> trivial

/-- What reads as a list of values holds no lists. -/
theorem CommaSeparated.forall_isSingle {values : List Literal}
    (items : CommaSeparated Value ts values) : ∀ v ∈ values, v.IsSingle := by
  induction items with
  | last one => exact List.forall_mem_singleton.mpr one.isSingle
  | more _ one _ ih => exact List.forall_mem_cons.mpr ⟨one.isSingle, ih⟩

/-- What reads as a condition is well formed. -/
theorem Condition.isWellFormed {field : String} {p : Predicate} (condition : Condition field ts p) :
    p.IsWellFormed := by
  cases condition with
  | compare span comparison value => cases comparison <;> exact value.isSingle
  | isIn span list =>
    obtain ⟨_, _, items⟩ := list
    exact ⟨_, rfl, items.forall_isSingle⟩
  | notIn negation span list =>
    obtain ⟨_, _, items⟩ := list
    exact ⟨_, rfl, items.forall_isSingle⟩
  | like span raw pattern => exact ⟨_, rfl⟩
  | notLike negation span raw pattern => exact ⟨_, rfl⟩
  | between span conjunction lower upper => exact ⟨lower.isSingle, upper.isSingle⟩

/-- What is written is well formed. -/
theorem Derives.isWellFormed {level : Level} {p : Predicate} (derived : Derives level ts p) :
    p.IsWellFormed := by
  induction derived with
  | conjunction _ ih => exact ih
  | or _ _ _ ihLeft ihRight => exact ⟨ihLeft, ihRight⟩
  | primary _ ih => exact ih
  | and _ _ _ ihLeft ihRight => exact ⟨ihLeft, ihRight⟩
  | paren _ _ _ ih => exact ih
  | condition _ condition => exact condition.isWellFormed

end Grammar

/-! ## What adapting keeps -/

namespace Predicate

variable {p q : Predicate}

/-- A predicate is well formed when its leaves are. -/
theorem isWellFormed_iff_leaves : p.IsWellFormed ↔ ∀ leaf ∈ p.leaves, leaf.IsWellFormed := by
  induction p with
  | compare field op value => rw [leaves, List.forall_mem_singleton]
  | between field low high => rw [leaves, List.forall_mem_singleton]
  | and left right ihLeft ihRight =>
    rw [IsWellFormed, ihLeft, ihRight, leaves, List.forall_mem_append]
  | or left right ihLeft ihRight =>
    rw [IsWellFormed, ihLeft, ihRight, leaves, List.forall_mem_append]
  | paren inner ih => exact ih

/-- Stripping adds no leaves. -/
theorem leaves_subset_of_stripDatetime (stripped : p.stripDatetime = some q) :
    q.leaves ⊆ p.leaves := by
  induction p generalizing q with
  | compare field op value =>
    cases stripped
    exact List.Subset.refl _
  | between field low high =>
    rw [stripDatetime] at stripped
    split at stripped <;> cases stripped
    exact List.Subset.refl _
  | and left right ihLeft ihRight =>
    have fromLeft : ∀ l, left.stripDatetime = some l → l.leaves ⊆ left.leaves ++ right.leaves :=
      fun _ kept => List.subset_append_of_subset_left _ (ihLeft kept)
    have fromRight : ∀ r, right.stripDatetime = some r → r.leaves ⊆ left.leaves ++ right.leaves :=
      fun _ kept => List.subset_append_of_subset_right _ (ihRight kept)
    rw [stripDatetime] at stripped
    cases onLeft : left.stripDatetime <;> cases onRight : right.stripDatetime <;>
      rw [onLeft, onRight] at stripped <;> cases stripped
    · exact fromRight _ onRight
    · exact fromLeft _ onLeft
    · exact List.append_subset.mpr ⟨fromLeft _ onLeft, fromRight _ onRight⟩
  | or left right _ _ =>
    cases stripped
    exact List.Subset.refl _
  | paren inner ih =>
    obtain ⟨kept, within, rfl⟩ := Option.map_eq_some_iff.mp stripped
    have subset : kept.leaves ⊆ inner.leaves := ih within
    exact subset

/-- An item of a list is a value that equality can be written with. -/
theorem IsWellFormed.of_mem_unpackedLeaves (formed : p.IsWellFormed)
    (member : q ∈ p.unpackedLeaves) : q.IsWellFormed := by
  obtain ⟨leaf, inside, member⟩ := List.mem_flatMap.mp member
  have leafFormed := isWellFormed_iff_leaves.mp formed leaf inside
  rcases mem_unpacked member with rfl | ⟨field, values, rfl, v, item, rfl⟩
  · exact leafFormed
  · obtain ⟨items, same, single⟩ := leafFormed
    cases same
    exact single v item

/-- Fields do not bear on values. -/
theorem isWellFormed_mapFields (f : String → String) :
    (p.mapFields f).IsWellFormed ↔ p.IsWellFormed := by
  induction p with
  | compare field op value => exact Iff.rfl
  | between field low high => exact Iff.rfl
  | and left right ihLeft ihRight => exact and_congr ihLeft ihRight
  | or left right ihLeft ihRight => exact and_congr ihLeft ihRight
  | paren inner ih => exact ih

end Predicate

namespace Query

variable {q part : Query} {p : Predicate} {source : Capabilities} {parts : List Query}

/-- What a backend sees of a well formed predicate is well formed. -/
theorem isWellFormed_of_visiblePredicate {hasDatetime : Bool} (formed : q.predicate.IsWellFormed)
    (visible : q.visiblePredicate hasDatetime = .ok p) : p.IsWellFormed := by
  cases hasDatetime with
  | true =>
    cases visible
    exact formed
  | false =>
    have kept := Predicate.leaves_subset_of_stripDatetime (visiblePredicate_eq_ok_iff.mp visible)
    rw [Predicate.isWellFormed_iff_leaves] at formed ⊢
    exact fun leaf member => formed leaf (kept member)

/-- Each query for a source is well formed when the query that it is made from is. -/
theorem isWellFormed_of_specialize (formed : q.predicate.IsWellFormed)
    (taken : q.specialize source = .ok parts) (member : part ∈ parts) :
    part.predicate.IsWellFormed := by
  obtain ⟨hasDatetime, table, native⟩ := source
  have adapts : ∀ {r : Predicate}, r.IsWellFormed → (q.adapted table r).predicate.IsWellFormed := by
    intro r formed
    rw [predicate_adapted]
    exact (Predicate.isWellFormed_mapFields _).mpr formed
  cases native with
  | true =>
    obtain ⟨p, visible, rfl⟩ := exists_of_specialize_native taken
    cases List.mem_singleton.mp member
    exact adapts (isWellFormed_of_visiblePredicate formed visible)
  | false =>
    obtain ⟨p, visible, ps, split, rfl⟩ := specialize_split_eq_ok_iff.mp taken
    obtain ⟨r, among, rfl⟩ := List.mem_map.mp member
    have whole := isWellFormed_of_visiblePredicate formed visible
    refine adapts (Predicate.isWellFormed_iff_leaves.mpr fun leaf inside => ?_)
    have unpacked := (Predicate.splitsInto_of_split split).leaves_subset among inside
    exact whole.of_mem_unpackedLeaves unpacked

/-- Every query for a source that a text leads to is well formed. -/
theorem isWellFormed_of_normalize {text : String} {max : Nat}
    (taken : normalize text max source = .ok parts) (member : part ∈ parts) :
    part.predicate.IsWellFormed := by
  obtain ⟨q, prepared, adapted⟩ := bind_eq_ok_iff.mp taken
  obtain ⟨_, derived⟩ := exists_derives_of_prepare prepared
  exact isWellFormed_of_specialize derived.isWellFormed adapted member

end Query

/-! ## What compilers refuse -/

/-- A fault comes up exactly when some name is out of place, and it is a fault about a name. -/
structure Blames (fault : Option CompileError) (stray : Prop) : Prop where
  isSome_iff : fault.isSome = true ↔ stray
  about : ∀ e, fault = some e → e = .columnValue ∨ ∃ field, e = .existsMisused field

namespace Blames

/-- Where no name is out of place, no fault comes up. -/
theorem none {stray : Prop} (clean : ¬ stray) : Blames none stray where
  isSome_iff := iff_of_false Bool.false_ne_true clean
  about := by rintro e ⟨⟩

/-- The fault about values blames a name that is out of place. -/
theorem columnValue {stray : Prop} (named : stray) : Blames (some .columnValue) stray where
  isSome_iff := iff_of_true rfl named
  about := by
    rintro e ⟨⟩
    exact .inl rfl

/-- The fault about the word for existence blames a name that is out of place. -/
theorem existsMisused {stray : Prop} (field : String) (named : stray) :
    Blames (some (.existsMisused field)) stray where
  isSome_iff := iff_of_true rfl named
  about := by
    rintro e ⟨⟩
    exact .inr ⟨field, rfl⟩

/-- Of two faults the first one counts. -/
theorem or {first second : Option CompileError} {stray stray' : Prop} (left : Blames first stray)
    (right : Blames second stray') : Blames (first.or second) (stray ∨ stray') where
  isSome_iff := by rw [Option.isSome_or, Bool.or_eq_true, left.isSome_iff, right.isSome_iff]
  about e found := by
    rcases Option.or_eq_some_iff.mp found with found | ⟨_, found⟩
    · exact left.about e found
    · exact right.about e found

end Blames

namespace Literal

variable {v : Literal} {items : List Literal}

/-- Where a single value has no scalar, it holds a name. -/
theorem IsSingle.blames_scalar (single : v.IsSingle) : Blames (faultOf? v.scalar) v.HasName := by
  cases v with
  | column name => exact .columnValue trivial
  | list items => exact single.elim
  | _ => exact .none id

/-- Where the items of a list have no scalars, one of them holds a name. -/
theorem blames_scalars (single : ∀ item ∈ items, item.IsSingle) :
    Blames (faultOf? (Literal.list items).scalars) (Literal.list items).HasName := by
  rw [scalars, HasName, faultOf?_mapM fun _ _ => rfl]
  induction items with
  | nil => exact .none id
  | cons item rest ih =>
    obtain ⟨first, others⟩ := List.forall_mem_cons.mp single
    rw [SomeHasName, findSome?_cons_eq_or]
    exact first.blames_scalar.or (ih others)

end Literal

/-- A comparison is refused for a name in a value that it allows. -/
theorem CompareOp.Allows.blames {op : CompareOp} {v : Literal} (allowed : op.Allows v) :
    Blames (op.fault? v) v.HasName := by
  cases op with
  | isIn =>
    obtain ⟨items, rfl, single⟩ := allowed
    exact Literal.blames_scalars single
  | notIn =>
    obtain ⟨items, rfl, single⟩ := allowed
    exact Literal.blames_scalars single
  | like =>
    obtain ⟨s, rfl⟩ := allowed
    exact .none id
  | notLike =>
    obtain ⟨s, rfl⟩ := allowed
    exact .none id
  | _ => exact Literal.IsSingle.blames_scalar allowed

/-- A well-formed predicate is refused for its stray names. -/
theorem Predicate.IsWellFormed.blames {p : Predicate} (formed : p.IsWellFormed) :
    Blames p.fault? p.HasStrayName := by
  induction p with
  | compare field op value =>
    rw [fault?, HasStrayName]
    split
    · rename_i presence
      cases Literal.isExists_iff.mp presence
      cases op with
      | eq => exact .none (by simp)
      | notEq => exact .none (by simp)
      | _ => exact .existsMisused field ⟨trivial, by simp⟩
    · rename_i plain
      rw [Literal.isExists_iff] at plain
      simpa only [plain, false_and, not_false_eq_true, and_true] using
        CompareOp.Allows.blames formed
  | between field low high => exact formed.1.blames_scalar.or formed.2.blames_scalar
  | and left right ihLeft ihRight => exact (ihLeft formed.1).or (ihRight formed.2)
  | or left right ihLeft ihRight => exact (ihLeft formed.1).or (ihRight formed.2)
  | paren inner ih => exact ih formed

/-- Of the queries for a source that a text leads to, both compilers refuse exactly those with a
bare name that does not ask for the presence of a field, and they refuse nothing but names: no list
is out of place, and every pattern is a string. -/
theorem Query.compile_error_iff_hasStrayName {text : String} {max : Nat} {source : Capabilities}
    {parts : List Query} {part : Query} (taken : Query.normalize text max source = .ok parts)
    (member : part ∈ parts) (table : String) (dialect : Sql.Dialect) (threshold : Nat) :
    ((∃ e, Compiler.document.compile part = .error e) ↔ part.predicate.HasStrayName) ∧
      ((∃ e, (Compiler.sql table dialect threshold).compile part = .error e) ↔
        part.predicate.HasStrayName) ∧
      ∀ e, (Compiler.document.compile part = .error e ∨
          (Compiler.sql table dialect threshold).compile part = .error e) →
        e = .columnValue ∨ ∃ field, e = .existsMisused field := by
  have blamed := (Query.isWellFormed_of_normalize taken member).blames
  rw [← isSome_faultOf?_iff, ← isSome_faultOf?_iff, Compiler.faultOf?_compile_document,
    Compiler.faultOf?_compile_sql]
  refine ⟨blamed.isSome_iff, blamed.isSome_iff, ?_⟩
  rintro e (refused | refused)
  · exact blamed.about e (by rw [← Compiler.faultOf?_compile_document, refused, faultOf?_error])
  · refine blamed.about e ?_
    rw [← Compiler.faultOf?_compile_sql part table dialect threshold, refused, faultOf?_error]

/-- A name in a list ends up in a query of its own, which is refused; presence in the same
disjunction is not. -/
theorem Query.compile_error_iff_hasStrayName_split :
    let range : Predicate := .between "datetime" (.string "x") (.string "y")
    let named : Query := ⟨"d", .and (.compare "addr" .eq (.column "b")) range, [], 0, 500⟩
    let present : Query := ⟨"d", .and (.compare "tag" .eq (.column "exist")) range, [], 0, 500⟩
    ∃ parts, Query.normalize
        "FROM d WHERE (ip IN (1, b) OR tag = exist) AND datetime BETWEEN 'x' AND 'y'" 500
          ⟨true, [("ip", "addr")], false⟩ = .ok parts ∧ named ∈ parts ∧ present ∈ parts ∧
      (∃ e, Compiler.document.compile named = .error e) ∧
      ¬ ∃ e, (Compiler.sql "t" .mysql 2).compile present = .error e := by
  intro range named present
  let first : Query := ⟨"d", .and (.compare "addr" .eq (.integer 1)) range, [], 0, 500⟩
  have taken : Query.normalize
      "FROM d WHERE (ip IN (1, b) OR tag = exist) AND datetime BETWEEN 'x' AND 'y'" 500
        ⟨true, [("ip", "addr")], false⟩ = .ok [first, named, present] := by decide +kernel
  have isNamed : named ∈ [first, named, present] := by simp
  have isPresent : present ∈ [first, named, present] := by simp
  refine ⟨_, taken, isNamed, isPresent, ?_, ?_⟩
  · refine (compile_error_iff_hasStrayName taken isNamed "t" .mysql 2).1.mpr (.inl ⟨trivial, ?_⟩)
    simp [existsName]
  · rw [(compile_error_iff_hasStrayName taken isPresent "t" .mysql 2).2.1]
    rintro (stray | stray | stray)
    · exact stray.2 ⟨rfl, .inl rfl⟩
    · exact stray
    · exact stray

end FederatedSearch
