import FederatedSearch.Proofs.Query.Stripping

/-!
# What stripping means

Leaves that say the same may stand at several places of a predicate, and truth is given to each of
them by itself: `Predicate.Place` is a leaf by where it stands, `Predicate.TrueAt` the truth of a
predicate when that of each place is given. Stripping loses the ranges of the time field on the
spine and nothing else. `Predicate.IsRest` says so of a predicate and what is left of it, with one
lemma for each way in which stripping goes on at an AND or at parentheses, and by induction it
holds of what stripping leaves (`Predicate.leaves_stripDatetime`).
-/

namespace FederatedSearch

namespace Predicate

/-- A leaf of a predicate, by where it stands. -/
inductive Place : Predicate → Type
  | compare {field : String} {op : CompareOp} {value : Literal} : Place (compare field op value)
  | between {field : String} {low high : Literal} : Place (between field low high)
  | andLeft {left right : Predicate} (place : Place left) : Place (and left right)
  | andRight {left right : Predicate} (place : Place right) : Place (and left right)
  | orLeft {left right : Predicate} (place : Place left) : Place (or left right)
  | orRight {left right : Predicate} (place : Place right) : Place (or left right)
  | paren {inner : Predicate} (place : Place inner) : Place (paren inner)

namespace Place

/-- The leaf at a place. -/
def leaf : {p : Predicate} → p.Place → Predicate
  | .compare field op value, .compare => .compare field op value
  | .between field low high, .between => .between field low high
  | .and _ _, andLeft place => place.leaf
  | .and _ _, andRight place => place.leaf
  | .or _ _, orLeft place => place.leaf
  | .or _ _, orRight place => place.leaf
  | .paren _, paren place => place.leaf

/-- Whether a range of the time field is at a place that AND and parentheses alone lead to. -/
def IsSpineRange : {p : Predicate} → p.Place → Prop
  | .compare _ _ _, .compare => False
  | .between field _ _, .between => field = datetimeField
  | .and _ _, andLeft place => place.IsSpineRange
  | .and _ _, andRight place => place.IsSpineRange
  | .or _ _, orLeft _ => False
  | .or _ _, orRight _ => False
  | .paren _, paren place => place.IsSpineRange

variable {left right left' right' inner inner' : Predicate}

/-- Goes to the places of an AND by going to those of its operands. -/
def alongAnd (onLeft : left'.Place → left.Place) (onRight : right'.Place → right.Place) :
    (Predicate.and left' right').Place → (Predicate.and left right).Place
  | andLeft place => (onLeft place).andLeft
  | andRight place => (onRight place).andRight

/-- Goes to the places in parentheses. -/
def alongParen (within : inner'.Place → inner.Place) :
    (Predicate.paren inner').Place → (Predicate.paren inner).Place
  | paren place => (within place).paren

end Place

/-- Truth of a predicate when the truth of the leaf at each place is given. -/
def TrueAt : (p : Predicate) → (p.Place → Prop) → Prop
  | compare _ _ _, truth => truth .compare
  | between _ _ _, truth => truth .between
  | and left right, truth =>
    left.TrueAt (fun place => truth place.andLeft) ∧
      right.TrueAt (fun place => truth place.andRight)
  | or left right, truth =>
    left.TrueAt (fun place => truth place.orLeft) ∨
      right.TrueAt (fun place => truth place.orRight)
  | paren inner, truth => inner.TrueAt (fun place => truth place.paren)

/-- What is left of a predicate without the ranges on its spine: each leaf comes from one place of
the predicate and is as it was there, all places but those of the ranges are kept, no range on the
spine is left, and the rest is true when the predicate is with the ranges taken as true. -/
structure IsRest (p q : Predicate) (origin : q.Place → p.Place) : Prop where
  injective : Function.Injective origin
  leaf : ∀ place, (origin place).leaf = place.leaf
  kept : ∀ place, (∃ rest, origin rest = place) ↔ ¬ place.IsSpineRange
  free : ∀ place : q.Place, ¬ place.IsSpineRange
  truth : ∀ truth : p.Place → Prop,
    q.TrueAt (fun place => truth (origin place)) ↔
      p.TrueAt fun place => place.IsSpineRange ∨ truth place

section Rest

variable {p q left right left' right' inner inner' : Predicate}

/-- A predicate is true when the leaves at all places are. -/
theorem trueAt_of_forall {truth : p.Place → Prop} (all : ∀ place, truth place) :
    p.TrueAt truth := by
  induction p with
  | compare field op value => exact all _
  | between field low high => exact all _
  | and left right ihLeft ihRight => exact ⟨ihLeft fun _ => all _, ihRight fun _ => all _⟩
  | or left right ihLeft _ => exact .inl (ihLeft fun _ => all _)
  | paren inner ih => exact ih fun _ => all _

/-- Without ranges on its spine a predicate is left as it is. -/
theorem isRest_self (free : ∀ place : p.Place, ¬ place.IsSpineRange) : p.IsRest p id where
  injective := Function.injective_id
  leaf _ := rfl
  kept place := iff_of_true ⟨place, rfl⟩ (free place)
  free := free
  truth truth := by simp only [free, false_or, id]

/-- When something is left of both operands, their AND is. -/
theorem IsRest.and {onLeft : left'.Place → left.Place} {onRight : right'.Place → right.Place}
    (restLeft : left.IsRest left' onLeft) (restRight : right.IsRest right' onRight) :
    (left.and right).IsRest (left'.and right') (Place.alongAnd onLeft onRight) where
  injective x y same := by
    cases x with
    | andLeft x =>
      cases y with
      | andLeft y => exact congrArg _ (restLeft.injective (Place.andLeft.inj same))
      | andRight y => cases same
    | andRight x =>
      cases y with
      | andLeft y => cases same
      | andRight y => exact congrArg _ (restRight.injective (Place.andRight.inj same))
  leaf place := by
    cases place with
    | andLeft place => exact restLeft.leaf place
    | andRight place => exact restRight.leaf place
  kept place := by
    cases place with
    | andLeft place =>
      refine Iff.trans ⟨?_, ?_⟩ (restLeft.kept place)
      · rintro ⟨rest, same⟩
        cases rest with
        | andLeft rest => exact ⟨rest, Place.andLeft.inj same⟩
        | andRight rest => cases same
      · rintro ⟨rest, rfl⟩
        exact ⟨rest.andLeft, rfl⟩
    | andRight place =>
      refine Iff.trans ⟨?_, ?_⟩ (restRight.kept place)
      · rintro ⟨rest, same⟩
        cases rest with
        | andLeft rest => cases same
        | andRight rest => exact ⟨rest, Place.andRight.inj same⟩
      · rintro ⟨rest, rfl⟩
        exact ⟨rest.andRight, rfl⟩
  free place := by
    cases place with
    | andLeft place => exact restLeft.free place
    | andRight place => exact restRight.free place
  truth truth := and_congr (restLeft.truth fun place => truth place.andLeft)
    (restRight.truth fun place => truth place.andRight)

/-- When the right operand is all ranges, what is left of the left one is left of the AND. -/
theorem IsRest.andLeft {onLeft : q.Place → left.Place} (rest : left.IsRest q onLeft)
    (ranges : ∀ place : right.Place, place.IsSpineRange) :
    (left.and right).IsRest q fun place => (onLeft place).andLeft where
  injective _ _ same := rest.injective (Place.andLeft.inj same)
  leaf place := rest.leaf place
  kept place := by
    cases place with
    | andLeft place =>
      refine Iff.trans (exists_congr fun x => ?_) (rest.kept place)
      exact ⟨Place.andLeft.inj, congrArg _⟩
    | andRight place => exact iff_of_false (by rintro ⟨_, ⟨⟩⟩) (not_not_intro (ranges place))
  free := rest.free
  truth truth := (rest.truth fun place => truth place.andLeft).trans
    (and_iff_left (trueAt_of_forall fun place => .inl (ranges place))).symm

/-- When the left operand is all ranges, what is left of the right one is left of the AND. -/
theorem IsRest.andRight {onRight : q.Place → right.Place} (rest : right.IsRest q onRight)
    (ranges : ∀ place : left.Place, place.IsSpineRange) :
    (left.and right).IsRest q fun place => (onRight place).andRight where
  injective _ _ same := rest.injective (Place.andRight.inj same)
  leaf place := rest.leaf place
  kept place := by
    cases place with
    | andLeft place => exact iff_of_false (by rintro ⟨_, ⟨⟩⟩) (not_not_intro (ranges place))
    | andRight place =>
      refine Iff.trans (exists_congr fun x => ?_) (rest.kept place)
      exact ⟨Place.andRight.inj, congrArg _⟩
  free := rest.free
  truth truth := (rest.truth fun place => truth place.andRight).trans
    (and_iff_right (trueAt_of_forall fun place => .inl (ranges place))).symm

/-- Parentheses stay around what is left in them. -/
theorem IsRest.paren {within : inner'.Place → inner.Place} (rest : inner.IsRest inner' within) :
    (Predicate.paren inner).IsRest (.paren inner') (Place.alongParen within) where
  injective x y same := by
    cases x with
    | paren x =>
      cases y with
      | paren y => exact congrArg _ (rest.injective (Place.paren.inj same))
  leaf place := by
    cases place with
    | paren place => exact rest.leaf place
  kept place := by
    cases place with
    | paren place =>
      refine Iff.trans ⟨?_, ?_⟩ (rest.kept place)
      · rintro ⟨rest, same⟩
        cases rest with
        | paren rest => exact ⟨rest, Place.paren.inj same⟩
      · rintro ⟨rest, rfl⟩
        exact ⟨rest.paren, rfl⟩
  free place := by
    cases place with
    | paren place => exact rest.free place
  truth truth := rest.truth fun place => truth place.paren

/-- What may be left of a predicate: nothing when it is all ranges, or else its rest. -/
def Leaves (p : Predicate) : Option Predicate → Prop
  | none => ∀ place : p.Place, place.IsSpineRange
  | some q => ∃ origin, p.IsRest q origin

/-- What is left of a predicate has leaves at places of it. -/
theorem leaves_stripDatetime (p : Predicate) : p.Leaves p.stripDatetime := by
  induction p with
  | compare field op value => exact ⟨id, isRest_self (by rintro ⟨⟩ ⟨⟩)⟩
  | between field low high =>
    rw [stripDatetime]
    by_cases time : field = datetimeField
    · rw [if_pos time]
      rintro ⟨⟩
      exact time
    · rw [if_neg time]
      exact ⟨id, isRest_self (by rintro ⟨⟩; exact time)⟩
  | and left right ihLeft ihRight =>
    rw [stripDatetime]
    -- An operand that is all ranges vanishes, and the other one takes the place of the AND.
    cases onLeft : left.stripDatetime with
    | none =>
      rw [onLeft] at ihLeft
      cases onRight : right.stripDatetime with
      | none =>
        rw [onRight] at ihRight
        intro place
        cases place with
        | andLeft place => exact ihLeft place
        | andRight place => exact ihRight place
      | some r =>
        rw [onRight] at ihRight
        obtain ⟨_, rest⟩ := ihRight
        exact ⟨_, rest.andRight ihLeft⟩
    | some l =>
      rw [onLeft] at ihLeft
      obtain ⟨_, restLeft⟩ := ihLeft
      cases onRight : right.stripDatetime with
      | none =>
        rw [onRight] at ihRight
        exact ⟨_, restLeft.andLeft ihRight⟩
      | some r =>
        rw [onRight] at ihRight
        obtain ⟨_, restRight⟩ := ihRight
        exact ⟨_, restLeft.and restRight⟩
  | or left right _ _ => exact ⟨id, isRest_self (by rintro ⟨⟩ ⟨⟩)⟩
  | paren inner ih =>
    rw [stripDatetime]
    cases within : inner.stripDatetime with
    | none =>
      rw [within] at ih
      intro place
      cases place with
      | paren place => exact ih place
    | some i =>
      rw [within] at ih
      obtain ⟨_, rest⟩ := ih
      exact ⟨_, rest.paren⟩

/-- Every spine has a part. -/
theorem spine_ne_nil (p : Predicate) : p.spine ≠ [] := by
  induction p with
  | and left right ihLeft _ => exact List.append_ne_nil_of_left_ne_nil ihLeft _
  | paren inner ih => exact ih
  | compare field op value => exact List.cons_ne_nil _ _
  | between field low high => exact List.cons_ne_nil _ _
  | or left right _ _ => exact List.cons_ne_nil _ _

/-- Stripping leaves nothing exactly when the spine is all ranges. -/
theorem stripDatetime_eq_none_iff :
    p.stripDatetime = none ↔ ∀ s ∈ p.spine, s.isDatetimeRange = true := by
  have spine := spine_of_stripDatetime p
  cases stripped : p.stripDatetime with
  | none =>
    rw [stripped, Option.elim_none, eq_comm, List.filter_eq_nil_iff] at spine
    simpa using spine
  | some q =>
    rw [stripped, Option.elim_some] at spine
    refine iff_of_false (by simp) fun ranges => q.spine_ne_nil ?_
    rw [spine, List.filter_eq_nil_iff]
    simpa using ranges

end Rest

/-- Stripping leaves nothing exactly when the spine is all ranges of the time field. Otherwise it
leaves the other parts of the spine, in order and as they are, and the rest is true, whatever the
truth of its leaves, exactly when the predicate is with the ranges on its spine taken as true. -/
theorem stripDatetime_keeps_truth (p : Predicate) :
    (p.stripDatetime = none ↔ ∀ s ∈ p.spine, s.isDatetimeRange = true) ∧
      ∀ q, p.stripDatetime = some q →
        q.spine = p.spine.filter (fun s => !s.isDatetimeRange) ∧ ∃ origin, p.IsRest q origin := by
  refine ⟨stripDatetime_eq_none_iff, fun q stripped => ⟨?_, ?_⟩⟩
  · rw [← spine_of_stripDatetime, stripped, Option.elim_some]
  · have remains := p.leaves_stripDatetime
    rw [stripped] at remains
    exact remains

end Predicate

end FederatedSearch
