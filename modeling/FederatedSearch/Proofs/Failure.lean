/-!
# Failing computations

Two computations that yield different things may still fail alike. `faultOf?` forgets what a
computation yields and keeps the fault that it ends with. In a sequence the first fault counts, and
so it does among the items of a list.
-/

namespace FederatedSearch

variable {ε α β : Type}

/-- The fault that a computation ends with, if it fails. -/
def faultOf? : Except ε α → Option ε
  | .error e => some e
  | .ok _ => none

@[simp] theorem faultOf?_ok (a : α) : faultOf? (.ok a : Except ε α) = none := rfl

@[simp] theorem faultOf?_pure (a : α) : faultOf? (pure a : Except ε α) = none := rfl

@[simp] theorem faultOf?_error (e : ε) : faultOf? (.error e : Except ε α) = some e := rfl

/-- A fault is that of the failure. -/
theorem faultOf?_eq_some_iff {x : Except ε α} {e : ε} : faultOf? x = some e ↔ x = .error e := by
  cases x <;> simp

/-- There is a fault exactly where something failed. -/
theorem isSome_faultOf?_iff {x : Except ε α} : (faultOf? x).isSome = true ↔ ∃ e, x = .error e := by
  cases x <;> simp

/-- Two computations are the same up to their faults when both yield the same, or both fail. -/
theorem mapError_eq_iff {ε' : Type} {f : ε → ε'} {x y : Except ε α} :
    x.mapError f = y.mapError f ↔
      (∃ a, x = .ok a ∧ y = .ok a) ∨ ∃ e e', x = .error e ∧ y = .error e' ∧ f e = f e' := by
  constructor
  · intro same
    cases x with
    | ok a =>
      cases y with
      | ok b => exact .inl ⟨a, rfl, congrArg Except.ok (Except.ok.inj same).symm⟩
      | error e => cases same
    | error e =>
      cases y with
      | ok b => cases same
      | error e' => exact .inr ⟨e, e', rfl, rfl, Except.error.inj same⟩
  · rintro (⟨a, rfl, rfl⟩ | ⟨e, e', rfl, rfl, same⟩)
    · rfl
    · exact congrArg Except.error same

/-- When the second part of a sequence fails in one way, whatever the first part yields, the
sequence fails in the way of its first part, or else of the second. -/
theorem faultOf?_bind {x : Except ε α} {f : α → Except ε β} {later : Option ε}
    (second : ∀ a, faultOf? (f a) = later) : faultOf? (x >>= f) = (faultOf? x).or later := by
  cases x with
  | error e => rfl
  | ok a => exact second a

/-- Putting a result into another form does not fail. -/
@[simp] theorem faultOf?_bind_pure (x : Except ε α) (g : α → β) :
    faultOf? (x >>= fun a => pure (g a)) = faultOf? x := by
  rw [faultOf?_bind fun _ => faultOf?_pure _, Option.or_none]

/-- What is found first is found for the first item, or else for the others. -/
theorem findSome?_cons_eq_or {f : α → Option β} (x : α) (rest : List α) :
    (x :: rest).findSome? f = (f x).or (rest.findSome? f) := by
  rw [List.findSome?_cons]
  cases f x <;> rfl

/-- A computation on the items of a list fails with the first fault of an item. -/
theorem faultOf?_mapM {f : α → Except ε β} {fault? : α → Option ε} {xs : List α}
    (each : ∀ x ∈ xs, faultOf? (f x) = fault? x) : faultOf? (xs.mapM f) = xs.findSome? fault? := by
  induction xs with
  | nil => rfl
  | cons x rest ih =>
    obtain ⟨first, others⟩ := List.forall_mem_cons.mp each
    rw [List.mapM_cons, faultOf?_bind fun _ => faultOf?_bind_pure _ _, first, ih others,
      findSome?_cons_eq_or]

end FederatedSearch
