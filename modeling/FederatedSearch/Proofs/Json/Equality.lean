import FederatedSearch.Json.Basic

/-!
# Equality of JSON values is an equivalence

Values are compared part by part. Numbers of one kind are compared by what they count, so that
the two zeros are equal although they are not the same.
-/

namespace FederatedSearch

namespace Json

namespace Number

/-- Each number is equal to itself. -/
theorem equal_refl (n : Number) : n.equal n = true := by
  cases n <;> simp [equal, Double.equal]

/-- Which of two numbers comes first does not matter. -/
theorem equal_comm (m n : Number) : m.equal n = n.equal m := by
  cases m <;> cases n <;> simp only [equal, Double.equal, Bool.beq_comm]

/-- Numbers equal to a third one are equal to each other. -/
theorem equal_trans {k m n : Number} (first : k.equal m = true) (second : m.equal n = true) :
    k.equal n = true := by
  cases k <;> cases m <;> cases n <;> simp_all [equal, Double.equal]

end Number

/-! ## Reflexivity -/

mutual

/-- Each value is equal to itself. -/
theorem equal_refl : (x : Json) → equal x x = true
  | .null => by rw [equal]
  | .bool b => by rw [equal, beq_self_eq_true]
  | .number n => by rw [equal, n.equal_refl]
  | .string s => by rw [equal, beq_self_eq_true]
  | .array items => by rw [equal, equalItems_refl items]
  | .object members => by rw [equal, equalMembers_refl members]

/-- Items are equal to themselves. -/
theorem equalItems_refl : (xs : List Json) → equalItems xs xs = true
  | [] => by rw [equalItems]
  | x :: xs => by rw [equalItems, equal_refl x, equalItems_refl xs, Bool.and_true]

/-- Members are equal to themselves. -/
theorem equalMembers_refl : (xs : List (String × Json)) → equalMembers xs xs = true
  | [] => by rw [equalMembers]
  | (_, x) :: xs => by
    rw [equalMembers, equal_refl x, equalMembers_refl xs, beq_self_eq_true, Bool.and_true,
      Bool.and_true]

end

/-! ## Symmetry -/

mutual

/-- Which of two values comes first does not matter. -/
theorem equal_comm : (x y : Json) → equal x y = equal y x
  | .null, y => by cases y <;> simp only [equal]
  | .bool a, y => by cases y <;> simp only [equal, Bool.beq_comm]
  | .number m, y => by cases y <;> simp only [equal, Number.equal_comm]
  | .string s, y => by cases y <;> simp only [equal, Bool.beq_comm]
  | .array xs, y => by
    cases y with
    | array ys => rw [equal, equal, equalItems_comm xs ys]
    | _ => simp only [equal]
  | .object xs, y => by
    cases y with
    | object ys => rw [equal, equal, equalMembers_comm xs ys]
    | _ => simp only [equal]

/-- Which of two arrays comes first does not matter. -/
theorem equalItems_comm : (xs ys : List Json) → equalItems xs ys = equalItems ys xs
  | [], [] => rfl
  | [], _ :: _ => by simp only [equalItems]
  | _ :: _, [] => by simp only [equalItems]
  | x :: xs, y :: ys => by rw [equalItems, equalItems, equal_comm x y, equalItems_comm xs ys]

/-- Which of two objects comes first does not matter. -/
theorem equalMembers_comm : (xs ys : List (String × Json)) →
    equalMembers xs ys = equalMembers ys xs
  | [], [] => rfl
  | [], _ :: _ => by simp only [equalMembers]
  | _ :: _, [] => by simp only [equalMembers]
  | (k, x) :: xs, (l, y) :: ys => by
    rw [equalMembers, equalMembers, equal_comm x y, equalMembers_comm xs ys, Bool.beq_comm]

end

/-! ## Transitivity -/

mutual

/-- Values equal to a third one are equal to each other. -/
theorem equal_trans : (x : Json) → ∀ ⦃y z : Json⦄, equal x y = true → equal y z = true →
    equal x z = true
  | .null => by
    intro y z first second
    cases y with
    | null => exact second
    | _ => simp [equal] at first
  | .bool a => by
    intro y z first second
    cases y with
    | bool b => simpa only [eq_of_beq first] using second
    | _ => simp [equal] at first
  | .number m => by
    intro y z first second
    cases y with
    | number n =>
      cases z with
      | number k => exact Number.equal_trans first second
      | _ => simp [equal] at second
    | _ => simp [equal] at first
  | .string s => by
    intro y z first second
    cases y with
    | string t =>
      rw [equal, beq_iff_eq] at first
      rw [first]
      exact second
    | _ => simp [equal] at first
  | .array xs => by
    intro y z first second
    cases y with
    | array ys =>
      cases z with
      | array zs =>
        rw [equal] at first second ⊢
        exact equalItems_trans xs first second
      | _ => simp [equal] at second
    | _ => simp [equal] at first
  | .object xs => by
    intro y z first second
    cases y with
    | object ys =>
      cases z with
      | object zs =>
        rw [equal] at first second ⊢
        exact equalMembers_trans xs first second
      | _ => simp [equal] at second
    | _ => simp [equal] at first

/-- Equality of items is transitive. -/
theorem equalItems_trans : (xs : List Json) → ∀ ⦃ys zs : List Json⦄, equalItems xs ys = true →
    equalItems ys zs = true → equalItems xs zs = true
  | [], [], _ => fun _ second => second
  | x :: xs, y :: ys, z :: zs => by
    simp only [equalItems, Bool.and_eq_true]
    exact fun first second =>
      ⟨equal_trans x first.1 second.1, equalItems_trans xs first.2 second.2⟩
  | [], _ :: _, _ => by simp [equalItems]
  | _ :: _, [], _ => by simp [equalItems]
  | _ :: _, _ :: _, [] => by simp [equalItems]

/-- Equality of members is transitive. -/
theorem equalMembers_trans : (xs : List (String × Json)) → ∀ ⦃ys zs : List (String × Json)⦄,
    equalMembers xs ys = true → equalMembers ys zs = true → equalMembers xs zs = true
  | [], [], _ => fun _ second => second
  | (_, x) :: xs, (_, y) :: ys, (_, z) :: zs => by
    simp only [equalMembers, Bool.and_eq_true, beq_iff_eq]
    exact fun first second => ⟨⟨first.1.1.trans second.1.1,
      equal_trans x first.1.2 second.1.2⟩, equalMembers_trans xs first.2 second.2⟩
  | [], _ :: _, _ => by simp [equalMembers]
  | _ :: _, [], _ => by simp [equalMembers]
  | _ :: _, _ :: _, [] => by simp [equalMembers]

end

end Json

end FederatedSearch
