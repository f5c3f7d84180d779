import FederatedSearch.Double.Decimal
import FederatedSearch.Proofs.Double.Rounding

/-!
# Shortest decimals

The shortest decimal of a double is read as that double again. The search for it ends with steps
that are so small that the nearer of the two decimals around the value reads back: with 17 digits
the step is below `2 ^ (-53)` of the value, and a reading may be off by half of that.
-/

namespace FederatedSearch

namespace Double

/-- A step of `10 ^ exponent` in units, counted over the denominator of that power. -/
def gridStep (exponent : Int) : Nat :=
  unitsPerOne * 10 ^ exponent.toNat

/-- A magnitude over the same denominator. -/
def gridValue (magnitude : Nat) (exponent : Int) : Nat :=
  magnitude * 10 ^ (-exponent).toNat

section Shortest

variable {m s fuel : Nat} {e : Int} {d : Decimal} {tie : TieRule}

/-! ## What decimals are read as -/

/-- The step of a decimal grid is not zero. -/
theorem gridStep_pos (e : Int) : 0 < gridStep e :=
  Nat.mul_pos unitsPerOne_pos (Nat.pow_pos (by decide))

/-- A decimal becomes a double of its sign. -/
theorem negative_ofDecimal (negative : Bool) (s : Nat) (e : Int) :
    (ofDecimal negative s e).negative = negative := by
  rw [ofDecimal]
  split <;> rfl

/-- A decimal is rounded as one quotient, whatever the sign of its exponent. -/
theorem magnitude_ofDecimal (negative : Bool) (s : Nat) (e : Int) :
    (ofDecimal negative s e).magnitude
      = roundMagnitude (s * gridStep e) (10 ^ (-e).toNat) := by
  rw [ofDecimal, gridStep]
  split
  · rw [show (-e).toNat = 0 by omega, pow_zero, Nat.mul_left_comm, Nat.mul_comm unitsPerOne]
    rfl
  · rw [show e.toNat = 0 by omega, pow_zero, Nat.mul_one]
    rfl

/-- A trailing zero of the significand counts as one more in the exponent. -/
theorem magnitude_ofDecimal_mul_ten (negative : Bool) (s : Nat) (e : Int) :
    (ofDecimal negative (s * 10) e).magnitude = (ofDecimal negative s (e + 1)).magnitude := by
  rw [magnitude_ofDecimal, magnitude_ofDecimal, gridStep, gridStep]
  generalize unitsPerOne = unit
  by_cases sign : 0 ≤ e
  · rw [show (-e).toNat = 0 by omega, show (-(e + 1)).toNat = 0 by omega,
      show (e + 1).toNat = e.toNat + 1 by omega]
    congr 1
    ring
  · rw [show e.toNat = 0 by omega, show (e + 1).toNat = 0 by omega,
      show (-e).toNat = (-(e + 1)).toNat + 1 by omega,
      ← roundMagnitude_mul_left (show 0 < 10 by decide) (s * (unit * 10 ^ 0))]
    congr 1 <;> ring

/-- A decimal that reads back is the double itself, with its sign. -/
theorem ofDecimal_eq_of_readsAs {x : Double} (reads : d.readsAs x.magnitude = true) :
    ofDecimal x.negative d.significand d.exponent = x := by
  rw [Decimal.readsAs, beq_iff_eq, magnitude_ofDecimal, ← magnitude_ofDecimal x.negative] at reads
  cases same : ofDecimal x.negative d.significand d.exponent with
  | mk negative magnitude =>
    have sign := negative_ofDecimal x.negative d.significand d.exponent
    rw [same] at reads sign
    exact congr (congrArg mk sign) reads

/-- A decimal without fraction digits that reads back is exact below `2 ^ 53`. -/
theorem mul_unitsPerOne_eq_of_readsAs (reads : d.readsAs m = true) (large : 0 ≤ d.exponent)
    (small : m < 2 ^ 53 * unitsPerOne) :
    d.significand * 10 ^ d.exponent.toNat * unitsPerOne = m := by
  rw [Decimal.readsAs, beq_iff_eq, magnitude_ofDecimal, gridStep, Nat.mul_left_comm, Nat.mul_comm,
    show (-d.exponent).toNat = 0 by omega, pow_zero] at reads
  exact eq_of_roundMagnitude_lt reads small

/-- Only the value of a decimal matters, and not where its zeros stand. -/
theorem Decimal.readsAs_dropZeros (reads : d.readsAs m = true) :
    (d.dropZeros fuel).readsAs m = true := by
  induction fuel generalizing d with
  | zero => exact reads
  | succ fuel ih =>
    rw [dropZeros]
    split
    · refine ih ?_
      have zero : d.significand = d.significand / 10 * 10 := by omega
      rw [readsAs, zero, magnitude_ofDecimal_mul_ten] at reads
      exact reads
    · exact reads

/-! ## The search for the shortest one -/

/-- A grid offers those of the two decimals around a value that read back. -/
theorem nearestOnGrid_cases (tie : TieRule) (m : Nat) (e : Int) :
    (nearestOnGrid tie m e = none ∧
      Decimal.readsAs ⟨gridValue m e / gridStep e, e⟩ m = false ∧
      Decimal.readsAs ⟨gridValue m e / gridStep e + 1, e⟩ m = false) ∨
    ∃ s : Nat, nearestOnGrid tie m e = some ⟨s, e⟩ ∧ Decimal.readsAs ⟨s, e⟩ m = true := by
  have value : m * 10 ^ (-e).toNat = gridValue m e := rfl
  have step : unitsPerOne * 10 ^ e.toNat = gridStep e := rfl
  simp only [nearestOnGrid, Nat.pow_eq, value, step]
  generalize 2 * (gridValue m e % gridStep e) = twiceRest
  generalize gridValue m e / gridStep e = steps
  cases first : Decimal.readsAs ⟨steps, e⟩ m with
  | false =>
    cases second : Decimal.readsAs ⟨steps + 1, e⟩ m with
    | false => exact .inl ⟨rfl, rfl, rfl⟩
    | true => exact .inr ⟨_, rfl, second⟩
  | true =>
    cases second : Decimal.readsAs ⟨steps + 1, e⟩ m with
    | false => exact .inr ⟨_, rfl, first⟩
    | true =>
      -- Both read back, so the one that is nearer does.
      dsimp only
      split_ifs
      · exact .inr ⟨_, rfl, first⟩
      · exact .inr ⟨_, rfl, second⟩
      · cases tie with
        | away => exact .inr ⟨_, rfl, second⟩
        | toEven => exact .inr ⟨_, rfl, first⟩
      · cases tie with
        | away => exact .inr ⟨_, rfl, second⟩
        | toEven => exact .inr ⟨_, rfl, second⟩

/-- What is found on a grid reads back. -/
theorem readsAs_of_nearestOnGrid (found : nearestOnGrid tie m e = some d) :
    d.readsAs m = true := by
  obtain ⟨none, _⟩ | ⟨other, same, reads⟩ := nearestOnGrid_cases tie m e
  · cases none.symm.trans found
  · cases same.symm.trans found
    exact reads

/-- What is found on a grid has the exponent of the grid. -/
theorem exponent_of_nearestOnGrid (found : nearestOnGrid tie m e = some d) : d.exponent = e := by
  obtain ⟨none, _⟩ | ⟨_, same, _⟩ := nearestOnGrid_cases tie m e
  · cases none.symm.trans found
  · cases same.symm.trans found
    rfl

/-- On a grid with small steps, a decimal within half a step of the value reads back. -/
theorem readsAs_of_near (format : IsFormat m) (le : m ≤ infiniteMagnitude)
    (fine : 2 ^ 53 * gridStep e < gridValue m e)
    (above : 2 * gridValue m e ≤ 2 * (s * gridStep e) + gridStep e)
    (below : 2 * (s * gridStep e) ≤ 2 * gridValue m e + gridStep e) :
    Decimal.readsAs ⟨s, e⟩ m = true := by
  have near : IsNear (s * gridStep e) (10 ^ (-e).toNat) m := by
    rw [gridValue] at fine above below
    exact ⟨by omega, by omega⟩
  rw [Decimal.readsAs, magnitude_ofDecimal, near.roundMagnitude_eq format le, beq_self_eq_true]

/-- On a grid with small steps, one of the two decimals around the value reads back. -/
theorem isSome_nearestOnGrid (format : IsFormat m) (le : m ≤ infiniteMagnitude)
    (fine : 2 ^ 53 * gridStep e < gridValue m e) : (nearestOnGrid tie m e).isSome = true := by
  have whole := Nat.div_add_mod' (gridValue m e) (gridStep e)
  have rest := Nat.mod_lt (gridValue m e) (gridStep_pos e)
  have nearer : Decimal.readsAs ⟨gridValue m e / gridStep e, e⟩ m = true ∨
      Decimal.readsAs ⟨gridValue m e / gridStep e + 1, e⟩ m = true := by
    by_cases half : 2 * (gridValue m e % gridStep e) ≤ gridStep e
    · exact .inl (readsAs_of_near format le fine (by omega) (by omega))
    · have next := Nat.add_one_mul (gridValue m e / gridStep e) (gridStep e)
      exact .inr (readsAs_of_near format le fine (by omega) (by omega))
  obtain ⟨_, first, second⟩ | ⟨d, found, _⟩ := nearestOnGrid_cases tie m e
  · rw [first, second] at nearer
    simp at nearer
  · rw [found, Option.isSome_some]

/-- Every number has a digit. -/
theorem digitCount_pos (n : Nat) : 0 < Decimal.digitCount n :=
  List.length_pos_iff.mpr Nat.toDigits_ne_nil

/-- A number is at least the power of ten that its first digit stands for. -/
theorem ten_pow_digitCount_le {n : Nat} (positive : 0 < n) :
    10 ^ (Decimal.digitCount n - 1) ≤ n := by
  by_cases one : Decimal.digitCount n - 1 = 0
  · rw [one]
    exact positive
  · by_contra less
    have := (Nat.length_toDigits_le_iff (by decide) (Nat.pos_of_ne_zero one)).mpr
      (Nat.lt_of_not_le less)
    rw [Decimal.digitCount] at one this
    omega

/-- With 17 digits, a value makes at least `10 ^ 16` steps. -/
theorem ten_pow_mul_gridStep_le (positive : 0 < m) (place : decimalPlace m = e + 17) :
    10 ^ 16 * gridStep e ≤ gridValue m e := by
  have many : 0 < m * 10 ^ 330 / unitsPerOne :=
    Nat.div_pos (Nat.le_mul_of_pos_left _ positive |>.trans' (by decide +kernel)) unitsPerOne_pos
  have first := (Nat.le_div_iff_mul_le unitsPerOne_pos).mp (ten_pow_digitCount_le many)
  rw [decimalPlace, show Nat.pow 10 330 = 10 ^ 330 by decide +kernel] at place
  have some_digit := digitCount_pos (m * 10 ^ 330 / unitsPerOne)
  generalize Decimal.digitCount (m * 10 ^ 330 / unitsPerOne) = count at *
  have exponents : 10 ^ 16 * 10 ^ e.toNat * 10 ^ 330 = 10 ^ (count - 1) * 10 ^ (-e).toNat := by
    rw [← pow_add, ← pow_add, ← pow_add]
    congr 1
    omega
  rw [gridStep, gridValue]
  refine Nat.le_of_mul_le_mul_right ?_ (show 0 < 10 ^ 330 by decide +kernel)
  calc 10 ^ 16 * (unitsPerOne * 10 ^ e.toNat) * 10 ^ 330
      = 10 ^ 16 * 10 ^ e.toNat * 10 ^ 330 * unitsPerOne := by
        rw [Nat.mul_comm unitsPerOne, ← Nat.mul_assoc, Nat.mul_right_comm]
    _ = 10 ^ (count - 1) * unitsPerOne * 10 ^ (-e).toNat := by
        rw [exponents, Nat.mul_right_comm]
    _ ≤ m * 10 ^ 330 * 10 ^ (-e).toNat := Nat.mul_le_mul_right _ first
    _ = m * 10 ^ (-e).toNat * 10 ^ 330 := Nat.mul_right_comm _ _ _

/-- The shortest decimal of a magnitude of the format reads back. -/
theorem readsAs_shortest (format : IsFormat m) (le : m ≤ infiniteMagnitude) (positive : 0 < m) :
    (shortest tie m).readsAs m = true := by
  have last : (nearestOnGrid tie m (decimalPlace m - 17)).isSome = true := by
    have many := ten_pow_mul_gridStep_le positive (Int.sub_add_cancel (decimalPlace m) 17).symm
    have := gridStep_pos (decimalPlace m - 17)
    exact isSome_nearestOnGrid format le (by omega)
  obtain ⟨d, found⟩ : ∃ d, ((List.range 17).findSome? fun n =>
      nearestOnGrid tie m (decimalPlace m - (n + 1 : Nat))) = some d :=
    Option.isSome_iff_exists.mp
      (List.findSome?_isSome_iff.mpr ⟨16, List.mem_range.mpr (by decide), last⟩)
  obtain ⟨n, _, found_at⟩ := List.exists_of_findSome?_eq_some found
  simp only [shortest, found, Option.getD_some]
  exact Decimal.readsAs_dropZeros (readsAs_of_nearestOnGrid found_at)

end Shortest

end Double

end FederatedSearch
