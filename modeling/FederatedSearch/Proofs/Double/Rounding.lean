import FederatedSearch.Double.Basic
import Mathlib.Tactic.Linarith
import Mathlib.Tactic.Ring

/-!
# Rounding to the format

The neighbours of a magnitude of the format are at least half a step away from it on the grid
around it, also at a power of two, where the grid gets coarser. A quotient rounds to the magnitude
that it is near enough to, and a relative error below `2 ^ (-54)` is near enough on every grid.
-/

namespace FederatedSearch

namespace Double

/-- A magnitude is one of the format: a number below `2 ^ 53` times a power of two. -/
def IsFormat (magnitude : Nat) : Prop :=
  ∃ significand exponent, significand < 2 ^ 53 ∧ magnitude = significand * 2 ^ exponent

section Rounding

variable {m k numerator denominator c : Nat}

/-- The spacing of doubles is a power of two. -/
theorem spacing_eq_two_pow (floor : Nat) : spacing floor = 2 ^ (floor.log2 - 52) :=
  rfl

/-! ## Neighbours in the format -/

/-- A magnitude of the format is a multiple of the step at every power of two up to it. -/
theorem IsFormat.two_pow_dvd (format : IsFormat m) (le : 2 ^ k ≤ m) : 2 ^ (k - 52) ∣ m := by
  obtain ⟨significand, exponent, lt, rfl⟩ := format
  have fits : significand * 2 ^ exponent < 2 ^ (53 + exponent) := by
    rw [pow_add]
    exact Nat.mul_lt_mul_of_pos_right lt (Nat.two_pow_pos exponent)
  have := (Nat.pow_lt_pow_iff_right one_lt_two).mp (le.trans_lt fits)
  exact (Nat.pow_dvd_pow 2 (by omega)).trans (Nat.dvd_mul_left _ _)

/-- Above a power of two, the next magnitude of the format is a whole step away. -/
theorem IsFormat.add_le_of_two_pow_lt (format : IsFormat m) (lt : 2 ^ k < m) :
    2 ^ k + 2 ^ (k - 52) ≤ m := by
  have onGrid : 2 ^ (k - 52) ∣ m - 2 ^ k :=
    Nat.dvd_sub (format.two_pow_dvd lt.le) (Nat.pow_dvd_pow 2 (Nat.sub_le k 52))
  have := Nat.le_of_dvd (Nat.sub_pos_of_lt lt) onGrid
  omega

/-- Below a power of two, the next magnitude of the format is half such a step away. -/
theorem IsFormat.add_le_of_lt_two_pow (format : IsFormat m) (lt : m < 2 ^ (k + 1)) :
    m + 2 ^ (k - 52) ≤ 2 ^ (k + 1) := by
  have double : 2 ^ (k + 1) = 2 ^ k + 2 ^ k := by ring
  have smaller : 2 ^ (k - 52) ≤ 2 ^ k := Nat.pow_le_pow_right two_pos (Nat.sub_le k 52)
  by_cases le : 2 ^ k ≤ m
  · have onGrid : 2 ^ (k - 52) ∣ 2 ^ (k + 1) - m :=
      Nat.dvd_sub (Nat.pow_dvd_pow 2 (by omega)) (format.two_pow_dvd le)
    have := Nat.le_of_dvd (Nat.sub_pos_of_lt lt) onGrid
    omega
  · omega

/-- Up to `2 ^ 53` times a power of two is of the format. -/
theorem isFormat_mul_two_pow (le : c ≤ 2 ^ 53) (k : Nat) : IsFormat (c * 2 ^ k) := by
  obtain rfl | lt := le.eq_or_lt
  · exact ⟨2 ^ 52, k + 1, by decide, by ring⟩
  · exact ⟨c, k, lt, rfl⟩

/-! ## Rounding to the nearest -/

/-- What is less than half away from a whole number rounds to it. -/
theorem roundQuotient_eq_of_near (above : 2 * (c * denominator) < 2 * numerator + denominator)
    (below : 2 * numerator < 2 * (c * denominator) + denominator) :
    roundQuotient numerator denominator = c := by
  have whole := Nat.div_add_mod' numerator denominator
  have rest := Nat.mod_lt numerator (show 0 < denominator by omega)
  -- The whole part is `c`, or `c - 1` with more than half of the denominator left.
  obtain same | less : numerator / denominator = c ∨ numerator / denominator + 1 = c := by
    have low : numerator / denominator * denominator < (c + 1) * denominator := by
      rw [Nat.add_one_mul]; omega
    have high : c * denominator < (numerator / denominator + 2) * denominator := by
      rw [Nat.add_mul]; omega
    have := Nat.lt_of_mul_lt_mul_right low
    have := Nat.lt_of_mul_lt_mul_right high
    omega
  · rw [same] at whole
    rw [roundQuotient, if_pos (by omega), same]
  · rw [← less, Nat.add_one_mul (numerator / denominator)] at above
    rw [roundQuotient, if_neg (by omega), if_neg (by omega), less]

/-- A quotient lies within a relative error below `2 ^ (-54)` of a magnitude. -/
structure IsNear (numerator denominator magnitude : Nat) : Prop where
  above : magnitude * denominator * (2 ^ 54 - 1) < numerator * 2 ^ 54
  below : numerator * 2 ^ 54 < magnitude * denominator * (2 ^ 54 + 1)

/-- What is near to a quotient is near to one with a denominator. -/
theorem IsNear.denominator_pos (near : IsNear numerator denominator m) : 0 < denominator := by
  by_contra zero
  have := near.below
  simp [Nat.eq_zero_of_not_pos zero] at this

/-- A magnitude of the format has at most `2 ^ 53` steps of the grid around what is near it. -/
theorem IsNear.le_mul_spacing (near : IsNear numerator denominator m) (format : IsFormat m) :
    m ≤ 2 ^ 53 * spacing (numerator / denominator) := by
  set step := (numerator / denominator).log2 - 52 with step_eq
  have under : numerator < 2 ^ (53 + step) * denominator := by
    rw [← Nat.div_lt_iff_lt_mul near.denominator_pos]
    exact Nat.lt_log2_self.trans_le (Nat.pow_le_pow_right two_pos (by omega))
  rw [pow_add, Nat.mul_assoc] at under
  by_contra more
  rw [spacing_eq_two_pow, ← step_eq, ← pow_add] at more
  have gap := format.add_le_of_two_pow_lt (Nat.lt_of_not_le more)
  rw [show 53 + step - 52 = step + 1 by omega, pow_succ 2 step, pow_add, Nat.mul_comm _ 2,
    ← Nat.add_mul] at gap
  -- So `m` would be further from the quotient than the error allows.
  have far := Nat.mul_le_mul_right denominator gap
  have error := near.above
  rw [Nat.mul_assoc] at far
  generalize 2 ^ step * denominator = unit at far under
  generalize m * denominator = product at far error
  omega

/-- A magnitude of the format lies on the grid around what is near it. -/
theorem IsNear.spacing_dvd (near : IsNear numerator denominator m) (format : IsFormat m) :
    spacing (numerator / denominator) ∣ m := by
  rw [spacing_eq_two_pow]
  by_cases fine : (numerator / denominator).log2 ≤ 52
  · simp [Nat.sub_eq_zero_of_le fine]
  refine format.two_pow_dvd ?_
  have reached : 2 ^ (numerator / denominator).log2 * denominator ≤ numerator := by
    rw [← Nat.le_div_iff_mul_le near.denominator_pos]
    exact Nat.log2_self_le fun zero => fine (by simp [zero])
  by_contra less
  obtain ⟨step, exponent_eq⟩ : ∃ step, (numerator / denominator).log2 = 52 + step + 1 :=
    ⟨(numerator / denominator).log2 - 53, by omega⟩
  rw [exponent_eq] at reached less
  have gap := format.add_le_of_lt_two_pow (Nat.lt_of_not_le less)
  rw [Nat.add_sub_cancel_left] at gap
  rw [Nat.add_right_comm, pow_add] at reached gap
  -- So `m` would be further from the quotient than the error allows.
  have far := Nat.mul_le_mul_right denominator gap
  have error := near.below
  rw [Nat.add_mul, Nat.mul_assoc (2 ^ (52 + 1))] at far
  rw [Nat.mul_assoc] at reached
  generalize 2 ^ step * denominator = unit at far reached
  generalize m * denominator = product at far error
  omega

/-- What is near a magnitude of the format rounds to it. -/
theorem IsNear.roundMagnitude_eq (near : IsNear numerator denominator m) (format : IsFormat m)
    (le : m ≤ infiniteMagnitude) : roundMagnitude numerator denominator = m := by
  obtain ⟨steps, m_eq⟩ := near.spacing_dvd format
  have few := near.le_mul_spacing format
  have above := near.above
  have below := near.below
  rw [roundMagnitude]
  have positive : 0 < spacing (numerator / denominator) := Nat.two_pow_pos _
  generalize spacing (numerator / denominator) = step at *
  rw [m_eq, Nat.mul_comm step] at few
  -- With at most `2 ^ 53` steps, the relative error is less than half a step.
  have small : steps * (denominator * step) ≤ 2 ^ 53 * (denominator * step) :=
    Nat.mul_le_mul_right _ (Nat.le_of_mul_le_mul_right few positive)
  have whole : roundQuotient numerator (denominator * step) = steps := by
    have product : m * denominator = steps * (denominator * step) := by rw [m_eq]; ring
    rw [product] at above below
    exact roundQuotient_eq_of_near (by omega) (by omega)
  rw [whole, Nat.mul_comm steps, ← m_eq, Nat.min_eq_left le]

/-- Zero is rounded to itself. -/
theorem roundQuotient_zero (denominator : Nat) : roundQuotient 0 denominator = 0 := by
  simp only [roundQuotient, Nat.zero_div, Nat.zero_mod, Nat.mul_zero]
  split
  · rfl
  · rw [if_pos (by omega)]

/-- Zero is rounded to itself. -/
theorem roundMagnitude_zero (denominator : Nat) : roundMagnitude 0 denominator = 0 := by
  rw [roundMagnitude, roundQuotient_zero, Nat.zero_mul, Nat.zero_min]

/-- A magnitude of the format rounds to itself. -/
theorem roundMagnitude_self (format : IsFormat m) (le : m ≤ infiniteMagnitude) :
    roundMagnitude m 1 = m := by
  obtain rfl | positive := m.eq_zero_or_pos
  · exact roundMagnitude_zero 1
  · exact IsNear.roundMagnitude_eq ⟨by omega, by omega⟩ format le

/-- Rounding does not fall below a power of two. -/
theorem two_pow_le_roundMagnitude (le : 2 ^ k ≤ m) (finite : 2 ^ k ≤ infiniteMagnitude) :
    2 ^ k ≤ roundMagnitude m 1 := by
  have nonzero : m ≠ 0 := Nat.ne_of_gt (lt_of_lt_of_le (Nat.two_pow_pos k) le)
  have exponent : k ≤ m.log2 := (Nat.le_log2 nonzero).mpr le
  have grid : 2 ^ (m.log2 - 52) ∣ 2 ^ m.log2 := Nat.pow_dvd_pow 2 (Nat.sub_le _ 52)
  have quotient : m / 2 ^ (m.log2 - 52) ≤ roundQuotient m (2 ^ (m.log2 - 52)) := by
    simp only [roundQuotient]
    split
    · exact le_rfl
    · split <;> omega
  rw [roundMagnitude, Nat.div_one, Nat.one_mul, spacing_eq_two_pow]
  refine Nat.le_min.mpr ⟨?_, finite⟩
  calc 2 ^ k ≤ 2 ^ m.log2 := Nat.pow_le_pow_right two_pos exponent
    _ = 2 ^ m.log2 / 2 ^ (m.log2 - 52) * 2 ^ (m.log2 - 52) := (Nat.div_mul_cancel grid).symm
    _ ≤ m / 2 ^ (m.log2 - 52) * 2 ^ (m.log2 - 52) :=
      Nat.mul_le_mul_right _ (Nat.div_le_div_right (Nat.log2_self_le nonzero))
    _ ≤ roundQuotient m (2 ^ (m.log2 - 52)) * 2 ^ (m.log2 - 52) :=
      Nat.mul_le_mul_right _ quotient

/-! ## Equal quotients -/

/-- A common factor changes no rounding to a whole number. -/
theorem roundQuotient_mul_left (positive : 0 < c) (numerator denominator : Nat) :
    roundQuotient (c * numerator) (c * denominator) = roundQuotient numerator denominator := by
  have twice : 2 * (c * (numerator % denominator)) = c * (2 * (numerator % denominator)) := by ring
  simp only [roundQuotient, Nat.mul_div_mul_left _ _ positive, Nat.mul_mod_mul_left, twice,
    Nat.mul_lt_mul_left positive, Nat.mul_right_inj positive.ne']

/-- A common factor changes no rounding to the format. -/
theorem roundMagnitude_mul_left (positive : 0 < c) (numerator denominator : Nat) :
    roundMagnitude (c * numerator) (c * denominator) = roundMagnitude numerator denominator := by
  simp only [roundMagnitude, Nat.mul_div_mul_left _ _ positive, Nat.mul_assoc,
    roundQuotient_mul_left positive]

/-! ## Whole numbers -/

/-- One is so many of the smallest units. -/
theorem unitsPerOne_eq : unitsPerOne = 2 ^ 1074 := by
  decide +kernel

/-- One is not zero. -/
theorem unitsPerOne_pos : 0 < unitsPerOne := by
  decide +kernel

/-- Whole numbers of at most 53 bits are doubles. -/
theorem isFormat_mul_unitsPerOne (le : c ≤ 2 ^ 53) : IsFormat (c * unitsPerOne) := by
  rw [unitsPerOne_eq]
  exact isFormat_mul_two_pow le 1074

/-- Whole numbers of at most 53 bits are below infinity. -/
theorem mul_unitsPerOne_le (le : c ≤ 2 ^ 53) : c * unitsPerOne ≤ infiniteMagnitude :=
  (Nat.mul_le_mul_right _ le).trans (by decide +kernel)

/-- A whole number that rounds to less than `2 ^ 53` is a double itself. -/
theorem eq_of_roundMagnitude_lt (rounded : roundMagnitude (c * unitsPerOne) 1 = m)
    (small : m < 2 ^ 53 * unitsPerOne) : c * unitsPerOne = m := by
  have below : c ≤ 2 ^ 53 := by
    by_contra above
    have finite := mul_unitsPerOne_le (c := 2 ^ 53) le_rfl
    have le := Nat.mul_le_mul_right unitsPerOne (Nat.le_of_not_le above)
    rw [unitsPerOne_eq, ← pow_add] at le finite small
    rw [unitsPerOne_eq] at rounded
    have := two_pow_le_roundMagnitude le finite
    omega
  rw [← rounded, roundMagnitude_self (isFormat_mul_unitsPerOne below) (mul_unitsPerOne_le below)]

/-- Whole numbers up to `2 ^ 53` are doubles. -/
theorem units_ofInt {n : Int} (le : n.natAbs ≤ 2 ^ 53) : (ofInt n).units = n * unitsPerOne := by
  have exactly := roundMagnitude_self (isFormat_mul_unitsPerOne le) (mul_unitsPerOne_le le)
  simp only [units, ofInt, ofRatio, exactly, decide_eq_true_eq]
  push_cast
  split
  · rw [← Int.neg_mul, abs_of_neg ‹n < 0›, Int.neg_neg]
  · rw [abs_of_nonneg (by omega)]

end Rounding

end Double

end FederatedSearch
