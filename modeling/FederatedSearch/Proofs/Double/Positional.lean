import FederatedSearch.Proofs.Double.Shortest
import FederatedSearch.Proofs.Query.Spelling

/-!
# Positional notation

A number is written with a sign and digits, and with a point among the digits when its decimal has
fraction digits. The digits without the point are those of the significand, perhaps with zeros
around them, and what stands behind the point is as long as the exponent says.
-/

namespace FederatedSearch

namespace Double

section Notation

variable {d : Decimal} {x : Double} {ch : Char} {tie : TieRule} {c k m n : Nat}

/-! ## Zeros around digits -/

/-- Zeros are digits. -/
theorem isAsciiDigit_of_mem_zeros (member : ch ∈ zeros k) : Text.isAsciiDigit ch = true := by
  rw [List.eq_of_mem_replicate member]
  decide

/-- Each zero at the end of a number multiplies it by ten. -/
theorem foldl_zeros (n k : Nat) :
    (zeros k).foldl (fun n c => n * 10 + (c.toNat - 48)) n = n * 10 ^ k := by
  induction k generalizing n with
  | zero => simp [zeros]
  | succ k ih =>
    rw [zeros, List.replicate_succ, List.foldl_cons, ← zeros, ih, pow_succ]
    simp [Nat.mul_assoc, Nat.mul_comm 10]

/-- Zeros behind the digits of a number multiply it. -/
theorem digitsValue_append_zeros (l : List Char) (k : Nat) :
    Lexer.digitsValue (l ++ zeros k) = Lexer.digitsValue l * 10 ^ k := by
  rw [Lexer.digitsValue, List.foldl_append, foldl_zeros]
  rfl

/-- Zeros before the digits of a number do not count. -/
theorem digitsValue_zeros_append (k : Nat) (l : List Char) :
    Lexer.digitsValue (zeros k ++ l) = Lexer.digitsValue l := by
  rw [Lexer.digitsValue, List.foldl_append, foldl_zeros, Nat.zero_mul]
  rfl

/-- The digits of a whole number with zeros behind them. -/
theorem toDigits_mul_ten_pow (positive : 0 < n) (k : Nat) :
    Nat.toDigits 10 (n * 10 ^ k) = Nat.toDigits 10 n ++ zeros k := by
  induction k with
  | zero => simp [zeros]
  | succ k ih =>
    have more := Nat.toDigits_append_toDigits (b := 10) (d := 0) (by decide)
      (Nat.mul_pos positive (Nat.pow_pos (show 0 < 10 by decide) (n := k))) (by decide)
    rw [pow_succ, ← Nat.mul_assoc, Nat.mul_comm _ 10, ← Nat.add_zero (10 * _), ← more, ih,
      List.append_assoc, zeros, zeros, List.replicate_succ']
    rfl

/-! ## Whole numbers have whole decimals -/

/-- From `2 ^ 53` on, all doubles are whole. -/
theorem IsFormat.unitsPerOne_dvd (format : IsFormat m) (large : 2 ^ 53 * unitsPerOne ≤ m) :
    unitsPerOne ∣ m := by
  rw [unitsPerOne_eq, ← pow_add] at large
  have onGrid := format.two_pow_dvd large
  rw [show 53 + 1074 - 52 = 1074 + 1 by rfl, pow_succ] at onGrid
  rw [unitsPerOne_eq]
  exact dvd_of_mul_right_dvd onGrid

/-- What is read from a decimal without fraction digits is whole. -/
theorem unitsPerOne_dvd_of_readsAs (format : IsFormat m) (reads : d.readsAs m = true)
    (large : 0 ≤ d.exponent) : unitsPerOne ∣ m := by
  by_cases small : m < 2 ^ 53 * unitsPerOne
  · rw [← mul_unitsPerOne_eq_of_readsAs reads large small]
    exact Nat.dvd_mul_left ..
  · exact format.unitsPerOne_dvd (Nat.le_of_not_lt small)

/-- Dropping zeroes at the end does not lower the exponent. -/
theorem Decimal.exponent_le_dropZeros (fuel : Nat) (d : Decimal) :
    d.exponent ≤ (d.dropZeros fuel).exponent := by
  induction fuel generalizing d with
  | zero => exact le_rfl
  | succ fuel ih =>
    rw [dropZeros]
    split
    · have := ih ⟨d.significand / 10, d.exponent + 1⟩
      dsimp only at this
      omega
    · exact le_rfl

/-- A whole number has as many places as digits. -/
theorem decimalPlace_mul_unitsPerOne (positive : 0 < c) :
    decimalPlace (c * unitsPerOne) = Decimal.digitCount c := by
  have whole (scale : Nat) : c * unitsPerOne * scale / unitsPerOne = c * scale := by
    rw [Nat.mul_right_comm]
    exact Nat.mul_div_cancel _ unitsPerOne_pos
  have digits (scale : Nat) :
      Decimal.digitCount (c * Nat.pow 10 scale) = Decimal.digitCount c + scale := by
    rw [Nat.pow_eq, Decimal.digitCount, toDigits_mul_ten_pow positive,
      List.length_append, zeros, List.length_replicate, Decimal.digitCount]
  simp only [decimalPlace, whole, digits]
  omega

/-- The grid of ones has the whole number itself. -/
theorem isSome_nearestOnGrid_zero (format : IsFormat (c * unitsPerOne))
    (le : c * unitsPerOne ≤ infiniteMagnitude) :
    (nearestOnGrid tie (c * unitsPerOne) 0).isSome = true := by
  have reads : Decimal.readsAs ⟨gridValue (c * unitsPerOne) 0 / gridStep 0, 0⟩
      (c * unitsPerOne) = true := by
    have self : gridValue (c * unitsPerOne) 0 / gridStep 0 = c := by
      rw [gridValue, gridStep, Int.neg_zero, Int.toNat_zero, pow_zero, Nat.mul_one, Nat.mul_one]
      exact Nat.mul_div_cancel _ unitsPerOne_pos
    rw [Decimal.readsAs, beq_iff_eq, magnitude_ofDecimal, self, gridStep, Int.neg_zero,
      Int.toNat_zero, pow_zero, Nat.mul_one]
    exact roundMagnitude_self format le
  obtain ⟨-, first, -⟩ | ⟨d, found, -⟩ := nearestOnGrid_cases tie (c * unitsPerOne) 0
  · rw [reads] at first
    cases first
  · rw [found, Option.isSome_some]

/-- What is found first in a range is found at a number before which nothing is found. -/
theorem exists_first_of_findSome?_range {α : Type} {f : Nat → Option α} {n : Nat} {a : α}
    (found : (List.range n).findSome? f = some a) :
    ∃ k < n, f k = some a ∧ ∀ i < k, f i = none := by
  obtain ⟨before, k, after, parts, here, none_before⟩ := List.findSome?_eq_some_iff.mp found
  have within : k < n := List.mem_range.mp (by simp [parts])
  have increasing := List.pairwise_lt_range (n := n)
  rw [parts] at increasing
  refine ⟨k, within, here, fun i less => none_before i ?_⟩
  have listed : i ∈ before ++ k :: after := parts ▸ List.mem_range.mpr (less.trans within)
  rcases List.mem_append.mp listed with earlier | later
  · exact earlier
  · rcases List.mem_cons.mp later with rfl | beyond
    · omega
    · have := List.rel_of_pairwise_cons (List.pairwise_append.mp increasing).2.1 beyond
      omega

/-- The shortest decimal of a whole number has no fraction digits: coarser grids are tried before
that of ones, where the number itself is found. -/
theorem exponent_shortest_nonneg (positive : 0 < c) (format : IsFormat (c * unitsPerOne))
    (le : c * unitsPerOne ≤ infiniteMagnitude) :
    0 ≤ (shortest tie (c * unitsPerOne)).exponent := by
  rw [shortest, decimalPlace_mul_unitsPerOne positive]
  refine le_trans ?_ (Decimal.exponent_le_dropZeros 20 _)
  have place := digitCount_pos c
  generalize Decimal.digitCount c = count at *
  cases found : (List.range 17).findSome? fun (n : Nat) =>
      nearestOnGrid tie (c * unitsPerOne) (count - (n + 1 : Nat)) with
  | none => exact le_rfl
  | some d =>
    obtain ⟨n, _, here, coarser⟩ := exists_first_of_findSome?_range found
    have exponent := exponent_of_nearestOnGrid here
    by_contra fractional
    rw [Option.getD_some] at fractional
    have ones := coarser (count - 1) (by omega)
    rw [show (count : Int) - (count - 1 + 1 : Nat) = 0 by omega] at ones
    have found_there : (nearestOnGrid tie (c * unitsPerOne) 0).isSome = true :=
      isSome_nearestOnGrid_zero format le
    rw [ones] at found_there
    cases found_there

/-- The shortest decimal of a number has fraction digits exactly when the number is not whole. -/
theorem exponent_shortest_nonneg_iff (format : IsFormat m) (le : m ≤ infiniteMagnitude)
    (positive : 0 < m) : 0 ≤ (shortest tie m).exponent ↔ unitsPerOne ∣ m := by
  constructor
  · exact unitsPerOne_dvd_of_readsAs format (readsAs_shortest format le positive)
  · intro whole
    obtain ⟨c, m_eq⟩ := dvd_iff_exists_eq_mul_left.mp whole
    rw [m_eq] at format le positive ⊢
    exact exponent_shortest_nonneg (Nat.pos_of_mul_pos_right positive) format le

/-- What is below `2 ^ 53` is finite. -/
theorem isFinite_of_lt (small : x.magnitude < 2 ^ 53 * unitsPerOne) : x.isFinite = true := by
  rw [isFinite, decide_eq_true_eq]
  exact small.trans_le (by decide +kernel)

/-! ## Decimals -/

/-- A decimal without fraction digits is written with digits alone. -/
theorem isAsciiDigit_of_mem_positional (large : 0 ≤ d.exponent) :
    ∀ ch ∈ positional d, Text.isAsciiDigit ch = true := by
  rw [positional, if_pos large]
  exact List.forall_mem_append.mpr ⟨fun _ => Lexer.isAsciiDigit_of_mem_toDigits,
    fun _ => isAsciiDigit_of_mem_zeros⟩

/-- A decimal always has digits before the point. -/
theorem positional_ne_nil (large : 0 ≤ d.exponent) : positional d ≠ [] := by
  rw [positional, if_pos large]
  exact List.append_ne_nil_of_left_ne_nil Nat.toDigits_ne_nil _

/-- The digits of a decimal without fraction digits are those of its value. -/
theorem digitsValue_positional (large : 0 ≤ d.exponent) :
    Lexer.digitsValue (positional d) = d.significand * 10 ^ d.exponent.toNat := by
  rw [positional, if_pos large]
  exact (digitsValue_append_zeros _ _).trans
    (congrArg (· * 10 ^ d.exponent.toNat) (Lexer.digitsValue_toDigits _))

/-- A decimal with fraction digits is written with a point that stands before as many digits. -/
theorem exists_positional_fraction (small : d.exponent < 0) :
    ∃ whole fraction, positional d = whole ++ '.' :: fraction ∧ whole ≠ [] ∧
      (∀ c ∈ whole ++ fraction, Text.isAsciiDigit c = true) ∧
      Lexer.digitsValue (whole ++ fraction) = d.significand ∧
      -(fraction.length : Int) = d.exponent := by
  have all_digits : ∀ c ∈ digits d.significand, Text.isAsciiDigit c = true :=
    fun _ => Lexer.isAsciiDigit_of_mem_toDigits
  have value : Lexer.digitsValue (digits d.significand) = d.significand :=
    Lexer.digitsValue_toDigits _
  simp only [positional, if_neg (Int.not_le.mpr small)]
  generalize digits d.significand = written at *
  split
  · refine ⟨_, _, rfl, ?_, ?_, ?_, ?_⟩
    · rw [ne_eq, List.take_eq_nil_iff, ← List.length_eq_zero_iff]
      omega
    · rwa [List.take_append_drop]
    · rwa [List.take_append_drop]
    · rw [List.length_drop]
      omega
  · refine ⟨['0'], zeros _ ++ written, rfl, List.cons_ne_nil _ _, ?_, ?_, ?_⟩
    · exact List.forall_mem_append.mpr ⟨List.forall_mem_singleton.mpr (by decide),
        List.forall_mem_append.mpr ⟨fun _ => isAsciiDigit_of_mem_zeros, all_digits⟩⟩
    · rw [← value]
      exact digitsValue_zeros_append (_ + 1) written
    · rw [List.length_append, zeros, List.length_replicate]
      omega

/-- A finite number other than zero is written with its shortest decimal. -/
theorem display_of_finite (nonzero : x.magnitude ≠ 0) (finite : x.isFinite = true) :
    x.display = String.ofList (Lexer.sign x.negative ++ positional (shortest .away x.magnitude)) := by
  rw [display, if_neg nonzero, if_pos finite]
  rfl

/-- A finite number is written with a decimal that reads back, and that has fraction digits exactly
when the number is not whole. -/
theorem exists_display (format : IsFormat x.magnitude) (finite : x.isFinite = true) :
    ∃ d : Decimal, d.readsAs x.magnitude = true ∧
      (0 ≤ d.exponent ↔ unitsPerOne ∣ x.magnitude) ∧
      x.display = String.ofList (Lexer.sign x.negative ++ positional d) := by
  by_cases zero : x.magnitude = 0
  · refine ⟨⟨0, 0⟩, ?_, ?_, ?_⟩
    · rw [Decimal.readsAs, magnitude_ofDecimal, Nat.zero_mul, roundMagnitude_zero, zero,
        beq_self_eq_true]
    · exact iff_of_true le_rfl (zero ▸ Nat.dvd_zero _)
    · rw [display, signText, if_pos zero]
      rfl
  · have le := (of_decide_eq_true finite).le
    have positive := Nat.pos_of_ne_zero zero
    exact ⟨_, readsAs_shortest format le positive, exponent_shortest_nonneg_iff format le positive,
      display_of_finite zero finite⟩

/-! ## Integers -/

/-- The text of an integer is its sign and its digits. -/
theorem toString_signedValue (negative : Bool) (positive : 0 < n) :
    toString (signedValue negative n) = String.ofList (Lexer.sign negative ++ Nat.toDigits 10 n) := by
  cases negative with
  | false => exact Nat.toString_eq_ofList_toDigits
  | true =>
    obtain ⟨m, rfl⟩ := Nat.exists_eq_succ_of_ne_zero positive.ne'
    rw [← String.toList_inj, String.toList_ofList]
    exact Lexer.toList_toString_negSucc m

/-- The digits of a number tell it from others. -/
theorem toDigits_inj : Nat.toDigits 10 m = Nat.toDigits 10 n ↔ m = n := by
  refine ⟨fun same => ?_, congrArg _⟩
  rw [← Lexer.digitsValue_toDigits m, same, Lexer.digitsValue_toDigits]

/-- The text of an integer tells it from others. -/
theorem toString_inj {m n : Int} : toString m = toString n ↔ m = n := by
  have plain {a b : Nat} : Nat.toDigits 10 a ≠ '-' :: Nat.toDigits 10 b := by
    intro same
    have digit : Text.isAsciiDigit '-' = true :=
      Lexer.isAsciiDigit_of_mem_toDigits (n := a) (same ▸ List.mem_cons_self ..)
    cases digit
  have natural (a : Nat) : (toString (Int.ofNat a)).toList = Nat.toDigits 10 a := by
    rw [← String.toList_ofList (l := Nat.toDigits 10 a), ← Nat.toString_eq_ofList_toDigits]
    rfl
  rw [← String.toList_inj]
  cases m with
  | ofNat a =>
    cases n with
    | ofNat b => rw [natural, natural, toDigits_inj, Int.ofNat.injEq]
    | negSucc b =>
      rw [natural, Lexer.toList_toString_negSucc]
      exact iff_of_false plain (by simp)
  | negSucc a =>
    cases n with
    | ofNat b =>
      rw [natural, Lexer.toList_toString_negSucc, eq_comm]
      exact iff_of_false plain (by simp)
    | negSucc b =>
      rw [Lexer.toList_toString_negSucc, Lexer.toList_toString_negSucc, List.cons_inj_right,
        toDigits_inj, Int.negSucc_inj, Nat.succ_inj]

/-- An integer is its sign and its amount. -/
theorem eq_signedValue (n : Int) : n = signedValue (decide (n < 0)) n.natAbs := by
  unfold signedValue
  by_cases negative : n < 0
  · rw [if_pos (decide_eq_true negative)]
    omega
  · rw [if_neg (by simpa using negative)]
    omega

/-- The value of a whole number is that of its magnitude with its sign. -/
theorem units_eq_of_mul_unitsPerOne (whole : n * unitsPerOne = x.magnitude) :
    x.units = signedValue x.negative n * unitsPerOne := by
  rw [units, signedValue, ← whole]
  split
  · push_cast
    exact (Int.neg_mul ..).symm
  · push_cast
    rfl

end Notation

end Double

end FederatedSearch
