import FederatedSearch.Proofs.Double.Positional

/-!
# Two texts of one number

Queries and JSON write a double with digits of their own. A whole number has no fraction digits in a
query and one of them, or an exponent, in JSON, so that its two texts always differ. The texts of
any other number are the same unless JSON writes it with an exponent, or takes the other one of two
equally near decimals. The text of an integer is that of the double of its value in queries, as long
as the integer is below `2 ^ 53`.
-/

namespace FederatedSearch

namespace Double

/-- The place of the first digit of a decimal, counted from that of the ones. -/
def Decimal.leading (d : Decimal) : Int :=
  d.exponent + (digitCount d.significand - 1 : Nat)

/-- JSON writes a number without an exponent, since its first digit stands for `10 ^ (-5)` to
`10 ^ 15`. -/
def IsWrittenOut (x : Double) : Prop :=
  -5 ≤ (shortest .toEven x.magnitude).leading ∧ (shortest .toEven x.magnitude).leading ≤ 15

section Texts

variable {x y : Double} {d : Decimal} {tie : TieRule} {c m : Nat}

/-! ## Whole numbers -/

/-- The shortest decimal of a whole number below `2 ^ 53` is that number. -/
theorem significand_shortest_mul (positive : 0 < c) (small : c < 2 ^ 53) :
    (shortest tie (c * unitsPerOne)).significand *
      10 ^ (shortest tie (c * unitsPerOne)).exponent.toNat = c := by
  have format := isFormat_mul_unitsPerOne small.le
  have le := mul_unitsPerOne_le small.le
  refine Nat.eq_of_mul_eq_mul_right unitsPerOne_pos ?_
  exact mul_unitsPerOne_eq_of_readsAs
    (readsAs_shortest format le (Nat.mul_pos positive unitsPerOne_pos))
    (exponent_shortest_nonneg positive format le)
    (Nat.mul_lt_mul_of_pos_right small unitsPerOne_pos)

/-! ## The value of a double -/

/-- The units of a double without their sign are its magnitude. -/
theorem natAbs_units (x : Double) : x.units.natAbs = x.magnitude := by
  unfold units
  split <;> omega

/-- But for zero, a double is known by its value. -/
theorem eq_of_units_eq (nonzero : x.magnitude ≠ 0) (same : y.units = x.units) : y = x := by
  have magnitudes : y.magnitude = x.magnitude := by rw [← natAbs_units, same, natAbs_units]
  cases x with
  | mk negative magnitude =>
    cases y with
    | mk negative' magnitude' =>
      dsimp only at nonzero magnitudes
      unfold units at same
      cases negative <;> cases negative' <;> simp at same ⊢ <;> omega

/-! ## The characters of the texts -/

/-- A decimal without fraction digits is written with the digits of its value. -/
theorem positional_of_nonneg (positive : 0 < d.significand) (large : 0 ≤ d.exponent) :
    positional d = Nat.toDigits 10 (d.significand * 10 ^ d.exponent.toNat) := by
  rw [positional, if_pos large, toDigits_mul_ten_pow positive, digits]

/-- The point stands before the fraction digits. -/
theorem point_mem_positional_iff : '.' ∈ positional d ↔ d.exponent < 0 := by
  constructor
  · intro member
    by_contra large
    have := isAsciiDigit_of_mem_positional (Int.not_lt.mp large) '.' member
    cases this
  · intro small
    obtain ⟨whole, fraction, shape, _⟩ := exists_positional_fraction small
    rw [shape]
    exact List.mem_append_right _ (List.mem_cons_self ..)

/-- No exponent is written. -/
theorem mark_not_mem_positional : 'e' ∉ positional d := by
  intro member
  by_cases large : 0 ≤ d.exponent
  · have := isAsciiDigit_of_mem_positional large 'e' member
    cases this
  · obtain ⟨whole, fraction, shape, _, digits, _⟩ :=
      exists_positional_fraction (Int.lt_of_not_ge large)
    rw [shape, List.mem_append, List.mem_cons] at member
    obtain before | point | behind := member
    · cases digits 'e' (List.mem_append_left _ before)
    · cases point
    · cases digits 'e' (List.mem_append_right _ behind)

/-- Fraction digits and the digits before them tell decimals apart. -/
theorem positional_inj {d' : Decimal} (small : d.exponent < 0) (small' : d'.exponent < 0) :
    positional d = positional d' ↔ d = d' := by
  refine ⟨fun same => ?_, congrArg positional⟩
  obtain ⟨whole, fraction, shape, _, digits, value, places⟩ :=
    exists_positional_fraction small
  obtain ⟨whole', fraction', shape', _, digits', value', places'⟩ :=
    exists_positional_fraction small'
  have before {w f : List Char} (digits : ∀ ch ∈ w ++ f, Text.isAsciiDigit ch = true) :
      (w ++ '.' :: f).takeWhile Text.isAsciiDigit = w := by
    rw [List.takeWhile_append_of_pos (List.forall_mem_append.mp digits).1, List.takeWhile_cons]
    exact List.append_nil w
  rw [shape, shape'] at same
  obtain rfl : whole = whole' := by rw [← before digits, same, before digits']
  obtain rfl : fraction = fraction' := (List.cons.inj (List.append_cancel_left same)).2
  cases d
  cases d'
  exact Decimal.mk.injEq .. ▸ ⟨value.symm.trans value', places.symm.trans places'⟩

/-- JSON writes with an exponent what it does not write out. -/
theorem mark_mem_jsonText (nonzero : x.magnitude ≠ 0) (short : ¬ x.IsWrittenOut) :
    'e' ∈ x.jsonText.toList := by
  unfold IsWrittenOut Decimal.leading at short
  rw [jsonText, String.toList_ofList, if_neg nonzero]
  simp only [if_neg short, scientific, List.mem_append, List.mem_cons, true_or, or_true]

/-- JSON writes out a number with fraction digits as queries do. -/
theorem jsonText_of_isWrittenOut (nonzero : x.magnitude ≠ 0) (out : x.IsWrittenOut)
    (small : (shortest .toEven x.magnitude).exponent < 0) :
    x.jsonText = String.ofList (x.signText ++ positional (shortest .toEven x.magnitude)) := by
  unfold IsWrittenOut Decimal.leading at out
  rw [jsonText, if_neg nonzero]
  simp only [if_pos out, if_neg (Int.not_le.mpr small)]

/-- JSON writes each number with a point or an exponent. -/
theorem point_or_mark_mem_jsonText (x : Double) :
    '.' ∈ x.jsonText.toList ∨ 'e' ∈ x.jsonText.toList := by
  by_cases zero : x.magnitude = 0
  · rw [jsonText, String.toList_ofList, if_pos zero]
    exact .inl (List.mem_append_right _ (by decide))
  · by_cases out : x.IsWrittenOut
    · by_cases small : (shortest .toEven x.magnitude).exponent < 0
      · rw [jsonText_of_isWrittenOut zero out small, String.toList_ofList]
        exact .inl (List.mem_append_right _ (point_mem_positional_iff.mpr small))
      · unfold IsWrittenOut Decimal.leading at out
        rw [jsonText, String.toList_ofList, if_neg zero]
        simp only [if_pos out, if_pos (Int.not_lt.mp small)]
        exact .inl (List.mem_append_right _ (List.mem_append_right _ (List.mem_cons_self ..)))
    · exact .inr (mark_mem_jsonText zero out)

/-! ## Texts of whole numbers -/

/-- A text of digits, perhaps with a sign before them. -/
def IsWholeText (text : String) : Prop :=
  ∀ ch ∈ text.toList, Text.isAsciiDigit ch = true ∨ ch = '-'

/-- Digits with or without a minus sign are the text of a whole number. -/
theorem isWholeText_sign (negative : Bool) {body : List Char}
    (digits : ∀ ch ∈ body, Text.isAsciiDigit ch = true) :
    IsWholeText (String.ofList (Lexer.sign negative ++ body)) := by
  intro ch member
  rw [String.toList_ofList] at member
  obtain sign | digit := List.mem_append.mp member
  · cases negative with
    | true => exact .inr (List.mem_singleton.mp sign)
    | false => cases sign
  · exact .inl (digits ch digit)

/-- An integer is printed as a whole number. -/
theorem isWholeText_toString (n : Int) : IsWholeText (toString n) := by
  obtain rfl | nonzero := eq_or_ne n 0
  · exact isWholeText_sign false (List.forall_mem_singleton.mpr (by decide))
  · rw [eq_signedValue n,
      toString_signedValue (decide (n < 0)) (Int.natAbs_pos.mpr nonzero)]
    exact isWholeText_sign _ fun _ => Lexer.isAsciiDigit_of_mem_toDigits

/-- JSON writes no number like a whole one. -/
theorem not_isWholeText_jsonText (x : Double) : ¬ IsWholeText x.jsonText := by
  intro plain
  obtain point | mark := point_or_mark_mem_jsonText x
  · obtain digit | sign := plain '.' point
    · cases digit
    · cases sign
  · obtain digit | sign := plain 'e' mark
    · cases digit
    · cases sign

/-- Queries write a whole number like an integer. -/
theorem isWholeText_display (format : IsFormat x.magnitude) (finite : x.isFinite = true)
    (whole : unitsPerOne ∣ x.magnitude) : IsWholeText x.display := by
  by_cases zero : x.magnitude = 0
  · rw [display, if_pos zero]
    exact isWholeText_sign x.negative (List.forall_mem_singleton.mpr (by decide))
  · have large : 0 ≤ (shortest .away x.magnitude).exponent :=
      (exponent_shortest_nonneg_iff format (of_decide_eq_true finite).le
        (Nat.pos_of_ne_zero zero)).mpr whole
    rw [display_of_finite zero finite]
    exact isWholeText_sign x.negative (isAsciiDigit_of_mem_positional large)

/-! ## Texts of integers -/

/-- Integers of at most 53 bits become doubles exactly. -/
theorem magnitude_ofInt_of_le {n : Int} (small : n.natAbs ≤ 2 ^ 53) :
    (ofInt n).magnitude = n.natAbs * unitsPerOne :=
  roundMagnitude_self (isFormat_mul_unitsPerOne small) (mul_unitsPerOne_le small)

/-- An integer from `2 ^ 53` on is rounded to a double from there on. -/
theorem two_pow_le_magnitude_ofInt {n : Int} (large : 2 ^ 53 ≤ n.natAbs) :
    2 ^ 53 * unitsPerOne ≤ (ofInt n).magnitude := by
  have finite := mul_unitsPerOne_le (c := 2 ^ 53) le_rfl
  have le := Nat.mul_le_mul_right unitsPerOne large
  rw [unitsPerOne_eq, ← pow_add] at finite le ⊢
  rw [ofInt, ofRatio, unitsPerOne_eq]
  exact two_pow_le_roundMagnitude le finite

/-- An integer that is not zero becomes a double that is not zero. -/
theorem magnitude_ofInt_pos {n : Int} (nonzero : n ≠ 0) : 0 < (ofInt n).magnitude := by
  have some_units := unitsPerOne_pos
  by_cases small : n.natAbs ≤ 2 ^ 53
  · rw [magnitude_ofInt_of_le small]
    exact Nat.mul_pos (Int.natAbs_pos.mpr nonzero) some_units
  · have := two_pow_le_magnitude_ofInt (Nat.le_of_not_le small)
    omega

/-- The double that is nearest to an integer is whole. -/
theorem unitsPerOne_dvd_magnitude_ofInt {n : Int} (format : IsFormat (ofInt n).magnitude) :
    unitsPerOne ∣ (ofInt n).magnitude := by
  by_cases small : n.natAbs ≤ 2 ^ 53
  · rw [magnitude_ofInt_of_le small]
    exact Nat.dvd_mul_left ..
  · exact format.unitsPerOne_dvd (two_pow_le_magnitude_ofInt (Nat.le_of_not_le small))

/-- Queries write the double that is nearest to an integer like the integer exactly when its
shortest decimal is that integer. -/
theorem display_ofInt_eq_iff {n : Int} (nonzero : n ≠ 0) (format : IsFormat (ofInt n).magnitude)
    (finite : (ofInt n).isFinite = true) :
    (ofInt n).display = toString n ↔ (shortest .away (ofInt n).magnitude).significand *
      10 ^ (shortest .away (ofInt n).magnitude).exponent.toNat = n.natAbs := by
  have positive := magnitude_ofInt_pos nonzero
  have le := (of_decide_eq_true finite).le
  have whole : 0 ≤ (shortest .away (ofInt n).magnitude).exponent :=
    (exponent_shortest_nonneg_iff format le positive).mpr (unitsPerOne_dvd_magnitude_ofInt format)
  have digit : 0 < (shortest .away (ofInt n).magnitude).significand := by
    refine Nat.pos_of_ne_zero fun zero => positive.ne' ?_
    have reads : (shortest .away (ofInt n).magnitude).readsAs (ofInt n).magnitude = true :=
      readsAs_shortest format le positive
    rw [Decimal.readsAs, beq_iff_eq, magnitude_ofDecimal, zero, Nat.zero_mul] at reads
    exact reads.symm.trans (roundMagnitude_zero _)
  have sign : (ofInt n).negative = decide (n < 0) := rfl
  have text : toString n =
      String.ofList (Lexer.sign (decide (n < 0)) ++ Nat.toDigits 10 n.natAbs) := by
    rw [← toString_signedValue _ (Int.natAbs_pos.mpr nonzero), ← eq_signedValue]
  rw [display_of_finite positive.ne' finite, positional_of_nonneg digit whole, sign, text,
    String.ofList_inj, List.append_cancel_left_eq, toDigits_inj]

/-- Queries write a double like an integer of its value always below `2 ^ 53`, but for a zero with a
sign, and from there on when the shortest decimal of the double is that integer. -/
theorem display_eq_toString_iff {n : Int} (format : IsFormat x.magnitude)
    (finite : x.isFinite = true) (same : (ofInt n).units = x.units) :
    x.display = toString n ↔ (n = 0 → x.negative = false) ∧
      (2 ^ 53 ≤ n.natAbs → (shortest .away x.magnitude).significand *
        10 ^ (shortest .away x.magnitude).exponent.toNat = n.natAbs) := by
  have magnitudes : (ofInt n).magnitude = x.magnitude := by
    rw [← natAbs_units, same, natAbs_units]
  obtain rfl | nonzero := eq_or_ne n 0
  · have zero : x.magnitude = 0 := by
      rw [← magnitudes, magnitude_ofInt_of_le (by decide), Int.natAbs_zero, Nat.zero_mul]
    rw [display, if_pos zero, signText, and_iff_left (by intro large; cases large)]
    cases sign : x.negative with
    | false => exact iff_of_true rfl fun _ => rfl
    | true => exact iff_of_false (by decide) fun unsigned => Bool.noConfusion (unsigned rfl)
  · obtain rfl : ofInt n = x := by
      refine eq_of_units_eq ?_ same
      rw [← magnitudes]
      exact (magnitude_ofInt_pos nonzero).ne'
    rw [display_ofInt_eq_iff nonzero format finite, and_iff_right fun zero => absurd zero nonzero]
    refine ⟨fun exactly _ => exactly, fun exactly => ?_⟩
    by_cases large : 2 ^ 53 ≤ n.natAbs
    · exact exactly large
    · rw [magnitude_ofInt_of_le (Nat.le_of_not_le large)]
      exact significand_shortest_mul (Int.natAbs_pos.mpr nonzero) (Nat.lt_of_not_le large)

/-! ## Both texts -/

/-- A double has one text in queries and in JSON exactly when it is no whole number, is written
without an exponent, and has but one nearest decimal. -/
theorem jsonText_eq_display_iff (format : IsFormat x.magnitude) (finite : x.isFinite = true)
    (same : y.units = x.units) : y.jsonText = x.display ↔
      ¬ unitsPerOne ∣ x.magnitude ∧ x.IsWrittenOut ∧
        shortest .toEven x.magnitude = shortest .away x.magnitude := by
  by_cases whole : unitsPerOne ∣ x.magnitude
  · refine iff_of_false (fun texts => ?_) fun condition => condition.1 whole
    exact not_isWholeText_jsonText y (texts ▸ isWholeText_display format finite whole)
  have nonzero : x.magnitude ≠ 0 := by
    intro zero
    rw [zero] at whole
    exact whole (Nat.dvd_zero _)
  obtain rfl := eq_of_units_eq nonzero same
  have fractional (tie : TieRule) : (shortest tie y.magnitude).exponent < 0 := by
    rw [← Int.not_le, exponent_shortest_nonneg_iff format (of_decide_eq_true finite).le
      (Nat.pos_of_ne_zero nonzero)]
    exact whole
  rw [and_iff_right whole, display_of_finite nonzero finite]
  by_cases out : y.IsWrittenOut
  · rw [and_iff_right out, jsonText_of_isWrittenOut nonzero out (fractional .toEven),
      String.ofList_inj, ← positional_inj (fractional .toEven) (fractional .away)]
    exact iff_of_eq (List.append_cancel_left_eq (Lexer.sign y.negative) _ _)
  · refine iff_of_false (fun texts => ?_) fun condition => out condition.1
    have mark := mark_mem_jsonText nonzero out
    rw [texts, String.toList_ofList, List.mem_append] at mark
    obtain sign | digits := mark
    · cases sign_eq : y.negative with
      | false => simp [Lexer.sign, sign_eq] at sign
      | true => simp [Lexer.sign, sign_eq] at sign
    · exact mark_not_mem_positional digits

end Texts

end Double

end FederatedSearch
