import FederatedSearch.Proofs.Double.Positional
import FederatedSearch.Sql.Table

/-!
# Real numbers in statements

A statement writes a real number with its shortest digits and without a fraction where it has none.
What has no fraction is read as an integer if it fits into 64 bits, and all else as the database
reads decimals. So the value survives (`Keeps`) when these digits, which only have to tell the
number from other doubles, are those of the number, or when they are read as a decimal and the
database reads it as the double that was meant. Whole numbers below `2 ^ 53` survive in any database
(`keeps_of_whole`), and all numbers below it where the nearest double is taken (`nearest_keeps`).
-/

namespace FederatedSearch

namespace Sql

/-- A real number is read from its text as a number of the same value. -/
def Keeps [Numerals] (x : Double) : Prop :=
  (Cell.ofScalar (.float x)).units? = some x.units

instance [Numerals] (x : Double) : Decidable (Keeps x) :=
  inferInstanceAs (Decidable ((Cell.ofScalar (.float x)).units? = some x.units))

namespace Cell

section Reading

variable {body whole fraction : List Char} {negative : Bool}

/-- Digits are no blanks. -/
theorem isBlank_of_isAsciiDigit {c : Char} (digit : Text.isAsciiDigit c = true) :
    isBlank c = false := by
  simp only [Text.isAsciiDigit, Bool.and_eq_true, decide_eq_true_eq, Char.le_def] at digit
  have least : 48 ≤ c.toNat := digit.1
  have space : c ≠ ' ' := by
    rintro rfl
    exact absurd least (by decide)
  simp only [isBlank, beq_false_of_ne space, Bool.false_or, Bool.and_eq_false_iff,
    decide_eq_false_iff_not]
  omega

/-- A text without blanks is not trimmed. -/
theorem trimBlanks_eq_self {l : List Char} (solid : ∀ c ∈ l, isBlank c = false) :
    trimBlanks l = l := by
  have kept {l : List Char} (solid : ∀ c ∈ l, isBlank c = false) : l.dropWhile isBlank = l := by
    cases l with
    | nil => rfl
    | cons c l => simp [solid c (List.mem_cons_self ..)]
  rw [trimBlanks, kept solid, kept fun c member => solid c (List.mem_reverse.mp member),
    List.reverse_reverse]

/-- A sign is split off digits. -/
theorem splitSign_of_digit (negative : Bool) (starts : body.head?.any Text.isAsciiDigit = true) :
    splitSign (Lexer.sign negative ++ body) = (negative, body) := by
  cases negative with
  | true => rfl
  | false =>
    cases body with
    | nil => rfl
    | cons c body =>
      have minus : c ≠ '-' := by
        rintro rfl
        cases starts
      have plus : c ≠ '+' := by
        rintro rfl
        cases starts
      simp [splitSign, Lexer.sign, minus, plus]

/-- Digits are read as the number they write. -/
theorem digits?_eq_some (digits : ∀ c ∈ body, Text.isAsciiDigit c = true) (nonempty : body ≠ []) :
    digits? body = some (Lexer.digitsValue body) := by
  rw [digits?, if_neg]
  · rfl
  · simpa [nonempty] using digits

variable [Numerals]

/-- The sign of a number is read apart. -/
theorem number?_sign (negative : Bool) (starts : body.head?.any Text.isAsciiDigit = true)
    (solid : ∀ c ∈ body, isBlank c = false) :
    number? (String.ofList (Lexer.sign negative ++ body)) = unsigned? negative body := by
  have blank_free : ∀ c ∈ Lexer.sign negative ++ body, isBlank c = false := by
    cases negative with
    | true => exact List.forall_mem_cons.mpr ⟨by decide, solid⟩
    | false => exact solid
  unfold number?
  rw [String.toList_ofList, trimBlanks_eq_self blank_free, splitSign_of_digit negative starts]

/-- Digits without a point are read as an integer, if it fits into 64 bits. -/
theorem number?_whole (negative : Bool) (digits : ∀ c ∈ whole, Text.isAsciiDigit c = true)
    (nonempty : whole ≠ []) :
    number? (String.ofList (Lexer.sign negative ++ whole))
      = some (if WordRange.isSigned (Double.signedValue negative (Lexer.digitsValue whole)) then
            .integer (Double.signedValue negative (Lexer.digitsValue whole))
          else .real (Numerals.ofDecimal negative (Lexer.digitsValue whole) 0)) := by
  have starts := Lexer.any_head?_append digits nonempty []
  rw [List.append_nil] at starts
  rw [number?_sign negative starts fun c member => isBlank_of_isAsciiDigit (digits c member),
    unsigned?]
  have taken : whole.takeWhile Text.isAsciiDigit = whole := List.takeWhile_eq_self_iff.mpr digits
  have after : whole.dropWhile Text.isAsciiDigit = [] := List.dropWhile_eq_nil_iff.mpr digits
  simp only [taken, after, digits?_eq_some digits nonempty, Option.map_some]

/-- Digits with a point among them are read as a real number. -/
theorem number?_fraction (negative : Bool)
    (digits : ∀ c ∈ whole ++ fraction, Text.isAsciiDigit c = true) (nonempty : whole ≠ []) :
    number? (String.ofList (Lexer.sign negative ++ (whole ++ '.' :: fraction)))
      = some (.real (Numerals.ofDecimal negative (Lexer.digitsValue (whole ++ fraction))
          (-(fraction.length : Int)))) := by
  obtain ⟨left, right⟩ := List.forall_mem_append.mp digits
  have starts := Lexer.any_head?_append left nonempty ('.' :: fraction)
  have solid : ∀ c ∈ whole ++ '.' :: fraction, isBlank c = false :=
    List.forall_mem_append.mpr ⟨fun c member => isBlank_of_isAsciiDigit (left c member),
      List.forall_mem_cons.mpr
        ⟨by decide, fun c member => isBlank_of_isAsciiDigit (right c member)⟩⟩
  rw [number?_sign negative starts solid, unsigned?, List.takeWhile_append_of_pos left,
    List.dropWhile_append_of_pos left]
  have point : Text.isAsciiDigit '.' = false := by decide
  have taken : fraction.takeWhile Text.isAsciiDigit = fraction :=
    List.takeWhile_eq_self_iff.mpr right
  have after : fraction.dropWhile Text.isAsciiDigit = [] := List.dropWhile_eq_nil_iff.mpr right
  simp only [List.takeWhile_cons, List.dropWhile_cons, point, Bool.false_eq_true, if_false,
    List.append_nil, if_true, taken, after,
    digits?_eq_some digits (List.append_ne_nil_of_left_ne_nil nonempty _), Option.bind_some,
    exponent?, Option.map_some, Int.zero_sub]

/-- A decimal without fraction digits is read as an integer, if it fits into 64 bits. -/
theorem number?_positional_whole (negative : Bool) {d : Double.Decimal} (large : 0 ≤ d.exponent) :
    number? (String.ofList (Lexer.sign negative ++ Double.positional d))
      = some (if WordRange.isSigned
            (Double.signedValue negative (d.significand * 10 ^ d.exponent.toNat)) then
            .integer (Double.signedValue negative (d.significand * 10 ^ d.exponent.toNat))
          else .real
            (Numerals.ofDecimal negative (d.significand * 10 ^ d.exponent.toNat) 0)) := by
  rw [number?_whole negative (Double.isAsciiDigit_of_mem_positional large)
    (Double.positional_ne_nil large), Double.digitsValue_positional large]

/-- A decimal with fraction digits is read as the double that the database takes for it. -/
theorem number?_positional_fraction (negative : Bool) {d : Double.Decimal}
    (small : d.exponent < 0) :
    number? (String.ofList (Lexer.sign negative ++ Double.positional d))
      = some (.real (Numerals.ofDecimal negative d.significand d.exponent)) := by
  obtain ⟨whole, fraction, shape, nonempty, digits, value, places⟩ :=
    Double.exists_positional_fraction small
  rw [shape, number?_fraction negative digits nonempty, value, places]

/-- What is read from a text is a number. -/
theorem exists_units?_of_number? {s : String} {cell : Cell} (read : number? s = some cell) :
    ∃ n, cell.units? = some n := by
  unfold number? unsigned? at read
  dsimp only at read
  split at read
  · obtain ⟨n, _, rfl⟩ := Option.map_eq_some_iff.mp read
    split
    · exact ⟨_, rfl⟩
    · exact ⟨_, rfl⟩
  · obtain ⟨n, _, rest⟩ := Option.bind_eq_some_iff.mp read
    obtain ⟨e, _, rfl⟩ := Option.map_eq_some_iff.mp rest
    exact ⟨_, rfl⟩

/-- A real number in a statement is a number, though maybe another one. -/
theorem exists_units?_ofScalar_float (x : Double) :
    ∃ n, (ofScalar (.float x)).units? = some n := by
  cases read : number? x.display with
  | none => exact ⟨x.units, by rw [ofScalar, read]; rfl⟩
  | some cell =>
    rw [ofScalar, read]
    exact exists_units?_of_number? read

end Reading

end Cell

section Keeping

variable {x : Double}

/-- A number below `2 ^ 53` is kept if the database reads its text, where this has fraction digits,
as the double that was meant. -/
theorem keeps_of_display [Numerals] {d : Double.Decimal} (reads : d.readsAs x.magnitude = true)
    (text : x.display = String.ofList (Lexer.sign x.negative ++ Double.positional d))
    (small : x.magnitude < 2 ^ 53 * Double.unitsPerOne)
    (exactly : d.exponent < 0 → Numerals.ofDecimal x.negative d.significand d.exponent = x) :
    Keeps x := by
  rw [Keeps, Cell.ofScalar, text]
  by_cases large : 0 ≤ d.exponent
  · have value := Double.mul_unitsPerOne_eq_of_readsAs reads large small
    rw [Cell.number?_positional_whole x.negative large]
    generalize d.significand * 10 ^ d.exponent.toNat = n at value
    have below : n < 2 ^ 53 := Nat.lt_of_mul_lt_mul_right (value.trans_lt small)
    have fits : WordRange.isSigned (Double.signedValue x.negative n) = true := by
      rw [WordRange.isSigned, WordRange.least, WordRange.greatest, Double.signedValue]
      split <;> simp only [Bool.and_eq_true, decide_eq_true_eq] <;> omega
    rw [if_pos fits, Double.units_eq_of_mul_unitsPerOne value]
    rfl
  · have fraction := Int.lt_of_not_ge large
    rw [Cell.number?_positional_fraction x.negative fraction, exactly fraction]
    rfl

/-- Every database keeps whole numbers below `2 ^ 53`. -/
theorem keeps_of_whole [Numerals] (format : Double.IsFormat x.magnitude)
    (small : x.magnitude < 2 ^ 53 * Double.unitsPerOne)
    (whole : Double.unitsPerOne ∣ x.magnitude) : Keeps x := by
  obtain ⟨d, reads, fractional, text⟩ :=
    Double.exists_display format (Double.isFinite_of_lt small)
  refine keeps_of_display reads text small fun fraction => ?_
  exact absurd (fractional.mpr whole) (Int.not_le.mpr fraction)

/-- A database that takes the nearest double keeps all numbers below `2 ^ 53`. -/
theorem nearest_keeps (format : Double.IsFormat x.magnitude)
    (small : x.magnitude < 2 ^ 53 * Double.unitsPerOne) : @Keeps Numerals.nearest x := by
  obtain ⟨d, reads, _, text⟩ := Double.exists_display format (Double.isFinite_of_lt small)
  exact keeps_of_display reads text small fun _ => Double.ofDecimal_eq_of_readsAs reads

end Keeping

end Sql

end FederatedSearch
