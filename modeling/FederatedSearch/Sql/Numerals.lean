import FederatedSearch.Double.Decimal

/-!
# Real numbers as a database reads and writes them

A database keeps real numbers as doubles, but promises no more than about fifteen significant
digits when it turns text into them: which of the doubles near a decimal it takes is its own
affair, and may change from one version to the next. So the reading is left open here. Into text a
number goes with fifteen digits.
-/

namespace FederatedSearch

namespace Sql

/-- How a database reads decimals. -/
class Numerals where
  /-- The double that `significand * 10 ^ exponent` is read as, with its sign. -/
  ofDecimal : (negative : Bool) → (significand : Nat) → (exponent : Int) → Double

/-- The database that always takes the nearest double. -/
instance Numerals.nearest : Numerals where
  ofDecimal := Double.ofDecimal

/-- The decimal of fifteen significant digits that is nearest to a nonzero magnitude; of two that
are equally near the greater. -/
def fifteenDigits (magnitude : Nat) : Double.Decimal :=
  let exponent := Double.decimalPlace magnitude - 15
  let numerator := magnitude * Nat.pow 10 (-exponent).toNat
  let denominator := Double.unitsPerOne * Nat.pow 10 exponent.toNat
  Double.Decimal.dropZeros 20 ⟨(2 * numerator + denominator) / (2 * denominator), exponent⟩

/-- The text of a real number: positional with at least one fraction digit when the first digit
stands for `10 ^ (-4)` to `10 ^ 14`, and else scientific, with a fraction digit and two digits of
the exponent at least. -/
def realText (x : Double) : String :=
  String.ofList <|
    if x.magnitude = 0 then ['0', '.', '0']
    else x.signText ++
      if x.isFinite then
        let d := fifteenDigits x.magnitude
        let written := Double.digits d.significand
        let leading := d.exponent + (written.length - 1 : Nat)
        if -4 ≤ leading ∧ leading ≤ 14 then
          if 0 ≤ d.exponent then Double.positional d ++ ['.', '0'] else Double.positional d
        else
          let fraction := if written.length = 1 then ['0'] else written.drop 1
          let places := Double.digits leading.natAbs
          written.take 1 ++ '.' :: fraction ++ 'e' :: (if leading < 0 then '-' else '+') ::
            Double.zeros (2 - places.length) ++ places
      else ['I', 'n', 'f']

end Sql

end FederatedSearch
