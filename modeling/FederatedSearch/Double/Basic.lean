/-!
# Double-precision numbers

A number of the 64-bit binary floating-point format is a sign and a magnitude counted in units
of `2 ^ (-1074)`, the least positive number of the format. The magnitudes of the format are the
numbers below `2 ^ 53` and their products with powers of two up to `infiniteMagnitude`, which
stands for infinity. Comparison and rounding are then plain arithmetic of whole numbers. The
format's "not a number" is left out: no operation here yields it.
-/

namespace FederatedSearch

/-- A double-precision number by its sign and its magnitude in units of `2 ^ (-1074)`. -/
structure Double where
  negative : Bool
  magnitude : Nat
  deriving DecidableEq, Repr, Inhabited

namespace Double

/-- How many units make one. -/
def unitsPerOne : Nat := Nat.pow 2 1074

/-- The magnitude that stands for infinity: what follows the greatest finite magnitude. -/
def infiniteMagnitude : Nat := Nat.pow 2 2098

/-- Whether a number is finite. -/
def isFinite (x : Double) : Bool :=
  x.magnitude < infiniteMagnitude

/-- The number of units that a double counts, with its sign. -/
def units (x : Double) : Int :=
  if x.negative then -(x.magnitude : Int) else x.magnitude

/-- The same magnitude with the other sign. -/
def neg (x : Double) : Double :=
  ⟨!x.negative, x.magnitude⟩

instance : Neg Double := ⟨neg⟩

/-- Equality of value: the two zeros are equal. -/
def equal (x y : Double) : Bool :=
  x.units == y.units

/-- The order of values. -/
def order (x y : Double) : Ordering :=
  compare x.units y.units

/-- The distance between the doubles next to a magnitude of `floor` units or a little more. -/
def spacing (floor : Nat) : Nat :=
  Nat.pow 2 (floor.log2 - 52)

/-- The quotient of two numbers, rounded to the nearest whole number and to the even one of
two that are equally near. -/
def roundQuotient (numerator denominator : Nat) : Nat :=
  let quotient := numerator / denominator
  let rest := numerator % denominator
  if 2 * rest < denominator then quotient
  else if 2 * rest = denominator then quotient + quotient % 2
  else quotient + 1

/-- The magnitude of the format that is nearest to `numerator / denominator` units. -/
def roundMagnitude (numerator denominator : Nat) : Nat :=
  let step := spacing (numerator / denominator)
  min (roundQuotient numerator (denominator * step) * step) infiniteMagnitude

/-- The double nearest to the quotient of two numbers. -/
def ofRatio (negative : Bool) (numerator denominator : Nat) : Double :=
  ⟨negative, roundMagnitude (numerator * unitsPerOne) denominator⟩

/-- The double nearest to a natural number. -/
def ofNat (n : Nat) : Double :=
  ofRatio false n 1

/-- The double nearest to a whole number. -/
def ofInt (n : Int) : Double :=
  ofRatio (n < 0) n.natAbs 1

/-- The rounded product of two numbers. -/
def mul (x y : Double) : Double :=
  ⟨x.negative != y.negative, roundMagnitude (x.magnitude * y.magnitude) unitsPerOne⟩

/-- The rounded quotient of two numbers, of which the second is not zero. -/
def div (x y : Double) : Double :=
  ⟨x.negative != y.negative, roundMagnitude (x.magnitude * unitsPerOne) y.magnitude⟩

/-- The double nearest to `significand * 10 ^ exponent`. -/
def ofDecimal (negative : Bool) (significand : Nat) (exponent : Int) : Double :=
  if 0 ≤ exponent then ofRatio negative (significand * Nat.pow 10 exponent.toNat) 1
  else ofRatio negative significand (Nat.pow 10 (-exponent).toNat)

end Double

end FederatedSearch
