import FederatedSearch.Double.Basic

/-!
# Decimal text of doubles

A finite double is written with the fewest decimal digits that read back as the same number
and, among those, with the digits nearest to it. Two layouts share these digits: the positional
one of queries and statements, and the one of JSON text, which turns to an exponent for very
large and very small numbers.
-/

namespace FederatedSearch

namespace Double

/-- Which of two equally near decimals is taken. -/
inductive TieRule
  | toEven
  | away

/-- A decimal number without sign: `significand * 10 ^ exponent`. -/
structure Decimal where
  significand : Nat
  exponent : Int
  deriving DecidableEq, Repr

namespace Decimal

/-- How many decimal digits a number has. -/
def digitCount (n : Nat) : Nat :=
  (Nat.toDigits 10 n).length

/-- Moves the trailing zeros of the significand into the exponent. -/
def dropZeros (fuel : Nat) (d : Decimal) : Decimal :=
  match fuel with
  | 0 => d
  | fuel + 1 =>
    if d.significand ≠ 0 ∧ d.significand % 10 = 0 then
      dropZeros fuel ⟨d.significand / 10, d.exponent + 1⟩
    else d

/-- Whether the decimal is read as the finite double of the given magnitude. -/
def readsAs (d : Decimal) (magnitude : Nat) : Bool :=
  (ofDecimal false d.significand d.exponent).magnitude == magnitude

end Decimal

/-- The place of the first digit: the least `k` with `value < 10 ^ k`, for a nonzero magnitude. -/
def decimalPlace (magnitude : Nat) : Int :=
  (Decimal.digitCount (magnitude * Nat.pow 10 330 / unitsPerOne) : Int) - 330

/-- The decimal with steps of `10 ^ exponent` that is nearest to the value among its two
neighbours on that grid that read back, if any does. -/
def nearestOnGrid (tie : TieRule) (magnitude : Nat) (exponent : Int) : Option Decimal :=
  let numerator := magnitude * Nat.pow 10 (-exponent).toNat
  let denominator := unitsPerOne * Nat.pow 10 exponent.toNat
  let below : Decimal := ⟨numerator / denominator, exponent⟩
  let above : Decimal := ⟨numerator / denominator + 1, exponent⟩
  let twiceRest := 2 * (numerator % denominator)
  match below.readsAs magnitude, above.readsAs magnitude with
  | true, false => some below
  | false, true => some above
  | false, false => none
  | true, true =>
    if twiceRest < denominator then some below
    else if denominator < twiceRest then some above
    else match tie with
      | .away => some above
      | .toEven => some (if below.significand % 2 = 0 then below else above)

/-- The decimal with the fewest digits that reads back as the nonzero finite magnitude. -/
def shortest (tie : TieRule) (magnitude : Nat) : Decimal :=
  let place := decimalPlace magnitude
  let found := (List.range 17).findSome? fun (n : Nat) =>
    nearestOnGrid tie magnitude (place - (n + 1 : Nat))
  (found.getD ⟨0, 0⟩).dropZeros 20

/-- The digits of a number. -/
def digits (n : Nat) : List Char :=
  Nat.toDigits 10 n

/-- `count` zeros. -/
def zeros (count : Nat) : List Char :=
  List.replicate count '0'

/-- Positional notation of a decimal. A whole number has no fraction. -/
def positional (d : Decimal) : List Char :=
  let written := digits d.significand
  if 0 ≤ d.exponent then written ++ zeros d.exponent.toNat
  else
    let places := (-d.exponent).toNat
    if places < written.length then
      written.take (written.length - places) ++ '.' :: written.drop (written.length - places)
    else '0' :: '.' :: zeros (places - written.length) ++ written

/-- Scientific notation of a decimal: one digit, the fraction if there is one, and the signed
exponent. -/
def scientific (d : Decimal) : List Char :=
  let written := digits d.significand
  let exponent := d.exponent + (written.length - 1 : Nat)
  let fraction := match written.drop 1 with
    | [] => []
    | more => '.' :: more
  written.take 1 ++ fraction ++ 'e' :: (if exponent < 0 then '-' else '+') :: digits exponent.natAbs

/-- A whole number with its sign. -/
def signedValue (negative : Bool) (n : Nat) : Int :=
  if negative then -(n : Int) else n

/-- The sign as it is written before a number. -/
def signText (x : Double) : List Char :=
  if x.negative then ['-'] else []

/-- The text of a number in queries, statements and messages: positional, and `inf` for what is
too large. -/
def display (x : Double) : String :=
  String.ofList <| x.signText ++
    if x.magnitude = 0 then ['0']
    else if x.isFinite then positional (shortest .away x.magnitude)
    else ['i', 'n', 'f']

/-- The text of a finite number in JSON: positional with at least one fraction digit when the
first digit stands for `10 ^ (-5)` to `10 ^ 15`, and scientific otherwise. -/
def jsonText (x : Double) : String :=
  String.ofList <| x.signText ++
    if x.magnitude = 0 then ['0', '.', '0']
    else
      let d := shortest .toEven x.magnitude
      let leading := d.exponent + (Decimal.digitCount d.significand - 1 : Nat)
      if -5 ≤ leading ∧ leading ≤ 15 then
        if 0 ≤ d.exponent then positional d ++ ['.', '0'] else positional d
      else scientific d

end Double

end FederatedSearch
