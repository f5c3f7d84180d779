/-!
# Ranges of code points

A class of characters is given by the ranges of code points that it covers.
-/

namespace FederatedSearch.Text

/-- All code points from `first` to `last`, both included. -/
structure CodeRange where
  first : Nat
  last : Nat

namespace CodeRange

/-- Membership of a character in a range. -/
def contains (range : CodeRange) (c : Char) : Bool :=
  range.first ≤ c.toNat && c.toNat ≤ range.last

/-- Membership of a character in one of several ranges. -/
def covers (ranges : List CodeRange) (c : Char) : Bool :=
  ranges.any (·.contains c)

/-- A character is covered exactly when some range contains it. -/
theorem covers_iff {ranges : List CodeRange} {c : Char} :
    covers ranges c = true ↔ ∃ range ∈ ranges, range.first ≤ c.toNat ∧ c.toNat ≤ range.last := by
  simp [covers, contains]

end CodeRange

end FederatedSearch.Text
