/-!
# Integers of 64 bits

The ranges of the integers that fit into a word of 64 bits. Whole numbers of queries and of
stored values are signed ones; counts are unsigned ones.
-/

namespace FederatedSearch

namespace WordRange

/-- The least signed integer of 64 bits. -/
def least : Int := -9223372036854775808

/-- The greatest signed integer of 64 bits. -/
def greatest : Int := 9223372036854775807

/-- The greatest unsigned integer of 64 bits. -/
def greatestUnsigned : Nat := 18446744073709551615

/-- Whether an integer fits into 64 bits together with its sign. -/
def isSigned (n : Int) : Bool :=
  least ≤ n && n ≤ greatest

end WordRange

end FederatedSearch
