import FederatedSearch.Double.Decimal
import FederatedSearch.SortedMap

/-!
# JSON values

Records, filters and relations are JSON values. An object lists its members by increasing key,
each key once, so that two objects are equal exactly when their lists are. A number keeps the
kind it was written with: `1` and `1.0` are different values.
-/

namespace FederatedSearch

/-- A JSON number: an integer of 64 bits, signed or unsigned, or a double. -/
inductive Json.Number
  | integer (value : Int)
  | double (value : Double)
  deriving DecidableEq, Repr, Inhabited

/-- A JSON value. -/
inductive Json
  | null
  | bool (value : Bool)
  | number (value : Json.Number)
  | string (value : String)
  | array (items : List Json)
  | object (members : List (String × Json))
  deriving Inhabited

namespace Json

/-- The members of an object, by increasing key. -/
abbrev Members := SortedMap Json

namespace Number

/-- Equality of numbers: of one kind and of one value. -/
def equal : Number → Number → Bool
  | integer m, integer n => m == n
  | double x, double y => x.equal y
  | _, _ => false

/-- The double nearest to a number. -/
def toDouble : Number → Double
  | integer n => .ofInt n
  | double x => x

/-- The text of a number. -/
def text : Number → String
  | integer n => toString n
  | double x => x.jsonText

end Number

/-- The JSON value of a double, which is `null` for an infinite one. -/
def ofDouble (x : Double) : Json :=
  if x.isFinite then .number (.double x) else .null

/-- The JSON value of an integer. -/
def ofInt (n : Int) : Json :=
  .number (.integer n)

/-- The JSON value of a natural number. -/
def ofNat (n : Nat) : Json :=
  .number (.integer n)

/-- The JSON value of an optional one: `null` when it is absent. -/
def ofOption : Option Json → Json
  | some value => value
  | none => .null

/-- An array of strings. -/
def strings (items : List String) : Json :=
  .array (items.map .string)

mutual

/-- Equality of values. -/
def equal : Json → Json → Bool
  | .null, .null => true
  | .bool a, .bool b => a == b
  | .number a, .number b => a.equal b
  | .string a, .string b => a == b
  | .array a, .array b => equalItems a b
  | .object a, .object b => equalMembers a b
  | _, _ => false

/-- Equality of the items of two arrays. -/
def equalItems : List Json → List Json → Bool
  | [], [] => true
  | a :: as, b :: bs => equal a b && equalItems as bs
  | _, _ => false

/-- Equality of the members of two objects. -/
def equalMembers : List (String × Json) → List (String × Json) → Bool
  | [], [] => true
  | (k, a) :: as, (l, b) :: bs => k == l && equal a b && equalMembers as bs
  | _, _ => false

end

instance : BEq Json := ⟨equal⟩

/-- The object with the given members. -/
def ofMembers (members : List (String × Json)) : Json :=
  .object (SortedMap.ofList members)

/-- The value of a key in an object. -/
def member? : Json → String → Option Json
  | .object members, key => SortedMap.get? members key
  | _, _ => none

/-- The items of an array. -/
def items? : Json → Option (List Json)
  | .array items => some items
  | _ => none

/-- The text of a string. -/
def string? : Json → Option String
  | .string s => some s
  | _ => none

/-- The value of a truth value. -/
def bool? : Json → Option Bool
  | .bool b => some b
  | _ => none

/-- The value of an integer. -/
def integer? : Json → Option Int
  | .number (.integer n) => some n
  | _ => none

end Json

end FederatedSearch
