import FederatedSearch.Json.Reader

/-!
# Reading typed values

A structure is given as an object with named fields or as an array with one item for each field.
Unknown names are passed over; a field that is given twice, under one name or under two that
mean the same, makes the whole value invalid, and so do surplus items.
-/

namespace FederatedSearch

namespace Json

mutual

/-- The draft that says a value. -/
def toDraft : Json → Draft
  | .null => .null
  | .bool b => .bool b
  | .number n => .number (some n)
  | .string s => .string (some s)
  | .array items => .array (itemsToDraft items)
  | .object members => .object (membersToDraft members)

/-- The drafts that say some values. -/
def itemsToDraft : List Json → List Draft
  | [] => []
  | item :: rest => toDraft item :: itemsToDraft rest

/-- The members of a draft that say the members of an object. -/
def membersToDraft : List (String × Json) → List (Option String × Draft)
  | [] => []
  | (key, value) :: rest => (some key, toDraft value) :: membersToDraft rest

end

namespace Draft

/-! ## Simple values -/

/-- Reads a string. -/
def string? : Draft → Option String
  | .string s => s
  | _ => none

/-- Reads a truth value. -/
def bool? : Draft → Option Bool
  | .bool b => some b
  | _ => none

/-- Reads an integer from `low` up to `high`. -/
def integerIn? (low high : Int) : Draft → Option Int
  | .number (some (.integer n)) => if low ≤ n ∧ n ≤ high then some n else none
  | _ => none

/-- Reads an unsigned integer of 64 bits. -/
def natural? (d : Draft) : Option Nat :=
  (d.integerIn? 0 WordRange.greatestUnsigned).map Int.toNat

/-- Reads a signed integer of 64 bits. -/
def integer? (d : Draft) : Option Int :=
  d.integerIn? WordRange.least WordRange.greatest

/-- Reads any value. -/
def any? (d : Draft) : Option Json :=
  d.toJson? depthLimit

/-- Reads an array. -/
def list? {α : Type} (read : Draft → Option α) : Draft → Option (List α)
  | .array items => items.mapM read
  | _ => none

/-- Reads a value that may be `null`. -/
def nullable? {α : Type} (read : Draft → Option α) : Draft → Option (Option α)
  | .null => some none
  | d => (read d).map some

/-- Reads an object whose keys are data, as a list sorted by key. Of two members with one key the
later counts. -/
def map? {α : Type} (read : Draft → Option α) : Draft → Option (SortedMap α)
  | .object members => do
    let entries ← members.mapM fun (key, value) => do return (← key, ← read value)
    return SortedMap.ofList entries
  | _ => none

/-- Reads the members of an object. -/
def object? : Draft → Option Members
  | .object members => (membersToJson? depthLimit members).map SortedMap.ofList
  | _ => none

/-! ## Structures -/

/-- The fields of a structure, by name or by position. -/
inductive Fields
  | named (members : List (String × Draft))
  | positional (items : List Draft)

/-- The fields of a structure that has `count` of them. -/
def fields? (count : Nat) : Draft → Option Fields
  | .object members => do
    return .named (← members.mapM fun (key, value) => key.map (·, value))
  | .array items => if items.length ≤ count then some (.positional items) else none
  | _ => none

namespace Fields

/-- The draft of a field, if the field is given; nothing at all when it is given twice. -/
def find (fields : Fields) (position : Nat) (names : List String) : Option (Option Draft) :=
  match fields with
  | named members =>
    match members.filter fun member => names.contains member.1 with
    | [] => some none
    | [(_, value)] => some (some value)
    | _ => none
  | positional items => some items[position]?

/-- Reads a field that has to be given. -/
def required {α : Type} (fields : Fields) (position : Nat) (name : String)
    (read : Draft → Option α) : Option α := do
  match ← fields.find position [name] with
  | some d => read d
  | none => none

/-- Reads a field that has a default. Any of the names may be used for it. -/
def optional {α : Type} (fields : Fields) (position : Nat) (names : List String) (default : α)
    (read : Draft → Option α) : Option α := do
  match ← fields.find position names with
  | some d => read d
  | none => return default

end Fields

/-- Reads a choice between words, given as one of them; an object whose only member has the word
as its key, and `null` or an empty object as its value, says the same. -/
def word? {α : Type} (choices : List (String × α)) : Draft → Option α
  | .string (some s) => choices.lookup s
  | .object [(some s, .null)] => choices.lookup s
  | .object [(some s, .object [])] => choices.lookup s
  | _ => none

/-- The kind of a structure that comes in several kinds, and the structure without it. The kind
is a string under the name `tag`, or the first item. -/
def tagged? (tag : String) : Draft → Option (String × Draft)
  | .object members => do
    match members.filter fun member => member.1 == some tag with
    | [(_, kind)] =>
      return (← kind.string?, .object (members.filter fun member => member.1 != some tag))
    | _ => none
  | .array (kind :: rest) => do return (← kind.string?, .array rest)
  | _ => none

end Draft

end Json

end FederatedSearch
