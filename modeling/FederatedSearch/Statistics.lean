import FederatedSearch.Json.Decode
import FederatedSearch.Record

/-!
# Statistics

What a source shows instead of relations when it finds too many: for each of some fields the
values that occur most often. Values are counted by their text; records in which a field is
absent or empty do not count for it.
-/

namespace FederatedSearch

/-- A value and how many records have it. -/
structure ValueCount where
  value : String
  count : Nat
  deriving DecidableEq, Repr, Inhabited

namespace ValueCount

/-- Whether `a` is listed no later than `b`: the more frequent value first, and of two equally
frequent ones the lesser. -/
def ranksBefore (a b : ValueCount) : Bool :=
  b.count < a.count || (a.count == b.count && a.value ≤ b.value)

/-- A count as it is shown. -/
def shown (c : ValueCount) : Json :=
  .object [("value", .string c.value), ("count", .ofNat c.count)]

/-- Reads a count. -/
def ofDraft? (d : Json.Draft) : Option ValueCount := do
  let fields ← d.fields? 2
  return {
    value := ← fields.required 0 "value" Json.Draft.string?
    count := ← fields.required 1 "count" Json.Draft.natural? }

end ValueCount

/-- The counts of the values of one field, by increasing value. -/
abbrev Tally := List ValueCount

namespace Tally

/-- Counts a value once more. -/
def add (value : String) : Tally → Tally
  | [] => [⟨value, 1⟩]
  | entry :: rest =>
    if value < entry.value then ⟨value, 1⟩ :: entry :: rest
    else if value = entry.value then ⟨value, entry.count + 1⟩ :: rest
    else entry :: add value rest

/-- How many values are listed for a field. -/
def topSize : Nat := 10

/-- The values that occur most often. -/
def top (t : Tally) : List ValueCount :=
  (t.mergeSort ValueCount.ranksBefore).take topSize

end Tally

/-- The most frequent values of one source, by increasing field. Fields without values are left
out. -/
abbrev SourceStatistics := List (String × List ValueCount)

namespace SourceStatistics

/-- The statistics of a source as they are shown. -/
def shown (s : SourceStatistics) : Json :=
  .object (s.map fun (field, entries) => (field, .array (entries.map ValueCount.shown)))

/-- Reads the statistics of a source. -/
def ofDraft? (d : Json.Draft) : Option SourceStatistics :=
  d.map? (Json.Draft.list? ValueCount.ofDraft?)

end SourceStatistics

/-- The tallies of some fields, by increasing field. -/
structure Statistics where
  tallies : List (String × Tally)
  deriving Repr, Inhabited

namespace Statistics

/-- Empty tallies for some fields. -/
def ofFields (fields : List String) : Statistics :=
  ⟨(sortedDistinct fields).map (·, [])⟩

/-- Whether any field is counted. -/
def isTracking (s : Statistics) : Bool :=
  !s.tallies.isEmpty

/-- The text by which the value of a field is counted, if it is counted at all. -/
def countedText (r : Record) (field : String) : Option String :=
  ((r.lookup field).map Json.plainText).filter (· ≠ "")

/-- Counts the values of a record. -/
def update (s : Statistics) (r : Record) : Statistics :=
  ⟨s.tallies.map fun (field, tally) =>
    match countedText r field with
    | some text => (field, tally.add text)
    | none => (field, tally)⟩

/-- The most frequent values of each field that has any. -/
def top (s : Statistics) : SourceStatistics :=
  s.tallies.filterMap fun (field, tally) =>
    if tally.isEmpty then none else some (field, tally.top)

end Statistics

end FederatedSearch
