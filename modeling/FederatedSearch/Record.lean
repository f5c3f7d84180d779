import FederatedSearch.Json.Printer

/-!
# Records

What a source returns: an association of keys with JSON values, without a fixed schema. Fields
are named by paths. A key that is equal to the whole path wins over the path into nested
objects, and `null` counts as absent.
-/

namespace FederatedSearch

/-- One record of a source. -/
structure Record where
  members : Json.Members
  deriving Inhabited

/-- The text of a value where a text is needed: strings as they are, nothing for `null`, and JSON
text for all else. -/
def Json.plainText : Json → String
  | .string s => s
  | .null => ""
  | value => value.compact

/-- A value, unless it is `null`. -/
def Json.present? : Json → Option Json
  | .null => none
  | value => some value

namespace Record

/-- The steps of a path: the parts between its dots. -/
def pathSteps : List Char → List (List Char)
  | [] => [[]]
  | c :: rest =>
    if c = '.' then [] :: pathSteps rest
    else match pathSteps rest with
      | step :: more => (c :: step) :: more
      | [] => [[c]]

/-- The value that further steps lead to from a value. -/
def descend (value : Json) : List (List Char) → Option Json
  | [] => some value
  | step :: more =>
    match value.member? (String.ofList step) with
    | some inner => descend inner more
    | none => none

/-- The value that a path of several steps leads to. -/
def nested? (r : Record) (path : String) : Option Json :=
  if path.toList.contains '.' then descend (.object r.members) (pathSteps path.toList) else none

/-- The value at a path, which is never `null`. -/
def lookup (r : Record) (path : String) : Option Json :=
  match (SortedMap.get? r.members path).bind Json.present? with
  | some value => some value
  | none => (r.nested? path).bind Json.present?

/-- The values that are present at some paths, under those paths as keys. -/
def copyPresent (r : Record) (paths : List String) : Json.Members :=
  SortedMap.ofList (paths.filterMap fun path => (r.lookup path).map (path, ·))

/-- The keys of a record. -/
def keys (r : Record) : List String :=
  r.members.map (·.1)

/-- The record as a JSON value. -/
def toJson (r : Record) : Json :=
  .object r.members

/-- The record that a JSON value is. -/
def ofJson? : Json → Option Record
  | .object members => some ⟨members⟩
  | _ => none

end Record

/-! ## Field paths -/

mutual

/-- The paths that lead from a prefix through a value to anything but a nonempty object. -/
def Json.leafPaths (start : String) : Json → List String
  | .object (member :: rest) => Json.memberPaths start (member :: rest)
  | _ => [start]

/-- The paths that lead from a prefix through the members of an object. -/
def Json.memberPaths (start : String) : List (String × Json) → List String
  | [] => []
  | (key, value) :: rest => value.leafPaths (start ++ "." ++ key) ++ Json.memberPaths start rest

end

/-- Puts a text into a sorted list without repetition. -/
def insertSorted (s : String) : List String → List String
  | [] => [s]
  | t :: rest =>
    if s < t then s :: t :: rest
    else if s = t then t :: rest
    else t :: insertSorted s rest

/-- The texts of a list, sorted and each once. -/
def sortedDistinct (texts : List String) : List String :=
  texts.foldl (fun sorted s => insertSorted s sorted) []

/-- The field paths of one record. -/
def Record.fieldPaths (r : Record) : List String :=
  r.members.flatMap fun (key, value) => value.leafPaths key

/-- The field paths of some records, sorted and each once. -/
def recordFields (records : List Record) : List String :=
  sortedDistinct (records.flatMap Record.fieldPaths)

end FederatedSearch
