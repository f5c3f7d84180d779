import FederatedSearch.Record
import FederatedSearch.Scalar

/-!
# Stores that are asked for one value

Some sources can only be asked for the records with one value of one field. A query for such a
source is a single equality, and the store finds records by the text of their value.
-/

namespace FederatedSearch

namespace Lookup

/-- The text by which a scalar is looked up. -/
def scalarText : Scalar → String
  | .string s => s
  | .integer n => toString n
  | .float x => x.display
  | .bool true => "true"
  | .bool false => "false"

/-- The text by which a literal is looked up. -/
def literalText (value : Literal) : Except CompileError String :=
  match value.scalar with
  | .ok s => .ok (scalarText s)
  | .error _ => .error (.lookupValue value)

/-- The text that a store for `field` has to be asked for. -/
def compile (field : String) : Predicate → Except CompileError String
  | .paren inner => compile field inner
  | .compare name .eq value =>
    if name = field then literalText value else .error (.lookupField name field)
  | .compare _ op _ => .error (.lookupOperator op field)
  | _ => .error (.lookupShape field)

/-- A store whose records are found by the text of one field. -/
structure Store where
  field : String
  entries : List (String × Record)
  deriving Inhabited

namespace Store

/-- The store of some records. Records without the field cannot be found and are dropped. -/
def ofRecords (field : String) (records : List Record) : Store :=
  ⟨field, records.filterMap fun r => (r.lookup field).map fun value => (value.plainText, r)⟩

/-- The records that are found by a text, in their order. -/
def find (s : Store) (value : String) : List Record :=
  s.entries.filterMap fun (key, r) => if key = value then some r else none

/-- The records that can be found. -/
def records (s : Store) : List Record :=
  s.entries.map (·.2)

end Store

end Lookup

end FederatedSearch
