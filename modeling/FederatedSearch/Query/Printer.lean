import FederatedSearch.Query.Syntax

/-!
# Text of queries

The written form of literals, predicates and queries. A string is quoted with single quotes,
and a quote inside it is doubled.
-/

namespace FederatedSearch

namespace Literal

/-- The characters of a string between its quotes. -/
def doubleQuotes (s : List Char) : List Char :=
  s.flatMap fun c => if c = '\'' then ['\'', '\''] else [c]

mutual

/-- The written form of a literal. -/
def text : Literal → String
  | string s => "'" ++ String.ofList (doubleQuotes s.toList) ++ "'"
  | integer n => toString n
  | float x => x.display
  | bool true => "true"
  | bool false => "false"
  | column name => name
  | list items => "(" ++ itemsText items ++ ")"

/-- The written forms of the items of a list, separated by commas. -/
def itemsText : List Literal → String
  | [] => ""
  | [item] => text item
  | item :: rest => text item ++ ", " ++ itemsText rest

end

end Literal

/-- The written form of a predicate. -/
def Predicate.text : Predicate → String
  | compare field op value => field ++ " " ++ op.text ++ " " ++ value.text
  | between field low high => field ++ " BETWEEN " ++ low.text ++ " AND " ++ high.text
  | and left right => left.text ++ " AND " ++ right.text
  | or left right => left.text ++ " OR " ++ right.text
  | paren inner => "(" ++ inner.text ++ ")"

/-- The written form of a sort key. -/
def SortKey.text (key : SortKey) : String :=
  if key.descending then key.field ++ " DESC" else key.field

/-- The written form of an order, which is empty for none. -/
def orderText (keys : List SortKey) : String :=
  if keys.isEmpty then "" else " ORDER BY " ++ ", ".intercalate (keys.map SortKey.text)

/-- The written form of a query. -/
def Query.text (q : Query) : String :=
  "FROM " ++ q.source ++ " WHERE " ++ q.predicate.text ++ orderText q.orderBy ++
    " LIMIT " ++ toString q.offset ++ "," ++ toString q.rowcount

end FederatedSearch
