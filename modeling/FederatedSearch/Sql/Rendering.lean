import FederatedSearch.Sql.Statement

/-!
# Text of SQL statements

Each dialect quotes names and strings in its own way. Within a group, an operand that is a group
of the other connective and an operand that is a range stand in parentheses, and nothing else.
-/

namespace FederatedSearch

namespace Sql

/-- The dialects of SQL that statements are written in. -/
inductive Dialect
  | postgres
  | mysql
  | sqlite
  deriving DecidableEq, Repr, Inhabited

namespace Dialect

/-- The quote around names. -/
def nameQuote : Dialect → Char
  | mysql => Char.ofNat 96
  | _ => '"'

/-- A quoted name. The quote is doubled inside it. -/
def name (d : Dialect) (s : String) : String :=
  let quote := d.nameQuote
  String.ofList <|
    quote :: s.toList.flatMap (fun c => if c = quote then [c, c] else [c]) ++ [quote]

/-- A character of a string with backslash escapes. -/
def backslashEscape (c : Char) : List Char :=
  if c = '\\' then ['\\', '\\']
  else if c = '"' then ['\\', '"']
  else if c = '\'' then ['\\', '\'']
  else if c.toNat = 0 then ['\\', '0']
  else if c.toNat = 8 then ['\\', 'b']
  else if c = '\t' then ['\\', 't']
  else if c.toNat = 26 then ['\\', 'z']
  else if c = '\n' then ['\\', 'n']
  else if c = '\r' then ['\\', 'r']
  else [c]

/-- A quoted string. -/
def string (d : Dialect) (s : String) : String :=
  match d with
  | sqlite =>
    String.ofList ('\'' :: s.toList.flatMap (fun c => if c = '\'' then [c, c] else [c]) ++ ['\''])
  | mysql => String.ofList ('\'' :: s.toList.flatMap backslashEscape ++ ['\''])
  | postgres =>
    let escaped := s.toList.flatMap backslashEscape
    let mark := if escaped.contains '\\' then ['E'] else []
    String.ofList (mark ++ '\'' :: escaped ++ ['\''])

/-- A value. -/
def scalar (d : Dialect) : Scalar → String
  | .string s => d.string s
  | .integer n => toString n
  | .float x => x.display
  | .bool true => "TRUE"
  | .bool false => "FALSE"

end Dialect

/-- A comparison as it is written. -/
def CompareOp.text : CompareOp → String
  | eq => "="
  | ne => "<>"
  | lt => "<"
  | gt => ">"
  | le => "<="
  | ge => ">="

/-- A connective as it is written between operands. -/
def separator : Connective → String
  | .and => " AND "
  | .or => " OR "

/-- Whether an operand of a group stands in parentheses. -/
def Condition.needsParens (outer : Connective) : Condition → Bool
  | group inner _ => inner != outer
  | between _ _ _ => true
  | _ => false

/-- The test for membership in a list of values; no list is empty in SQL, so membership in an
empty one is written as a test with a fixed outcome. -/
def memberText (d : Dialect) (column : String) (negated : Bool) (values : List Scalar) : String :=
  if values.isEmpty then (if negated then "1 = 1" else "1 = 2")
  else d.name column ++ (if negated then " NOT IN (" else " IN (") ++
    ", ".intercalate (values.map d.scalar) ++ ")"

mutual

/-- The text of a condition. -/
def Condition.text (d : Dialect) : Condition → String
  | .compare column op value => d.name column ++ " " ++ op.text ++ " " ++ d.scalar value
  | .member column negated values => memberText d column negated values
  | .like column negated pattern =>
    "LOWER(" ++ d.name column ++ (if negated then ") NOT LIKE " else ") LIKE ") ++ d.string pattern
  | .null column negated => d.name column ++ (if negated then " IS NOT NULL" else " IS NULL")
  | .between column low high =>
    d.name column ++ " BETWEEN " ++ d.scalar low ++ " AND " ++ d.scalar high
  | .group c operands => Condition.operandsText d c operands

/-- The texts of operands, joined by their connective. -/
def Condition.operandsText (d : Dialect) (c : Connective) : List Condition → String
  | [] => ""
  | [last] => if last.needsParens c then "(" ++ last.text d ++ ")" else last.text d
  | first :: rest =>
    (if first.needsParens c then "(" ++ first.text d ++ ")" else first.text d) ++ separator c ++
      Condition.operandsText d c rest

end

/-- The text of a sort key, always with its direction. -/
def sortKeyText (d : Dialect) (key : SortKey) : String :=
  d.name key.field ++ (if key.descending then " DESC" else " ASC")

/-- The text of a statement. -/
def Select.text (d : Dialect) (s : Select) : String :=
  "SELECT * FROM " ++ d.name s.table ++ " WHERE " ++ s.condition.text d ++
    (if s.orderBy.isEmpty then ""
      else " ORDER BY " ++ ", ".intercalate (s.orderBy.map (sortKeyText d))) ++
    " LIMIT " ++ toString s.limit ++ " OFFSET " ++ toString s.offset

end Sql

end FederatedSearch
