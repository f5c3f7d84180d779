import FederatedSearch.Record
import FederatedSearch.Sql.Numerals
import FederatedSearch.Sql.Rendering
import FederatedSearch.Text.CharClass
import FederatedSearch.Text.LetterCase
import FederatedSearch.WordRange

/-!
# Tables and what statements select from them

A database of small tables in memory. Conditions have three outcomes: a test on an absent value
is neither true nor false, and a row is selected only when its condition is true. Text compares
by bytes; `LIKE` and `LOWER` know the letter case of ASCII alone. Absent values come first in an
ascending order. How decimals are read is a parameter (`Numerals`).

Of the limits that are documented for the database, two are kept: pages are counted with 64 bits,
and expressions are at most 1000 deep. The ones on sizes are left out: 10^9 bytes in a statement or
a text, 50000 bytes in a pattern of `LIKE`, 2000 columns or sort keys.
-/

namespace FederatedSearch

namespace Sql

/-- A stored value. -/
inductive Cell
  | null
  | integer (value : Int)
  | real (value : Double)
  | text (value : String)
  deriving DecidableEq, Repr, Inhabited

/-- The kind of values that a column prefers. -/
inductive ColumnType
  | text
  | integer
  | real
  /-- No kind: every value is kept as it is. -/
  | any
  deriving DecidableEq, Repr, Inhabited

/-- A column of a table. -/
structure Column where
  name : String
  type : ColumnType
  deriving DecidableEq, Repr, Inhabited

/-- A table. Each row has one cell for each column. -/
structure Table where
  name : String
  columns : List Column
  rows : List (List Cell)
  deriving Repr, Inhabited

/-- A database. -/
structure Database where
  tables : List Table
  deriving Repr, Inhabited

/-! ## Values -/

/-- A text in lower case, as far as it is ASCII. -/
def asciiLowerText (s : String) : String :=
  String.ofList (s.toList.map Text.asciiLower)

/-- Whether two names are the same, whatever the case of their letters. -/
def sameName (a b : String) : Bool :=
  asciiLowerText a == asciiLowerText b

namespace Cell

/-- The text of a value that is not absent. -/
def asText? : Cell → Option String
  | null => none
  | integer n => some (toString n)
  | real x => some (realText x)
  | text s => some s

/-- A value as a number of units of a double, for comparing numbers of both kinds exactly. -/
def units? : Cell → Option Int
  | integer n => some (n * (Double.unitsPerOne : Int))
  | real x => some x.units
  | _ => none

/-- The value of digits, if a text consists of them. -/
def digits? (s : List Char) : Option Nat :=
  if s.isEmpty || !s.all Text.isAsciiDigit then none
  else some (s.foldl (fun n c => n * 10 + (c.toNat - 48)) 0)

/-- Whether a character may stand around a number. -/
def isBlank (c : Char) : Bool :=
  c == ' ' || 9 ≤ c.toNat && c.toNat ≤ 13

/-- A text without what may stand around a number. -/
def trimBlanks (s : List Char) : List Char :=
  ((s.dropWhile isBlank).reverse.dropWhile isBlank).reverse

/-- The sign of a text, and what stands after it. -/
def splitSign : List Char → Bool × List Char
  | '-' :: rest => (true, rest)
  | '+' :: rest => (false, rest)
  | rest => (false, rest)

/-- The exponent that a text is, if it is one. None written is zero, and far beyond the range of
doubles all are the same. -/
def exponent? : List Char → Option Int
  | [] => some 0
  | c :: rest =>
    if c = 'e' ∨ c = 'E' then
      (digits? (splitSign rest).2).map fun (n : Nat) =>
        Double.signedValue (splitSign rest).1 (min n 10000)
    else none

variable [Numerals]

/-- The number that a text is written as after its sign: digits with an optional fraction and an
optional exponent. Digits alone are an integer, if it fits into 64 bits. -/
def unsigned? (negative : Bool) (body : List Char) : Option Cell :=
  let whole := body.takeWhile Text.isAsciiDigit
  match body.dropWhile Text.isAsciiDigit with
  | [] =>
    (digits? whole).map fun (n : Nat) =>
      if WordRange.isSigned (Double.signedValue negative n) then
        .integer (Double.signedValue negative n)
      else .real (Numerals.ofDecimal negative n 0)
  | c :: rest =>
    let fraction := if c = '.' then rest.takeWhile Text.isAsciiDigit else []
    let after := if c = '.' then rest.dropWhile Text.isAsciiDigit else c :: rest
    (digits? (whole ++ fraction)).bind fun (n : Nat) =>
      (exponent? after).map fun (e : Int) =>
        .real (Numerals.ofDecimal negative n (e - (fraction.length : Int)))

/-- The number that a text is written as, if it is one. -/
def number? (s : String) : Option Cell :=
  let (negative, body) := splitSign (trimBlanks s.toList)
  unsigned? negative body

/-- A value as a column of some type compares and stores it. -/
def coerce (type : ColumnType) (cell : Cell) : Cell :=
  match type, cell with
  | .text, integer n => text (toString n)
  | .text, real x => text (realText x)
  | .integer, text s => (number? s).getD (text s)
  | .real, text s => (number? s).getD (text s)
  | _, cell => cell

/-- A value as it is put into a column. Whole numbers are stored as such in an integer column,
and as doubles in a real one. -/
def store (type : ColumnType) (cell : Cell) : Cell :=
  match type, coerce type cell with
  | .real, integer n => real (Double.ofInt n)
  | .integer, real x =>
    let n := x.units / (Double.unitsPerOne : Int)
    if n * (Double.unitsPerOne : Int) == x.units && WordRange.isSigned n then integer n
    else real x
  | _, cell => cell

/-- The value of a scalar in a statement. A real number is read from its text. -/
def ofScalar : Scalar → Cell
  | .string s => text s
  | .integer n => integer n
  | .float x => (number? x.display).getD (real x)
  | .bool b => integer (if b then 1 else 0)

/-- The place of a kind of value in an order of all values. -/
def rank : Cell → Nat
  | null => 0
  | integer _ => 1
  | real _ => 1
  | text _ => 2

/-- The order of values: absent ones, numbers, texts. -/
def order (a b : Cell) : Ordering :=
  match a, b with
  | text s, text t => compare s t
  | a, b =>
    match a.units?, b.units? with
    | some m, some n => compare m n
    | _, _ => compare a.rank b.rank

/-- The JSON value of a stored one. -/
def toJson : Cell → Json
  | null => .null
  | integer n => .ofInt n
  | real x => .ofDouble x
  | text s => .string s

end Cell

/-! ## Three outcomes -/

/-- The outcome of a test, which is `none` when it is neither true nor false. -/
abbrev Truth := Option Bool

namespace Truth

/-- Both of two outcomes. -/
def and : Truth → Truth → Truth
  | some false, _ => some false
  | _, some false => some false
  | some true, some true => some true
  | _, _ => none

/-- One of two outcomes. -/
def or : Truth → Truth → Truth
  | some true, _ => some true
  | _, some true => some true
  | some false, some false => some false
  | _, _ => none

/-- The opposite of an outcome. -/
def not (t : Truth) : Truth :=
  t.map (!·)

/-- The outcome that leaves others as they are when it is joined to them. -/
def unit : Connective → Truth
  | .and => some true
  | .or => some false

/-- Two outcomes joined by a connective. -/
def join : Connective → Truth → Truth → Truth
  | .and => and
  | .or => or

end Truth

/-! ## Patterns -/

/-- Whether a text as a whole is of the form of a pattern, in which a percent sign stands for any
characters and an underscore for one. -/
def likeMatches : List Char → List Char → Bool
  | [], text => text.isEmpty
  | '%' :: pattern, text =>
    likeMatches pattern text ||
      match text with
      | [] => false
      | _ :: rest => likeMatches ('%' :: pattern) rest
  | _ :: _, [] => false
  | p :: pattern, c :: text =>
    (p == '_' || Text.asciiLower p == Text.asciiLower c) && likeMatches pattern text
termination_by pattern text => (pattern.length, text.length)

/-! ## Conditions -/

variable [Numerals]

/-- A value in a row, with the type of its column. A name that is no column of the table stands
for itself as a text. -/
def operand (columns : List Column) (row : List Cell) (name : String) :
    Cell × Option ColumnType :=
  match (columns.zip row).find? fun entry => sameName entry.1.name name with
  | some (column, cell) => (cell, some column.type)
  | none => (.text name, none)

/-- The order of a value in a row and a scalar, unless one is absent. -/
def orderWith (operand : Cell × Option ColumnType) (value : Scalar) : Option Ordering :=
  let wanted := match operand.2 with
    | some type => (Cell.ofScalar value).coerce type
    | none => Cell.ofScalar value
  match operand.1 with
  | .null => none
  | cell => some (cell.order wanted)

/-- Whether an order satisfies a comparison. -/
def CompareOp.accepts (op : CompareOp) (o : Ordering) : Bool :=
  match op with
  | eq => o == .eq
  | ne => o != .eq
  | lt => o == .lt
  | gt => o == .gt
  | le => o != .gt
  | ge => o != .lt

/-- The outcome of comparing a value in a row with a scalar. -/
def compareTruth (operand : Cell × Option ColumnType) (op : CompareOp) (value : Scalar) : Truth :=
  (orderWith operand value).map op.accepts

/-- The outcome of looking for a value in a row among scalars. -/
def memberTruth (operand : Cell × Option ColumnType) (values : List Scalar) : Truth :=
  values.foldr (fun value rest => (compareTruth operand .eq value).or rest) (some false)

/-- The outcome or its opposite. -/
def negateIf (negated : Bool) (t : Truth) : Truth :=
  if negated then t.not else t

mutual

/-- The outcome of a condition for a row. -/
def Condition.truth (columns : List Column) (row : List Cell) : Condition → Truth
  | .compare column op value => compareTruth (operand columns row column) op value
  | .member column negated values =>
    negateIf negated (memberTruth (operand columns row column) values)
  | .like column negated pattern =>
    negateIf negated <| ((operand columns row column).1.asText?).map fun s =>
      likeMatches pattern.toList (asciiLowerText s).toList
  | .null column negated => some ((operand columns row column).1 == .null) |> negateIf negated
  | .between column low high =>
    (compareTruth (operand columns row column) .ge low).and
      (compareTruth (operand columns row column) .le high)
  | .group c operands => Condition.joinTruth columns row c operands

/-- The outcome of operands joined by a connective. -/
def Condition.joinTruth (columns : List Column) (row : List Cell) (c : Connective) :
    List Condition → Truth
  | [] => Truth.unit c
  | first :: rest =>
    Truth.join c (first.truth columns row) (Condition.joinTruth columns row c rest)

end

/-! ## Selecting -/

/-- The order of two rows by one key. -/
def keyOrder (columns : List Column) (key : SortKey) (a b : List Cell) : Ordering :=
  let o := (operand columns a key.field).1.order (operand columns b key.field).1
  if key.descending then o.swap else o

/-- The order of two rows: by the first key that tells them apart. -/
def rowOrder (columns : List Column) (keys : List SortKey) (a b : List Cell) : Ordering :=
  match keys with
  | [] => .eq
  | key :: rest => (keyOrder columns key a b).then (rowOrder columns rest a b)

/-- The record of a row. -/
def rowRecord (columns : List Column) (row : List Cell) : Record :=
  ⟨SortedMap.ofList ((columns.zip row).map fun (column, cell) => (column.name, cell.toJson))⟩

/-- The records that a statement selects from a table. -/
def Table.select (t : Table) (s : Select) : List Record :=
  let rows := t.rows.filter fun row => s.condition.truth t.columns row == some true
  let sorted := rows.mergeSort fun a b => rowOrder t.columns s.orderBy a b != .gt
  ((sorted.drop s.offset).take s.limit).map (rowRecord t.columns)

/-- The table with a name. -/
def Database.table? (db : Database) (name : String) : Option Table :=
  db.tables.find? (sameName ·.name name)

/-- The names of the columns of a table, sorted. -/
def Table.fields (t : Table) : List String :=
  sortedDistinct (t.columns.map (·.name))

/-! ## Statements of other dialects -/

/-- The string that the database reads where a dialect has written `s`; none where it finds no
well-formed string. -/
def Dialect.reread? (d : Dialect) (s : String) : Option String :=
  let escaped := s.toList.flatMap Dialect.backslashEscape
  match d with
  | sqlite => some s
  | mysql => if s.toList.contains '\'' then none else some (String.ofList escaped)
  | postgres => if escaped.contains '\\' then none else some s

/-- The value that the database reads where a dialect has written a scalar. -/
def Dialect.rereadScalar? (d : Dialect) : Scalar → Option Scalar
  | .string s => (d.reread? s).map .string
  | .float x => if x.isFinite then some (.float x) else none
  | value => some value

mutual

/-- The condition that the database reads where a dialect has written one. -/
def Condition.reread? (d : Dialect) : Condition → Option Condition
  | .compare column op value => (d.rereadScalar? value).map (.compare column op)
  | .member column negated values => (values.mapM d.rereadScalar?).map (.member column negated)
  | .like column negated pattern => (d.reread? pattern).map (.like column negated)
  | .null column negated => some (.null column negated)
  | .between column low high => do
    return .between column (← d.rereadScalar? low) (← d.rereadScalar? high)
  | .group c operands => (Condition.rereadAll? d operands).map (.group c)

/-- The conditions that the database reads where a dialect has written some. -/
def Condition.rereadAll? (d : Dialect) : List Condition → Option (List Condition)
  | [] => some []
  | first :: rest => do return (← first.reread? d) :: (← Condition.rereadAll? d rest)

end

mutual

/-- The columns that a condition speaks of. -/
def Condition.columns : Condition → List String
  | .compare column _ _ => [column]
  | .member column _ values => if values.isEmpty then [] else [column]
  | .like column _ _ => [column]
  | .null column _ => [column]
  | .between column _ _ => [column]
  | .group _ operands => Condition.allColumns operands

/-- The columns that some conditions speak of. -/
def Condition.allColumns : List Condition → List String
  | [] => []
  | first :: rest => first.columns ++ Condition.allColumns rest

end

/-- Whether all names in a statement are columns of a table. Names in double quotes need not be:
they fall back to texts. -/
def Select.namesKnown (d : Dialect) (t : Table) (s : Select) : Bool :=
  d != .mysql ||
    (s.condition.columns ++ s.orderBy.map (·.field)).all fun name =>
      t.columns.any (sameName ·.name name)

/-! ## Depth -/

/-- The depth of the expression that a value is written as: a sign is an operator. -/
def valueDepth : Scalar → Nat
  | .integer n => if n < 0 then 2 else 1
  | .float x => if x.negative then 2 else 1
  | _ => 1

/-- The depth of the test for membership in a list of values. A list of one is read as an equality
with the value behind a plus sign, and an empty one has a test of two numbers in its place. -/
def memberDepth : List Scalar → Nat
  | [] => 2
  | [value] => valueDepth value + 2
  | values => (values.map valueDepth).foldl max 1 + 1

mutual

/-- The depth of the expression that a condition is written as. The bounds of a range do not
count. -/
def Condition.depth : Condition → Nat
  | .compare _ _ value => valueDepth value + 1
  | .member _ negated values =>
    if negated && !values.isEmpty then memberDepth values + 1 else memberDepth values
  | .like _ negated _ => if negated then 4 else 3
  | .null _ _ => 2
  | .between _ _ _ => 2
  | .group _ [] => 0
  | .group _ (first :: rest) => Condition.chainDepth first.depth rest

/-- The depth of a chain, which leans to the left: that of what stands before, and operands. -/
def Condition.chainDepth (before : Nat) : List Condition → Nat
  | [] => before
  | first :: rest => Condition.chainDepth (max before first.depth + 1) rest

end

/-! ## Running -/

/-- How deep an expression may be. -/
def greatestDepth : Nat := 1000

/-- Whether the database can count the page of a statement and go down its condition. -/
def Select.isWithinLimits (s : Select) : Bool :=
  WordRange.isSigned s.limit && WordRange.isSigned s.offset && s.condition.depth ≤ greatestDepth

/-- The records that a statement, written in a dialect, selects from a database; none when the
database refuses it. -/
def Database.run (db : Database) (d : Dialect) (s : Select) : Option (List Record) := do
  let table ← db.table? s.table
  let condition ← s.condition.reread? d
  if ({ s with condition } : Select).isWithinLimits && s.namesKnown d table then
    return table.select { s with condition }
  else none

end Sql

end FederatedSearch
