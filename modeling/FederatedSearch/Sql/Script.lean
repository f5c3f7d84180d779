import FederatedSearch.Sql.Table

/-!
# Scripts

The scripts that fill a database when it is opened: statements that create tables and insert
rows, separated by semicolons. Names may be quoted, and words may be written in either case. A
script that does not keep to this form, or that does not fit the database, fails as a whole.
-/

namespace FederatedSearch

namespace Sql

namespace Script

/-! ## Words -/

/-- A unit of a script. -/
inductive Piece
  /-- A name or keyword, which is never a keyword when it is quoted. -/
  | word (text : String) (quoted : Bool)
  | string (text : String)
  | number (text : String)
  | mark (c : Char)
  deriving DecidableEq, Repr

/-- Whether a word may go on with a character. -/
def isWordPart (c : Char) : Bool :=
  Text.isAsciiLetter c || Text.isAsciiDigit c || c == '_' || c.toNat ≥ 128

/-- Whether a number may go on with a character. -/
def isNumberPart (c : Char) : Bool :=
  Text.isAsciiDigit c || c == '.'

/-- The text up to a closing quote, and what follows it. Two quotes stand for one. -/
def spanQuoted (quote : Char) : List Char → Option (List Char × List Char)
  | [] => none
  | [c] => if c = quote then some ([], []) else none
  | c :: d :: rest =>
    if c = quote then
      if d = quote then (spanQuoted quote rest).map fun (text, after) => (quote :: text, after)
      else some ([], d :: rest)
    else (spanQuoted quote (d :: rest)).map fun (text, after) => (c :: text, after)

/-- The quotes around names. -/
def isNameQuote (c : Char) : Bool :=
  c == '"' || c.toNat == 96

/-- The pieces of a script; none where a quote is not closed. Every step passes over a character,
so `fuel` may be the length of the script. -/
def pieces : (fuel : Nat) → List Char → Option (List Piece)
  | 0, _ => some []
  | _, [] => some []
  | fuel + 1, c :: rest =>
    if Text.isWhitespace c then pieces fuel rest
    else if c = '\'' then
      match spanQuoted c rest with
      | some (text, rest) => (pieces fuel rest).map (.string (String.ofList text) :: ·)
      | none => none
    else if isNameQuote c then
      match spanQuoted c rest with
      | some (text, rest) => (pieces fuel rest).map (.word (String.ofList text) true :: ·)
      | none => none
    else if Text.isAsciiDigit c then
      let text := c :: rest.takeWhile isNumberPart
      (pieces fuel (rest.dropWhile isNumberPart)).map (.number (String.ofList text) :: ·)
    else if isWordPart c then
      let text := c :: rest.takeWhile isWordPart
      (pieces fuel (rest.dropWhile isWordPart)).map (.word (String.ofList text) false :: ·)
    else (pieces fuel rest).map (.mark c :: ·)

/-- The parts of a list between the pieces that satisfy a test. -/
def splitAt (isEnd : Piece → Bool) : List Piece → List (List Piece)
  | [] => [[]]
  | p :: rest =>
    if isEnd p then [] :: splitAt isEnd rest
    else match splitAt isEnd rest with
      | part :: more => (p :: part) :: more
      | [] => [[p]]

/-! ## Statements -/

/-- A statement of a script. -/
inductive Statement
  | create (table : String) (columns : List Column)
  | insert (table : String) (rows : List (List Cell))
  deriving Repr

/-- What follows some keywords, given in lower case. -/
def dropWords : List String → List Piece → Option (List Piece)
  | [], rest => some rest
  | w :: ws, .word text false :: rest =>
    if asciiLowerText text = w then dropWords ws rest else none
  | _ :: _, _ => none

/-- The items between parentheses, separated by commas, and what follows them. -/
def parenthesized : List Piece → Option (List (List Piece) × List Piece)
  | .mark '(' :: rest =>
    let inside := rest.takeWhile (· != .mark ')')
    match rest.dropWhile (· != .mark ')') with
    | .mark _ :: after => some (splitAt (· == .mark ',') inside, after)
    | _ => none
  | _ => none

/-- Whether one text occurs within another. -/
def occurs (part : List Char) : List Char → Bool
  | [] => part.isEmpty
  | c :: rest => part.isPrefixOf (c :: rest) || occurs part rest

/-- The kind of values that a column prefers, by the words that declare it. -/
def columnType (declaration : String) : ColumnType :=
  let text := (asciiLowerText declaration).toList
  if occurs ['i', 'n', 't'] text then .integer
  else if occurs ['c', 'h', 'a', 'r'] text || occurs ['c', 'l', 'o', 'b'] text ||
      occurs ['t', 'e', 'x', 't'] text then .text
  else if text.isEmpty || occurs ['b', 'l', 'o', 'b'] text then .any
  else if occurs ['r', 'e', 'a', 'l'] text || occurs ['f', 'l', 'o', 'a'] text ||
      occurs ['d', 'o', 'u', 'b'] text then .real
  else .integer

/-- The text of a word. -/
def wordText? : Piece → Option String
  | .word text _ => some text
  | _ => none

/-- The column that a declaration declares. -/
def column? : List Piece → Option Column
  | .word name _ :: declaration => do
    return ⟨name, columnType (" ".intercalate (← declaration.mapM wordText?))⟩
  | _ => none

variable [Numerals]

/-- The value that is written in an item. -/
def cell? : List Piece → Option Cell
  | [.string text] => some (.text text)
  | [.number text] => Cell.number? text
  | [.mark '-', .number text] => Cell.number? ("-" ++ text)
  | [.mark '+', .number text] => Cell.number? text
  | [.word text false] =>
    match asciiLowerText text with
    | "null" => some .null
    | "true" => some (.integer 1)
    | "false" => some (.integer 0)
    | _ => none
  | _ => none

/-- The rows of values that are separated by commas. The list of pieces gets shorter with every
row, so `fuel` may be its length. -/
def rows? : (fuel : Nat) → List Piece → Option (List (List Cell))
  | 0, _ => none
  | fuel + 1, ps => do
    let (items, rest) ← parenthesized ps
    let row ← items.mapM cell?
    match rest with
    | [] => return [row]
    | .mark ',' :: rest => return row :: (← rows? fuel rest)
    | _ => none

/-- The statement that pieces are. -/
def statement? (ps : List Piece) : Option Statement :=
  match dropWords ["create", "table"] ps with
  | some (.word table _ :: rest) => do
    let (items, []) ← parenthesized rest | none
    return .create table (← items.mapM column?)
  | some _ => none
  | none =>
    match dropWords ["insert", "into"] ps with
    | some (.word table _ :: rest) => do
      let rest ← dropWords ["values"] rest
      return .insert table (← rows? (rest.length + 1) rest)
    | _ => none

/-- The statements of a script. -/
def ofText? (text : String) : Option (List Statement) := do
  let ps ← pieces text.length text.toList
  ((splitAt (· == .mark ';') ps).filter (!·.isEmpty)).mapM statement?

/-! ## Effects -/

/-- Whether columns have different names. -/
def distinctNames : List Column → Bool
  | [] => true
  | c :: rest => !rest.any (sameName c.name ·.name) && distinctNames rest

/-- The table with rows added to it. -/
def addRows? (rows : List (List Cell)) (t : Table) : Option Table :=
  if rows.all (·.length == t.columns.length) then
    some { t with rows := t.rows ++ rows.map fun row =>
      (t.columns.zip row).map fun (column, cell) => cell.store column.type }
  else none

/-- The database after a statement. -/
def Statement.run? (db : Database) : Statement → Option Database
  | create name columns =>
    if (db.table? name).isSome || !distinctNames columns then none
    else some ⟨db.tables ++ [⟨name, columns, []⟩]⟩
  | insert name rows => do
    let t ← db.table? name
    let grown ← addRows? rows t
    return ⟨db.tables.map fun other => if sameName other.name name then grown else other⟩

end Script

/-- The database after a script; none when the script fails. -/
def Database.runScript? [Numerals] (db : Database) (script : String) : Option Database := do
  (← Script.ofText? script).foldlM Script.Statement.run? db

end Sql

end FederatedSearch
