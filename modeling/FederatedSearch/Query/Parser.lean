import FederatedSearch.Query.Lexer
import FederatedSearch.Query.ParseError
import FederatedSearch.Query.Syntax

/-!
# From tokens to statements

A statement is read from the front of a list of tokens, clause by clause. Conditions are read by
recursive descent: AND binds more tightly than OR, both join to the left, and BETWEEN takes the
AND that follows its first bound.
-/

namespace FederatedSearch

namespace Parser

/-- The tokens that are left to read. Reading the front of some tokens yields a value together
with the tokens that follow it. -/
abbrev Tokens := List PlacedToken

/-- The fault of tokens that do not start with what is wanted. -/
def notFound (wanted : String) : Tokens → ParseError
  | t :: _ => .at_ (.unexpected wanted t.token) t
  | [] => .atEnd (.missing wanted)

/-- Whether tokens start with a keyword. -/
def startsWith (k : Keyword) : Tokens → Bool
  | t :: _ => t.token == .keyword k
  | [] => false

/-- What follows a keyword that has to come first. -/
def expectKeyword (k : Keyword) (ts : Tokens) : Except ParseError Tokens :=
  match ts with
  | t :: rest => if t.token = .keyword k then .ok rest else .error (notFound k.text ts)
  | [] => .error (notFound k.text [])

/-- What follows a symbol that has to come first. -/
def expectSymbol (s : Symbol) (ts : Tokens) : Except ParseError Tokens :=
  match ts with
  | t :: rest => if t.token = .symbol s then .ok rest else .error (notFound s.name ts)
  | [] => .error (notFound s.name [])

/-- Reads a name. -/
def name : Tokens → Except ParseError (String × Tokens)
  | ⟨.identifier n, _⟩ :: rest => .ok (n, rest)
  | ts => .error (notFound "identifier" ts)

/-- Reads further names, each after a comma. -/
def moreNames : Tokens → Except ParseError (List String × Tokens)
  | ⟨.symbol .comma, _⟩ :: ⟨.identifier n, _⟩ :: rest => do
    let (more, rest) ← moreNames rest
    return (n :: more, rest)
  | ⟨.symbol .comma, _⟩ :: rest => .error (notFound "identifier" rest)
  | ts => .ok ([], ts)

/-- Reads one or more names, separated by commas. -/
def names (ts : Tokens) : Except ParseError (List String × Tokens) := do
  let (first, rest) ← name ts
  let (more, rest) ← moreNames rest
  return (first :: more, rest)

/-! ## Values -/

/-- The character that a backslash and the next character stand for. -/
def escaped (c : Char) : Char :=
  if c = 'n' then '\n' else if c = 't' then '\t' else if c = 'r' then '\r' else c

/-- The string that the text between two quotes stands for: escapes are resolved, and two equal
quotes side by side are one. -/
def unescape : List Char → List Char
  | [] => []
  | ['\\'] => ['\\']
  | '\\' :: c :: rest => escaped c :: unescape rest
  | [c] => [c]
  | c :: d :: rest =>
    if (c = '\'' ∨ c = '"') ∧ d = c then c :: unescape rest else c :: unescape (d :: rest)

/-- The string value of a string token. -/
def stringValue (raw : String) : String :=
  String.ofList (unescape raw.toList)

/-- The value that a token stands for. -/
def literalOf (t : PlacedToken) : Except ParseError Literal :=
  match t.token with
  | .string raw => .ok (.string (stringValue raw))
  | .integer n => .ok (.integer n)
  | .float x => .ok (.float x)
  | .keyword .true => .ok (.bool true)
  | .keyword .false => .ok (.bool false)
  | .identifier n => .ok (.column n)
  | .keyword .null => .error (.at_ .nullValue t)
  | found => .error (.at_ (.unexpected "literal value" found) t)

/-- Reads a value. -/
def literal : Tokens → Except ParseError (Literal × Tokens)
  | t :: rest => do return (← literalOf t, rest)
  | [] => .error (.atEnd .missingLiteral)

/-- Reads further values, each after a comma. -/
def moreLiterals : Tokens → Except ParseError (List Literal × Tokens)
  | ⟨.symbol .comma, _⟩ :: t :: rest => do
    let value ← literalOf t
    let (more, rest) ← moreLiterals rest
    return (value :: more, rest)
  | [⟨.symbol .comma, _⟩] => .error (.atEnd .missingLiteral)
  | ts => .ok ([], ts)

/-- Reads one or more values in parentheses. -/
def literalList (ts : Tokens) : Except ParseError (Literal × Tokens) := do
  let rest ← expectSymbol .lparen ts
  match rest with
  | ⟨.symbol .rparen, span⟩ :: _ => .error ⟨.emptyList, some span⟩
  | _ =>
    let (first, rest) ← literal rest
    let (more, rest) ← moreLiterals rest
    let rest ← expectSymbol .rparen rest
    return (.list (first :: more), rest)

/-- Reads the string of a LIKE pattern. -/
def likePattern : Tokens → Except ParseError (Literal × Tokens)
  | ⟨.string raw, _⟩ :: rest => .ok (.string (stringValue raw), rest)
  | t :: _ => .error (.at_ (.unexpected "pattern string" t.token) t)
  | [] => .error (.atEnd .missingPattern)

/-! ## Conditions -/

/-- The comparison that a symbol stands for. -/
def comparisonOf? : Symbol → Option CompareOp
  | .eq => some .eq
  | .notEq => some .notEq
  | .lt => some .lt
  | .gt => some .gt
  | .lte => some .lte
  | .gte => some .gte
  | _ => none

/-- Reads the comparison of a field with a list of values. -/
def membership (field : String) (op : CompareOp) (ts : Tokens) :
    Except ParseError (Predicate × Tokens) := do
  let (value, rest) ← literalList ts
  return (.compare field op value, rest)

/-- Reads the comparison of a field with a pattern. -/
def likeness (field : String) (op : CompareOp) (ts : Tokens) :
    Except ParseError (Predicate × Tokens) := do
  let (value, rest) ← likePattern ts
  return (.compare field op value, rest)

/-- Reads the bounds of a range. -/
def range (field : String) (ts : Tokens) : Except ParseError (Predicate × Tokens) := do
  let (low, rest) ← literal ts
  let rest ← expectKeyword .and rest
  let (high, rest) ← literal rest
  return (.between field low high, rest)

/-- Reads what follows the field of a condition. -/
def condition (field : String) : Tokens → Except ParseError (Predicate × Tokens)
  | [] => .error (.atEnd (.missingOperator field))
  | t :: rest =>
    match t.token with
    | .keyword .in => membership field .isIn rest
    | .keyword .like => likeness field .like rest
    | .keyword .not =>
      match rest with
      | ⟨.keyword .in, _⟩ :: rest => membership field .notIn rest
      | ⟨.keyword .like, _⟩ :: rest => likeness field .notLike rest
      | _ => .error (.at_ .negation t)
    | .keyword .between => range field rest
    | .keyword .is => .error (.at_ .negation t)
    | .symbol .lparen => .error (.at_ (.functionCall field) t)
    | .symbol s =>
      match comparisonOf? s with
      | some op => do
        let (value, rest) ← literal rest
        return (.compare field op value, rest)
      | none => .error (.at_ (.unexpected "comparison operator" t.token) t)
    | found => .error (.at_ (.unexpected "comparison operator" found) t)

mutual

/-- Reads conditions joined by OR. Every nested call either passes over a token or is one step
down from OR over AND to a single condition, which bounds `fuel`. -/
def disjunction : (fuel : Nat) → Tokens → Except ParseError (Predicate × Tokens)
  | 0, _ => .error (.atEnd .endOfInput)
  | fuel + 1, ts => do
    let (left, rest) ← conjunction fuel ts
    moreDisjuncts fuel left rest

/-- Reads further conditions, each after OR. -/
def moreDisjuncts :
    (fuel : Nat) → Predicate → Tokens → Except ParseError (Predicate × Tokens)
  | 0, _, _ => .error (.atEnd .endOfInput)
  | fuel + 1, left, ts =>
    match ts with
    | ⟨.keyword .or, _⟩ :: rest => do
      let (right, rest) ← conjunction fuel rest
      moreDisjuncts fuel (.or left right) rest
    | _ => .ok (left, ts)

/-- Reads conditions joined by AND. -/
def conjunction : (fuel : Nat) → Tokens → Except ParseError (Predicate × Tokens)
  | 0, _ => .error (.atEnd .endOfInput)
  | fuel + 1, ts => do
    let (left, rest) ← primary fuel ts
    moreConjuncts fuel left rest

/-- Reads further conditions, each after AND. -/
def moreConjuncts :
    (fuel : Nat) → Predicate → Tokens → Except ParseError (Predicate × Tokens)
  | 0, _, _ => .error (.atEnd .endOfInput)
  | fuel + 1, left, ts =>
    match ts with
    | ⟨.keyword .and, _⟩ :: rest => do
      let (right, rest) ← primary fuel rest
      moreConjuncts fuel (.and left right) rest
    | _ => .ok (left, ts)

/-- Reads a condition in parentheses or a condition on a field. -/
def primary : (fuel : Nat) → Tokens → Except ParseError (Predicate × Tokens)
  | 0, _ => .error (.atEnd .endOfInput)
  | fuel + 1, ts =>
    match ts with
    | [] => .error (.atEnd .endOfInput)
    | t :: rest =>
      match t.token with
      | .symbol .lparen => do
        let (inner, rest) ← disjunction fuel rest
        let rest ← expectSymbol .rparen rest
        return (.paren inner, rest)
      | .keyword .not => .error (.at_ .negation t)
      | .identifier field => condition field rest
      | found => .error (.at_ (.unexpected "field name or '('" found) t)

end

/-- Reads a predicate. -/
def predicate (ts : Tokens) : Except ParseError (Predicate × Tokens) :=
  disjunction (4 * ts.length + 4) ts

/-! ## Clauses -/

/-- Reads the direction of a sort key, which is ascending when none is given. -/
def direction : Tokens → Bool × Tokens
  | ⟨.keyword .desc, _⟩ :: rest => (true, rest)
  | ⟨.keyword .asc, _⟩ :: rest => (false, rest)
  | ts => (false, ts)

/-- Reads sort keys separated by commas. -/
def sortKeys : (fuel : Nat) → Tokens → Except ParseError (List SortKey × Tokens)
  | 0, _ => .error (.atEnd .endOfInput)
  | fuel + 1, ts => do
    let (field, rest) ← name ts
    let (descending, rest) := direction rest
    match rest with
    | ⟨.symbol .comma, _⟩ :: rest =>
      let (more, rest) ← sortKeys fuel rest
      return (⟨field, descending⟩ :: more, rest)
    | _ => return ([⟨field, descending⟩], rest)

/-- Reads a whole number. -/
def integer : Tokens → Except ParseError (Int × Tokens)
  | ⟨.integer n, _⟩ :: rest => .ok (n, rest)
  | ts => .error (notFound "integer" ts)

/-- Reads what follows SELECT: whether results are to be distinct, and the columns, which have
no further meaning. -/
def projection (ts : Tokens) : Except ParseError (Bool × Tokens) :=
  let (distinct, ts) := match ts with
    | ⟨.keyword .distinct, _⟩ :: rest => (true, rest)
    | _ => (false, ts)
  match ts with
  | ⟨.symbol .star, _⟩ :: rest => .ok (distinct, rest)
  | _ => do
    let (_, rest) ← names ts
    return (distinct, rest)

/-- Reads an optional SELECT clause. -/
def selectClause : Tokens → Except ParseError (Bool × Tokens)
  | ⟨.keyword .select, _⟩ :: rest => projection rest
  | ts => .ok (false, ts)

/-- Reads an optional WHERE clause. -/
def whereClause : Tokens → Except ParseError (Option Predicate × Tokens)
  | ⟨.keyword .where, _⟩ :: rest => do
    let (p, rest) ← predicate rest
    return (some p, rest)
  | ts => .ok (none, ts)

/-- Reads an optional GROUP BY clause. -/
def groupClause : Tokens → Except ParseError (List String × Tokens)
  | ⟨.keyword .group, _⟩ :: rest => do names (← expectKeyword .by rest)
  | ts => .ok ([], ts)

/-- Reads an optional ORDER BY clause. -/
def orderClause : Tokens → Except ParseError (List SortKey × Tokens)
  | ⟨.keyword .order, _⟩ :: rest => do
    let rest ← expectKeyword .by rest
    sortKeys (rest.length + 1) rest
  | ts => .ok ([], ts)

/-- Reads an optional LIMIT clause. Of two numbers the first is the offset. -/
def limitClause : Tokens → Except ParseError (Option Limit × Tokens)
  | ⟨.keyword .limit, _⟩ :: rest => do
    let (first, rest) ← integer rest
    match rest with
    | ⟨.symbol .comma, _⟩ :: rest =>
      let (rowcount, rest) ← integer rest
      return (some ⟨some first, rowcount⟩, rest)
    | _ => return (some ⟨none, first⟩, rest)
  | ts => .ok (none, ts)

/-- Reads the clauses of a statement and whatever follows them. -/
def clauses (ts : Tokens) : Except ParseError (Statement × Tokens) := do
  let (distinct, ts) ← selectClause ts
  let ts ← expectKeyword .from ts
  let (sources, ts) ← names ts
  let (selection, ts) ← whereClause ts
  let (groupBy, ts) ← groupClause ts
  let (orderBy, ts) ← orderClause ts
  let (limit, ts) ← limitClause ts
  return (⟨distinct, sources, selection, groupBy, orderBy, limit⟩, ts)

end Parser

/-- The statement that tokens form. An illegal token is reported before any other fault. -/
def Statement.ofTokens (ts : List PlacedToken) : Except ParseError Statement :=
  match ts.find? (·.token == .illegal) with
  | some t => .error (.at_ .illegalToken t)
  | none => do
    let (statement, rest) ← Parser.clauses ts
    match rest with
    | t :: _ => .error (.at_ (.trailing t.token) t)
    | [] => return statement

/-- The statement that a text forms. -/
def Statement.ofText (text : String) : Except ParseError Statement :=
  Statement.ofTokens (tokens text)

end FederatedSearch
