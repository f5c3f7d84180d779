import FederatedSearch.Query.Parser

/-!
# The grammar of queries

What a query text is made of, apart from how it is read. Each form relates some tokens to what
they stand for; the places of tokens never matter.

```
statement   := [select] FROM names [where] [group] [order] [limit]
select      := SELECT [DISTINCT] ('*' | names)
where       := WHERE disjunction
group       := GROUP BY names
order       := ORDER BY key {',' key}
limit       := LIMIT integer [',' integer]
names       := name {',' name}
key         := name [ASC | DESC]
disjunction := conjunction | disjunction OR conjunction
conjunction := primary | conjunction AND primary
primary     := '(' disjunction ')' | name condition
condition   := comparison value | [NOT] IN '(' value {',' value} ')' | [NOT] LIKE string
             | BETWEEN value AND value
value       := string | integer | float | TRUE | FALSE | name
```
-/

namespace FederatedSearch

namespace Grammar

open FederatedSearch.Parser (Tokens)

/-! ## Names, values and lists -/

/-- A name stands for itself. -/
inductive Name : Tokens → String → Prop
  | identifier (n : String) (span : Span) : Name [⟨.identifier n, span⟩] n

/-- The values that a field can be compared with. -/
inductive Value : Tokens → Literal → Prop
  | string (raw : String) (span : Span) :
    Value [⟨.string raw, span⟩] (.string (Parser.stringValue raw))
  | integer (n : Int) (span : Span) : Value [⟨.integer n, span⟩] (.integer n)
  | float (x : Double) (span : Span) : Value [⟨.float x, span⟩] (.float x)
  | true (span : Span) : Value [⟨.keyword .true, span⟩] (.bool true)
  | false (span : Span) : Value [⟨.keyword .false, span⟩] (.bool false)
  | name (n : String) (span : Span) : Value [⟨.identifier n, span⟩] (.column n)

/-- One or more items with a comma between each two of them. -/
inductive CommaSeparated {α : Type} (item : Tokens → α → Prop) : Tokens → List α → Prop
  | last {ts : Tokens} {a : α} (one : item ts a) : CommaSeparated item ts [a]
  | more {ts rest : Tokens} {a : α} {as : List α} (span : Span) (one : item ts a)
    (others : CommaSeparated item rest as) :
    CommaSeparated item (ts ++ ⟨.symbol .comma, span⟩ :: rest) (a :: as)

/-- One or more values in parentheses. -/
inductive ValueList : Tokens → List Literal → Prop
  | parens {ts : Tokens} {values : List Literal} (opened closed : Span)
    (items : CommaSeparated Value ts values) :
    ValueList (⟨.symbol .lparen, opened⟩ :: (ts ++ [⟨.symbol .rparen, closed⟩])) values

/-! ## Predicates -/

/-- The comparisons that are written as symbols. -/
inductive Comparison : Symbol → CompareOp → Prop
  | eq : Comparison .eq .eq
  | notEq : Comparison .notEq .notEq
  | lt : Comparison .lt .lt
  | gt : Comparison .gt .gt
  | lte : Comparison .lte .lte
  | gte : Comparison .gte .gte

/-- What follows the field of a condition. The AND of a range belongs to the range. -/
inductive Condition (field : String) : Tokens → Predicate → Prop
  | compare {s : Symbol} {op : CompareOp} {ts : Tokens} {v : Literal} (span : Span)
    (comparison : Comparison s op) (value : Value ts v) :
    Condition field (⟨.symbol s, span⟩ :: ts) (.compare field op v)
  | isIn {ts : Tokens} {values : List Literal} (span : Span) (items : ValueList ts values) :
    Condition field (⟨.keyword .in, span⟩ :: ts) (.compare field .isIn (.list values))
  | notIn {ts : Tokens} {values : List Literal} (negation span : Span)
    (items : ValueList ts values) :
    Condition field (⟨.keyword .not, negation⟩ :: ⟨.keyword .in, span⟩ :: ts)
      (.compare field .notIn (.list values))
  | like (span : Span) (raw : String) (pattern : Span) :
    Condition field [⟨.keyword .like, span⟩, ⟨.string raw, pattern⟩]
      (.compare field .like (.string (Parser.stringValue raw)))
  | notLike (negation span : Span) (raw : String) (pattern : Span) :
    Condition field [⟨.keyword .not, negation⟩, ⟨.keyword .like, span⟩, ⟨.string raw, pattern⟩]
      (.compare field .notLike (.string (Parser.stringValue raw)))
  | between {lows highs : Tokens} {low high : Literal} (span conjunction : Span)
    (lower : Value lows low) (upper : Value highs high) :
    Condition field (⟨.keyword .between, span⟩ :: (lows ++ ⟨.keyword .and, conjunction⟩ :: highs))
      (.between field low high)

/-- How tightly a form holds its parts together. -/
inductive Level
  | disjunction
  | conjunction
  | primary

/-- The predicates of each level. OR joins conjunctions and AND joins primaries, both to the
left; parentheses stay in the tree. -/
inductive Derives : Level → Tokens → Predicate → Prop
  | conjunction {ts : Tokens} {p : Predicate} (only : Derives .conjunction ts p) :
    Derives .disjunction ts p
  | or {ls rs : Tokens} {l r : Predicate} (span : Span) (left : Derives .disjunction ls l)
    (right : Derives .conjunction rs r) :
    Derives .disjunction (ls ++ ⟨.keyword .or, span⟩ :: rs) (.or l r)
  | primary {ts : Tokens} {p : Predicate} (only : Derives .primary ts p) :
    Derives .conjunction ts p
  | and {ls rs : Tokens} {l r : Predicate} (span : Span) (left : Derives .conjunction ls l)
    (right : Derives .primary rs r) :
    Derives .conjunction (ls ++ ⟨.keyword .and, span⟩ :: rs) (.and l r)
  | paren {ts : Tokens} {p : Predicate} (opened closed : Span)
    (inner : Derives .disjunction ts p) :
    Derives .primary (⟨.symbol .lparen, opened⟩ :: (ts ++ [⟨.symbol .rparen, closed⟩])) (.paren p)
  | condition {field : String} {ts : Tokens} {p : Predicate} (span : Span)
    (condition : Condition field ts p) :
    Derives .primary (⟨.identifier field, span⟩ :: ts) p

/-! ## Clauses -/

/-- The columns of a result, which have no further meaning. -/
inductive Columns : Tokens → Prop
  | all (span : Span) : Columns [⟨.symbol .star, span⟩]
  | names {ts : Tokens} {columns : List String} (names : CommaSeparated Name ts columns) :
    Columns ts

/-- A SELECT clause stands for whether results are to be distinct. -/
inductive SelectClause : Tokens → Bool → Prop
  | plain {ts : Tokens} (span : Span) (columns : Columns ts) :
    SelectClause (⟨.keyword .select, span⟩ :: ts) false
  | distinct {ts : Tokens} (span distinct : Span) (columns : Columns ts) :
    SelectClause (⟨.keyword .select, span⟩ :: ⟨.keyword .distinct, distinct⟩ :: ts) true

inductive WhereClause : Tokens → Option Predicate → Prop
  | mk {ts : Tokens} {p : Predicate} (span : Span) (selection : Derives .disjunction ts p) :
    WhereClause (⟨.keyword .where, span⟩ :: ts) (some p)

inductive GroupClause : Tokens → List String → Prop
  | mk {ts : Tokens} {fields : List String} (span preposition : Span)
    (names : CommaSeparated Name ts fields) :
    GroupClause (⟨.keyword .group, span⟩ :: ⟨.keyword .by, preposition⟩ :: ts) fields

/-- A field to sort by, ascending unless said otherwise. -/
inductive Key : Tokens → SortKey → Prop
  | plain {ts : Tokens} {field : String} (name : Name ts field) : Key ts ⟨field, false⟩
  | ascending {ts : Tokens} {field : String} (name : Name ts field) (span : Span) :
    Key (ts ++ [⟨.keyword .asc, span⟩]) ⟨field, false⟩
  | descending {ts : Tokens} {field : String} (name : Name ts field) (span : Span) :
    Key (ts ++ [⟨.keyword .desc, span⟩]) ⟨field, true⟩

inductive OrderClause : Tokens → List SortKey → Prop
  | mk {ts : Tokens} {keys : List SortKey} (span preposition : Span)
    (order : CommaSeparated Key ts keys) :
    OrderClause (⟨.keyword .order, span⟩ :: ⟨.keyword .by, preposition⟩ :: ts) keys

/-- Of two numbers of a LIMIT clause the first is the offset. -/
inductive LimitClause : Tokens → Option Limit → Prop
  | rowcount (span : Span) (n : Int) (number : Span) :
    LimitClause [⟨.keyword .limit, span⟩, ⟨.integer n, number⟩] (some ⟨none, n⟩)
  | page (span : Span) (m : Int) (first comma : Span) (n : Int) (second : Span) :
    LimitClause [⟨.keyword .limit, span⟩, ⟨.integer m, first⟩, ⟨.symbol .comma, comma⟩,
      ⟨.integer n, second⟩] (some ⟨some m, n⟩)

/-- A clause that may be left out. -/
inductive Optional {α : Type} (clause : Tokens → α → Prop) (absent : α) : Tokens → α → Prop
  | absent : Optional clause absent [] absent
  | present {ts : Tokens} {a : α} (given : clause ts a) : Optional clause absent ts a

/-- The clauses of a statement, in their order, and the tree that they make up. -/
inductive Form : Tokens → Statement → Prop
  | mk {select sources condition group order limit : Tokens} {distinct : Bool}
    {names : List String} {selection : Option Predicate} {groupBy : List String}
    {orderBy : List SortKey} {page : Option Limit} (span : Span)
    (selects : Optional SelectClause false select distinct)
    (reads : CommaSeparated Name sources names)
    (filters : Optional WhereClause none condition selection)
    (groups : Optional GroupClause [] group groupBy)
    (orders : Optional OrderClause [] order orderBy)
    (limits : Optional LimitClause none limit page) :
    Form (select ++ ⟨.keyword .from, span⟩ ::
        (sources ++ (condition ++ (group ++ (order ++ limit)))))
      ⟨distinct, names, selection, groupBy, orderBy, page⟩

end Grammar

end FederatedSearch
