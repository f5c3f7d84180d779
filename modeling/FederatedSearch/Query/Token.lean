import FederatedSearch.Double.Decimal
import FederatedSearch.Text.LetterCase

/-!
# Tokens of the query language

A query text is a sequence of tokens: keywords, which take no notice of letter case, names,
literals and symbols. A token that is placed in a text carries the bytes it covers.
-/

namespace FederatedSearch

/-- The reserved words of the query language. -/
inductive Keyword
  | select
  | distinct
  | from
  | where
  | group
  | order
  | by
  | asc
  | desc
  | limit
  | and
  | or
  | not
  | in
  | like
  | between
  | is
  | null
  | true
  | false
  deriving DecidableEq, Repr, Inhabited

namespace Keyword

/-- All reserved words. -/
def all : List Keyword :=
  [select, distinct, .from, .where, group, order, .by, asc, desc, limit, and, or, not, .in, like,
    between, is, null, true, false]

/-- A reserved word in capitals. -/
def text : Keyword → String
  | select => "SELECT"
  | distinct => "DISTINCT"
  | .from => "FROM"
  | .where => "WHERE"
  | group => "GROUP"
  | order => "ORDER"
  | .by => "BY"
  | asc => "ASC"
  | desc => "DESC"
  | limit => "LIMIT"
  | and => "AND"
  | or => "OR"
  | not => "NOT"
  | .in => "IN"
  | like => "LIKE"
  | between => "BETWEEN"
  | is => "IS"
  | null => "NULL"
  | true => "TRUE"
  | false => "FALSE"

/-- The reserved word that a word is, whatever the case of its letters. -/
def ofWord? (word : List Char) : Option Keyword :=
  all.find? fun k => k.text.toList == word.map Text.asciiUpper

end Keyword

/-- The punctuation and operators of the query language. -/
inductive Symbol
  | lparen
  | rparen
  | comma
  | star
  | eq
  | notEq
  | gt
  | lt
  | gte
  | lte
  deriving DecidableEq, Repr, Inhabited

/-- The name of a symbol in messages. -/
def Symbol.name : Symbol → String
  | lparen => "LPAREN"
  | rparen => "RPAREN"
  | comma => "COMMA"
  | star => "STAR"
  | eq => "EQ"
  | notEq => "NOTEQ"
  | gt => "GT"
  | lt => "LT"
  | gte => "GTE"
  | lte => "LTE"

/-- A unit of a query text. -/
inductive Token
  | keyword (word : Keyword)
  | symbol (symbol : Symbol)
  | identifier (name : String)
  /-- A string by the text between its quotes, escapes included. -/
  | string (raw : String)
  | integer (value : Int)
  | float (value : Double)
  /-- A character without meaning, or a literal that does not end. -/
  | illegal
  deriving DecidableEq, Repr, Inhabited

/-- How messages speak of a token. -/
def Token.describe : Token → String
  | keyword word => word.text
  | symbol s => s.name
  | identifier name => "identifier '" ++ name ++ "'"
  | string raw => "string '" ++ raw ++ "'"
  | integer n => "number " ++ toString n
  | float x => "number " ++ x.display
  | illegal => "illegal character"

/-- The bytes from `start` up to `stop` of a text in UTF-8. -/
structure Span where
  start : Nat
  stop : Nat
  deriving DecidableEq, Repr, Inhabited

/-- A token and the bytes it covers. -/
structure PlacedToken where
  token : Token
  span : Span
  deriving DecidableEq, Repr, Inhabited

end FederatedSearch
