import FederatedSearch.Query.Token

/-!
# Faults of query texts

Why a text is not a query. A fault that a token shows carries the place of that token; one that
shows at the end of the text has no place.
-/

namespace FederatedSearch

namespace ParseError

/-- The ways a text can fail to be a query. -/
inductive Cause
  | illegalToken
  | unexpected (wanted : String) (found : Token)
  | missing (wanted : String)
  | endOfInput
  | missingOperator (field : String)
  | negation
  | functionCall (name : String)
  | emptyList
  | missingPattern
  | missingLiteral
  | nullValue
  | trailing (found : Token)
  deriving DecidableEq, Repr

/-- The words for a fault. -/
def Cause.text : Cause → String
  | illegalToken => "Illegal character or unterminated literal"
  | unexpected wanted found => "Expected " ++ wanted ++ ", found " ++ found.describe
  | missing wanted => "Expected " ++ wanted ++ ", but reached end of input"
  | endOfInput => "Unexpected end of input"
  | missingOperator field =>
    "Expected operator after '" ++ field ++ "', but reached end of input"
  | negation => "'is'/'not' expression currently not supported"
  | functionCall name => "Function '" ++ name ++ "' is not supported"
  | emptyList => "Empty value list"
  | missingPattern => "Expected pattern string"
  | missingLiteral => "Expected literal value"
  | nullValue => "NULL values are not supported, use 'exist' instead"
  | trailing found => "Unexpected " ++ found.describe ++ " after end of statement"

end ParseError

/-- A fault of a query text. -/
structure ParseError where
  cause : ParseError.Cause
  span : Option Span
  deriving DecidableEq, Repr

namespace ParseError

/-- A fault that a token shows. -/
def at_ (cause : Cause) (t : PlacedToken) : ParseError :=
  ⟨cause, some t.span⟩

/-- A fault that shows at the end of the text. -/
def atEnd (cause : Cause) : ParseError :=
  ⟨cause, none⟩

/-- The message for a fault, with its place. -/
def message (e : ParseError) : String :=
  match e.span with
  | some span => e.cause.text ++ " at position " ++ toString span.start
  | none => e.cause.text

end ParseError

end FederatedSearch
