import FederatedSearch.Query.Syntax

/-!
# Operands of AND and OR

A chain of one connective is looked at as one list of operands. Parentheses around a part of the
chain that holds the same connective carry no meaning and are passed through; other parentheses
are kept, so that an operand is what stood in the query.
-/

namespace FederatedSearch

/-- The two connectives. -/
inductive Connective
  | and
  | or
  deriving DecidableEq, Repr, Inhabited

/-- The name of a connective. -/
def Connective.name : Connective → String
  | and => "and"
  | or => "or"

namespace Predicate

/-- Whether a predicate, looked at through parentheses, joins two parts by a connective. -/
def isJoinedBy (c : Connective) : Predicate → Bool
  | and _ _ => c == .and
  | or _ _ => c == .or
  | paren inner => inner.isJoinedBy c
  | _ => false

/-- The operands of a chain of one connective, from left to right. -/
def operands (c : Connective) : Predicate → List Predicate
  | and left right =>
    match c with
    | .and => left.operands c ++ right.operands c
    | .or => [and left right]
  | or left right =>
    match c with
    | .or => left.operands c ++ right.operands c
    | .and => [or left right]
  | paren inner => if inner.isJoinedBy c then inner.operands c else [paren inner]
  | p => [p]

end Predicate

end FederatedSearch
