import FederatedSearch.Regex.CharSet

/-!
# Patterns

A pattern is a tree. What it matches is a stretch of a text between two positions; anchors match
empty stretches at certain positions, groups record what they matched, and repetitions and
alternatives say which of several matches is preferred.
-/

namespace FederatedSearch.Regex

/-- A condition on a position in a text. -/
inductive Anchor
  | textStart
  | textEnd
  | lineStart
  | lineEnd
  | wordBoundary
  | notWordBoundary
  | wordStart
  | wordEnd
  | wordStartHalf
  | wordEndHalf
  deriving DecidableEq, Repr, Inhabited

/-- A pattern. -/
inductive Pattern
  | empty
  | one (set : CharSet)
  | anchor (anchor : Anchor)
  | group (index : Nat) (inner : Pattern)
  | seq (first second : Pattern)
  | alt (preferred other : Pattern)
  /-- At least `least` and at most `most` times, without bound when `most` is absent. A greedy
  repetition prefers more rounds, a lazy one fewer. -/
  | rounds (inner : Pattern) (least : Nat) (most : Option Nat) (greedy : Bool)
  deriving Repr, Inhabited

namespace Pattern

/-- Patterns one after the other. -/
def sequence (parts : List Pattern) : Pattern :=
  parts.foldr seq empty

/-- The first of several patterns that matches. -/
def choice : List Pattern → Pattern
  | [] => empty
  | [last] => last
  | first :: rest => alt first (choice rest)

end Pattern

end FederatedSearch.Regex

namespace FederatedSearch

/-- A pattern together with the numbers of its named groups. -/
structure Regex where
  pattern : Regex.Pattern
  names : List (String × Nat)
  deriving Repr, Inhabited

end FederatedSearch
