import FederatedSearch.Text.CharClass
import FederatedSearch.Text.LetterCase

/-!
# Sets of characters

What one place of a pattern may match, built from single characters, ranges and the Unicode
classes by the operations on sets, and closed under letter case where a pattern asks for it.
-/

namespace FederatedSearch.Regex

/-- A set of characters. -/
inductive CharSet
  | none
  | all
  | single (c : Char)
  | range (first last : Char)
  | digit
  | space
  | word
  | compl (s : CharSet)
  | union (s t : CharSet)
  | inter (s t : CharSet)
  | diff (s t : CharSet)
  | symmDiff (s t : CharSet)
  /-- The characters that are equal to a given one without regard to case. -/
  | caseless (c : Char)
  /-- The characters that are equal without regard to case to some character of a set. -/
  | folded (s : CharSet)
  deriving DecidableEq, Repr, Inhabited

namespace CharSet

/-- Membership of a character in a set. -/
def contains : CharSet → Char → Bool
  | none, _ => false
  | all, _ => true
  | single d, c => c == d
  | range first last, c => first ≤ c && c ≤ last
  | digit, c => Text.isDigit c
  | space, c => Text.isWhitespace c
  | word, c => Text.isWord c
  | compl s, c => !s.contains c
  | union s t, c => s.contains c || t.contains c
  | inter s t, c => s.contains c && t.contains c
  | diff s t, c => s.contains c && !t.contains c
  | symmDiff s t, c => s.contains c != t.contains c
  | caseless d, c => Text.fold c == Text.fold d
  | folded s, c => (Text.foldVariants c).any s.contains

/-- The union of several sets. -/
def unions (sets : List CharSet) : CharSet :=
  sets.foldr union none

/-- Any character except the line feed. -/
def anyInLine : CharSet := compl (single '\n')

end CharSet

end FederatedSearch.Regex
