import FederatedSearch.Regex.Reader

/-!
# LIKE patterns

In a LIKE pattern a percent sign stands for any characters, an underscore for one character, and
every other character for itself. A pattern is carried out as a regular expression that is tied
to both ends of the text, except where it begins or ends with a percent sign.
-/

namespace FederatedSearch

namespace Like

/-- A literal character of a regular expression. -/
def escapeLiteral (c : Char) : List Char :=
  if Regex.isMeta c then ['\\', c] else [c]

/-- What one character of a LIKE pattern becomes. -/
def expand (c : Char) : List Char :=
  if c = '%' then ['.', '*'] else if c = '_' then ['.'] else escapeLiteral c

/-- The regular expression of a LIKE pattern, as text. -/
def toRegexText (pattern : String) : String :=
  let chars := pattern.toList
  let start := if chars.head? = some '%' then [] else ['^']
  let stop := if chars.getLast? = some '%' then [] else ['$']
  String.ofList (start ++ chars.flatMap expand ++ stop)

end Like

end FederatedSearch
