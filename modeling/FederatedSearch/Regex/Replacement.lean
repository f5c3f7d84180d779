import FederatedSearch.Regex.Matching
import FederatedSearch.WordRange

/-!
# Replacing matches

A replacement text may refer to the groups of a match: `$1` and `$name` by the longest run of
ASCII letters, digits and underscores, `$` and a name in braces exactly. Two dollar signs stand
for one. A group that does not exist or took no part in the match is replaced by nothing.
-/

namespace FederatedSearch.Regex

/-- A part of a replacement text. -/
inductive ReplacementPart
  | char (c : Char)
  | group (name : List Char)
  deriving DecidableEq, Repr

/-- Whether a character may stand in a name that is not in braces. -/
def isNameChar (c : Char) : Bool :=
  Text.isAsciiLetter c || Text.isAsciiDigit c || c == '_'

/-- The brace that opens a name. -/
def openBrace : Char := Char.ofNat 0x7B

/-- The brace that closes a name. -/
def closeBrace : Char := Char.ofNat 0x7D

/-- The reference that follows a dollar sign, and what is left after it. -/
def readReference (text : List Char) : Option (List Char × List Char) :=
  match text with
  | [] => none
  | c :: rest =>
    if c = openBrace then
      match rest.dropWhile (· != closeBrace) with
      | [] => none
      | _ :: after => some (rest.takeWhile (· != closeBrace), after)
    else
      let name := text.takeWhile isNameChar
      if name.isEmpty then none else some (name, text.dropWhile isNameChar)

/-- The parts of a replacement text. -/
def replacementParts (fuel : Nat) (text : List Char) : List ReplacementPart :=
  match fuel, text with
  | 0, _ => []
  | _, [] => []
  | fuel + 1, '$' :: '$' :: rest => .char '$' :: replacementParts fuel rest
  | fuel + 1, '$' :: rest =>
    match readReference rest with
    | some (name, after) => .group name :: replacementParts fuel after
    | none => .char '$' :: replacementParts fuel rest
  | fuel + 1, c :: rest => .char c :: replacementParts fuel rest

/-- The number that a reference stands for: an optional plus sign and digits. -/
def groupNumber? (name : List Char) : Option Nat :=
  let digits := match name with
    | '+' :: rest => rest
    | _ => name
  if digits.isEmpty || !digits.all Text.isAsciiDigit then none
  else
    let value := digits.foldl (fun n c => n * 10 + (c.toNat - 48)) 0
    if value ≤ WordRange.greatestUnsigned then some value else none

/-- The characters of a text between two positions. -/
def slice (text : Array Char) (start stop : Nat) : List Char :=
  (text.toList.drop start).take (stop - start)

/-- What a part of the replacement becomes for a match from `start` to where `p` stands. -/
def expandPart (regex : Regex) (text : Array Char) (start : Nat) (p : Progress) :
    ReplacementPart → List Char
  | .char c => [c]
  | .group name =>
    let stretch := match groupNumber? name with
      | some 0 => some (start, p.position)
      | some n => p.group? n
      | none => (regex.names.lookup (String.ofList name)).bind p.group?
    match stretch with
    | some (first, last) => slice text first last
    | none => []

/-- The matches of a pattern in a text, from left to right. An empty match directly after the
previous match is passed over. -/
def matchesFrom (pattern : Pattern) (text : Array Char) :
    (fuel start : Nat) → (last : Option Nat) → List (Nat × Progress)
  | 0, _, _ => []
  | fuel + 1, start, last =>
    match find? pattern text start with
    | none => []
    | some (at_, p) =>
      if at_ = p.position ∧ last = some p.position then
        match find? pattern text (start + 1) with
        | none => []
        | some (at_, p) => (at_, p) :: matchesFrom pattern text fuel p.position (some p.position)
      else (at_, p) :: matchesFrom pattern text fuel p.position (some p.position)

/-- All matches of a pattern in a text that do not overlap. -/
def allMatches (pattern : Pattern) (text : Array Char) : List (Nat × Progress) :=
  matchesFrom pattern text (2 * text.size + 2) 0 none

/-- Puts the replacements in the places of the matches. -/
def spliceMatches (regex : Regex) (text : Array Char) (parts : List ReplacementPart) (start : Nat) :
    List (Nat × Progress) → List Char
  | [] => slice text start text.size
  | (at_, p) :: rest =>
    slice text start at_ ++ parts.flatMap (expandPart regex text at_ p) ++
      spliceMatches regex text parts p.position rest

end FederatedSearch.Regex

namespace FederatedSearch

/-- Replaces every match in a text. -/
def Regex.replaceAll (regex : Regex) (text replacement : String) : String :=
  let chars := text.toList.toArray
  let parts := Regex.replacementParts (replacement.length + 1) replacement.toList
  String.ofList (Regex.spliceMatches regex chars parts 0 (Regex.allMatches regex.pattern chars))

end FederatedSearch
