import FederatedSearch.Regex.Syntax

/-!
# Matching patterns

`Pattern.matches` lists all ways a pattern can match from a position, the preferred ways first.
Of two ways that end at one position only the preferred one is kept: what follows depends on the
position alone, so the other one could never be chosen. A search takes the leftmost position
with a match and the preferred way there.

A round of a repetition that matches the empty stretch is allowed only as the first round, and
it is the last one: from one position another such round would lead nowhere new.
-/

namespace FederatedSearch.Regex

/-- A position in a text and the stretches that groups have matched on the way to it. -/
structure Progress where
  position : Nat
  groups : List (Nat × Nat × Nat)
  deriving Repr, Inhabited

namespace Progress

/-- The stretch that a group matched last. -/
def group? (p : Progress) (index : Nat) : Option (Nat × Nat) :=
  p.groups.lookup index

/-- Keeps the first of all entries with one position. -/
def firsts (seen : List Nat) : List Progress → List Progress
  | [] => []
  | p :: rest =>
    if seen.contains p.position then firsts seen rest
    else p :: firsts (p.position :: seen) rest

end Progress

/-- Whether the character before a position is part of a word. -/
def wordBefore (text : Array Char) (position : Nat) : Bool :=
  if position = 0 then false else (text[position - 1]?).any Text.isWord

/-- Whether the character at a position is part of a word. -/
def wordAt (text : Array Char) (position : Nat) : Bool :=
  (text[position]?).any Text.isWord

/-- Whether a condition holds at a position. -/
def Anchor.holds (text : Array Char) (position : Nat) : Anchor → Bool
  | textStart => position == 0
  | textEnd => position == text.size
  | lineStart => position == 0 || text[position - 1]? == some '\n'
  | lineEnd => position == text.size || text[position]? == some '\n'
  | wordBoundary => wordBefore text position != wordAt text position
  | notWordBoundary => wordBefore text position == wordAt text position
  | wordStart => !wordBefore text position && wordAt text position
  | wordEnd => wordBefore text position && !wordAt text position
  | wordStartHalf => !wordBefore text position
  | wordEndHalf => !wordAt text position

/-- Follows one step from each of several entries and then from each of its results, as `visit`
says, keeping track of the positions seen. -/
def gather {α : Type} (visit : List α → Progress → List Progress × List α) (seen : List α)
    (entries : List Progress) : List Progress × List α :=
  entries.foldl (fun (found, seen) p =>
    let (more, seen) := visit seen p
    (found ++ more, seen)) ([], seen)

/-- Further rounds without bound after a round that ended at `p`. No round is begun at a position
where one was begun before, nor at `origin`, where the first one was. -/
def moreRounds (round : Progress → List Progress) (greedy : Bool) (origin : Nat) :
    Nat → List Nat → Progress → List Progress × List Nat
  | 0, seen, p => ([p], seen)
  | fuel + 1, seen, p =>
    if seen.contains p.position then ([], seen)
    else
      let next := if p.position = origin then [] else
        (round p).filter (p.position < ·.position)
      let (found, seen) := gather (moreRounds round greedy origin fuel) (p.position :: seen) next
      (if greedy then found ++ [p] else p :: found, seen)

/-- At most `count` further rounds from `p`. -/
def upToRounds (round : Progress → List Progress) (greedy : Bool) :
    (count : Nat) → List (Nat × Nat) → Progress → List Progress × List (Nat × Nat)
  | 0, seen, p =>
    if seen.contains (0, p.position) then ([], seen) else ([p], (0, p.position) :: seen)
  | count + 1, seen, p =>
    if seen.contains (count + 1, p.position) then ([], seen)
    else
      let (found, seen) :=
        gather (upToRounds round greedy count) ((count + 1, p.position) :: seen) (round p)
      (if greedy then found ++ [p] else p :: found, seen)

/-- Exactly `count` rounds from each of several entries. -/
def exactRounds (round : Progress → List Progress) : (count : Nat) → List Progress → List Progress
  | 0, entries => entries
  | count + 1, entries => exactRounds round count (Progress.firsts [] (entries.flatMap round))

/-- One or more rounds from `p` in a text of `size` characters. -/
def someRounds (round : Progress → List Progress) (greedy : Bool) (size : Nat) (p : Progress) :
    List Progress :=
  (gather (moreRounds round greedy p.position (size + 2)) [] (round p)).1

/-- All ways a pattern can match from where `p` stands, the preferred ways first. -/
def Pattern.matches (text : Array Char) : Pattern → Progress → List Progress
  | empty, p => [p]
  | one set, p =>
    match text[p.position]? with
    | some c => if set.contains c then [{ p with position := p.position + 1 }] else []
    | none => []
  | anchor a, p => if a.holds text p.position then [p] else []
  | group index inner, p =>
    (inner.matches text p).map fun q =>
      { q with groups := (index, p.position, q.position) :: q.groups }
  | seq first second, p =>
    Progress.firsts [] ((first.matches text p).flatMap (second.matches text))
  | alt preferred other, p =>
    Progress.firsts [] (preferred.matches text p ++ other.matches text p)
  | rounds inner least most greedy, p =>
    Progress.firsts [] <| match most with
      | some most =>
        (exactRounds (inner.matches text) least [p]).flatMap fun q =>
          (upToRounds (inner.matches text) greedy (most - least) [] q).1
      | none =>
        if least = 0 then
          let found := someRounds (inner.matches text) greedy text.size p
          if greedy then found ++ [p] else p :: found
        else
          (exactRounds (inner.matches text) (least - 1) [p]).flatMap
            (someRounds (inner.matches text) greedy text.size)

/-- The preferred match that starts at a position. -/
def matchAt? (pattern : Pattern) (text : Array Char) (start : Nat) : Option Progress :=
  (pattern.matches text ⟨start, []⟩).head?

/-- The leftmost match that starts at `start` or after it: where it starts, and its end. The
search tries `tries` positions. -/
def findFrom? (pattern : Pattern) (text : Array Char) (start : Nat) :
    (tries : Nat) → Option (Nat × Progress)
  | 0 => none
  | tries + 1 =>
    match matchAt? pattern text start with
    | some p => some (start, p)
    | none => findFrom? pattern text (start + 1) tries

/-- The leftmost match in a text at `start` or after it. -/
def find? (pattern : Pattern) (text : Array Char) (start : Nat) : Option (Nat × Progress) :=
  findFrom? pattern text start (text.size + 1 - start)

end FederatedSearch.Regex

namespace FederatedSearch

/-- Whether a pattern matches anywhere in a text. -/
def Regex.isMatch (regex : Regex) (text : String) : Bool :=
  let chars := text.toList.toArray
  (Regex.find? regex.pattern chars 0).isSome

end FederatedSearch
