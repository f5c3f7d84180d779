import FederatedSearch.Query.Like

/-!
# The regular expression of a LIKE pattern

The text that `Like.toRegexText` writes is always a regular expression: `ofText_toRegexText` says
which one, part by part. Its characters are read one after the other, each as what it stands for
in the LIKE pattern, so nothing that a pattern holds can be taken for an operator.
-/

namespace FederatedSearch

namespace Regex

/-- A text that is left to read outside of groups, without regard to letter case. -/
def caselessReading (text : List Char) : Reading :=
  ⟨text, { ignoreCase := true }, 0, []⟩

/-- The characters that a part of a pattern is not read from: they end an alternative, repeat a
part, or open a class or a group. -/
def structural : List Char :=
  ['|', ')', '*', '+', '?', '[', '(', Char.ofNat 0x7B]

/-- One step of reading adds one part. -/
theorem readParts_of_readItem {fuel : Nat} {parts : List (Option Pattern)} {c : Char}
    {text rest : List Char} {part : Pattern} (ordinary : c ∉ structural)
    (item : readItem { ignoreCase := true } (c :: text) = some (part, rest)) :
    readParts (fuel + 1) parts (caselessReading (c :: text)) =
      readParts fuel (some part :: parts) (caselessReading rest) := by
  rw [readParts]
  simp only [caselessReading, Reading.skipped, skip, Reading.at_, Bool.false_eq_true, if_false]
  split
  case h_9 d more same =>
    obtain ⟨rfl, rfl⟩ := List.cons.inj same
    have notBrace : c ≠ Char.ofNat 0x7B := by
      rintro rfl
      exact ordinary (by decide)
    rw [if_neg notBrace, item]
  all_goals simp_all [structural]

/-- A character without a meaning of its own is read as itself. -/
theorem readParts_plain {fuel : Nat} {parts : List (Option Pattern)} {c : Char} {rest : List Char}
    (plain : isMeta c = false) :
    readParts (fuel + 1) parts (caselessReading (c :: rest)) =
      readParts fuel (some (.one (.caseless c)) :: parts) (caselessReading rest) := by
  apply readParts_of_readItem
  · intro member
    simp only [structural, List.mem_cons, List.not_mem_nil, or_false] at member
    rcases member with rfl | rfl | rfl | rfl | rfl | rfl | rfl | rfl
    all_goals exact absurd plain (by decide)
  · unfold readItem
    split
    all_goals simp_all [isMeta, Item.toPattern]

/-- A backslash takes the meaning from the character after it. -/
theorem readParts_escaped {fuel : Nat} {parts : List (Option Pattern)} {c : Char}
    {rest : List Char} (special : isMeta c = true) :
    readParts (fuel + 1) parts (caselessReading ('\\' :: c :: rest)) =
      readParts fuel (some (.one (.caseless c)) :: parts) (caselessReading rest) := by
  apply readParts_of_readItem (by decide)
  simp [readItem, readEscape, special, Item.toPattern]

/-- A star repeats the part before it, and as often as it can unless a question mark follows. -/
theorem readParts_star {fuel : Nat} {parts : List (Option Pattern)} {last : Pattern}
    {rest : List Char} (eager : rest.head? ≠ some '?') :
    readParts (fuel + 1) (some last :: parts) (caselessReading ('*' :: rest)) =
      readParts fuel (some (.rounds last 0 none true) :: parts) (caselessReading rest) := by
  have greedy : readLazy false rest = (false, rest) := by
    simp only [readLazy, skip]
    split
    · simp_all
    · rfl
  rw [readParts]
  simp only [caselessReading, Reading.skipped, skip, Reading.at_, Bool.false_eq_true, if_false]
  rw [greedy]
  rfl

end Regex

namespace Like

/-- What one character of a LIKE pattern stands for. -/
def part (c : Char) : Regex.Pattern :=
  if c = '%' then .rounds (.one .anyInLine) 0 none true
  else if c = '_' then .one .anyInLine
  else .one (.caseless c)

/-- The anchor at an end of a pattern, unless a percent sign stands there. -/
def anchorAt (a : Regex.Anchor) (end_ : Option Char) : List Regex.Pattern :=
  if end_ = some '%' then [] else [.anchor a]

/-- What a LIKE pattern stands for, part by part. -/
def parts (pattern : List Char) : List Regex.Pattern :=
  anchorAt .textStart pattern.head? ++ pattern.map part ++ anchorAt .textEnd pattern.getLast?

/-- How many steps it takes to read what a character is written as. -/
def stepsOf (c : Char) : Nat :=
  if c = '%' then 2 else 1

/-- How many steps it takes to read the characters of a pattern. -/
def steps : List Char → Nat
  | [] => 0
  | c :: rest => steps rest + stepsOf c

/-- No character is written with a leading question mark. -/
theorem head_flatMap_expand_ne (pattern rest : List Char) (next : rest.head? ≠ some '?') :
    (pattern.flatMap expand ++ rest).head? ≠ some '?' := by
  cases pattern with
  | nil => exact next
  | cons c more =>
    simp only [List.flatMap_cons, expand, escapeLiteral]
    split
    · simp
    · split
      · simp
      · split
        · simp
        · rename_i plain
          simp only [List.cons_append, List.nil_append, List.head?_cons, ne_eq, Option.some.injEq]
          rintro rfl
          exact plain (by decide)

/-- Reading what a character is written as yields its part. -/
theorem readParts_expand {fuel : Nat} {before : List (Option Regex.Pattern)} (c : Char)
    {rest : List Char} (eager : rest.head? ≠ some '?') :
    Regex.readParts (fuel + stepsOf c) before (Regex.caselessReading (expand c ++ rest)) =
      Regex.readParts fuel (some (part c) :: before) (Regex.caselessReading rest) := by
  by_cases percent : c = '%'
  · subst percent
    exact (Regex.readParts_of_readItem (by decide) rfl).trans (Regex.readParts_star eager)
  · by_cases underscore : c = '_'
    · subst underscore
      exact Regex.readParts_of_readItem (by decide) rfl
    · simp only [part, expand, escapeLiteral, stepsOf, if_neg percent, if_neg underscore]
      split
      · exact Regex.readParts_escaped ‹_›
      · exact Regex.readParts_plain (Bool.eq_false_iff.mpr ‹_›)

/-- Reading what the characters of a pattern are written as yields their parts, the last one on
top. -/
theorem readParts_flatMap_expand (pattern : List Char) {fuel : Nat}
    {before : List (Option Regex.Pattern)} {rest : List Char} (next : rest.head? ≠ some '?') :
    Regex.readParts (fuel + steps pattern) before
        (Regex.caselessReading (pattern.flatMap expand ++ rest)) =
      Regex.readParts fuel ((pattern.map fun c => some (part c)).reverse ++ before)
        (Regex.caselessReading rest) := by
  induction pattern generalizing before with
  | nil => rfl
  | cons c more ih =>
    have eager := head_flatMap_expand_ne more rest next
    rw [List.flatMap_cons, List.append_assoc, steps, ← Nat.add_assoc, readParts_expand c eager, ih]
    simp

/-- The anchor at an end of a pattern is read as one, or was not written. -/
theorem readParts_anchor (fuel : Nat) (before : List (Option Regex.Pattern)) {written : Char}
    {a : Regex.Anchor} {rest : List Char} (end_ : Option Char)
    (ordinary : written ∉ Regex.structural)
    (item : Regex.readItem { ignoreCase := true } (written :: rest) = some (.anchor a, rest)) :
    Regex.readParts (fuel + (if end_ = some '%' then [] else [written]).length) before
        (Regex.caselessReading ((if end_ = some '%' then [] else [written]) ++ rest)) =
      Regex.readParts fuel ((anchorAt a end_).map some ++ before) (Regex.caselessReading rest) := by
  unfold anchorAt
  split
  · rfl
  · exact Regex.readParts_of_readItem ordinary item

/-- A character is written with at least as many characters as it takes steps to read. -/
theorem steps_le (pattern : List Char) :
    steps pattern ≤ (pattern.flatMap expand).length := by
  induction pattern with
  | nil => exact Nat.le_refl _
  | cons c more ih =>
    have one : stepsOf c ≤ (expand c).length := by
      unfold stepsOf expand escapeLiteral
      split
      · exact Nat.le_refl _
      · split
        · exact Nat.le_refl _
        · split <;> simp
    rw [steps, List.flatMap_cons, List.length_append]
    omega

/-- An anchor alone is the same in either direction. -/
theorem reverse_anchorAt (a : Regex.Anchor) (end_ : Option Char) :
    (anchorAt a end_).reverse = anchorAt a end_ := by
  unfold anchorAt
  split <;> rfl

/-- The text of a pattern is read to its end, into the parts of the pattern. -/
theorem readParts_toRegexText (pattern : String) :
    Regex.readParts (4 * (toRegexText pattern).length + 3) []
        (Regex.caselessReading (toRegexText pattern).toList) =
      some (.sequence (parts pattern.toList), Regex.caselessReading []) := by
  let chars := pattern.toList
  let start := if chars.head? = some '%' then [] else ['^']
  let stop := if chars.getLast? = some '%' then [] else ['$']
  have text : (toRegexText pattern).toList = start ++ (chars.flatMap expand ++ stop) := by
    rw [toRegexText, String.toList_ofList, List.append_assoc]
  -- One unit of fuel is left when the end of the text is reached.
  obtain ⟨fuel, enough⟩ : ∃ fuel, 4 * (toRegexText pattern).length + 3 =
      fuel + 1 + stop.length + steps chars + start.length := by
    have few := steps_le chars
    have length := congrArg List.length text
    rw [String.length_toList, List.length_append, List.length_append] at length
    exact ⟨4 * (toRegexText pattern).length + 2 -
      (stop.length + steps chars + start.length), by omega⟩
  have notQuestion : stop.head? ≠ some '?' := by
    simp only [stop]
    split <;> simp
  have ending : ∀ before, Regex.readParts (fuel + 1 + stop.length) before
        (Regex.caselessReading stop) =
      some (Regex.joinParts ((anchorAt .textEnd chars.getLast?).map some ++ before),
        Regex.caselessReading []) := by
    intro before
    have item : Regex.readItem { ignoreCase := true } ['$'] = some (.anchor .textEnd, []) := rfl
    have step := readParts_anchor (fuel + 1) before chars.getLast? (by decide) item
    rw [List.append_nil] at step
    exact step
  rw [enough, text, readParts_anchor _ _ (a := .textStart) chars.head? (by decide) rfl,
    readParts_flatMap_expand chars notQuestion, ending]
  simp [Regex.joinParts, parts, ← List.map_reverse, reverse_anchorAt, chars]

/-- What a LIKE pattern is written as is the regular expression of its parts. -/
theorem ofText_toRegexText (pattern : String) :
    Regex.ofTextIgnoringCase? (toRegexText pattern) =
      some ⟨.sequence (parts pattern.toList), []⟩ := by
  have read := readParts_toRegexText pattern
  rw [Regex.caselessReading] at read
  rw [Regex.ofTextIgnoringCase?, Regex.read?, Regex.readAlternatives, read]
  rfl

end Like

end FederatedSearch
