import FederatedSearch.Text.CharClass
import FederatedSearch.Text.LetterCase
import Mathlib.Tactic.Common

/-!
# What classes of characters have in common

White space is a small class, so that a fact about all of it is checked character by character.
-/

namespace FederatedSearch.Text

/-- The characters that ranges cover, one by one. -/
def CodeRange.members (ranges : List CodeRange) : List Char :=
  ranges.flatMap fun range =>
    (List.range' range.first (range.last + 1 - range.first)).map Char.ofNat

/-- A covered character is listed. -/
theorem CodeRange.mem_members {ranges : List CodeRange} {c : Char}
    (covered : covers ranges c = true) : c ∈ members ranges := by
  obtain ⟨range, member, low, high⟩ := covers_iff.mp covered
  refine List.mem_flatMap.mpr ⟨range, member, List.mem_map.mpr ⟨c.toNat, ?_, Char.ofNat_toNat c⟩⟩
  rw [List.mem_range'_1]
  omega

variable {c d : Char}

/-- What fails on all listed white space fails on white space. -/
theorem eq_false_of_isWhitespace {p : Char → Bool}
    (none : (CodeRange.members whitespaceRanges).any p = false) (blank : isWhitespace c = true) :
    p c = false := by
  rw [List.any_eq_false] at none
  simpa using none c (CodeRange.mem_members blank)

/-- White space holds no digits. -/
theorem isDigit_of_isWhitespace (blank : isWhitespace c = true) : isDigit c = false :=
  eq_false_of_isWhitespace (by decide +kernel) blank

/-- Digits are no white space. -/
theorem isWhitespace_of_isDigit (digit : isDigit c = true) : isWhitespace c = false := by
  by_contra blank
  rw [isDigit_of_isWhitespace (Bool.not_eq_false _ ▸ blank)] at digit
  cases digit

/-- White space holds no letters and no numerals. -/
theorem isAlphanumeric_of_isWhitespace (blank : isWhitespace c = true) :
    isAlphanumeric c = false :=
  eq_false_of_isWhitespace (by decide +kernel) blank

/-- Digits do not come in cases. -/
theorem asciiLower_of_isDigit (digit : isDigit c = true) : asciiLower c = c := by
  unfold asciiLower
  split
  · rename_i capital
    have small : c.val < 128 := by
      have bound := UInt32.le_iff_toNat_le.mp (Char.le_def.mp capital.2)
      exact UInt32.lt_iff_toNat_lt.mpr (Nat.lt_of_le_of_lt bound (by decide))
    rw [isDigit, if_pos small, isAsciiDigit, Bool.and_eq_true, decide_eq_true_eq,
      decide_eq_true_eq] at digit
    exact absurd (Char.le_trans capital.1 digit.2) (by decide)
  · rfl

/-- ASCII digits are in ASCII. -/
theorem val_lt_of_isAsciiDigit (digit : isAsciiDigit c = true) : c.val < 128 := by
  rw [isAsciiDigit, Bool.and_eq_true, decide_eq_true_eq, decide_eq_true_eq] at digit
  have bound := UInt32.le_iff_toNat_le.mp (Char.le_def.mp digit.2)
  exact UInt32.lt_iff_toNat_lt.mpr (Nat.lt_of_le_of_lt bound (by decide))

/-- ASCII digits are numeric. -/
theorem isNumeric_of_isAsciiDigit (digit : isAsciiDigit c = true) : isNumeric c = true := by
  rw [isNumeric, if_pos (val_lt_of_isAsciiDigit digit), digit]

/-- Digits are no letters. -/
theorem isAlphabetic_of_isAsciiDigit (digit : isAsciiDigit c = true) : isAlphabetic c = false := by
  rw [isAlphabetic, if_pos (val_lt_of_isAsciiDigit digit), isAsciiLetter]
  simp [isAsciiDigit, Char.le_def, UInt32.le_iff_toNat_le] at digit ⊢
  omega

/-- The letters of the ASCII range are letters. -/
theorem isAlphabetic_of_isAsciiLetter (letter : isAsciiLetter c = true) : isAlphabetic c = true := by
  have small : c.val < 128 := by
    have last : c ≤ 'z' ∨ c ≤ 'Z' := by
      simp only [isAsciiLetter, Bool.or_eq_true, Bool.and_eq_true, decide_eq_true_eq] at letter
      exact letter.imp And.right And.right
    rcases last with high | high
    · have bound := UInt32.le_iff_toNat_le.mp (Char.le_def.mp high)
      exact UInt32.lt_iff_toNat_lt.mpr (Nat.lt_of_le_of_lt bound (by decide))
    · have bound := UInt32.le_iff_toNat_le.mp (Char.le_def.mp high)
      exact UInt32.lt_iff_toNat_lt.mpr (Nat.lt_of_le_of_lt bound (by decide))
  rw [isAlphabetic, if_pos small, letter]

/-- What becomes a letter in capitals is a letter. -/
theorem isAsciiLetter_of_asciiUpper (letter : isAsciiLetter (asciiUpper c) = true) :
    isAsciiLetter c = true := by
  rw [asciiUpper] at letter
  split at letter
  · rename_i small
    simp [isAsciiLetter, small]
  · exact letter

/-- A digit differs from what is none. -/
theorem ne_of_isDigit (digit : isDigit c = true) (other : isDigit d = false) : c ≠ d := by
  rintro rfl
  rw [digit] at other
  cases other

end FederatedSearch.Text
