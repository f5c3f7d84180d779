import FederatedSearch.Query.Like
import Mathlib.Data.List.Forall2

/-!
# What LIKE patterns mean

A text is of the form of a LIKE pattern when it can be cut into pieces, one for each character of
the pattern: any piece for a percent sign, one character for an underscore, and for every other
character one that counts as the same. Which characters count as the same is left open, since
sources differ in the letter case that they know.
-/

namespace FederatedSearch.Like

variable {same : Char → Char → Prop}

/-- A text as a whole is of the form of a pattern. -/
inductive Fits (same : Char → Char → Prop) : List Char → List Char → Prop
  | nil : Fits same [] []
  | percent {pattern text : List Char} (skipped : List Char) (rest : Fits same pattern text) :
    Fits same ('%' :: pattern) (skipped ++ text)
  | underscore {pattern text : List Char} (c : Char) (rest : Fits same pattern text) :
    Fits same ('_' :: pattern) (c :: text)
  | letter {p c : Char} {pattern text : List Char} (notPercent : p ≠ '%')
    (notUnderscore : p ≠ '_') (alike : same p c) (rest : Fits same pattern text) :
    Fits same (p :: pattern) (c :: text)

/-- What one character of a pattern may stand for. -/
def Piece (same : Char → Char → Prop) (p : Char) (taken : List Char) : Prop :=
  if p = '%' then True else ∃ c, taken = [c] ∧ (p = '_' ∨ same p c)

/-- No character of the pattern, no character of the text. -/
theorem fits_nil_iff {text : List Char} : Fits same [] text ↔ text = [] := by
  constructor
  · rintro ⟨⟩
    rfl
  · rintro rfl
    exact .nil

/-- A text is of the form of a pattern when it begins with what the first character stands for, and
the rest is of the form of the others. -/
theorem fits_cons_iff {p : Char} {pattern text : List Char} :
    Fits same (p :: pattern) text ↔
      ∃ taken rest, text = taken ++ rest ∧ Piece same p taken ∧ Fits same pattern rest := by
  constructor
  · intro fits
    cases fits with
    | percent skipped rest => exact ⟨skipped, _, rfl, trivial, rest⟩
    | underscore c rest => exact ⟨[c], _, rfl, ⟨c, rfl, .inl rfl⟩, rest⟩
    | @letter _ c _ _ notPercent notUnderscore alike rest =>
      refine ⟨[c], _, rfl, ?_, rest⟩
      rw [Piece, if_neg notPercent]
      exact ⟨c, rfl, .inr alike⟩
  · rintro ⟨taken, rest, rfl, piece, fits⟩
    unfold Piece at piece
    split at piece
    · rename_i percent
      subst percent
      exact .percent taken fits
    · rename_i notPercent
      obtain ⟨c, rfl, alike⟩ := piece
      by_cases underscore : p = '_'
      · subst underscore
        exact .underscore c fits
      · exact .letter notPercent underscore (alike.resolve_left underscore) fits

namespace Fits

variable {pattern text : List Char}

/-- A percent sign at the start takes whatever stands before the text. -/
theorem prepend (fits : Fits same pattern text) (start : pattern.head? = some '%')
    (more : List Char) : Fits same pattern (more ++ text) := by
  cases fits with
  | nil => cases start
  | percent skipped rest =>
    rw [← List.append_assoc]
    exact .percent (more ++ skipped) rest
  | underscore c rest => cases start
  | letter notPercent notUnderscore alike rest =>
    exact absurd (Option.some.inj start) notPercent

/-- A percent sign at the end takes whatever stands after the text. -/
theorem append (fits : Fits same pattern text) (stop : pattern.getLast? = some '%')
    (more : List Char) : Fits same pattern (text ++ more) := by
  induction fits with
  | nil => cases stop
  | @percent pattern text skipped rest ih =>
    rw [List.append_assoc]
    cases pattern with
    | nil =>
      cases rest
      rw [List.nil_append, ← List.append_nil (skipped ++ more)]
      exact .percent (skipped ++ more) .nil
    | cons p pattern =>
      rw [List.getLast?_cons_cons] at stop
      exact .percent skipped (ih stop)
  | @underscore pattern text c rest ih =>
    cases pattern with
    | nil => cases stop
    | cons p pattern =>
      rw [List.getLast?_cons_cons] at stop
      exact .underscore c (ih stop)
  | @letter p c pattern text notPercent notUnderscore alike rest ih =>
    cases pattern with
    | nil => exact absurd (Option.some.inj stop) notPercent
    | cons q pattern =>
      rw [List.getLast?_cons_cons] at stop
      exact .letter notPercent notUnderscore alike (ih stop)

end Fits

/-- A percent sign takes nothing, or the first character and more. -/
theorem fits_percent_iff {pattern text : List Char} :
    Fits same ('%' :: pattern) text ↔
      Fits same pattern text ∨ ∃ c rest, text = c :: rest ∧ Fits same ('%' :: pattern) rest := by
  constructor
  · intro fits
    obtain ⟨taken, rest, rfl, -, others⟩ := fits_cons_iff.mp fits
    cases taken with
    | nil => exact .inl others
    | cons c taken => exact .inr ⟨c, taken ++ rest, rfl, .percent taken others⟩
  · rintro (fits | ⟨c, rest, rfl, fits⟩)
    · exact .percent [] fits
    · exact fits.prepend rfl [c]

/-- Every other character of a pattern takes one character. -/
theorem fits_of_ne_percent_iff {p : Char} {pattern text : List Char} (single : p ≠ '%') :
    Fits same (p :: pattern) text ↔
      ∃ c rest, text = c :: rest ∧ (p = '_' ∨ same p c) ∧ Fits same pattern rest := by
  rw [fits_cons_iff]
  simp only [Piece, if_neg single]
  constructor
  · rintro ⟨_, rest, rfl, ⟨c, rfl, alike⟩, fits⟩
    exact ⟨c, rest, rfl, alike, fits⟩
  · rintro ⟨c, rest, rfl, alike, fits⟩
    exact ⟨[c], rest, rfl, ⟨c, rfl, alike⟩, fits⟩

section Map

variable {f : Char → Char}

/-- A map that keeps which characters are the same keeps which stretches are pieces. -/
theorem piece_map_iff (kept : ∀ p c, same p (f c) ↔ same p c) {p : Char} {taken : List Char} :
    Piece same p (taken.map f) ↔ Piece same p taken := by
  unfold Piece
  split
  · exact Iff.rfl
  · constructor
    · rintro ⟨_, single, alike⟩
      obtain ⟨c, rfl, rfl⟩ := List.map_eq_singleton_iff.mp single
      exact ⟨c, rfl, alike.imp_right (kept p c).mp⟩
    · rintro ⟨c, rfl, alike⟩
      exact ⟨f c, rfl, alike.imp_right (kept p c).mpr⟩

/-- Characters of a text may be replaced by others that count as the same. -/
theorem fits_map_iff (kept : ∀ p c, same p (f c) ↔ same p c) {pattern text : List Char} :
    Fits same pattern (text.map f) ↔ Fits same pattern text := by
  induction pattern generalizing text with
  | nil => rw [fits_nil_iff, fits_nil_iff, List.map_eq_nil_iff]
  | cons p pattern ih =>
    rw [fits_cons_iff, fits_cons_iff]
    constructor
    · rintro ⟨_, _, cut, here, fits⟩
      obtain ⟨taken, rest, rfl, rfl, rfl⟩ := List.map_eq_append_iff.mp cut
      exact ⟨taken, rest, rfl, (piece_map_iff kept).mp here, ih.mp fits⟩
    · rintro ⟨taken, rest, rfl, here, fits⟩
      exact ⟨taken.map f, rest.map f, List.map_append, (piece_map_iff kept).mpr here, ih.mpr fits⟩

end Map

/-- A pattern without wildcards is a text, up to which characters count as the same. -/
theorem fits_iff_forall₂ {pattern text : List Char} (percent : '%' ∉ pattern)
    (underscore : '_' ∉ pattern) : Fits same pattern text ↔ List.Forall₂ same pattern text := by
  constructor
  · intro fits
    induction fits with
    | nil => exact .nil
    | percent skipped rest => exact absurd (List.mem_cons_self ..) percent
    | underscore c rest => exact absurd (List.mem_cons_self ..) underscore
    | letter notPercent notUnderscore alike rest ih =>
      exact .cons alike (ih (mt (List.mem_cons_of_mem _) percent)
        (mt (List.mem_cons_of_mem _) underscore))
  · intro pairs
    induction pairs with
    | nil => exact .nil
    | cons alike rest ih =>
      rw [List.mem_cons, not_or] at percent underscore
      exact .letter (Ne.symm percent.1) (Ne.symm underscore.1) alike (ih percent.2 underscore.2)

end FederatedSearch.Like
