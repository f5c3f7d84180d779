import FederatedSearch.Text.LetterCase
import Mathlib.Data.List.Forall2
import Mathlib.Tactic.SplitIfs

/-!
# Two lower-case forms of a text

A text can be put into lower case with all letters or with those of ASCII alone. The two forms
agree exactly for a text of letters that both treat alike, and neither makes a percent sign or an
underscore out of another character.
-/

namespace FederatedSearch.Text

variable {c d : Char}

/-! ## ASCII letters -/

/-- Two characters are the same letter of ASCII, whatever its case, or the same character. -/
def SameAscii (a b : Char) : Prop :=
  asciiLower a = asciiLower b

instance (a b : Char) : Decidable (SameAscii a b) :=
  inferInstanceAs (Decidable (asciiLower a = asciiLower b))

/-- A code that no character has stands for the character of code 0. -/
theorem toNat_ofNat_eq_or (n : Nat) :
    (Char.ofNat n).toNat = n ∨ (Char.ofNat n).toNat = 0 := by
  by_cases valid : n.isValidChar
  · exact .inl (by rw [Char.ofNat, dif_pos valid]; rfl)
  · exact .inr (by rw [Char.ofNat, dif_neg valid]; rfl)

/-- A character is in ASCII by its code, in whichever type this is compared. -/
theorem val_lt_iff : c.val < 128 ↔ c.toNat < 128 :=
  UInt32.lt_iff_toNat_lt

/-- Lowering adds 32 to the codes of the capitals and to no others. -/
theorem toNat_asciiLower (c : Char) :
    (asciiLower c).toNat = if 65 ≤ c.toNat ∧ c.toNat ≤ 90 then c.toNat + 32 else c.toNat := by
  have capital : ('A' ≤ c ∧ c ≤ 'Z') ↔ 65 ≤ c.toNat ∧ c.toNat ≤ 90 := Iff.rfl
  unfold asciiLower
  simp only [capital]
  split
  · rw [Char.ofNat, dif_pos (.inl (by omega))]
    rfl
  · rfl

/-- Which of two characters comes first does not matter. -/
theorem SameAscii.symm (same : SameAscii c d) : SameAscii d c :=
  Eq.symm same

/-- A letter is the same as its lower-case form. -/
theorem sameAscii_asciiLower_iff : SameAscii c (asciiLower d) ↔ SameAscii c d := by
  have twice : asciiLower (asciiLower d) = asciiLower d := by
    refine Char.toNat_inj.mp ?_
    rw [toNat_asciiLower (asciiLower d), toNat_asciiLower d]
    split_ifs <;> omega
  rw [SameAscii, SameAscii, twice]

/-- Beyond ASCII a character is the same as no other. -/
theorem sameAscii_iff_of_le (beyond : 128 ≤ d.toNat) : SameAscii c d ↔ c = d := by
  rw [SameAscii, ← Char.toNat_inj, ← Char.toNat_inj, toNat_asciiLower, toNat_asciiLower]
  split_ifs <;> omega

/-! ## Single letters -/

/-- Both lower-case forms of a character are the same. -/
def LowersAsAscii (c : Char) : Prop :=
  lowercaseChar c = [asciiLower c]

instance (c : Char) : Decidable (LowersAsAscii c) :=
  inferInstanceAs (Decidable (lowercaseChar c = [asciiLower c]))

/-- No letter beyond ASCII is sent to a character before the lower-case letters. -/
theorem lt_apply_lowercaseRuns {code : Nat} (beyond : 128 ≤ code) :
    95 < CodeRun.apply lowercaseRuns code := by
  have far : lowercaseRuns.all (fun run => decide (95 < run.first + run.shift)) = true := by
    decide
  unfold CodeRun.apply
  cases found : lowercaseRuns.find? (·.contains code) with
  | none => exact Nat.lt_of_lt_of_le (by decide) beyond
  | some run =>
    have shifted := of_decide_eq_true
      (List.all_eq_true.mp far run (List.mem_of_find?_eq_some found))
    have contained := List.find?_some found
    simp only [CodeRun.contains, Bool.and_eq_true, decide_eq_true_eq] at contained
    have := contained.1.1
    show 95 < ((code : Int) + run.shift).toNat
    omega

/-- A letter has one lower-case form, the dotted capital I apart. -/
theorem exists_lowercaseChar_eq (c : Char) (undotted : c ≠ 'İ') : ∃ d, lowercaseChar c = [d] := by
  unfold lowercaseChar
  rw [if_neg undotted]
  split <;> exact ⟨_, rfl⟩

/-- A character before the lower-case letters is the lower-case form of no other. -/
theorem eq_of_mem_lowercaseChar (member : d ∈ lowercaseChar c) (low : d.toNat ≤ 95)
    (written : d.toNat ≠ 0) : c = d := by
  unfold lowercaseChar at member
  split at member
  · rw [List.mem_singleton] at member
    subst member
    rw [← Char.toNat_inj]
    rw [toNat_asciiLower] at low ⊢
    split_ifs at low ⊢ <;> omega
  · rename_i beyond
    have beyond : 128 ≤ c.toNat := Nat.not_lt.mp (mt val_lt_iff.mpr beyond)
    split at member
    · simp only [List.mem_cons, List.not_mem_nil, or_false] at member
      rcases member with rfl | rfl <;> exact absurd low (by decide)
    · rw [List.mem_singleton] at member
      subst member
      have := lt_apply_lowercaseRuns beyond
      rcases toNat_ofNat_eq_or (CodeRun.apply lowercaseRuns c.toNat) with same | zero <;> omega

/-- A lower-case form that ASCII takes for the letter itself is its ASCII lower-case form. -/
theorem lowersAsAscii_of_sameAscii (lowered : lowercaseChar c = [d]) (same : SameAscii d c) :
    LowersAsAscii c := by
  by_cases ascii : c.val < 128
  · rw [LowersAsAscii, lowercaseChar, if_pos ascii]
  · have beyond : 128 ≤ c.toNat := Nat.not_lt.mp (mt val_lt_iff.mpr ascii)
    rw [sameAscii_iff_of_le beyond] at same
    subst same
    have self : asciiLower d = d := ((sameAscii_iff_of_le beyond).mp
      (sameAscii_asciiLower_iff.mpr rfl).symm)
    rw [LowersAsAscii, lowered, self]

/-! ## Texts -/

/-- The lower-case form of a letter that stands between others. Only a capital sigma looks at
them. -/
def letterForm (before : List Char) (c : Char) (rest : List Char) : List Char :=
  if c = 'Σ' then [if touchesCased before && !touchesCased rest then 'ς' else 'σ']
  else lowercaseChar c

/-- The lower case of a text is the form of its first character and the lower case of what follows
it. -/
theorem lowercaseFrom_cons (before rest : List Char) (c : Char) :
    lowercaseFrom before (c :: rest)
      = letterForm before c rest ++ lowercaseFrom (c :: before) rest :=
  rfl

/-- A letter has one lower-case form wherever it stands, the dotted capital I apart. -/
theorem exists_letterForm_eq (before rest : List Char) (undotted : c ≠ 'İ') :
    ∃ d, letterForm before c rest = [d] := by
  unfold letterForm
  split
  · exact ⟨_, rfl⟩
  · exact exists_lowercaseChar_eq c undotted

/-- The dotted capital I becomes two characters, wherever it stands. -/
theorem letterForm_dotted (before rest : List Char) :
    letterForm before 'İ' rest = ['i', '\u0307'] :=
  rfl

/-- Letters that both lower-case forms treat alike look at no others. -/
theorem letterForm_of_lowersAsAscii (alike : LowersAsAscii c) (before rest : List Char) :
    letterForm before c rest = [asciiLower c] := by
  rw [letterForm, if_neg, alike]
  rintro rfl
  exact absurd alike (by decide)

/-- The form of a letter is the letter to ASCII only when both lower-case forms treat it alike. -/
theorem lowersAsAscii_of_letterForm {before rest : List Char}
    (lowered : letterForm before c rest = [d]) (same : SameAscii d c) : LowersAsAscii c := by
  unfold letterForm at lowered
  split at lowered
  · rename_i sigma
    subst sigma
    rw [sameAscii_iff_of_le (by decide)] at same
    subst same
    split at lowered <;> cases lowered
  · exact lowersAsAscii_of_sameAscii lowered same

/-- The lower case of a text is not shorter. -/
theorem length_le_length_lowercaseFrom (before text : List Char) :
    text.length ≤ (lowercaseFrom before text).length := by
  induction text generalizing before with
  | nil => exact Nat.zero_le _
  | cons c rest ih =>
    have one : 1 ≤ (letterForm before c rest).length := by
      by_cases dotted : c = 'İ'
      · subst dotted
        exact Nat.le_succ 1
      · obtain ⟨d, lowered⟩ := exists_letterForm_eq before rest dotted
        rw [lowered]
        exact Nat.le_refl 1
    have := ih (c :: before)
    rw [lowercaseFrom_cons, List.length_append, List.length_cons]
    omega

/-- The lower-case form of a text is the text itself to ASCII exactly when both lower-case forms
treat each of its characters alike. The dotted capital I makes the form too long, and the forms of
all others stand where they do. -/
theorem forall₂_lowercaseFrom_iff (before text : List Char) :
    List.Forall₂ SameAscii (lowercaseFrom before text) text ↔ ∀ c ∈ text, LowersAsAscii c := by
  induction text generalizing before with
  | nil => simp [lowercaseFrom]
  | cons c rest ih =>
    rw [lowercaseFrom_cons, List.forall_mem_cons, ← ih (c :: before)]
    constructor
    · intro pairs
      by_cases dotted : c = 'İ'
      · subst dotted
        have lengths := pairs.length_eq
        have := length_le_length_lowercaseFrom ('İ' :: before) rest
        simp only [letterForm_dotted, List.length_append, List.length_cons, List.length_nil]
          at lengths
        omega
      · obtain ⟨d, lowered⟩ := exists_letterForm_eq before rest dotted
        rw [lowered] at pairs
        obtain ⟨same, others⟩ := List.forall₂_cons.mp pairs
        exact ⟨lowersAsAscii_of_letterForm lowered same, others⟩
    · rintro ⟨alike, others⟩
      rw [letterForm_of_lowersAsAscii alike]
      exact .cons (sameAscii_asciiLower_iff.mpr rfl).symm others

/-- A character before the lower-case letters stands in a lower-case form only where it stands in
the text. -/
theorem mem_of_mem_lowercaseFrom {before text : List Char} (member : d ∈ lowercaseFrom before text)
    (low : d.toNat ≤ 95) (written : d.toNat ≠ 0) : d ∈ text := by
  induction text generalizing before with
  | nil => cases member
  | cons c rest ih =>
    rw [lowercaseFrom_cons, List.mem_append] at member
    rcases member with here | later
    · unfold letterForm at here
      split at here
      · rw [List.mem_singleton] at here
        subst here
        split at low <;> exact absurd low (by decide)
      · rw [eq_of_mem_lowercaseChar here low written]
        exact List.mem_cons_self ..
    · exact List.mem_cons_of_mem _ (ih later)

end FederatedSearch.Text
