import FederatedSearch.Proofs.Query.LikeMeaning
import FederatedSearch.Proofs.Query.LikePattern
import FederatedSearch.Proofs.Regex.Stretches

/-!
# The regular expression of a LIKE pattern says what the pattern means

Part by part the regular expression takes what the characters of a LIKE pattern stand for, and its
anchors tie it to both ends of the text. An anchor is missing only beside a percent sign, which
takes whatever is left at that end. So a search finds the expression in a text without line feeds
exactly when the text as a whole is of the form of the pattern (`isMatch_toRegexText_iff`).
-/

namespace FederatedSearch.Like

open Regex (Stretch)

/-- Characters that are equal up to simple case folding. -/
def SameFold (a b : Char) : Prop :=
  Text.fold a = Text.fold b

instance (a b : Char) : Decidable (SameFold a b) :=
  inferInstanceAs (Decidable (Text.fold a = Text.fold b))

section Parts

variable {chars : List Char}

/-! ## Parts -/

/-- Every character of a text without line feeds is one within a line. -/
theorem contains_anyInLine (oneLine : '\n' ∉ chars) {c : Char} (inside : c ∈ chars) :
    Regex.CharSet.anyInLine.contains c = true := by
  rw [Regex.CharSet.anyInLine, Regex.CharSet.contains, Regex.CharSet.contains, Bool.not_eq_true',
    beq_eq_false_iff_ne]
  rintro rfl
  exact oneLine inside

/-- A percent sign leads from every position to all later ones. -/
theorem leads_part_percent (oneLine : '\n' ∉ chars) :
    (part '%').Leads chars.toArray (Stretch chars (Piece SameFold '%')) := by
  intro p j
  refine (Regex.Pattern.leads_rounds_one true p j).trans ?_
  refine exists_congr fun taken => exists_congr fun rest => and_congr_right fun cut => ?_
  refine and_congr_left fun _ => iff_of_true (fun c member => contains_anyInLine oneLine ?_) trivial
  refine List.mem_of_mem_drop (i := p.position) ?_
  rw [cut]
  exact List.mem_append_left _ member

/-- Every other character leads past one character that it may stand for. -/
theorem leads_part_one (oneLine : '\n' ∉ chars) {p : Char} (notPercent : p ≠ '%') :
    (part p).Leads chars.toArray (Stretch chars (Piece SameFold p)) := by
  have piece : Piece SameFold p = fun taken => ∃ c, taken = [c] ∧ (p = '_' ∨ SameFold p c) := by
    funext taken
    exact if_neg notPercent
  rw [piece, part, if_neg notPercent, ← apply_ite Regex.Pattern.one]
  intro q j
  refine (Regex.Pattern.leads_one q j).trans ?_
  simp only [Regex.stretch_one_iff, List.getElem?_toArray, Option.any_eq_true]
  refine and_congr_left fun _ => exists_congr fun c => and_congr_right fun here => ?_
  split
  · rename_i underscore
    exact iff_of_true (contains_anyInLine oneLine (List.mem_of_getElem? here)) (.inl underscore)
  · rename_i notUnderscore
    rw [or_iff_right notUnderscore, Regex.CharSet.contains, beq_iff_eq]
    exact eq_comm

/-- The part of the expression for a pattern character leads past the stretches it stands for. -/
theorem leads_part (oneLine : '\n' ∉ chars) (p : Char) :
    (part p).Leads chars.toArray (Stretch chars (Piece SameFold p)) := by
  by_cases percent : p = '%'
  · subst percent
    exact leads_part_percent oneLine
  · exact leads_part_one oneLine percent

/-! ## Sequences -/

/-- The parts of a pattern lead to the ends of the stretches of its form, and what comes after them
leads on from there. -/
theorem leads_sequence (oneLine : '\n' ∉ chars) (pattern : List Char)
    {after : List Regex.Pattern} {ends : Nat → Nat → Prop}
    (leads : (Regex.Pattern.sequence after).Leads chars.toArray ends) :
    (Regex.Pattern.sequence (pattern.map part ++ after)).Leads chars.toArray
      fun i j => ∃ k, Stretch chars (Fits SameFold pattern) i k ∧ ends k j := by
  induction pattern with
  | nil =>
    intro p j
    have nothing : ∀ k, Stretch chars (Fits SameFold []) p.position k ↔ k = p.position := by
      intro k
      constructor
      · rintro ⟨_, _, _, ⟨⟩, rfl⟩
        rfl
      · rintro rfl
        exact ⟨[], _, rfl, .nil, rfl⟩
    refine (leads p j).trans ?_
    simp only [nothing, exists_eq_left]
  | cons c pattern ih =>
    intro p j
    refine ((leads_part oneLine c).seq ih p j).trans ?_
    have joined : Fits SameFold (c :: pattern) = fun both => ∃ taken more,
        both = taken ++ more ∧ Piece SameFold c taken ∧ Fits SameFold pattern more := by
      funext both
      exact propext fits_cons_iff
    simp only [joined, Regex.stretch_append_iff]
    tauto

/-- An anchor at the start, where there is one, keeps to the start. -/
theorem leads_anchor_start {first : Option Char} {parts : List Regex.Pattern}
    {ends : Nat → Nat → Prop} (leads : (Regex.Pattern.sequence parts).Leads chars.toArray ends) :
    (Regex.Pattern.sequence (anchorAt .textStart first ++ parts)).Leads chars.toArray
      fun i j => (first = some '%' ∨ i = 0) ∧ ends i j := by
  unfold anchorAt
  split
  · rename_i percent
    intro p j
    refine (leads p j).trans ?_
    simp [percent]
  · rename_i other
    intro p j
    refine ((Regex.Pattern.leads_anchor .textStart).seq leads p j).trans ?_
    simp [other, Regex.Anchor.holds]

/-- An anchor at the end, where there is one, keeps to the end. -/
theorem leads_anchor_end {last : Option Char} :
    (Regex.Pattern.sequence (anchorAt .textEnd last)).Leads chars.toArray
      fun i j => (last = some '%' ∨ i = chars.length) ∧ j = i := by
  unfold anchorAt
  split
  · rename_i percent
    intro p j
    refine (Regex.Pattern.leads_empty p j).trans ?_
    simp [percent]
  · rename_i other
    intro p j
    refine ((Regex.Pattern.leads_anchor .textEnd).seq Regex.Pattern.leads_empty p j).trans ?_
    simp [other, Regex.Anchor.holds]

/-- The expression of a pattern leads, from where its start may be, to the ends of the stretches of
its form, as far as they may be its end. -/
theorem leads_parts (oneLine : '\n' ∉ chars) (pattern : List Char) :
    (Regex.Pattern.sequence (parts pattern)).Leads chars.toArray fun i j =>
      (pattern.head? = some '%' ∨ i = 0) ∧ ∃ k, Stretch chars (Fits SameFold pattern) i k ∧
        (pattern.getLast? = some '%' ∨ k = chars.length) ∧ j = k := by
  rw [parts, List.append_assoc]
  exact leads_anchor_start (leads_sequence oneLine pattern leads_anchor_end)

end Parts

/-! ## Whole patterns -/

/-- A stretch of the form of a pattern, tied to both ends of a text or beside a percent sign, makes
the text as a whole of that form. -/
theorem exists_stretch_iff_fits {pattern chars : List Char} :
    (∃ i, i ≤ chars.length ∧ (pattern.head? = some '%' ∨ i = 0) ∧
      ∃ k, Stretch chars (Fits SameFold pattern) i k ∧
        (pattern.getLast? = some '%' ∨ k = chars.length)) ↔ Fits SameFold pattern chars := by
  constructor
  · rintro ⟨i, inside, start, _, ⟨taken, rest, cut, fits, rfl⟩, stop⟩
    have whole : chars = chars.take i ++ taken ++ rest := by
      rw [List.append_assoc, ← cut, List.take_append_drop]
    have ended : Fits SameFold pattern (taken ++ rest) := by
      rcases stop with percent | last
      · exact fits.append percent rest
      · have length := congrArg List.length cut
        rw [List.length_drop, List.length_append] at length
        have nothing : rest = [] := List.eq_nil_of_length_eq_zero (by omega)
        rw [nothing, List.append_nil]
        exact fits
    rw [whole, List.append_assoc]
    rcases start with percent | rfl
    · exact ended.prepend percent (chars.take i)
    · exact ended
  · intro fits
    exact ⟨0, Nat.zero_le _, .inr rfl, _,
      ⟨chars, [], (List.append_nil chars).symm, fits, (Nat.zero_add _).symm⟩, .inr rfl⟩

/-- What a LIKE pattern is written as is a regular expression, and a search without regard to letter
case finds it in a text without line feeds exactly when the text as a whole is of the form of the
pattern. -/
theorem isMatch_toRegexText_iff (pattern text : String) (oneLine : '\n' ∉ text.toList) :
    ∃ regex, Regex.ofTextIgnoringCase? (toRegexText pattern) = some regex ∧
      (regex.isMatch text = true ↔ Fits SameFold pattern.toList text.toList) := by
  refine ⟨_, ofText_toRegexText pattern, ?_⟩
  rw [Regex.isMatch_iff (leads_parts oneLine pattern.toList), ← exists_stretch_iff_fits]
  refine exists_congr fun i => and_congr_right fun inside => ?_
  rw [exists_and_left]
  refine and_congr_right fun _ => ?_
  constructor
  · rintro ⟨j, k, stretch, stop, rfl⟩
    exact ⟨j, stretch, stop⟩
  · rintro ⟨k, stretch, stop⟩
    exact ⟨k, k, stretch, stop, rfl⟩

/-- A letter that is equal to another one beyond ASCII, characters with a meaning in regular
expressions beside wildcards, and a percent sign at the end only. -/
theorem isMatch_toRegexText_iff_kelvin :
    '\n' ∉ "\u212A(abc.".toList ∧ Fits SameFold "k(%_.%".toList "\u212A(abc.".toList ∧
      ∃ regex, Regex.ofTextIgnoringCase? (toRegexText "k(%_.%") = some regex ∧
        regex.isMatch "\u212A(abc." = true := by
  have oneLine : '\n' ∉ "\u212A(abc.".toList := by decide
  have fits : Fits SameFold "k(%_.%".toList "\u212A(abc.".toList :=
    .letter (by decide) (by decide) (by decide +kernel) <|
      .letter (by decide) (by decide) (by decide +kernel) <|
        .percent ['a', 'b'] <| .underscore 'c' <|
          .letter (by decide) (by decide) (by decide +kernel) (.percent [] .nil)
  obtain ⟨regex, read, found⟩ := isMatch_toRegexText_iff "k(%_.%" "\u212A(abc." oneLine
  exact ⟨oneLine, fits, regex, read, found.mpr fits⟩

end FederatedSearch.Like
