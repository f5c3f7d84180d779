import FederatedSearch.Proofs.Cache.Lexing
import Mathlib.Data.List.DropRight

/-!
# Places that rounding changes

Occurrences of a pattern are looked for from the left and do not overlap (`Occurs`). Rounding puts
a zero at some places of the timestamps that occur in the time ranges that occur in a text, and
these places lie between the quotes of the ranges (`inBound_of_rounds`). Whether a place is one of
them is the same for alike texts, so that the zeroes are all that a key has of its own
(`cacheKey_zeroes`).
-/

namespace FederatedSearch

namespace CacheKey

/-! ## Occurrences -/

/-- An occurrence of a pattern in a text, with the number of characters before it. What follows an
occurrence at the front of a text is what `read` leaves; occurrences are looked for from the left
and do not overlap. -/
inductive Occurs (read : List Char → Option (List Char)) : List Char → Nat → List Char → Prop
  | here {front after : List Char} (found : read (front ++ after) = some after) :
    Occurs read (front ++ after) 0 front
  | beyond {front after w : List Char} {i : Nat} (found : read (front ++ after) = some after)
    (later : Occurs read after i w) : Occurs read (front ++ after) (front.length + i) w
  | past {c : Char} {x w : List Char} {i : Nat} (none : read (c :: x) = none)
    (later : Occurs read x i w) : Occurs read (c :: x) (i + 1) w

section Occurs

variable {read : List Char → Option (List Char)} {front after x y w : List Char} {c : Char} {i : Nat}

/-- The first occurrence is at the front of the text, and the others are in what follows it. -/
theorem occurs_append_iff (found : read (front ++ after) = some after) :
    Occurs read (front ++ after) i w ↔
      i = 0 ∧ w = front ∨ ∃ j, i = front.length + j ∧ Occurs read after j w := by
  constructor
  · intro occurs
    generalize whole : front ++ after = x at occurs found
    cases occurs with
    | here found' =>
      cases found.symm.trans found'
      exact .inl ⟨rfl, (List.append_cancel_right whole).symm⟩
    | beyond found' later =>
      cases found.symm.trans found'
      cases List.append_cancel_right whole
      exact .inr ⟨_, rfl, later⟩
    | past none later =>
      rw [none] at found
      cases found
  · rintro (⟨rfl, rfl⟩ | ⟨j, rfl, later⟩)
    · exact .here found
    · exact .beyond found later

/-- Where no occurrence starts, all of them are in what follows. -/
theorem occurs_cons_iff (none : read (c :: x) = none) :
    Occurs read (c :: x) i w ↔ ∃ j, i = j + 1 ∧ Occurs read x j w := by
  constructor
  · intro occurs
    generalize whole : c :: x = z at occurs
    cases occurs with
    | here found =>
      rw [← whole, none] at found
      cases found
    | beyond found later =>
      rw [← whole, none] at found
      cases found
    | past _ later =>
      cases whole
      exact ⟨_, rfl, later⟩
  · rintro ⟨j, rfl, later⟩
    exact .past none later

/-- An occurrence is a part of the text. -/
theorem Occurs.exists_append (occurs : Occurs read x i w) :
    ∃ before after, x = before ++ w ++ after ∧ before.length = i ∧ read (w ++ after) = some after := by
  induction occurs with
  | @here front after found => exact ⟨[], after, rfl, rfl, found⟩
  | @beyond front _ _ _ _ _ ih =>
    obtain ⟨before, after, rfl, rfl, found⟩ := ih
    exact ⟨front ++ before, after, by simp, by simp, found⟩
  | @past c _ _ _ _ _ ih =>
    obtain ⟨before, after, rfl, rfl, found⟩ := ih
    exact ⟨c :: before, after, rfl, rfl, found⟩

/-- A text without characters holds no occurrence. -/
theorem not_occurs_nil (none : read [] = none) : ¬ Occurs read [] i w := by
  intro occurs
  obtain ⟨before, after, split, _, found⟩ := occurs.exists_append
  obtain ⟨empty, rfl⟩ := List.append_eq_nil_iff.mp split.symm
  rw [(List.append_eq_nil_iff.mp empty).2, List.append_nil, none] at found
  cases found

/-- Alike texts have occurrences in the same places, when the pattern does not tell digits apart. -/
theorem Occurs.exists_alike (occurs : Occurs read x i w) (blind : Blind read)
    (leaves : ∀ {x after}, read x = some after → after <:+ x) (alike : AlikeTexts x y) :
    ∃ v, AlikeTexts w v ∧ Occurs read y i v := by
  induction occurs generalizing y with
  | here found =>
    obtain ⟨front, after, rfl, fronts, _, found'⟩ := blind.exists_append leaves alike found
    exact ⟨front, fronts, .here found'⟩
  | beyond found later ih =>
    obtain ⟨front, after, rfl, fronts, back, found'⟩ := blind.exists_append leaves alike found
    obtain ⟨v, further, occurs⟩ := ih back
    rw [fronts.length_eq]
    exact ⟨v, further, .beyond found' occurs⟩
  | past none later ih =>
    cases alike with
    | cons same others =>
      obtain ⟨v, further, occurs⟩ := ih others
      exact ⟨v, further, .past (blind.of_none (.cons same others) none) occurs⟩

end Occurs

/-! ## Places of zeroes -/

/-- Zeroes stand in the place of the digits at some places of a text. -/
structure Zeroed (places : Nat → Prop) (x y : List Char) : Prop where
  length_eq : y.length = x.length
  zero : ∀ i, places i → ∃ c, Text.isDigit c = true ∧ x[i]? = some c ∧ y[i]? = some '0'
  keep : ∀ i, ¬ places i → y[i]? = x[i]?

/-- What follows a timestamp at the front of a text. -/
def dropTimestamp (x : List Char) : Option (List Char) :=
  if startsWith timestampMarks x then some (x.drop timestampMarks.length) else none

/-- Where the last digit of the minutes and the seconds stand in a timestamp. -/
def changedOffsets : List Nat := [15, 17, 18]

/-- One of the places that rounding changes in a timestamp. -/
def RoundsStamp (x : List Char) (i : Nat) : Prop :=
  ∃ start stamp offset, Occurs dropTimestamp x start stamp ∧ offset ∈ changedOffsets ∧
    i = start + offset

/-- One of the places that rounding changes in a text: in a timestamp in a time range. -/
def Rounds (x : List Char) (i : Nat) : Prop :=
  ∃ start range j, Occurs dropRange x start range ∧ RoundsStamp range j ∧ i = start + j

section Zeroes

variable {p q r : Nat → Prop} {x x' y y' w front after rest : List Char} {c : Char} {i : Nat}

/-- A text in which no digit is replaced is the same text. -/
theorem Zeroed.refl (x : List Char) : Zeroed (fun _ => False) x x :=
  ⟨rfl, fun _ absurd => absurd.elim, fun _ _ => rfl⟩

/-- In a text without characters there is no place for a zero. -/
theorem Zeroed.nil (places : ∀ i, ¬ p i) : Zeroed p [] [] :=
  ⟨rfl, fun i here => absurd here (places i), fun _ _ => rfl⟩

/-- In two texts put together, the places in the second one move by the length of the first. -/
theorem Zeroed.append (early : Zeroed p x y) (late : Zeroed q x' y')
    (places : ∀ i, r i ↔ p i ∨ ∃ j, i = x.length + j ∧ q j) : Zeroed r (x ++ x') (y ++ y') := by
  refine ⟨?_, fun i here => ?_, fun i other => ?_⟩
  · rw [List.length_append, List.length_append, early.length_eq, late.length_eq]
  · rcases (places i).mp here with first | ⟨j, rfl, second⟩
    · obtain ⟨c, digit, before, zero⟩ := early.zero i first
      have inside := (List.getElem?_eq_some_iff.mp before).1
      refine ⟨c, digit, ?_, ?_⟩
      · rwa [List.getElem?_append_left inside]
      · rwa [List.getElem?_append_left (early.length_eq ▸ inside)]
    · obtain ⟨c, digit, before, zero⟩ := late.zero j second
      refine ⟨c, digit, ?_, ?_⟩
      · rwa [List.getElem?_append_right (Nat.le_add_right ..), Nat.add_sub_cancel_left]
      · rwa [← early.length_eq, List.getElem?_append_right (Nat.le_add_right ..),
          Nat.add_sub_cancel_left]
  · rw [places, not_or] at other
    rcases Nat.lt_or_ge i x.length with inside | beyond
    · rw [List.getElem?_append_left inside,
        List.getElem?_append_left (early.length_eq.symm ▸ inside), early.keep i other.1]
    · obtain ⟨j, rfl⟩ := Nat.exists_eq_add_of_le beyond
      have kept := late.keep j fun later => other.2 ⟨j, rfl, later⟩
      rw [List.getElem?_append_right beyond, Nat.add_sub_cancel_left, ← early.length_eq,
        List.getElem?_append_right (Nat.le_add_right ..), Nat.add_sub_cancel_left, kept]

/-- A character that is kept moves all later places by one. -/
theorem Zeroed.cons (c : Char) (rest : Zeroed q x y) (places : ∀ i, r i ↔ ∃ j, i = j + 1 ∧ q j) :
    Zeroed r (c :: x) (c :: y) := by
  refine (Zeroed.refl [c]).append rest fun i => ?_
  simp only [places, List.length_singleton, false_or, Nat.add_comm]

/-! ### Timestamps -/

/-- After a timestamp at the front the rest is left. -/
theorem dropTimestamp_append (stamp : Timestamp w) (rest : List Char) :
    dropTimestamp (w ++ rest) = some rest := by
  rw [dropTimestamp, if_pos (startsWith_timestamp.mpr ⟨w, rest, rfl, stamp⟩), ← stamp.length_eq,
    List.drop_left]

/-- What is passed over at the front is a timestamp. -/
theorem timestamp_of_dropTimestamp (found : dropTimestamp (front ++ after) = some after) :
    Timestamp front := by
  rw [dropTimestamp] at found
  split at found
  · rename_i starts
    obtain ⟨w, rest, split, stamp⟩ := startsWith_timestamp.mp starts
    rw [split, ← stamp.length_eq, List.drop_left] at found
    cases found
    rwa [List.append_cancel_right split]
  · cases found

/-- What follows a timestamp is an end of the text. -/
theorem suffix_of_dropTimestamp (found : dropTimestamp x = some after) : after <:+ x := by
  rw [dropTimestamp] at found
  split at found
  · cases found
    exact List.drop_suffix ..
  · cases found

/-- Passing over a timestamp takes no notice of which digits there are. -/
theorem blind_dropTimestamp : Blind dropTimestamp := by
  intro x y alike
  rw [dropTimestamp, dropTimestamp, startsWith_eq_of_alike alike]
  split
  · exact .some (List.forall₂_drop _ alike)
  · exact .none

/-- With a timestamp at the front, rounding changes its places and those in the rest. -/
theorem roundsStamp_append_iff (stamp : Timestamp w) : RoundsStamp (w ++ rest) i ↔
    i ∈ changedOffsets ∨ ∃ j, i = w.length + j ∧ RoundsStamp rest j := by
  simp only [RoundsStamp, occurs_append_iff (dropTimestamp_append stamp rest)]
  constructor
  · rintro ⟨start, v, offset, ⟨rfl, rfl⟩ | ⟨j, rfl, later⟩, known, rfl⟩
    · exact .inl (by rwa [Nat.zero_add])
    · exact .inr ⟨_, Nat.add_assoc .., j, v, offset, later, known, rfl⟩
  · rintro (known | ⟨_, rfl, j, v, offset, later, known, rfl⟩)
    · exact ⟨0, w, i, .inl ⟨rfl, rfl⟩, known, (Nat.zero_add i).symm⟩
    · exact ⟨_, v, offset, .inr ⟨j, rfl, later⟩, known, (Nat.add_assoc ..).symm⟩

/-- A character at which no timestamp starts moves all places by one. -/
theorem roundsStamp_cons_iff (plain : startsWith timestampMarks (c :: x) = false) :
    RoundsStamp (c :: x) i ↔ ∃ j, i = j + 1 ∧ RoundsStamp x j := by
  have none : dropTimestamp (c :: x) = none := by rw [dropTimestamp, plain]; rfl
  simp only [RoundsStamp, occurs_cons_iff none]
  constructor
  · rintro ⟨_, v, offset, ⟨j, rfl, later⟩, known, rfl⟩
    exact ⟨j + offset, Nat.add_right_comm .., j, v, offset, later, known, rfl⟩
  · rintro ⟨_, rfl, j, v, offset, later, known, rfl⟩
    exact ⟨_, v, offset, ⟨j, rfl, later⟩, known, Nat.add_right_comm ..⟩

/-- Rounding a timestamp puts zeroes in the place of its last digits. -/
theorem zeroed_stamp (stamp : Timestamp w) :
    Zeroed (· ∈ changedOffsets) w (w.take keptLength ++ roundedTail) := by
  have kept : (w.take keptLength).length = keptLength := by
    rw [List.length_take, stamp.length_eq]
    rfl
  have last : List.Forall₂ (fun mark c => fits mark c = true) ['d', ':', 'd', 'd']
      (w.drop keptLength) := List.forall₂_drop keptLength stamp
  have tail : Zeroed (· ∈ [0, 2, 3]) (w.drop keptLength) roundedTail := by
    generalize w.drop keptLength = tail at last
    obtain _ | ⟨minute, _ | ⟨colon, _ | ⟨ten, _ | ⟨second, _ | _⟩⟩⟩⟩ := last
    have middle {c : Char} (fit : fits ':' c = true) : c = ':' := by simpa [fits] using fit
    cases middle colon
    refine ⟨rfl, fun i known => ?_, fun i other => ?_⟩
    · simp only [List.mem_cons, List.not_mem_nil, or_false] at known
      rcases known with rfl | rfl | rfl
      · exact ⟨_, minute, rfl, rfl⟩
      · exact ⟨_, ten, rfl, rfl⟩
      · exact ⟨_, second, rfl, rfl⟩
    · rcases i with _ | _ | _ | _ | i
      · simp at other
      · rfl
      · simp at other
      · simp at other
      · rfl
  have whole := (Zeroed.refl (w.take keptLength)).append (r := (· ∈ changedOffsets)) tail fun i => by
    rw [kept, false_or]
    simp only [changedOffsets, keptLength, List.mem_cons, List.not_mem_nil, or_false]
    constructor
    · exact fun known => ⟨i - 15, by omega, by omega⟩
    · rintro ⟨j, same, known⟩
      omega
  rwa [List.take_append_drop] at whole

/-- Rounding the timestamps of a text puts zeroes in their places. -/
theorem zeroed_roundTimestamps (x : List Char) : Zeroed (RoundsStamp x) x (roundTimestamps x) := by
  induction x using timestamps_induction with
  | nil =>
    rw [roundTimestamps]
    refine .nil fun i => ?_
    rintro ⟨_, _, _, occurs, _⟩
    exact not_occurs_nil rfl occurs
  | stamp w rest stamp ih =>
    rw [roundTimestamps_stamp stamp]
    exact (zeroed_stamp stamp).append ih fun i => roundsStamp_append_iff stamp
  | keep c rest plain ih =>
    rw [roundTimestamps_keep rest plain]
    exact ih.cons c fun i => roundsStamp_cons_iff plain

/-! ### Time ranges -/

/-- With a time range at the front, rounding changes the places of its timestamps and those in the
rest. -/
theorem rounds_append_iff (found : dropRange (front ++ after) = some after) :
    Rounds (front ++ after) i ↔
      RoundsStamp front i ∨ ∃ j, i = front.length + j ∧ Rounds after j := by
  simp only [Rounds, occurs_append_iff found]
  constructor
  · rintro ⟨start, range, k, ⟨rfl, rfl⟩ | ⟨j, rfl, later⟩, stamped, rfl⟩
    · exact .inl (by rwa [Nat.zero_add])
    · exact .inr ⟨_, Nat.add_assoc .., j, range, k, later, stamped, rfl⟩
  · rintro (stamped | ⟨_, rfl, j, range, k, later, stamped, rfl⟩)
    · exact ⟨0, front, i, .inl ⟨rfl, rfl⟩, stamped, (Nat.zero_add i).symm⟩
    · exact ⟨_, range, k, .inr ⟨j, rfl, later⟩, stamped, (Nat.add_assoc ..).symm⟩

/-- A character at which no time range starts moves all places by one. -/
theorem rounds_cons_iff (plain : dropRange (c :: x) = none) :
    Rounds (c :: x) i ↔ ∃ j, i = j + 1 ∧ Rounds x j := by
  simp only [Rounds, occurs_cons_iff plain]
  constructor
  · rintro ⟨_, range, k, ⟨j, rfl, later⟩, stamped, rfl⟩
    exact ⟨j + k, Nat.add_right_comm .., j, range, k, later, stamped, rfl⟩
  · rintro ⟨_, rfl, j, range, k, later, stamped, rfl⟩
    exact ⟨_, range, k, ⟨j, rfl, later⟩, stamped, Nat.add_right_comm ..⟩

/-- Rounding the ranges of a text puts zeroes in their places and keeps all else. -/
theorem zeroed_roundRanges (x : List Char) : Zeroed (Rounds x) x (roundRanges x) := by
  induction x using ranges_induction with
  | nil =>
    rw [roundRanges]
    refine .nil fun i => ?_
    rintro ⟨_, _, _, occurs, _⟩
    exact not_occurs_nil rfl occurs
  | range front after found ih =>
    rw [roundRanges_range found]
    exact (zeroed_roundTimestamps front).append ih fun i => rounds_append_iff found
  | keep c x plain ih =>
    rw [roundRanges_keep plain]
    exact ih.cons c fun i => rounds_cons_iff plain

/-- The places that rounding changes are the same for alike texts. -/
theorem Rounds.of_alike (rounds : Rounds x i) (alike : AlikeTexts x y) : Rounds y i := by
  obtain ⟨start, range, j, occurs, ⟨inner, stamp, offset, stamped, known, rfl⟩, rfl⟩ := rounds
  obtain ⟨range', ranges, occurs'⟩ :=
    occurs.exists_alike blind_dropRange suffix_of_dropRange alike
  obtain ⟨stamp', _, stamped'⟩ :=
    stamped.exists_alike blind_dropTimestamp suffix_of_dropTimestamp ranges
  exact ⟨start, range', _, occurs', ⟨inner, stamp', offset, stamped', known, rfl⟩, rfl⟩

/-! ## Texts that are rounded alike -/

/-- Two texts have different characters at some places only, where both have digits. -/
def DigitsDiffer (places : Nat → Prop) (x y : List Char) : Prop :=
  x.length = y.length ∧ ∀ i a b, x[i]? = some a → y[i]? = some b →
    a = b ∨ places i ∧ Text.isDigit a = true ∧ Text.isDigit b = true

/-- Texts with other digits at some places are alike. -/
theorem DigitsDiffer.alike (differ : DigitsDiffer p x y) : AlikeTexts x y := by
  refine List.forall₂_iff_get.mpr ⟨differ.1, fun i first second => ?_⟩
  refine (differ.2 i _ _ (List.getElem?_eq_getElem first) (List.getElem?_eq_getElem second)).imp_right
    And.right

/-- At any other place the characters are the same. -/
theorem DigitsDiffer.getElem?_eq (differ : DigitsDiffer p x y) (other : ¬ p i) : x[i]? = y[i]? := by
  cases first : x[i]? with
  | none =>
    rw [List.getElem?_eq_none_iff, differ.1] at first
    exact (List.getElem?_eq_none_iff.mpr first).symm
  | some a =>
    have inside := (List.getElem?_eq_some_iff.mp first).1
    have second := List.getElem?_eq_getElem (differ.1 ▸ inside)
    rcases differ.2 i _ _ first second with same | ⟨here, _⟩
    · rw [second, same]
    · exact absurd here other

/-- Zeroes in place of digits are other digits. -/
theorem Zeroed.digitsDiffer (zeroed : Zeroed p x y) : DigitsDiffer p x y := by
  refine ⟨zeroed.length_eq.symm, fun i a b first second => ?_⟩
  by_cases here : p i
  · obtain ⟨c, digit, before, zero⟩ := zeroed.zero i here
    cases first.symm.trans before
    cases second.symm.trans zero
    exact .inr ⟨here, digit, rfl⟩
  · have kept := zeroed.keep i here
    rw [first, second] at kept
    cases kept
    exact .inl rfl

/-- Two texts are rounded to the same exactly when they differ in digits at the places of zeroes
only. -/
theorem roundRanges_eq_iff : roundRanges y = roundRanges x ↔ DigitsDiffer (Rounds x) x y := by
  constructor
  · intro same
    have alike : AlikeTexts x y := by
      have rounded := alike_roundRanges x
      rw [← same] at rounded
      exact rounded.trans (alike_roundRanges y).symm
    refine ⟨alike.length_eq, fun i a b first second => ?_⟩
    by_cases here : Rounds x i
    · obtain ⟨c, digit, before, _⟩ := (zeroed_roundRanges x).zero i here
      obtain ⟨d, digit', before', _⟩ := (zeroed_roundRanges y).zero i (here.of_alike alike)
      cases first.symm.trans before
      cases second.symm.trans before'
      exact .inr ⟨here, digit, digit'⟩
    · have other : ¬ Rounds y i := mt (·.of_alike alike.symm) here
      have both := (zeroed_roundRanges x).keep i here
      rw [← same, (zeroed_roundRanges y).keep i other, first, second] at both
      cases both
      exact .inl rfl
  · intro differ
    have alike := differ.alike
    have places (i : Nat) : Rounds x i ↔ Rounds y i := ⟨(·.of_alike alike), (·.of_alike alike.symm)⟩
    refine List.ext_getElem? fun i => ?_
    by_cases here : Rounds x i
    · obtain ⟨_, _, _, zero⟩ := (zeroed_roundRanges x).zero i here
      obtain ⟨_, _, _, zero'⟩ := (zeroed_roundRanges y).zero i ((places i).mp here)
      rw [zero, zero']
    · rw [(zeroed_roundRanges x).keep i here, (zeroed_roundRanges y).keep i (mt (places i).mpr here)]
      exact (differ.getElem?_eq here).symm

/-- Rounding again changes nothing. -/
theorem roundRanges_roundRanges (x : List Char) : roundRanges (roundRanges x) = roundRanges x :=
  roundRanges_eq_iff.mpr (zeroed_roundRanges x).digitsDiffer

/-! ### Trimmed texts -/

/-- A trimmed text is the front of what follows the white space. -/
theorem trim_isPrefix (x : List Char) : Text.trim x <+: x.dropWhile Text.isWhitespace :=
  List.rdropWhile_prefix Text.isWhitespace (l := x.dropWhile Text.isWhitespace)

/-- A trimmed text is not trimmed any further. -/
theorem trim_trim (x : List Char) : Text.trim (Text.trim x) = Text.trim x := by
  have front : (Text.trim x).dropWhile Text.isWhitespace = Text.trim x := by
    rw [List.dropWhile_eq_self_iff]
    intro some
    have head := List.dropWhile_get_zero_not Text.isWhitespace x
      (some.trans_le (trim_isPrefix x).length_le)
    rwa [(trim_isPrefix x).getElem]
  have back : ((Text.trim x).dropWhile Text.isWhitespace).rdropWhile Text.isWhitespace =
      Text.trim x := by
    rw [front]
    exact List.rdropWhile_idempotent Text.isWhitespace (x.dropWhile Text.isWhitespace)
  exact back

/-- Texts that are alike are so when they are trimmed. -/
theorem AlikeTexts.trim (alike : AlikeTexts x y) : AlikeTexts (Text.trim x) (Text.trim y) := by
  have back := AlikeTexts.dropWhile (List.forall₂_reverse_iff.mpr alike.dropWhile)
  exact List.forall₂_reverse_iff.mpr back

/-- A trimmed text stays trimmed when it is rounded. -/
theorem trim_roundRanges_trim (x : List Char) :
    Text.trim (roundRanges (Text.trim x)) = roundRanges (Text.trim x) := by
  have rounded := alike_roundRanges (Text.trim x)
  have width := (AlikeTexts.trim rounded).length_eq
  rw [trim_trim, rounded.length_eq] at width
  have inner := (trim_isPrefix (roundRanges (Text.trim x))).sublist.trans (List.dropWhile_sublist _)
  exact inner.eq_of_length width.symm

end Zeroes

/-! ## Bounds -/

/-- Characters that make up a word, which is given in lower case. -/
def IsWord (word w : List Char) : Prop :=
  w.map Text.asciiLower = word

/-- White space, of which there is some. -/
def IsGap (w : List Char) : Prop :=
  w ≠ [] ∧ ∀ c ∈ w, Text.isWhitespace c = true

/-- What stands before the bounds of a time range: the name of the time field and BETWEEN. -/
def IsLead (w : List Char) : Prop :=
  ∃ field gap between gap', w = field ++ (gap ++ (between ++ gap')) ∧
    IsWord ['d', 'a', 't', 'e', 't', 'i', 'm', 'e'] field ∧ IsGap gap ∧
    IsWord ['b', 'e', 't', 'w', 'e', 'e', 'n'] between ∧ IsGap gap'

/-- What stands between the bounds of a time range: AND. -/
def IsJoint (w : List Char) : Prop :=
  ∃ gap and gap', w = gap ++ (and ++ gap') ∧ IsGap gap ∧ IsWord ['a', 'n', 'd'] and ∧ IsGap gap'

/-- A time range as it is written, with its two bounds. -/
structure TimeRange where
  lead : List Char
  low : List Char
  joint : List Char
  high : List Char
  isLead : IsLead lead
  isJoint : IsJoint joint
  low_free : '\'' ∉ low
  high_free : '\'' ∉ high

/-- The text of a time range. -/
def TimeRange.text (r : TimeRange) : List Char :=
  r.lead ++ '\'' :: (r.low ++ '\'' :: (r.joint ++ '\'' :: (r.high ++ ['\''])))

/-- A place of a text lies between the quotes of a bound of a time range in it. -/
def InBound (x : List Char) (i : Nat) : Prop :=
  ∃ (r : TimeRange) (before after : List Char), x = before ++ r.text ++ after ∧
    ((∃ j < r.low.length, i = before.length + (r.lead.length + 1 + j)) ∨
      ∃ j < r.high.length, i = before.length +
        (r.lead.length + 1 + r.low.length + 1 + r.joint.length + 1 + j))

section Bounds

variable {x after w word u v p r : List Char} {c q : Char} {i : Nat}

/-- A word is found where the characters are those of the word, whatever their case. -/
theorem dropWord_eq_some_iff :
    dropWord word x = some after ↔ ∃ w, IsWord word w ∧ x = w ++ after := by
  induction word generalizing x with
  | nil =>
    simp [dropWord, IsWord]
  | cons first word ih =>
    cases x with
    | nil => simp [dropWord, IsWord]
    | cons c x =>
      rw [dropWord]
      split
      · rename_i lowered
        rw [ih]
        constructor
        · rintro ⟨w, isWord, rfl⟩
          exact ⟨c :: w, congrArg₂ List.cons lowered isWord, rfl⟩
        · rintro ⟨w, isWord, same⟩
          cases w with
          | nil => cases isWord
          | cons d w =>
            cases same
            exact ⟨w, (List.cons.inj isWord).2, rfl⟩
      · rename_i other
        refine iff_of_false (by simp) ?_
        rintro ⟨w, isWord, same⟩
        cases w with
        | nil => cases isWord
        | cons d w =>
          cases same
          exact other (List.cons.inj isWord).1

/-- White space is passed over as far as it goes, if there is any. -/
theorem dropBlanks_eq_some_iff : dropBlanks x = some after ↔
    ∃ w, IsGap w ∧ x = w ++ after ∧ ∀ c ∈ after.head?, Text.isWhitespace c = false := by
  cases x with
  | nil => simp [dropBlanks, IsGap]
  | cons c x =>
    rw [dropBlanks]
    split
    · rename_i white
      constructor
      · rintro ⟨⟩
        refine ⟨c :: x.takeWhile Text.isWhitespace, ⟨List.cons_ne_nil _ _, ?_⟩, ?_, ?_⟩
        · exact List.forall_mem_cons.mpr ⟨white, fun d inside => List.mem_takeWhile_imp inside⟩
        · rw [List.cons_append, List.takeWhile_append_dropWhile]
        · intro d first
          have stops := List.head?_dropWhile_not Text.isWhitespace x
          rwa [first] at stops
      · rintro ⟨w, ⟨some, all⟩, same, stops⟩
        cases w with
        | nil => exact absurd rfl some
        | cons d w =>
          rw [List.cons_append, List.cons.injEq] at same
          obtain ⟨rfl, rfl⟩ := same
          rw [List.dropWhile_append_of_pos (List.forall_mem_cons.mp all).2]
          cases after with
          | nil => rfl
          | cons e after => rw [List.dropWhile_cons_of_neg (by simp [stops e rfl])]
    · rename_i black
      refine iff_of_false (by simp) ?_
      rintro ⟨w, ⟨some, all⟩, same, _⟩
      cases w with
      | nil => exact some rfl
      | cons d w =>
        cases same
        exact black (all c (List.mem_cons_self ..))

/-- The quote that is found is the first one. -/
theorem dropToQuote_eq_some_iff :
    dropToQuote x = some after ↔ ∃ b, '\'' ∉ b ∧ x = b ++ '\'' :: after := by
  induction x with
  | nil => simp [dropToQuote]
  | cons c x ih =>
    rw [dropToQuote]
    split
    · rename_i quote
      subst quote
      constructor
      · rintro ⟨⟩
        exact ⟨[], List.not_mem_nil, rfl⟩
      · rintro ⟨b, free, same⟩
        cases b with
        | nil => cases same; rfl
        | cons d b =>
          cases same
          exact absurd (List.mem_cons_self ..) free
    · rename_i other
      rw [ih]
      constructor
      · rintro ⟨b, free, rfl⟩
        exact ⟨c :: b, List.not_mem_cons_of_ne_of_not_mem (Ne.symm other) free, rfl⟩
      · rintro ⟨b, free, same⟩
        cases b with
        | nil =>
          cases same
          exact absurd rfl other
        | cons d b =>
          cases same
          exact ⟨b, List.not_mem_of_not_mem_cons free, rfl⟩

/-- A quoted text is found where there are two quotes, and none between them. -/
theorem dropQuoted_eq_some_iff :
    dropQuoted x = some after ↔ ∃ b, '\'' ∉ b ∧ x = '\'' :: (b ++ '\'' :: after) := by
  unfold dropQuoted
  split
  · rw [dropToQuote_eq_some_iff]
    simp only [List.cons_inj_right]
  · rename_i other
    refine iff_of_false (by simp) ?_
    rintro ⟨b, _, same⟩
    exact other _ same

/-- A word is not taken for white space before it. -/
theorem IsWord.head? (isWord : IsWord (c :: word) w) (black : Text.isWhitespace c = false)
    (rest : List Char) : ∀ d ∈ (w ++ rest).head?, Text.isWhitespace d = false := by
  cases w with
  | nil => cases isWord
  | cons d w =>
    rintro _ ⟨⟩
    by_contra white
    have same : (Text.asciiLower d != d) = false :=
      Text.eq_false_of_isWhitespace (p := fun d => Text.asciiLower d != d) (by decide +kernel)
        (by simpa using white)
    have lowered : Text.asciiLower d = c := (List.cons.inj isWord).1
    rw [bne_eq_false_iff_eq, lowered] at same
    rw [← same, black] at white
    exact white rfl

/-- What is passed over as a time range is the text of one. -/
theorem dropRange_eq_some_iff :
    dropRange x = some after ↔ ∃ r : TimeRange, x = r.text ++ after := by
  simp only [dropRange, Option.bind_eq_bind, Option.bind_eq_some_iff, dropWord_eq_some_iff,
    dropBlanks_eq_some_iff, dropQuoted_eq_some_iff]
  constructor
  · rintro ⟨_, ⟨field, isField, rfl⟩, _, ⟨gap₁, isGap₁, rfl, _⟩, _, ⟨between, isBetween, rfl⟩,
      _, ⟨gap₂, isGap₂, rfl, _⟩, _, ⟨low, lowFree, rfl⟩, _, ⟨gap₃, isGap₃, rfl, _⟩,
      _, ⟨and, isAnd, rfl⟩, _, ⟨gap₄, isGap₄, rfl, _⟩, high, highFree, rfl⟩
    refine ⟨⟨_, low, _, high, ⟨field, gap₁, between, gap₂, rfl, isField, isGap₁, isBetween, isGap₂⟩,
      ⟨gap₃, and, gap₄, rfl, isGap₃, isAnd, isGap₄⟩, lowFree, highFree⟩, ?_⟩
    simp [TimeRange.text]
  · rintro ⟨⟨_, low, _, high, ⟨field, gap₁, between, gap₂, rfl, isField, isGap₁, isBetween, isGap₂⟩,
      ⟨gap₃, and, gap₄, rfl, isGap₃, isAnd, isGap₄⟩, lowFree, highFree⟩, rfl⟩
    have quoted (rest : List Char) : ∀ c ∈ ('\'' :: rest).head?, Text.isWhitespace c = false := by
      rintro _ ⟨⟩
      rfl
    simp only [TimeRange.text, List.append_assoc, List.cons_append, List.nil_append]
    exact ⟨_, ⟨field, isField, rfl⟩, _, ⟨gap₁, isGap₁, rfl, isBetween.head? rfl _⟩,
      _, ⟨between, isBetween, rfl⟩, _, ⟨gap₂, isGap₂, rfl, quoted _⟩, _, ⟨low, lowFree, rfl⟩,
      _, ⟨gap₃, isGap₃, rfl, isAnd.head? rfl _⟩, _, ⟨and, isAnd, rfl⟩,
      _, ⟨gap₄, isGap₄, rfl, quoted _⟩, high, highFree, rfl⟩

/-- What holds no `q` lies before or after one. -/
theorem before_or_after (free : q ∉ w) (split : u ++ (w ++ v) = p ++ q :: r) :
    (∃ m, p = u ++ (w ++ m)) ∨ ∃ m, u = p ++ q :: m ∧ r = m ++ (w ++ v) := by
  rcases List.append_eq_append_iff.mp split with ⟨m, rfl, rest⟩ | ⟨m, rfl, rest⟩
  · rcases List.append_eq_append_iff.mp rest with ⟨n, rfl, _⟩ | ⟨n, rfl, further⟩
    · exact .inl ⟨n, rfl⟩
    · cases n with
      | nil => exact .inl ⟨[], by simp⟩
      | cons d n =>
        cases further
        exact absurd (List.mem_append_right m (List.mem_cons_self ..)) free
  · cases m with
    | nil =>
      cases w with
      | nil => exact .inl ⟨[], by simp⟩
      | cons d w =>
        cases rest
        exact absurd (List.mem_cons_self ..) free
    | cons d m =>
      cases rest
      exact .inr ⟨m, rfl, rfl⟩

/-- The words and the white space of a time range hold no digits. -/
theorem TimeRange.isDigit_of_mem (r : TimeRange) (inside : c ∈ r.lead ∨ c ∈ r.joint) :
    Text.isDigit c = false := by
  have word {word w : List Char} (isWord : IsWord word w) (plain : word.any Text.isDigit = false)
      (inside : c ∈ w) : Text.isDigit c = false := by
    by_contra digit
    have digit : Text.isDigit c = true := by simpa using digit
    have lowered : Text.asciiLower c ∈ word := isWord ▸ List.mem_map_of_mem inside
    rw [Text.asciiLower_of_isDigit digit] at lowered
    exact List.any_eq_false.mp plain c lowered digit
  have gap {w : List Char} (isGap : IsGap w) (inside : c ∈ w) : Text.isDigit c = false :=
    Text.isDigit_of_isWhitespace (isGap.2 c inside)
  rcases inside with inside | inside
  · obtain ⟨field, gap₁, between, gap₂, same, isField, isGap₁, isBetween, isGap₂⟩ := r.isLead
    simp only [same, List.mem_append] at inside
    rcases inside with first | second | third | fourth
    · exact word isField (by decide) first
    · exact gap isGap₁ second
    · exact word isBetween (by decide) third
    · exact gap isGap₂ fourth
  · obtain ⟨gap₁, and, gap₂, same, isGap₁, isAnd, isGap₂⟩ := r.isJoint
    simp only [same, List.mem_append] at inside
    rcases inside with first | second | third
    · exact gap isGap₁ first
    · exact word isAnd (by decide) second
    · exact gap isGap₂ third

/-- A stretch that starts with a digit and holds no quote lies within one of the bounds. -/
theorem TimeRange.within_bound (r : TimeRange) (digit : Text.isDigit c = true)
    (free : '\'' ∉ c :: w) (split : r.text = u ++ (c :: w ++ v)) :
    (∃ m n, r.low = m ++ (c :: w ++ n) ∧ u.length = r.lead.length + 1 + m.length) ∨
      ∃ m n, r.high = m ++ (c :: w ++ n) ∧
        u.length = r.lead.length + 1 + r.low.length + 1 + r.joint.length + 1 + m.length := by
  have outside {part m n : List Char} (same : part = m ++ (c :: w ++ n)) : c ∈ part := by
    rw [same]
    simp
  rcases before_or_after free split.symm with ⟨m, early⟩ | ⟨m₁, rfl, later₁⟩
  · rw [r.isDigit_of_mem (.inl (outside early))] at digit
    cases digit
  · rcases before_or_after free later₁.symm with ⟨n, low⟩ | ⟨m₂, rfl, later₂⟩
    · exact .inl ⟨m₁, n, low, by simp; omega⟩
    · rcases before_or_after free later₂.symm with ⟨n, joint⟩ | ⟨m₃, rfl, later₃⟩
      · rw [r.isDigit_of_mem (.inr (outside joint))] at digit
        cases digit
      · rcases before_or_after free later₃.symm with ⟨n, high⟩ | ⟨m₄, rfl, later₄⟩
        · exact .inr ⟨m₃, n, high, by simp; omega⟩
        · simp at later₄

/-- The places that rounding changes lie between the quotes of bounds. -/
theorem inBound_of_rounds (rounds : Rounds x i) : InBound x i := by
  obtain ⟨start, range, j, occurs, ⟨inner, stamp, offset, stamped, known, rfl⟩, rfl⟩ := rounds
  obtain ⟨before, after, rfl, rfl, found⟩ := occurs.exists_append
  obtain ⟨r, same⟩ := dropRange_eq_some_iff.mp found
  cases List.append_cancel_right same
  obtain ⟨u, v, split, rfl, foundStamp⟩ := stamped.exists_append
  have isStamp := timestamp_of_dropTimestamp foundStamp
  have short : offset < stamp.length := by
    have all : ∀ offset ∈ changedOffsets, offset < timestampMarks.length := by decide
    exact isStamp.length_eq ▸ all offset known
  have free : '\'' ∉ stamp := fun quote =>
    absurd (Lexer.plain_of_mem_timestamp isStamp quote) (by simp)
  obtain ⟨c, w, rfl, digit⟩ := Lexer.exists_cons_of_timestamp isStamp
  rw [List.append_assoc] at split
  refine ⟨r, before, after, rfl, ?_⟩
  rcases r.within_bound digit free split with ⟨m, n, low, width⟩ | ⟨m, n, high, width⟩
  · refine .inl ⟨m.length + offset, ?_, ?_⟩
    · rw [low]
      simp at short ⊢
      omega
    · omega
  · refine .inr ⟨m.length + offset, ?_, ?_⟩
    · rw [high]
      simp at short ⊢
      omega
    · omega

end Bounds

end CacheKey

open CacheKey

/-- A key is made of the trimmed text by rounding within its time ranges. -/
theorem toList_cacheKey (s : String) :
    (cacheKey s).toList = roundRanges (Text.trim s.toList) := by
  rw [cacheKey, String.toList_ofList]

/-- A key has as many characters as the trimmed text. At each place it has the same character, or a
zero in the place of a digit: in the last digit of the minutes or in the seconds of a timestamp that
lies between the quotes of a bound of a time range. A key is its own key, and other texts with that
key are those that differ from the text, trimmed, in such digits only. -/
theorem cacheKey_zeroes (s : String) :
    (cacheKey s).length = (Text.trim s.toList).length ∧
      (∀ i, ¬ Rounds (Text.trim s.toList) i ∧
          (cacheKey s).toList[i]? = (Text.trim s.toList)[i]? ∨
        Rounds (Text.trim s.toList) i ∧ InBound (Text.trim s.toList) i ∧
          ∃ c, Text.isDigit c = true ∧ (Text.trim s.toList)[i]? = some c ∧
            (cacheKey s).toList[i]? = some '0') ∧
      cacheKey (cacheKey s) = cacheKey s ∧
      ∀ t, cacheKey t = cacheKey s ↔
        DigitsDiffer (Rounds (Text.trim s.toList)) (Text.trim s.toList) (Text.trim t.toList) := by
  have zeroed := zeroed_roundRanges (Text.trim s.toList)
  refine ⟨?_, fun i => ?_, ?_, fun t => ?_⟩
  · rw [← String.length_toList, toList_cacheKey, zeroed.length_eq]
  · rw [toList_cacheKey]
    by_cases here : Rounds (Text.trim s.toList) i
    · exact .inr ⟨here, inBound_of_rounds here, zeroed.zero i here⟩
    · exact .inl ⟨here, zeroed.keep i here⟩
  · rw [← String.toList_inj, toList_cacheKey, toList_cacheKey, trim_roundRanges_trim,
      roundRanges_roundRanges]
  · rw [← String.toList_inj, toList_cacheKey, toList_cacheKey, roundRanges_eq_iff]

end FederatedSearch
