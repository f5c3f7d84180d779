import FederatedSearch.Cache.Key
import FederatedSearch.Proofs.Text.Classes
import Mathlib.Data.List.Forall2
import Mathlib.Data.List.Infix

/-!
# What rounding leaves of a text

Rounding puts digits in the place of digits and changes nothing else, so that texts with one key
are alike: they have the same characters in the same places, up to digits. Whether a time range or
a timestamp starts at some place is the same for alike texts. Therefore they are cut into ranges
and timestamps in the same places, and differ only within timestamps of the same ten minutes that
stand in time ranges (`sameWindows_of_cacheKey_eq`).
-/

namespace FederatedSearch

namespace CacheKey

/-! ## Alike texts -/

/-- Two characters that are the same, or digits both. -/
def Alike (a b : Char) : Prop :=
  a = b ∨ Text.isDigit a = true ∧ Text.isDigit b = true

/-- Two texts of the same characters, up to digits. -/
abbrev AlikeTexts (x y : List Char) : Prop :=
  List.Forall₂ Alike x y

section Alike

variable {a b c d mark : Char} {x y z : List Char}

/-- Each character is like itself. -/
theorem Alike.refl (a : Char) : Alike a a :=
  .inl rfl

/-- Which of two characters comes first does not matter. -/
theorem Alike.symm (alike : Alike a b) : Alike b a :=
  alike.imp Eq.symm And.symm

/-- A digit is like all others, and any other character only like itself. -/
theorem Alike.trans (first : Alike a b) (second : Alike b c) : Alike a c := by
  rcases first with rfl | ⟨digit, same⟩
  · exact second
  · rcases second with rfl | ⟨_, digit'⟩
    · exact .inr ⟨digit, same⟩
    · exact .inr ⟨digit, digit'⟩

/-- A character that is no digit is told apart from the others wherever texts are alike. -/
theorem Alike.eq_iff (alike : Alike a b) (other : Text.isDigit d = false) : a = d ↔ b = d := by
  rcases alike with rfl | ⟨digit, digit'⟩
  · exact Iff.rfl
  · exact iff_of_false (Text.ne_of_isDigit digit other) (Text.ne_of_isDigit digit' other)

/-- Each text is like itself. -/
theorem AlikeTexts.refl (x : List Char) : AlikeTexts x x :=
  List.forall₂_same.mpr fun a _ => .refl a

/-- Which of two texts comes first does not matter. -/
theorem AlikeTexts.symm (alike : AlikeTexts x y) : AlikeTexts y x :=
  List.Forall₂.flip (alike.imp fun _ _ => Alike.symm)

/-- Texts that are like a third one are like each other. -/
theorem AlikeTexts.trans (first : AlikeTexts x y) (second : AlikeTexts y z) : AlikeTexts x z := by
  induction first generalizing z with
  | nil => exact second
  | cons alike _ ih =>
    cases second with
    | cons alike' others => exact .cons (alike.trans alike') (ih others)

/-- The parts of one of two alike texts have their counterparts in the other. -/
theorem AlikeTexts.split (alike : AlikeTexts (x ++ y) z) :
    ∃ x' y', z = x' ++ y' ∧ AlikeTexts x x' ∧ AlikeTexts y y' := by
  induction x generalizing z with
  | nil => exact ⟨[], z, rfl, .nil, alike⟩
  | cons a rest ih =>
    cases alike with
    | cons same others =>
      obtain ⟨x', y', rfl, front, back⟩ := ih others
      exact ⟨_ :: x', y', rfl, .cons same front, back⟩

end Alike

/-! ## Timestamps -/

/-- A timestamp up to its seconds. -/
def Timestamp (w : List Char) : Prop :=
  List.Forall₂ (fun mark c => fits mark c = true) timestampMarks w

section Timestamps

variable {c mark : Char} {marks x y w v : List Char}

/-- A text starts with marks when its front fits them character by character. -/
theorem startsWith_iff : startsWith marks x = true ↔
    ∃ w rest, x = w ++ rest ∧ List.Forall₂ (fun mark c => fits mark c = true) marks w := by
  induction marks generalizing x with
  | nil =>
    simp only [startsWith, List.forall₂_nil_left_iff, true_iff]
    exact ⟨[], x, rfl, rfl⟩
  | cons mark marks ih =>
    cases x with
    | nil =>
      simp only [startsWith, List.forall₂_cons_left_iff, Bool.false_eq_true, false_iff]
      rintro ⟨w, rest, same, c, u, _, _, rfl⟩
      cases same
    | cons c x =>
      simp only [startsWith, Bool.and_eq_true, ih, List.forall₂_cons_left_iff]
      constructor
      · rintro ⟨fit, w, rest, rfl, marked⟩
        exact ⟨c :: w, rest, rfl, c, w, fit, marked, rfl⟩
      · rintro ⟨_, rest, same, d, w, fit, marked, rfl⟩
        cases same
        exact ⟨fit, w, rest, rfl, marked⟩

/-- A timestamp stands at the front of a text exactly when the text starts as one. -/
theorem startsWith_timestamp : startsWith timestampMarks x = true ↔
    ∃ w rest, x = w ++ rest ∧ Timestamp w :=
  startsWith_iff

/-- All timestamps have the length of their marks. -/
theorem Timestamp.length_eq (stamp : Timestamp w) : w.length = timestampMarks.length :=
  (List.Forall₂.length_eq stamp).symm

/-- The marks of a timestamp do not tell digits apart. -/
theorem fits_eq_of_alike {a b : Char} (alike : Alike a b) (known : mark ∈ timestampMarks) :
    fits mark a = fits mark b := by
  have marked : mark = 'd' ∨ mark = '-' ∨ mark = 'T' ∨ mark = ':' := by
    simp only [timestampMarks, List.mem_cons, List.not_mem_nil, or_false] at known
    tauto
  rcases alike with rfl | ⟨digit, digit'⟩
  · rfl
  · have differs (d : Char) (other : Text.isDigit d = false) : (a == d) = (b == d) := by
      rw [beq_false_of_ne (Text.ne_of_isDigit digit other),
        beq_false_of_ne (Text.ne_of_isDigit digit' other)]
    rcases marked with rfl | rfl | rfl | rfl
    · simp [fits, digit, digit']
    · exact differs '-' (by decide)
    · simp [fits, differs 'T' (by decide), differs ' ' (by decide)]
    · exact differs ':' (by decide)

/-- Other digits in a timestamp make a timestamp. -/
theorem Timestamp.of_alike (stamp : Timestamp v) (alike : AlikeTexts v w) : Timestamp w := by
  have marked {marks v w : List Char} (known : marks ⊆ timestampMarks)
      (fit : List.Forall₂ (fun mark c => fits mark c = true) marks v) (alike : AlikeTexts v w) :
      List.Forall₂ (fun mark c => fits mark c = true) marks w := by
    induction fit generalizing w with
    | nil =>
      cases alike
      exact .nil
    | cons first _ ih =>
      cases alike with
      | cons same others =>
        rw [List.cons_subset] at known
        exact .cons (fits_eq_of_alike same known.1 ▸ first) (ih known.2 others)
  exact marked (List.Subset.refl _) stamp alike

/-- Whether a text starts with a timestamp is the same for alike texts. -/
theorem startsWith_eq_of_alike (alike : AlikeTexts x y) :
    startsWith timestampMarks x = startsWith timestampMarks y := by
  have one {x y : List Char} (alike : AlikeTexts x y)
      (starts : startsWith timestampMarks x = true) : startsWith timestampMarks y = true := by
    obtain ⟨w, rest, rfl, stamp⟩ := startsWith_timestamp.mp starts
    obtain ⟨w', rest', rfl, front, _⟩ := alike.split
    exact startsWith_timestamp.mpr ⟨w', rest', rfl, stamp.of_alike front⟩
  rw [Bool.eq_iff_iff]
  exact ⟨one alike, one alike.symm⟩

/-- A timestamp at the front is cut off within the minutes and filled up with zeroes. -/
theorem roundTimestamps_stamp (stamp : Timestamp w) (rest : List Char) :
    roundTimestamps (w ++ rest) = w.take keptLength ++ roundedTail ++ roundTimestamps rest := by
  have length : w.length = 19 := stamp.length_eq
  cases w with
  | nil => cases length
  | cons c w =>
    have starts : startsWith timestampMarks (c :: (w ++ rest)) = true :=
      startsWith_timestamp.mpr ⟨c :: w, rest, rfl, stamp⟩
    have width : w.length = timestampMarks.length - 1 := Nat.succ.inj length
    have enough : keptLength - (c :: w).length = 0 := by
      rw [length]
      rfl
    rw [List.cons_append, roundTimestamps, if_pos starts, ← List.cons_append, List.take_append,
      enough, ← width, List.drop_left, List.take_zero, List.append_nil]

/-- A character at which no timestamp starts is kept. -/
theorem roundTimestamps_keep (rest : List Char)
    (plain : startsWith timestampMarks (c :: rest) = false) :
    roundTimestamps (c :: rest) = c :: roundTimestamps rest := by
  rw [roundTimestamps, plain]
  rfl

/-- A text is made of timestamps and of characters with which none starts. -/
theorem timestamps_induction {motive : List Char → Prop} (nil : motive [])
    (stamp : ∀ w rest, Timestamp w → motive rest → motive (w ++ rest))
    (keep : ∀ c rest, startsWith timestampMarks (c :: rest) = false → motive rest →
      motive (c :: rest)) (x : List Char) : motive x := by
  induction hn : x.length using Nat.strongRecOn generalizing x with
  | _ n ih =>
    subst hn
    cases x with
    | nil => exact nil
    | cons c rest =>
      cases starts : startsWith timestampMarks (c :: rest) with
      | true =>
        obtain ⟨w, after, split, stamped⟩ := startsWith_timestamp.mp starts
        rw [split]
        refine stamp w after stamped (ih _ ?_ after rfl)
        have width : w.length = 19 := stamped.length_eq
        rw [split, List.length_append]
        omega
      | false => exact keep c rest starts (ih _ (Nat.lt_succ_self _) rest rfl)

/-- The last characters of a timestamp, which rounding replaces, are digits where it puts them. -/
theorem Timestamp.alike_roundedTail (stamp : Timestamp w) :
    AlikeTexts (w.drop keptLength) roundedTail := by
  have last : List.Forall₂ (fun mark c => fits mark c = true) ['d', ':', 'd', 'd']
      (w.drop keptLength) := List.forall₂_drop keptLength stamp
  generalize w.drop keptLength = tail at last
  obtain _ | ⟨minute, _ | ⟨colon, _ | ⟨ten, _ | ⟨second, _ | _⟩⟩⟩⟩ := last
  have digit {c : Char} (fit : fits 'd' c = true) : Alike c '0' := .inr ⟨fit, rfl⟩
  exact .cons (digit minute) (.cons (.inl (by simpa [fits] using colon))
    (.cons (digit ten) (.cons (digit second) .nil)))

/-- Rounding changes digits only. -/
theorem alike_roundTimestamps (x : List Char) : AlikeTexts x (roundTimestamps x) := by
  induction x using timestamps_induction with
  | nil =>
    rw [roundTimestamps]
    exact .nil
  | stamp w rest stamp ih =>
    rw [roundTimestamps_stamp stamp]
    refine List.rel_append ?_ ih
    have parts : AlikeTexts (w.take keptLength ++ w.drop keptLength)
        (w.take keptLength ++ roundedTail) :=
      List.rel_append (AlikeTexts.refl _) stamp.alike_roundedTail
    rwa [List.take_append_drop] at parts
  | keep c rest plain ih =>
    rw [roundTimestamps_keep rest plain]
    exact .cons (.refl c) ih

end Timestamps

/-! ## Time ranges -/

/-- A reader of the front of texts takes no notice of which digits there are. -/
def Blind (read : List Char → Option (List Char)) : Prop :=
  ∀ ⦃x y : List Char⦄, AlikeTexts x y → Option.Rel AlikeTexts (read x) (read y)

section Ranges

variable {read next : List Char → Option (List Char)} {x y after : List Char}

/-- Where a blind reader finds something, it does so in every text that is alike. -/
theorem Blind.of_some (blind : Blind read) (alike : AlikeTexts x y) (found : read x = some after) :
    ∃ after', read y = some after' ∧ AlikeTexts after after' := by
  have related := blind alike
  rw [found] at related
  generalize read y = result at related ⊢
  cases related with
  | some others => exact ⟨_, rfl, others⟩

/-- Where a blind reader finds nothing, it does not in any text that is alike. -/
theorem Blind.of_none (blind : Blind read) (alike : AlikeTexts x y) (missing : read x = none) :
    read y = none := by
  have related := blind alike
  rw [missing] at related
  generalize read y = result at related ⊢
  cases related with
  | none => rfl

/-- What a reader passes over in a text has its counterpart in an alike one, when it leaves the end of
a text. -/
theorem Blind.exists_append {front : List Char} (blind : Blind read)
    (leaves : ∀ {x after}, read x = some after → after <:+ x)
    (alike : AlikeTexts (front ++ after) y) (found : read (front ++ after) = some after) :
    ∃ front' after', y = front' ++ after' ∧ AlikeTexts front front' ∧ AlikeTexts after after' ∧
      read (front' ++ after') = some after' := by
  obtain ⟨after', found', back⟩ := blind.of_some alike found
  obtain ⟨front', rfl⟩ := leaves found'
  have width : front.length = front'.length := by
    have whole := alike.length_eq
    rw [List.length_append, List.length_append, back.length_eq] at whole
    exact Nat.add_right_cancel whole
  have fronts : AlikeTexts front front' := by
    have taken := List.forall₂_take front.length alike
    rwa [List.take_left, width, List.take_left] at taken
  exact ⟨front', after', rfl, fronts, back, found'⟩

/-- Two blind readers one after the other are blind. -/
theorem Blind.bind (first : Blind read) (second : Blind next) :
    Blind fun x => (read x).bind next := by
  intro x y alike
  dsimp only
  cases found : read x with
  | none =>
    rw [first.of_none alike found]
    exact .none
  | some x' =>
    obtain ⟨y', found', others⟩ := first.of_some alike found
    rw [found']
    exact second others

/-- Letters are found in alike texts in the same places, whatever their case. -/
theorem blind_dropWord {word : List Char} (letters : word.any Text.isDigit = false) :
    Blind (dropWord word) := by
  intro x y alike
  induction word generalizing x y with
  | nil => exact .some alike
  | cons w word ih =>
    cases alike with
    | nil => exact .none
    | cons same others =>
      rename_i a b x y
      have lowered : Text.asciiLower a = w ↔ Text.asciiLower b = w := by
        rcases same with rfl | ⟨digit, digit'⟩
        · exact Iff.rfl
        · have other := (Bool.or_eq_false_iff.mp letters).1
          rw [Text.asciiLower_of_isDigit digit, Text.asciiLower_of_isDigit digit']
          exact iff_of_false (Text.ne_of_isDigit digit other) (Text.ne_of_isDigit digit' other)
      simp only [dropWord, lowered]
      split
      · exact ih (Bool.or_eq_false_iff.mp letters).2 others
      · exact .none

/-- No digit is white space. -/
theorem Alike.isWhitespace_eq {a b : Char} (same : Alike a b) :
    Text.isWhitespace a = Text.isWhitespace b := by
  rcases same with rfl | ⟨digit, digit'⟩
  · rfl
  · rw [Text.isWhitespace_of_isDigit digit, Text.isWhitespace_of_isDigit digit']

/-- White space at the front is left out of alike texts alike. -/
theorem AlikeTexts.dropWhile (alike : AlikeTexts x y) :
    AlikeTexts (x.dropWhile Text.isWhitespace) (y.dropWhile Text.isWhitespace) := by
  induction alike with
  | nil => exact .nil
  | cons same others ih =>
    rw [List.dropWhile_cons, List.dropWhile_cons, same.isWhitespace_eq]
    split
    · exact ih
    · exact .cons same others

/-- Passing over white space takes no notice of digits. -/
theorem blind_dropBlanks : Blind dropBlanks := by
  intro x y alike
  cases alike with
  | nil => exact .none
  | cons same others =>
    simp only [dropBlanks, same.isWhitespace_eq]
    split
    · exact .some (AlikeTexts.dropWhile others)
    · exact .none

/-- Going on to the next quote takes no notice of digits. -/
theorem blind_dropToQuote : Blind dropToQuote := by
  intro x y alike
  induction alike with
  | nil => exact .none
  | cons same others ih =>
    simp only [dropToQuote, same.eq_iff (show Text.isDigit '\'' = false by decide)]
    split
    · exact .some others
    · exact ih

/-- Passing over a quoted text takes no notice of digits. -/
theorem blind_dropQuoted : Blind dropQuoted := by
  have equation (c : Char) (x : List Char) :
      dropQuoted (c :: x) = if c = '\'' then dropToQuote x else none := by
    unfold dropQuoted
    split
    · rename_i starts
      cases starts
      rw [if_pos rfl]
    · rename_i other
      rw [if_neg]
      rintro rfl
      exact other x rfl
  intro x y alike
  cases alike with
  | nil => exact .none
  | cons same others =>
    rw [equation, equation]
    simp only [same.eq_iff (show Text.isDigit '\'' = false by decide)]
    split
    · exact blind_dropToQuote others
    · exact .none

/-- Whether a time range starts a text, and how far it goes, is the same for alike texts. -/
theorem blind_dropRange : Blind dropRange := by
  have field : Blind (dropWord ['d', 'a', 't', 'e', 't', 'i', 'm', 'e']) :=
    blind_dropWord (by decide)
  have between : Blind (dropWord ['b', 'e', 't', 'w', 'e', 'e', 'n']) := blind_dropWord (by decide)
  have and : Blind (dropWord ['a', 'n', 'd']) := blind_dropWord (by decide)
  intro x y alike
  exact field.bind (blind_dropBlanks.bind (between.bind (blind_dropBlanks.bind
    (blind_dropQuoted.bind (blind_dropBlanks.bind (and.bind (blind_dropBlanks.bind
      blind_dropQuoted))))))) alike

/-! ### What readers leave -/

/-- What follows a word is an end of the text. -/
theorem suffix_of_dropWord {word : List Char} (found : dropWord word x = some after) :
    after <:+ x := by
  induction word generalizing x with
  | nil =>
    cases found
    exact List.suffix_refl _
  | cons w word ih =>
    cases x with
    | nil => cases found
    | cons c x =>
      rw [dropWord] at found
      split at found
      · exact (ih found).trans (List.suffix_cons c x)
      · cases found

/-- What follows white space is an end of the text. -/
theorem suffix_of_dropBlanks (found : dropBlanks x = some after) : after <:+ x := by
  cases x with
  | nil => cases found
  | cons c x =>
    rw [dropBlanks] at found
    split at found
    · cases found
      exact (List.dropWhile_suffix _).trans (List.suffix_cons c x)
    · cases found

/-- What follows a quote is an end of the text. -/
theorem suffix_of_dropToQuote (found : dropToQuote x = some after) : after <:+ x := by
  induction x with
  | nil => cases found
  | cons c x ih =>
    rw [dropToQuote] at found
    split at found
    · cases found
      exact List.suffix_cons c _
    · exact (ih found).trans (List.suffix_cons c x)

/-- What follows a quoted text is an end of the text. -/
theorem suffix_of_dropQuoted (found : dropQuoted x = some after) : after <:+ x := by
  unfold dropQuoted at found
  split at found
  · exact (suffix_of_dropToQuote found).trans (List.suffix_cons _ _)
  · cases found

/-- What follows a range ends the text. -/
theorem suffix_of_dropRange (found : dropRange x = some after) : after <:+ x := by
  simp only [dropRange, Option.bind_eq_bind, Option.bind_eq_some_iff] at found
  obtain ⟨_, h1, _, h2, _, h3, _, h4, _, h5, _, h6, _, h7, _, h8, h9⟩ := found
  exact (suffix_of_dropQuoted h9).trans <| (suffix_of_dropBlanks h8).trans <|
    (suffix_of_dropWord h7).trans <| (suffix_of_dropBlanks h6).trans <|
    (suffix_of_dropQuoted h5).trans <| (suffix_of_dropBlanks h4).trans <|
    (suffix_of_dropWord h3).trans <| (suffix_of_dropBlanks h2).trans (suffix_of_dropWord h1)

/-- More text behind it does not change how a word is found. -/
theorem dropWord_append {word : List Char} (found : dropWord word x = some after)
    (y : List Char) : dropWord word (x ++ y) = some (after ++ y) := by
  induction word generalizing x with
  | nil =>
    cases found
    rfl
  | cons w word ih =>
    cases x with
    | nil => cases found
    | cons c x =>
      rw [dropWord] at found
      rw [List.cons_append, dropWord]
      split at found
      · rename_i lowered
        rw [if_pos lowered]
        exact ih found
      · cases found

/-- White space is passed over alike as long as something follows it. -/
theorem dropBlanks_append (found : dropBlanks x = some after) (more : after ≠ []) (y : List Char) :
    dropBlanks (x ++ y) = some (after ++ y) := by
  cases x with
  | nil => cases found
  | cons c x =>
    rw [dropBlanks] at found
    rw [List.cons_append, dropBlanks]
    split at found
    · rename_i white
      cases found
      rw [if_pos white, List.dropWhile_append, if_neg (by simpa using more)]
    · cases found

/-- More text behind it does not change how a quote is found. -/
theorem dropToQuote_append (found : dropToQuote x = some after) (y : List Char) :
    dropToQuote (x ++ y) = some (after ++ y) := by
  induction x with
  | nil => cases found
  | cons c x ih =>
    rw [dropToQuote] at found
    rw [List.cons_append, dropToQuote]
    split at found
    · rename_i quote
      cases found
      rw [if_pos quote]
    · rename_i other
      rw [if_neg other]
      exact ih found

/-- More text behind it does not change how a quoted text is found. -/
theorem dropQuoted_append (found : dropQuoted x = some after) (y : List Char) :
    dropQuoted (x ++ y) = some (after ++ y) := by
  unfold dropQuoted at found
  split at found
  · exact dropToQuote_append found y
  · cases found

/-- A range that starts a text also starts the text with anything behind it. -/
theorem dropRange_append (found : dropRange x = some after) (y : List Char) :
    dropRange (x ++ y) = some (after ++ y) := by
  have some_of_word {w : Char} {word x rest : List Char}
      (found : dropWord (w :: word) x = some rest) : x ≠ [] := by
    rintro rfl
    cases found
  have some_of_quoted {x rest : List Char} (found : dropQuoted x = some rest) : x ≠ [] := by
    rintro rfl
    cases found
  simp only [dropRange, Option.bind_eq_bind, Option.bind_eq_some_iff] at found ⊢
  obtain ⟨_, h1, _, h2, _, h3, _, h4, _, h5, _, h6, _, h7, _, h8, h9⟩ := found
  exact ⟨_, dropWord_append h1 y, _, dropBlanks_append h2 (some_of_word h3) y,
    _, dropWord_append h3 y, _, dropBlanks_append h4 (some_of_quoted h5) y,
    _, dropQuoted_append h5 y, _, dropBlanks_append h6 (some_of_word h7) y,
    _, dropWord_append h7 y, _, dropBlanks_append h8 (some_of_quoted h9) y,
    dropQuoted_append h9 y⟩

/-! ### Ranges of a text -/

/-- In a time range at the front, all timestamps are rounded. -/
theorem roundRanges_range {front : List Char} (found : dropRange (front ++ after) = some after) :
    roundRanges (front ++ after) = roundTimestamps front ++ roundRanges after := by
  cases front with
  | nil => exact absurd (length_of_dropRange found) (Nat.lt_irrefl _)
  | cons c front =>
    have width : (front ++ after).length + 1 - after.length = (c :: front).length := by
      rw [List.length_append, List.length_cons]
      omega
    rw [List.cons_append] at found ⊢
    rw [roundRanges]
    split
    · rename_i matched
      cases matched.symm.trans found
      rw [width, ← List.cons_append, List.take_left]
    · rename_i unmatched
      rw [unmatched] at found
      cases found

/-- A character at which no time range starts is kept. -/
theorem roundRanges_keep {c : Char} (plain : dropRange (c :: x) = none) :
    roundRanges (c :: x) = c :: roundRanges x := by
  rw [roundRanges]
  split
  · rename_i found
    rw [plain] at found
    cases found
  · rfl

/-- A text is made of time ranges and of characters with which none starts. -/
theorem ranges_induction {motive : List Char → Prop} (nil : motive [])
    (range : ∀ front after, dropRange (front ++ after) = some after → motive after →
      motive (front ++ after))
    (keep : ∀ c x, dropRange (c :: x) = none → motive x → motive (c :: x)) (x : List Char) :
    motive x := by
  induction hn : x.length using Nat.strongRecOn generalizing x with
  | _ n ih =>
    subst hn
    cases x with
    | nil => exact nil
    | cons c x =>
      cases found : dropRange (c :: x) with
      | none => exact keep c x found (ih _ (Nat.lt_succ_self _) x rfl)
      | some after =>
        have shorter := length_of_dropRange found
        obtain ⟨front, split⟩ := suffix_of_dropRange found
        rw [← split] at found shorter ⊢
        exact range front after found (ih _ (split ▸ shorter) after rfl)

/-- Rounding the ranges of a text changes digits only. -/
theorem alike_roundRanges (x : List Char) : AlikeTexts x (roundRanges x) := by
  induction x using ranges_induction with
  | nil =>
    rw [roundRanges]
    exact .nil
  | range front after found ih =>
    rw [roundRanges_range found]
    exact List.rel_append (alike_roundTimestamps front) ih
  | keep c x plain ih =>
    rw [roundRanges_keep plain]
    exact .cons (.refl c) ih

end Ranges

/-! ## Texts with one key -/

/-- Whether the place in a text where so many characters are left is within a time range. -/
def inRange (text : List Char) (left : Nat) : Bool :=
  text.tails.any fun x => left ≤ x.length && (dropRange x).any (·.length < left)

/-- Whether the end `x` of a text starts with a timestamp within a time range. -/
def roundedAt (text x : List Char) : Bool :=
  startsWith timestampMarks x && inRange text x.length

/-- Two texts are the same up to timestamps, each in one with a counterpart in the other from the
same ten minutes. Timestamps may differ only where `inside` holds of what is left of the first
text; how the texts may end is said by `ends`. -/
inductive SameWindows (inside : List Char → Prop) (ends : List Char → List Char → Prop) :
    List Char → List Char → Prop
  | ends {x y : List Char} (both : ends x y) : SameWindows inside ends x y
  | keep (c : Char) {x y : List Char} (rest : SameWindows inside ends x y) :
    SameWindows inside ends (c :: x) (c :: y)
  | stamp {v w x y : List Char} (place : inside (v ++ x)) (first : Timestamp v)
    (second : Timestamp w) (window : v.take keptLength = w.take keptLength)
    (rest : SameWindows inside ends x y) : SameWindows inside ends (v ++ x) (w ++ y)

/-- Both texts are over. -/
def Over (x y : List Char) : Prop :=
  x = [] ∧ y = []

section SameWindows

variable {inside wider : List Char → Prop} {ends : List Char → List Char → Prop}
  {x y x' y' tail text : List Char} {s t : String}

/-- Timestamps may differ in more places. -/
theorem SameWindows.mono (same : SameWindows inside ends x y)
    (places : ∀ z, z <:+ x → inside z → wider z) : SameWindows wider ends x y := by
  induction same with
  | ends both => exact .ends both
  | keep c _ ih =>
    exact .keep c (ih fun z later => places z (later.trans (List.suffix_cons ..)))
  | stamp place first second window _ ih =>
    exact .stamp (places _ (List.suffix_refl _) place) first second window
      (ih fun z later => places z (later.trans (List.suffix_append ..)))

/-- Two pairs of texts may be put together, when the first two are over at once. -/
theorem SameWindows.append (front : SameWindows (fun z => inside (z ++ x')) Over x y)
    (back : SameWindows inside ends x' y') : SameWindows inside ends (x ++ x') (y ++ y') := by
  induction front with
  | ends both =>
    obtain ⟨rfl, rfl⟩ := both
    exact back
  | keep c _ ih => exact .keep c ih
  | stamp place first second window _ ih =>
    rw [List.append_assoc] at place
    rw [List.append_assoc, List.append_assoc]
    exact .stamp place first second window ih

/-- Alike texts that are rounded to the same differ within timestamps of the same ten minutes. -/
theorem sameWindows_of_roundTimestamps_eq (alike : AlikeTexts x y)
    (same : roundTimestamps x = roundTimestamps y) :
    SameWindows (fun z => startsWith timestampMarks z = true) Over x y := by
  induction x using timestamps_induction generalizing y with
  | nil =>
    cases alike
    exact .ends ⟨rfl, rfl⟩
  | stamp w rest stamp ih =>
    obtain ⟨w', rest', rfl, front, back⟩ := alike.split
    have stamp' := stamp.of_alike front
    rw [roundTimestamps_stamp stamp, roundTimestamps_stamp stamp', List.append_assoc,
      List.append_assoc] at same
    have width : (w.take keptLength).length = (w'.take keptLength).length := by
      rw [List.length_take, List.length_take, stamp.length_eq, stamp'.length_eq]
    obtain ⟨window, others⟩ := List.append_inj same width
    exact .stamp (startsWith_timestamp.mpr ⟨w, rest, rfl, stamp⟩) stamp stamp' window
      (ih back (List.append_cancel_left others))
  | keep c rest plain ih =>
    cases alike with
    | cons one others =>
      rename_i d rest'
      have plain' := (startsWith_eq_of_alike (.cons one others)).symm.trans plain
      rw [roundTimestamps_keep rest plain, roundTimestamps_keep rest' plain'] at same
      obtain ⟨rfl, further⟩ := List.cons.inj same
      exact .keep c (ih others further)

/-- A timestamp within a range of some text stands within a range of every text that goes on like
this. -/
theorem roundedAt_of_dropRange {front after z : List Char}
    (found : dropRange (front ++ after) = some after) (later : front ++ after ++ tail <:+ text)
    (inner : z <:+ front) (stamped : startsWith timestampMarks z = true) :
    roundedAt text (z ++ (after ++ tail)) = true := by
  obtain ⟨w, rest, rfl, stamp⟩ := startsWith_timestamp.mp stamped
  have starts : startsWith timestampMarks (w ++ rest ++ (after ++ tail)) = true :=
    startsWith_timestamp.mpr ⟨w, rest ++ (after ++ tail), List.append_assoc .., stamp⟩
  have further := dropRange_append found tail
  have width : w.length = 19 := stamp.length_eq
  have short := inner.length_le
  have within : inRange text (w ++ rest ++ (after ++ tail)).length = true := by
    rw [inRange, List.any_eq_true]
    refine ⟨front ++ after ++ tail, (List.mem_tails ..).mpr later, ?_⟩
    rw [further]
    simp only [List.length_append, Option.any_some, Bool.and_eq_true, decide_eq_true_eq] at short ⊢
    omega
  rw [roundedAt, starts, within]
  rfl

/-- Alike texts whose ranges are rounded to the same differ within timestamps of the same ten
minutes that stand within their ranges. -/
theorem sameWindows_of_roundRanges_eq (later : x ++ tail <:+ text) (alike : AlikeTexts x y)
    (same : roundRanges x = roundRanges y) :
    SameWindows (fun z => roundedAt text (z ++ tail) = true) Over x y := by
  induction x using ranges_induction generalizing y with
  | nil =>
    cases alike
    exact .ends ⟨rfl, rfl⟩
  | range front after found ih =>
    obtain ⟨front', after', rfl, fronts, back, found'⟩ :=
      blind_dropRange.exists_append suffix_of_dropRange alike found
    rw [roundRanges_range found, roundRanges_range found'] at same
    have rounded : (roundTimestamps front).length = (roundTimestamps front').length := by
      rw [← (alike_roundTimestamps front).length_eq, ← (alike_roundTimestamps front').length_eq,
        fronts.length_eq]
    obtain ⟨early, late⟩ := List.append_inj same rounded
    have windows := (sameWindows_of_roundTimestamps_eq fronts early).mono
      fun z inner stamped => roundedAt_of_dropRange found later inner stamped
    have rest : after ++ tail <:+ text := by
      rw [List.append_assoc] at later
      exact (List.suffix_append ..).trans later
    refine SameWindows.append ?_ (ih rest back late)
    simpa only [List.append_assoc] using windows
  | keep c x plain ih =>
    cases alike with
    | cons one others =>
      rename_i d y
      have plain' : dropRange (d :: y) = none := blind_dropRange.of_none (.cons one others) plain
      rw [roundRanges_keep plain, roundRanges_keep plain'] at same
      obtain ⟨rfl, further⟩ := List.cons.inj same
      exact .keep c (ih ((List.suffix_cons ..).trans later) others further)

/-- Two texts with one key are the same, when white space around them is left out, up to timestamps
of the same ten minutes within time ranges. -/
theorem sameWindows_of_cacheKey_eq (later : Text.trim s.toList ++ tail <:+ text)
    (same : cacheKey s = cacheKey t) :
    SameWindows (fun z => roundedAt text (z ++ tail) = true) Over (Text.trim s.toList)
      (Text.trim t.toList) := by
  have rounded := String.ofList_inj.mp same
  have alike : AlikeTexts (Text.trim s.toList) (Text.trim t.toList) := by
    have left := alike_roundRanges (Text.trim s.toList)
    rw [rounded] at left
    exact left.trans (alike_roundRanges _).symm
  exact sameWindows_of_roundRanges_eq later alike rounded

end SameWindows

end CacheKey

end FederatedSearch
