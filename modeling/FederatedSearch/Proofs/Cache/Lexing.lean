import FederatedSearch.Proofs.Cache.Rounding
import FederatedSearch.Query.Lexer
import Mathlib.Data.List.TakeWhile

/-!
# Where timestamps may stand

A token that starts with no quote goes as far as bare characters go, and where it ends is decided
by the next two characters (`cutsBare_cut`). A colon is no bare character, so that in a text without
illegal tokens every timestamp lies within a string or a quoted name (`not_lexes_timestamp`).
-/

namespace FederatedSearch

namespace Lexer

open CacheKey (Timestamp)

/-- What tokens a text is cut into, none of them illegal. -/
inductive Lexes : List Char → List Token → Prop
  | done : Lexes [] []
  | blank {c : Char} {rest : List Char} {ts : List Token} (white : Text.isWhitespace c = true)
    (others : Lexes rest ts) : Lexes (c :: rest) ts
  | token {c : Char} {rest : List Char} {ts : List Token} (black : Text.isWhitespace c = false)
    (legal : (cut c rest).token ≠ .illegal) (others : Lexes (cut c rest).rest ts) :
    Lexes (c :: rest) ((cut c rest).token :: ts)

/-! ## Bare tokens -/

/-- A character that may stand outside of quotes: it is no quote, no colon and no white space. -/
def IsBare (c : Char) : Prop :=
  c ≠ '\'' ∧ c ≠ '"' ∧ c ≠ nameQuote ∧ c ≠ ':' ∧ Text.isWhitespace c = false

instance (c : Char) : Decidable (IsBare c) :=
  inferInstanceAs (Decidable (_ ∧ _ ∧ _ ∧ _ ∧ _))

/-- The next two characters of a text, as far as there is no white space before them. -/
def peek (x : List Char) : List Char :=
  (x.take 2).takeWhile fun c => !Text.isWhitespace c

/-- A token that starts with `c` is cut off a text as far as bare characters go, and is cut off
like this from any text that goes on with the same two characters. -/
def CutsBare (cutter : List Char → Cut) (c : Char) (x : List Char) : Prop :=
  ∃ l, x = l ++ (cutter x).rest ∧ (∀ d ∈ c :: l, IsBare d) ∧
    ∀ y, peek y = peek (cutter x).rest →
      (cutter (l ++ y)).token = (cutter x).token ∧ (cutter (l ++ y)).rest = y

section Bare

variable {c d : Char} {x y z l : List Char}

/-- The next two characters are the first and, unless it is white space, the second. -/
theorem peek_cons (black : Text.isWhitespace d = false) :
    peek (d :: x) = d :: (x.take 1).takeWhile fun c => !Text.isWhitespace c := by
  simp [peek, black]

/-- Texts that go on with the same two characters start with the same, unless it is white
space. -/
theorem exists_cons_of_peek (same : peek y = peek (d :: x)) (black : Text.isWhitespace d = false) :
    ∃ y', y = d :: y' ∧ (y'.take 1).takeWhile (fun c => !Text.isWhitespace c) =
      (x.take 1).takeWhile fun c => !Text.isWhitespace c := by
  rw [peek_cons black] at same
  cases y with
  | nil => cases same
  | cons e y =>
    cases white : Text.isWhitespace e with
    | true =>
      simp [peek, white] at same
    | false =>
      rw [peek_cons white] at same
      obtain ⟨rfl, others⟩ := List.cons.inj same
      exact ⟨y, rfl, others⟩

/-- Two characters that are seen ahead are there. -/
theorem exists_cons_cons_of_peek {e : Char} (same : peek y = peek (d :: e :: x))
    (black : Text.isWhitespace d = false) (black' : Text.isWhitespace e = false) :
    ∃ y', y = d :: e :: y' := by
  obtain ⟨y, rfl, next⟩ := exists_cons_of_peek same black
  cases y with
  | nil => simp [black'] at next
  | cons f y =>
    cases white : Text.isWhitespace f with
    | true => simp [white, black'] at next
    | false =>
      have equal : f = e := by simpa [white, black'] using next
      exact ⟨y, equal ▸ rfl⟩

/-- A run of characters ends where it ends in any text that goes on alike. -/
theorem takeWhile_append_of_peek {p : Char → Bool} (none : ∀ d, p d = true →
    Text.isWhitespace d = false) (all : ∀ d ∈ l, p d = true) (ends : x.takeWhile p = [])
    (same : peek y = peek x) : (l ++ y).takeWhile p = l ∧ (l ++ y).dropWhile p = y := by
  have stop : y.takeWhile p = [] ∧ y.dropWhile p = y := by
    cases y with
    | nil => exact ⟨rfl, rfl⟩
    | cons e y =>
      cases goes : p e with
      | false => simp [goes]
      | true =>
        obtain ⟨x', rfl, _⟩ := exists_cons_of_peek same.symm (none e goes)
        simp [goes] at ends
  rw [List.takeWhile_append_of_pos all, List.dropWhile_append_of_pos all, stop.1, stop.2]
  exact ⟨List.append_nil l, rfl⟩

/-- Nothing more is taken where all that could be was dropped. -/
theorem takeWhile_dropWhile (p : Char → Bool) (x : List Char) :
    (x.dropWhile p).takeWhile p = [] := by
  induction x with
  | nil => rfl
  | cons c x ih =>
    rw [List.dropWhile_cons]
    split
    · exact ih
    · rename_i stops
      simp [stops]

/-- A symbol of one character is cut off alike before any text. -/
theorem cutsBare_symbol (s : Symbol) (bare : IsBare c) : CutsBare (cutSymbol s c) c x :=
  ⟨[], rfl, by simpa using bare, fun _ _ => ⟨rfl, rfl⟩⟩

/-- The characters of words may stand outside of quotes. -/
theorem isBare_of_isWordPart (part : isWordPart d = true) : IsBare d := by
  have other (e : Char) (no : isWordPart e = false) : d ≠ e := by
    rintro rfl
    rw [part] at no
    cases no
  have black : Text.isWhitespace d = false := by
    by_contra white
    have white : Text.isWhitespace d = true := by simpa using white
    have known := Text.isAlphanumeric_of_isWhitespace white
    have marks : d = '_' ∨ d = '-' ∨ d = '.' := by simpa [isWordPart, known, or_assoc] using part
    rcases marks with rfl | rfl | rfl
    · exact absurd white (by decide)
    · exact absurd white (by decide)
    · exact absurd white (by decide)
  exact ⟨other _ (by decide), other _ (by decide), other _ (by decide), other _ (by decide), black⟩

/-- A word is cut off alike before any text that does not go on with it. -/
theorem cutsBare_word (start : IsBare c) : CutsBare (cutWord c) c x := by
  have black : ∀ d, isWordPart d = true → Text.isWhitespace d = false :=
    fun d part => (isBare_of_isWordPart part).2.2.2.2
  refine ⟨x.takeWhile isWordPart, List.takeWhile_append_dropWhile.symm, ?_, fun y same => ?_⟩
  · intro d member
    rcases List.mem_cons.mp member with rfl | later
    · exact start
    · exact isBare_of_isWordPart (List.mem_takeWhile_imp later)
  · have all : ∀ d ∈ x.takeWhile isWordPart, isWordPart d = true :=
      fun d member => List.mem_takeWhile_imp member
    obtain ⟨word, rest⟩ :=
      takeWhile_append_of_peek black all (takeWhile_dropWhile isWordPart x) same
    simp only [cutWord, word, rest, and_self]

/-! ### Numbers -/

/-- The minus of a negative number. -/
def sign (negative : Bool) : List Char :=
  if negative then ['-'] else []

/-- A number has a fraction exactly when a point and a digit follow its first digits. -/
theorem cutNumber_cases (negative : Bool) (x : List Char) :
    (∃ c y, x.dropWhile Text.isAsciiDigit = '.' :: c :: y ∧ Text.isAsciiDigit c = true ∧
      cutNumber negative x = ⟨
        floatToken negative (x.takeWhile Text.isAsciiDigit) ((c :: y).takeWhile Text.isAsciiDigit),
        sign negative ++ x.takeWhile Text.isAsciiDigit ++
          '.' :: (c :: y).takeWhile Text.isAsciiDigit,
        (c :: y).dropWhile Text.isAsciiDigit⟩) ∨
    ((∀ c y, x.dropWhile Text.isAsciiDigit = '.' :: c :: y → Text.isAsciiDigit c = false) ∧
      cutNumber negative x = ⟨integerToken negative (x.takeWhile Text.isAsciiDigit),
        sign negative ++ x.takeWhile Text.isAsciiDigit, x.dropWhile Text.isAsciiDigit⟩) := by
  by_cases point : ∃ c y, x.dropWhile Text.isAsciiDigit = '.' :: c :: y ∧
      Text.isAsciiDigit c = true
  · obtain ⟨c, y, point, digit⟩ := point
    refine .inl ⟨c, y, point, digit, ?_⟩
    simp only [cutNumber, point, digit, if_true, sign]
  · have plain : ∀ c y, x.dropWhile Text.isAsciiDigit = '.' :: c :: y →
        Text.isAsciiDigit c = false := fun c y here => by
      by_contra digit
      exact point ⟨c, y, here, by simpa using digit⟩
    refine .inr ⟨plain, ?_⟩
    unfold cutNumber
    dsimp only [sign]
    generalize (if negative then ['-'] else []) = sign
    split
    · rename_i c y here
      rw [if_neg (by simp [plain c y here]), here]
    · rfl

/-- A number with a fraction. -/
theorem cutNumber_fraction (negative : Bool) (digit : Text.isAsciiDigit c = true)
    (point : x.dropWhile Text.isAsciiDigit = '.' :: c :: y) :
    (cutNumber negative x).token = floatToken negative (x.takeWhile Text.isAsciiDigit)
        ((c :: y).takeWhile Text.isAsciiDigit) ∧
      (cutNumber negative x).rest = (c :: y).dropWhile Text.isAsciiDigit := by
  rcases cutNumber_cases negative x with ⟨d, z, point', _, cut⟩ | ⟨plain, _⟩
  · rw [point] at point'
    cases point'
    rw [cut]
    exact ⟨rfl, rfl⟩
  · rw [plain c y point] at digit
    cases digit

/-- A number without a fraction. -/
theorem cutNumber_whole (negative : Bool) (plain : ∀ c y,
      x.dropWhile Text.isAsciiDigit = '.' :: c :: y → Text.isAsciiDigit c = false) :
    (cutNumber negative x).token = integerToken negative (x.takeWhile Text.isAsciiDigit) ∧
      (cutNumber negative x).rest = x.dropWhile Text.isAsciiDigit := by
  rcases cutNumber_cases negative x with ⟨c, y, point, digit, _⟩ | ⟨_, cut⟩
  · rw [plain c y point] at digit
    cases digit
  · rw [cut]
    exact ⟨rfl, rfl⟩

/-- Digits may stand outside of quotes. -/
theorem isBare_of_isAsciiDigit (digit : Text.isAsciiDigit d = true) : IsBare d := by
  refine isBare_of_isWordPart ?_
  simp [isWordPart, Text.isAlphanumeric, Text.isNumeric_of_isAsciiDigit digit]

/-- The number at the front of a text has the characters `l` besides its sign, and is cut off like
this from any text that goes on with the same two characters. -/
def CutsNumber (negative : Bool) (x l : List Char) : Prop :=
  x = l ++ (cutNumber negative x).rest ∧ (∀ d ∈ l, IsBare d) ∧
    (∀ d rest, x = d :: rest → Text.isAsciiDigit d = true → l ≠ []) ∧
    ∀ y, peek y = peek (cutNumber negative x).rest →
      (cutNumber negative (l ++ y)).token = (cutNumber negative x).token ∧
        (cutNumber negative (l ++ y)).rest = y

/-- No digit is white space. -/
theorem black_of_isAsciiDigit (d : Char) (digit : Text.isAsciiDigit d = true) :
    Text.isWhitespace d = false :=
  (isBare_of_isAsciiDigit digit).2.2.2.2

/-- Digits, a point and digits are cut off as one number. -/
theorem cutsNumber_fraction (negative : Bool) (digit : Text.isAsciiDigit c = true)
    (point : x.dropWhile Text.isAsciiDigit = '.' :: c :: z) : CutsNumber negative x
      (x.takeWhile Text.isAsciiDigit ++ '.' :: (c :: z).takeWhile Text.isAsciiDigit) := by
  obtain ⟨token, rest⟩ := cutNumber_fraction negative digit point
  have first : (c :: z).takeWhile Text.isAsciiDigit = c :: z.takeWhile Text.isAsciiDigit :=
    List.takeWhile_cons_of_pos digit
  refine ⟨?_, fun d member => ?_, by simp, fun y same => ?_⟩
  · rw [rest, List.append_assoc, List.cons_append, List.takeWhile_append_dropWhile, ← point,
      List.takeWhile_append_dropWhile]
  · rcases List.mem_append.mp member with early | late
    · exact isBare_of_isAsciiDigit (List.mem_takeWhile_imp early)
    · rcases List.mem_cons.mp late with rfl | fractional
      · decide
      · exact isBare_of_isAsciiDigit (List.mem_takeWhile_imp fractional)
  · rw [rest] at same
    obtain ⟨again, others⟩ := takeWhile_append_of_peek black_of_isAsciiDigit
      (fun _ => List.mem_takeWhile_imp) (takeWhile_dropWhile _ (c :: z)) same
    -- The text with another rest, as far as its point.
    let whole := x.takeWhile Text.isAsciiDigit
    have tail : (whole ++ '.' :: (c :: z).takeWhile Text.isAsciiDigit) ++ y =
        whole ++ '.' :: c :: (z.takeWhile Text.isAsciiDigit ++ y) := by
      rw [List.append_assoc, first]
      rfl
    have point' : (whole ++ '.' :: c :: (z.takeWhile Text.isAsciiDigit ++ y)).dropWhile
        Text.isAsciiDigit = '.' :: c :: (z.takeWhile Text.isAsciiDigit ++ y) := by
      rw [List.dropWhile_append_of_pos fun _ => List.mem_takeWhile_imp]
      rfl
    have front : (whole ++ '.' :: c :: (z.takeWhile Text.isAsciiDigit ++ y)).takeWhile
        Text.isAsciiDigit = whole := by
      rw [List.takeWhile_append_of_pos fun _ => List.mem_takeWhile_imp]
      exact List.append_nil _
    obtain ⟨token', rest'⟩ := cutNumber_fraction negative digit point'
    have joined : c :: (z.takeWhile Text.isAsciiDigit ++ y) =
        (c :: z).takeWhile Text.isAsciiDigit ++ y := by
      rw [first]
      rfl
    rw [tail, token', token, rest', front, joined, again, others]
    exact ⟨rfl, rfl⟩

/-- Digits without a point and a digit after them are cut off as a whole number. -/
theorem cutsNumber_whole (negative : Bool) (plain : ∀ c y,
      x.dropWhile Text.isAsciiDigit = '.' :: c :: y → Text.isAsciiDigit c = false) :
    CutsNumber negative x (x.takeWhile Text.isAsciiDigit) := by
  obtain ⟨token, rest⟩ := cutNumber_whole negative plain
  refine ⟨?_, fun d member => ?_, ?_, fun y same => ?_⟩
  · rw [rest, List.takeWhile_append_dropWhile]
  · exact isBare_of_isAsciiDigit (List.mem_takeWhile_imp member)
  · rintro d rest rfl digit
    simp [digit]
  · rw [rest] at same
    obtain ⟨whole, others⟩ := takeWhile_append_of_peek black_of_isAsciiDigit
      (fun _ => List.mem_takeWhile_imp) (takeWhile_dropWhile _ x) same
    have plain' : ∀ c z, (x.takeWhile Text.isAsciiDigit ++ y).dropWhile Text.isAsciiDigit =
        '.' :: c :: z → Text.isAsciiDigit c = false := by
      intro c z here
      rw [others] at here
      by_contra digit
      have digit : Text.isAsciiDigit c = true := by simpa using digit
      rw [here] at same
      obtain ⟨z', here'⟩ :=
        exists_cons_cons_of_peek same.symm (by decide) (black_of_isAsciiDigit c digit)
      rw [plain c z' here'] at digit
      cases digit
    obtain ⟨token', rest'⟩ := cutNumber_whole negative plain'
    rw [token', token, rest', whole, others]
    exact ⟨rfl, rfl⟩

/-- Where a number ends does not depend on what follows it, but for the next two characters. -/
theorem exists_cutsNumber (negative : Bool) (x : List Char) : ∃ l, CutsNumber negative x l := by
  rcases cutNumber_cases negative x with ⟨c, z, point, digit, _⟩ | ⟨plain, _⟩
  · exact ⟨_, cutsNumber_fraction negative digit point⟩
  · exact ⟨_, cutsNumber_whole negative plain⟩

/-! ### All tokens without quotes -/

/-- An operator of two characters is cut off whatever follows it. -/
theorem cutsBare_pair (bare : IsBare c) (bare' : IsBare d)
    (pair : ∀ y, (cut c (d :: y)).token = (cut c (d :: x)).token ∧ (cut c (d :: y)).rest = y) :
    CutsBare (cut c) c (d :: x) := by
  refine ⟨[d], ?_, ?_, fun y _ => pair y⟩
  · rw [(pair x).2]
    rfl
  · intro e member
    rcases List.mem_cons.mp member with rfl | second
    · exact bare
    · cases List.mem_singleton.mp second
      exact bare'

/-- An operator of one character is cut off where none of the characters follows that would make
it a longer one. -/
theorem cutsBare_lone {s : Symbol} {longer : List Char} (bare : IsBare c)
    (black : longer.any Text.isWhitespace = false)
    (lone : ∀ y, (∀ d ∈ longer, ∀ z, y ≠ d :: z) → cut c y = cutSymbol s c y)
    (plain : ∀ d ∈ longer, ∀ z, x ≠ d :: z) : CutsBare (cut c) c x := by
  refine ⟨[], ?_, by simpa using bare, fun y same => ?_⟩
  · rw [lone x plain]
    rfl
  · rw [lone x plain] at same
    have plain' : ∀ d ∈ longer, ∀ z, y ≠ d :: z := by
      rintro d member z rfl
      have blackMember : Text.isWhitespace d = false := by
        simpa using List.any_eq_false.mp black d member
      obtain ⟨z', here, _⟩ := exists_cons_of_peek same.symm blackMember
      exact plain d member z' here
    rw [List.nil_append, lone y plain', lone x plain]
    exact ⟨rfl, rfl⟩

/-- A sign stands alone where it does not go on as a longer operator. -/
theorem cut_lt (plain : ∀ d ∈ ['=', '>'], ∀ z, y ≠ d :: z) : cut '<' y = cutSymbol .lt '<' y := by
  simp only [cut]
  split
  · exact absurd rfl (plain '=' (by simp) _)
  · exact absurd rfl (plain '>' (by simp) _)
  · rfl

/-- A greater sign that no equals sign follows is a symbol of its own. -/
theorem cut_gt (plain : ∀ d ∈ ['='], ∀ z, y ≠ d :: z) : cut '>' y = cutSymbol .gt '>' y := by
  simp only [cut]
  split
  · exact absurd rfl (plain '=' (by simp) _)
  · rfl

/-- A symbol that starts with a less sign is cut off alike before any text. -/
theorem cutsBare_lt (x : List Char) : CutsBare (cut '<') '<' x := by
  by_cases first : ∃ z, x = '=' :: z
  · obtain ⟨z, rfl⟩ := first
    exact cutsBare_pair (by decide) (by decide) fun _ => ⟨rfl, rfl⟩
  · by_cases second : ∃ z, x = '>' :: z
    · obtain ⟨z, rfl⟩ := second
      exact cutsBare_pair (by decide) (by decide) fun _ => ⟨rfl, rfl⟩
    · refine cutsBare_lone (by decide) (by decide) (fun _ => cut_lt) ?_
      simp only [List.mem_cons, List.not_mem_nil, or_false, forall_eq_or_imp, forall_eq]
      exact ⟨fun z here => first ⟨z, here⟩, fun z here => second ⟨z, here⟩⟩

/-- A symbol that starts with a greater sign is cut off alike before any text. -/
theorem cutsBare_gt (x : List Char) : CutsBare (cut '>') '>' x := by
  by_cases first : ∃ z, x = '=' :: z
  · obtain ⟨z, rfl⟩ := first
    exact cutsBare_pair (by decide) (by decide) fun _ => ⟨rfl, rfl⟩
  · refine cutsBare_lone (by decide) (by decide) (fun _ => cut_gt) ?_
    simp only [List.mem_singleton, forall_eq]
    exact fun z here => first ⟨z, here⟩

/-- An exclamation mark with an equals sign is cut off alike before any text. -/
theorem cutsBare_bang (legal : (cut '!' x).token ≠ .illegal) : CutsBare (cut '!') '!' x := by
  by_cases first : ∃ z, x = '=' :: z
  · obtain ⟨z, rfl⟩ := first
    exact cutsBare_pair (by decide) (by decide) fun _ => ⟨rfl, rfl⟩
  · refine absurd ?_ legal
    simp only [cut]
    split
    · exact absurd ⟨_, rfl⟩ first
    · rfl

/-- How a character starts a token that is no symbol. -/
theorem cut_other (other : c ∉ ['=', '(', ')', ',', '*', '<', '>', '!']) : cut c x =
    if c = '\'' ∨ c = '"' then cutString c x
    else if c = nameQuote then cutQuotedName x
    else if c = '-' ∧ (x.head?.any Text.isAsciiDigit) = true then cutNumber true x
    else if Text.isAsciiDigit c then cutNumber false (c :: x)
    else if isWordStart c then cutWord c x
    else ⟨.illegal, [c], x⟩ := by
  unfold cut
  split <;> first | rfl | (simp at other)

/-- What is cut off alike by one function is so by another that agrees with it. -/
theorem cutsBare_congr {cutter cutter' : List Char → Cut} (bare : CutsBare cutter' c x)
    (same : ∀ y, cutter y = cutter' y) : CutsBare cutter c x := by
  have equal : cutter = cutter' := funext same
  rwa [equal]

/-- A number is cut off alike before any text that does not go on with it. -/
theorem cutsBare_number (digit : Text.isAsciiDigit c = true) :
    CutsBare (fun y => cutNumber false (c :: y)) c x := by
  obtain ⟨l, split, bare, nonempty, settled⟩ := exists_cutsNumber false (c :: x)
  cases l with
  | nil => exact absurd rfl (nonempty c x rfl digit)
  | cons d l =>
    obtain ⟨rfl, others⟩ := List.cons.inj split
    exact ⟨l, others, bare, settled⟩

/-- A minus sign before a digit belongs to the number. -/
theorem cutsBare_minus (digit : x.head?.any Text.isAsciiDigit = true) :
    CutsBare (cut '-') '-' x := by
  have equation (y : List Char) (digit : y.head?.any Text.isAsciiDigit = true) :
      cut '-' y = cutNumber true y := by
    rw [cut_other (by decide), if_neg (by decide), if_neg (by decide), if_pos ⟨rfl, digit⟩]
  obtain ⟨l, split, bare, nonempty, settled⟩ := exists_cutsNumber true x
  have starts (y : List Char) : (l ++ y).head?.any Text.isAsciiDigit = true := by
    cases x with
    | nil => cases digit
    | cons d x =>
      cases l with
      | nil => exact absurd rfl (nonempty d x rfl digit)
      | cons e l =>
        obtain ⟨rfl, _⟩ := List.cons.inj split
        exact digit
  refine ⟨l, ?_, ?_, fun y same => ?_⟩
  · rwa [equation x digit]
  · intro d member
    rcases List.mem_cons.mp member with rfl | later
    · decide
    · exact bare d later
  · rw [equation x digit] at same ⊢
    rw [equation _ (starts y)]
    exact settled y same

/-- A token that is not illegal and does not start with a quote is bare. -/
theorem cutsBare_cut (black : Text.isWhitespace c = false)
    (plain : c ∉ ['\'', '"', nameQuote]) (legal : (cut c x).token ≠ .illegal) :
    CutsBare (cut c) c x := by
  by_cases other : c ∉ ['=', '(', ')', ',', '*', '<', '>', '!']
  · have equation := fun y => cut_other (x := y) other
    simp only [List.mem_cons, List.not_mem_nil, or_false, not_or] at plain
    simp only [plain.1, plain.2.1, plain.2.2, or_false, if_false] at equation
    by_cases digit : Text.isAsciiDigit c = true
    · have unsigned : c ≠ '-' := by
        rintro rfl
        cases digit
      simp only [unsigned, false_and, if_false, digit, if_true] at equation
      exact cutsBare_congr (cutsBare_number digit) equation
    · by_cases minus : c = '-'
      · subst minus
        by_cases signed : x.head?.any Text.isAsciiDigit = true
        · exact cutsBare_minus signed
        · refine absurd ?_ legal
          rw [equation, if_neg (by simp [signed]), if_neg (by decide), if_neg (by decide)]
      · simp only [minus, false_and, if_false, digit] at equation
        by_cases start : isWordStart c = true
        · simp only [start, if_true] at equation
          have colon : c ≠ ':' := by
            rintro rfl
            exact absurd start (by decide)
          exact cutsBare_congr
            (cutsBare_word ⟨plain.1, plain.2.1, plain.2.2, colon, black⟩) equation
        · refine absurd ?_ legal
          rw [equation, if_neg Bool.false_ne_true, if_neg start]
  · simp only [List.mem_cons, List.not_mem_nil, or_false, not_not] at other
    rcases other with rfl | rfl | rfl | rfl | rfl | rfl | rfl | rfl
    · exact cutsBare_symbol .eq (by decide)
    · exact cutsBare_symbol .lparen (by decide)
    · exact cutsBare_symbol .rparen (by decide)
    · exact cutsBare_symbol .comma (by decide)
    · exact cutsBare_symbol .star (by decide)
    · exact cutsBare_lt x
    · exact cutsBare_gt x
    · exact cutsBare_bang legal

end Bare

/-! ## Colons -/

/-- A text does not go on with a colon before any quote when it has no illegal tokens. -/
theorem not_lexes_colon {u y : List Char} {ts : List Token}
    (plain : ∀ c ∈ u, c ∉ ['\'', '"', nameQuote]) : ¬ Lexes (u ++ ':' :: y) ts := by
  intro lexes
  generalize whole : u ++ ':' :: y = x at lexes
  induction lexes generalizing u with
  | done => simp at whole
  | blank white others ih =>
    cases u with
    | nil =>
      cases whole
      exact absurd white (by decide)
    | cons d u =>
      cases whole
      exact ih (fun e member => plain e (List.mem_cons_of_mem _ member)) rfl
  | token black legal others ih =>
    rename_i c rest ts
    cases u with
    | nil =>
      cases whole
      exact legal (by rw [cut_other (by decide)]; rfl)
    | cons d u =>
      cases whole
      obtain ⟨l, split, bare, _⟩ := cutsBare_cut black (plain c (List.mem_cons_self ..)) legal
      rcases List.append_eq_append_iff.mp split with ⟨a, longer, tail⟩ | ⟨a, shorter, tail⟩
      · cases a with
        | nil =>
          have none : ∀ c ∈ ([] : List Char), c ∉ ['\'', '"', nameQuote] := by simp
          exact ih none tail
        | cons e a =>
          obtain ⟨rfl, _⟩ := List.cons.inj tail
          have member : ':' ∈ l := longer ▸ List.mem_append_right _ (List.mem_cons_self ..)
          exact (bare ':' (List.mem_cons_of_mem _ member)).2.2.2.1 rfl
      · refine ih (fun e member => plain e ?_) tail.symm
        rw [shorter]
        exact List.mem_cons_of_mem _ (List.mem_append_right _ member)

section Timestamps

variable {w v x y : List Char} {ts : List Token}

/-- A timestamp holds no quotes and no backslashes. -/
theorem plain_of_mem_timestamp (stamp : Timestamp w) {c : Char} (member : c ∈ w) :
    c ∉ ['\'', '"', nameQuote, '\\'] := by
  have marked {marks w : List Char}
      (fit : List.Forall₂ (fun mark c => CacheKey.fits mark c = true) marks w) (member : c ∈ w) :
      ∃ mark ∈ marks, CacheKey.fits mark c = true := by
    induction fit with
    | nil => cases member
    | cons one _ ih =>
      rcases List.mem_cons.mp member with rfl | later
      · exact ⟨_, List.mem_cons_self .., one⟩
      · obtain ⟨mark, known, fit⟩ := ih later
        exact ⟨mark, List.mem_cons_of_mem _ known, fit⟩
  have unfit : (CacheKey.timestampMarks.any fun mark =>
      ['\'', '"', nameQuote, '\\'].any (CacheKey.fits mark)) = false := by decide
  obtain ⟨mark, known, fit⟩ := marked stamp member
  intro special
  simp only [List.any_eq_false, Bool.not_eq_true] at unfit
  rw [unfit mark known c special] at fit
  cases fit

/-- A timestamp starts with a digit. -/
theorem exists_cons_of_timestamp (stamp : Timestamp w) :
    ∃ c w', w = c :: w' ∧ Text.isDigit c = true := by
  have first : List.Forall₂ (fun mark c => CacheKey.fits mark c = true)
      ('d' :: CacheKey.timestampMarks.tail) w := stamp
  obtain _ | ⟨digit, _⟩ := first
  exact ⟨_, _, rfl, digit⟩

/-- Outside of quotes no timestamp stands in a text without illegal tokens. -/
theorem not_lexes_timestamp {u : List Char} (plain : ∀ c ∈ u, c ∉ ['\'', '"', nameQuote])
    (stamp : Timestamp w) : ¬ Lexes (u ++ (w ++ y)) ts := by
  have last : List.Forall₂ (fun mark c => CacheKey.fits mark c = true)
      (':' :: CacheKey.timestampMarks.drop 14) (w.drop 13) := List.forall₂_drop 13 stamp
  cases rest : w.drop 13 with
  | nil =>
    rw [rest] at last
    cases last
  | cons c z =>
    rw [rest] at last
    obtain _ | ⟨fit, _⟩ := last
    have colon : c = ':' := by simpa [CacheKey.fits] using fit
    have split : u ++ (w ++ y) = (u ++ w.take 13) ++ ':' :: (z ++ y) := by
      rw [← colon, List.append_assoc, ← List.cons_append, ← rest, ← List.append_assoc (w.take 13),
        List.take_append_drop]
    rw [split]
    refine not_lexes_colon fun d member => ?_
    rcases List.mem_append.mp member with early | late
    · exact plain d early
    · have known := plain_of_mem_timestamp stamp (List.mem_of_mem_take late)
      simp only [List.mem_cons, List.not_mem_nil, or_false, not_or] at known ⊢
      exact ⟨known.1, known.2.1, known.2.2.1⟩

end Timestamps

end Lexer

end FederatedSearch
