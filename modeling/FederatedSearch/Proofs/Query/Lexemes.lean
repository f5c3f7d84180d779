import FederatedSearch.Proofs.Cache.Twins
import Mathlib.Data.String.Basic

/-!
# What tokens are written with

`Writes` says which characters a token is written with, whatever stands around them. The lexer is
sound for it: what is cut off the front of a text writes the token that it is cut off as
(`writes_cut`). It is complete where a token ends: characters that write a token are cut off as
that token before white space, a comma, a closing parenthesis or the end (`Writes.cutsOff`).

What is cut off and what is left are together the text, so that the bytes which a placed token
covers are the characters that it was cut off with (`exists_cut_of_mem_tokens`).
-/

namespace FederatedSearch

namespace Lexer

/-- What symbols are written with. -/
def symbolTexts : List (List Char × Symbol) :=
  [(['='], .eq), (['('], .lparen), ([')'], .rparen), ([','], .comma), (['*'], .star),
    (['<', '='], .lte), (['<', '>'], .notEq), (['<'], .lt), (['>', '='], .gte), (['>'], .gt),
    (['!', '='], .notEq)]

/-- Whether characters make up one word. -/
def isWordText (w : List Char) : Bool :=
  w.head?.any isWordStart && w.tail.all isWordPart

/-- Some characters write a token. A number is written with at least one digit, also on both sides
of its point. -/
inductive Writes : List Char → Token → Prop
  | symbol {w : List Char} {s : Symbol} (listed : (w, s) ∈ symbolTexts) : Writes w (.symbol s)
  | string {quote : Char} {raw : List Char} (known : quote ∈ ['\'', '"'])
    (taken : Taken quote raw) : Writes (quote :: (raw ++ [quote])) (.string (String.ofList raw))
  | quotedName {n : List Char} (free : nameQuote ∉ n) :
    Writes (nameQuote :: (n ++ [nameQuote])) (.identifier (String.ofList n))
  | whole (negative : Bool) {digits : List Char}
    (all : ∀ d ∈ digits, Text.isAsciiDigit d = true) (nonempty : digits ≠ []) :
    Writes (sign negative ++ digits) (integerToken negative digits)
  | fraction (negative : Bool) {digits decimals : List Char}
    (all : ∀ d ∈ digits, Text.isAsciiDigit d = true) (nonempty : digits ≠ [])
    (all' : ∀ d ∈ decimals, Text.isAsciiDigit d = true) (nonempty' : decimals ≠ []) :
    Writes (sign negative ++ (digits ++ '.' :: decimals)) (floatToken negative digits decimals)
  | word {w : List Char} (word : isWordText w = true) : Writes w (wordToken w)

/-- A text ends, or goes on with what ends any token before it. -/
def Stops (rest : List Char) : Prop :=
  ∀ c ∈ rest.head?, Text.isWhitespace c = true ∨ c = ',' ∨ c = ')'

section Classes

variable {c d : Char} {l w x y : List Char}

/-- A text starts as a run of characters before it does. -/
theorem any_head?_append {p : Char → Bool} (all : ∀ d ∈ l, p d = true) (nonempty : l ≠ [])
    (x : List Char) : (l ++ x).head?.any p = true := by
  cases l with
  | nil => exact absurd rfl nonempty
  | cons d l => exact all d (List.mem_cons_self ..)

/-- A character that may begin a word may go on in one. -/
theorem isWordPart_of_isWordStart (start : isWordStart c = true) : isWordPart c = true := by
  rw [isWordStart, Bool.or_eq_true] at start
  rcases start with letter | underscore
  · simp [isWordPart, Text.isAlphanumeric, letter]
  · simp [isWordPart, underscore]

/-- A word does not start with a digit. -/
theorem isAsciiDigit_of_isWordStart (start : isWordStart c = true) :
    Text.isAsciiDigit c = false := by
  by_contra digit
  have digit : Text.isAsciiDigit c = true := by simpa using digit
  rw [isWordStart, Text.isAlphabetic_of_isAsciiDigit digit, Bool.false_or, beq_iff_eq] at start
  subst start
  cases digit

/-- A character of a class that no symbol, quote or minus belongs to begins a number or a word. -/
theorem cut_of_class {p : Char → Bool} (inside : p c = true)
    (outside : (['=', '(', ')', ',', '*', '<', '>', '!', '\'', '"', nameQuote, '-'].any p) = false)
    (x : List Char) : cut c x =
      if Text.isAsciiDigit c then cutNumber false (c :: x)
      else if isWordStart c then cutWord c x
      else ⟨.illegal, [c], x⟩ := by
  have absent : c ∉ ['=', '(', ')', ',', '*', '<', '>', '!', '\'', '"', nameQuote, '-'] :=
    fun member => List.any_eq_false.mp outside c member inside
  have other : ∀ d ∈ ['\'', '"', nameQuote, '-'], c ≠ d := by
    rintro d member rfl
    exact absent (List.mem_append_right ['=', '(', ')', ',', '*', '<', '>', '!'] member)
  rw [cut_other (mt (List.mem_append_left _) absent),
    if_neg (not_or.mpr ⟨other _ (by simp), other _ (by simp)⟩), if_neg (other _ (by simp)),
    if_neg fun minus => other '-' (by simp) minus.1]

/-- A character that begins a word begins the cutting of one. -/
theorem cut_word (start : isWordStart c = true) (x : List Char) : cut c x = cutWord c x := by
  rw [cut_of_class start (by decide), if_neg (by simp [isAsciiDigit_of_isWordStart start]),
    if_pos start]

/-- A digit begins the cutting of a number. -/
theorem cut_digit (digit : Text.isAsciiDigit c = true) (x : List Char) :
    cut c x = cutNumber false (c :: x) := by
  rw [cut_of_class digit (by decide), if_pos digit]

/-- A minus sign before a digit begins the cutting of a negative number. -/
theorem cut_minus (digit : x.head?.any Text.isAsciiDigit = true) :
    cut '-' x = cutNumber true x := by
  rw [cut_other (by decide), if_neg (by decide), if_neg (by decide), if_pos ⟨rfl, digit⟩]

end Classes

/-! ## Soundness -/

section Soundness

variable {c quote : Char} {raw rest x : List Char} {t : Token}

/-- What a string takes up to its closing quote goes into it whatever follows. -/
theorem taken_of_spanString (escape : quote ≠ '\\')
    (spanned : spanString quote x = some (raw, rest)) :
    x = raw ++ quote :: rest ∧ Taken quote raw := by
  have more {u after raw rest : List Char} (first : Taken quote u)
      (ih : ∀ {raw rest}, spanString quote after = some (raw, rest) →
        after = raw ++ quote :: rest ∧ Taken quote raw)
      (spanned : spanString quote (u ++ after) = some (raw, rest)) :
      u ++ after = raw ++ quote :: rest ∧ Taken quote raw := by
    rw [first] at spanned
    obtain ⟨⟨raw', rest'⟩, inner, same⟩ := Option.map_eq_some_iff.mp spanned
    cases same
    obtain ⟨rfl, taken⟩ := ih inner
    exact ⟨(List.append_assoc ..).symm, first.append taken⟩
  have none : Taken quote [] := taken_of_forall (List.forall_mem_nil _)
  induction x using spanString.induct quote generalizing raw rest with
  | case1 => cases spanned
  | case2 => cases spanned
  | case3 c x ih => exact more (taken_escape quote c) ih spanned
  | case4 =>
    rw [spanString_quote escape (by simp)] at spanned
    cases spanned
    exact ⟨rfl, none⟩
  | case5 c _ other => simp [spanString, other] at spanned
  | case6 x _ ih => exact more (taken_double escape) ih spanned
  | case7 d x other _ =>
    rw [spanString_quote escape fun z same => other (List.cons.inj same).1] at spanned
    cases spanned
    exact ⟨rfl, none⟩
  | case8 c d x unescaped other ih => exact more (taken_plain other unescaped) ih spanned

/-- Cutting off a string loses no character. -/
theorem lexeme_append_cutString (escape : quote ≠ '\\') (x : List Char) :
    (cutString quote x).lexeme ++ (cutString quote x).rest = quote :: x := by
  unfold cutString
  cases spanned : spanString quote x with
  | none => exact List.append_nil _
  | some span =>
    obtain ⟨raw, rest⟩ := span
    obtain ⟨rfl, _⟩ := taken_of_spanString escape spanned
    simp

/-- Cutting off a quoted name loses no character. -/
theorem lexeme_append_cutQuotedName (x : List Char) :
    (cutQuotedName x).lexeme ++ (cutQuotedName x).rest = nameQuote :: x := by
  unfold cutQuotedName
  cases ends : x.dropWhile (· != nameQuote) with
  | nil => exact List.append_nil _
  | cons d rest =>
    have quote : d = nameQuote := by
      have stops := List.head?_dropWhile_not (· != nameQuote) x
      rw [ends] at stops
      simpa using stops
    subst quote
    have whole := List.takeWhile_append_dropWhile (p := (· != nameQuote)) (l := x)
    rw [ends] at whole
    simpa using whole

/-- Cutting off a number loses no character. -/
theorem lexeme_append_cutNumber (negative : Bool) (x : List Char) :
    (cutNumber negative x).lexeme ++ (cutNumber negative x).rest = sign negative ++ x := by
  have whole := List.takeWhile_append_dropWhile (p := Text.isAsciiDigit) (l := x)
  rcases cutNumber_cases negative x with ⟨c, y, point, _, cut⟩ | ⟨_, cut⟩
  · rw [cut, List.append_assoc, List.append_assoc, List.cons_append,
      List.takeWhile_append_dropWhile, ← point, whole]
  · rw [cut, List.append_assoc, whole]

/-- A symbol is cut off as one of the texts that symbols are written with. -/
theorem cut_symbol_cases (known : c ∈ ['=', '(', ')', ',', '*', '<', '>', '!']) (x : List Char) :
    (∃ l s rest, (c :: l, s) ∈ symbolTexts ∧ x = l ++ rest ∧
      cut c x = ⟨.symbol s, c :: l, rest⟩) ∨ cut c x = ⟨.illegal, [c], x⟩ := by
  simp only [List.mem_cons, List.not_mem_nil, or_false] at known
  rcases known with rfl | rfl | rfl | rfl | rfl | rfl | rfl | rfl
  · exact .inl ⟨[], .eq, x, by simp [symbolTexts], rfl, rfl⟩
  · exact .inl ⟨[], .lparen, x, by simp [symbolTexts], rfl, rfl⟩
  · exact .inl ⟨[], .rparen, x, by simp [symbolTexts], rfl, rfl⟩
  · exact .inl ⟨[], .comma, x, by simp [symbolTexts], rfl, rfl⟩
  · exact .inl ⟨[], .star, x, by simp [symbolTexts], rfl, rfl⟩
  · simp only [cut]
    split
    · exact .inl ⟨['='], .lte, _, by simp [symbolTexts], rfl, rfl⟩
    · exact .inl ⟨['>'], .notEq, _, by simp [symbolTexts], rfl, rfl⟩
    · exact .inl ⟨[], .lt, x, by simp [symbolTexts], rfl, rfl⟩
  · simp only [cut]
    split
    · exact .inl ⟨['='], .gte, _, by simp [symbolTexts], rfl, rfl⟩
    · exact .inl ⟨[], .gt, x, by simp [symbolTexts], rfl, rfl⟩
  · simp only [cut]
    split
    · exact .inl ⟨['='], .notEq, _, by simp [symbolTexts], rfl, rfl⟩
    · exact .inr rfl

/-- What is cut off a text and what is left are together the text. -/
theorem lexeme_append_rest (c : Char) (x : List Char) :
    (cut c x).lexeme ++ (cut c x).rest = c :: x := by
  by_cases known : c ∈ ['=', '(', ')', ',', '*', '<', '>', '!']
  · rcases cut_symbol_cases known x with ⟨l, s, rest, _, rfl, cut⟩ | cut
    · rw [cut, List.cons_append]
    · rw [cut, List.singleton_append]
  · rw [cut_other known]
    split
    · rename_i quote
      refine lexeme_append_cutString ?_ x
      rcases quote with rfl | rfl <;> decide
    split
    · rename_i quote
      exact quote ▸ lexeme_append_cutQuotedName x
    split
    · rename_i minus
      exact minus.1 ▸ lexeme_append_cutNumber true x
    split
    · exact lexeme_append_cutNumber false (c :: x)
    split
    · exact congrArg (c :: ·) List.takeWhile_append_dropWhile
    · rfl

/-- The lexeme of a closed string writes its token. -/
theorem writes_cutString (known : quote ∈ ['\'', '"'])
    (legal : (cutString quote x).token ≠ .illegal) :
    Writes (cutString quote x).lexeme (cutString quote x).token := by
  cases spanned : spanString quote x with
  | none => exact absurd (by rw [cutString, spanned]) legal
  | some span =>
    rw [cutString, spanned]
    exact .string known (taken_of_spanString (quote_facts known).1 spanned).2

/-- The lexeme of a closed quoted name writes its token. -/
theorem writes_cutQuotedName (legal : (cutQuotedName x).token ≠ .illegal) :
    Writes (cutQuotedName x).lexeme (cutQuotedName x).token := by
  obtain ⟨n, rest, rfl, free⟩ := exists_of_cutQuotedName legal
  obtain ⟨token, after⟩ := cutQuotedName_append free rest
  have lexeme : (cutQuotedName (n ++ nameQuote :: rest)).lexeme =
      nameQuote :: (n ++ [nameQuote]) := by
    have whole := lexeme_append_cutQuotedName (n ++ nameQuote :: rest)
    rw [after] at whole
    exact List.append_cancel_right (whole.trans (by simp))
  rw [lexeme, token]
  exact .quotedName free

/-- The characters of digits at the front of a number write its token. -/
theorem writes_cutNumber (negative : Bool) (digit : x.head?.any Text.isAsciiDigit = true) :
    Writes (cutNumber negative x).lexeme (cutNumber negative x).token := by
  have all (x : List Char) : ∀ d ∈ x.takeWhile Text.isAsciiDigit, Text.isAsciiDigit d = true :=
    fun _ => List.mem_takeWhile_imp
  have nonempty {x : List Char} (digit : x.head?.any Text.isAsciiDigit = true) :
      x.takeWhile Text.isAsciiDigit ≠ [] := by
    cases x with
    | nil => cases digit
    | cons c x => simp [show Text.isAsciiDigit c = true from digit]
  rcases cutNumber_cases negative x with ⟨c, y, _, digit', cut⟩ | ⟨_, cut⟩
  · rw [cut, List.append_assoc]
    exact .fraction negative (all x) (nonempty digit) (all (c :: y)) (nonempty digit')
  · rw [cut]
    exact .whole negative (all x) (nonempty digit)

/-- What is cut off the front of a text writes the token that it is cut off as. -/
theorem writes_cut (legal : (cut c x).token ≠ .illegal) :
    Writes (cut c x).lexeme (cut c x).token := by
  by_cases known : c ∈ ['=', '(', ')', ',', '*', '<', '>', '!']
  · rcases cut_symbol_cases known x with ⟨l, s, rest, listed, _, cut⟩ | cut
    · rw [cut]
      exact .symbol listed
    · exact absurd (by rw [cut]) legal
  by_cases quote : c ∈ ['\'', '"']
  · rw [cut_of_quote quote] at legal ⊢
    exact writes_cutString quote legal
  by_cases quote' : c = nameQuote
  · rw [quote', cut_nameQuote] at legal ⊢
    exact writes_cutQuotedName legal
  simp only [List.mem_cons, List.not_mem_nil, or_false] at quote
  rw [cut_other known, if_neg quote, if_neg quote'] at legal ⊢
  split at legal
  · rename_i minus
    rw [if_pos minus]
    exact writes_cutNumber true minus.2
  rename_i unsigned
  rw [if_neg unsigned]
  split at legal
  · rename_i digit
    rw [if_pos digit]
    exact writes_cutNumber false digit
  rename_i letter
  rw [if_neg letter]
  split at legal
  · rename_i start
    rw [if_pos start]
    refine .word (Bool.and_eq_true_iff.mpr ⟨start, List.all_eq_true.mpr ?_⟩)
    exact fun _ => List.mem_takeWhile_imp
  · exact absurd rfl legal

end Soundness

/-! ## Completeness -/

section Completeness

variable {c quote : Char} {l rest w x : List Char} {t : Token}

/-- No run of characters goes on into what ends a token, unless it takes white space, commas or
closing parentheses. -/
theorem takeWhile_append_of_stops {p : Char → Bool} (all : ∀ d ∈ l, p d = true)
    (black : ∀ d, p d = true → Text.isWhitespace d = false) (comma : p ',' = false)
    (closing : p ')' = false) (stops : Stops x) :
    (l ++ x).takeWhile p = l ∧ (l ++ x).dropWhile p = x := by
  rw [List.takeWhile_append_of_pos all, List.dropWhile_append_of_pos all]
  cases x with
  | nil => simp
  | cons c x =>
    have other : p c = false := by
      rcases stops c rfl with white | rfl | rfl
      · by_contra taken
        rw [black c (by simpa using taken)] at white
        cases white
      · exact comma
      · exact closing
    simp [other]

/-- What ends a token is none of the characters that go on with one. -/
theorem Stops.ne_cons (stops : Stops rest) (black : Text.isWhitespace c = false) (comma : c ≠ ',')
    (closing : c ≠ ')') (z : List Char) : rest ≠ c :: z := by
  rintro rfl
  rcases stops c rfl with white | same | same
  · rw [black] at white
    cases white
  · exact comma same
  · exact closing same

/-- Characters are cut off as some token before anything that ends it. -/
def CutsOff (w : List Char) (t : Token) : Prop :=
  ∃ c l, w = c :: l ∧ Text.isWhitespace c = false ∧
    ∀ rest, Stops rest → (cut c (l ++ rest)).token = t ∧ (cut c (l ++ rest)).rest = rest

/-- A symbol is cut off from what ends it, since no longer symbol goes on like that. -/
theorem cutsOff_symbol {s : Symbol} (listed : (w, s) ∈ symbolTexts) : CutsOff w (.symbol s) := by
  have alone (c : Char) (s : Symbol) (black : Text.isWhitespace c = false)
      (only : ∀ rest, Stops rest → cut c rest = cutSymbol s c rest) : CutsOff [c] (.symbol s) :=
    ⟨c, [], rfl, black, fun rest stops => by
      rw [List.nil_append, only rest stops]
      exact ⟨rfl, rfl⟩⟩
  have pair (c d : Char) (s : Symbol) (black : Text.isWhitespace c = false)
      (both : ∀ rest, cut c (d :: rest) = ⟨.symbol s, [c, d], rest⟩) :
      CutsOff [c, d] (.symbol s) :=
    ⟨c, [d], rfl, black, fun rest _ => by
      rw [List.cons_append, List.nil_append, both]
      exact ⟨rfl, rfl⟩⟩
  simp only [symbolTexts, List.mem_cons, Prod.mk.injEq, List.not_mem_nil, or_false] at listed
  obtain ⟨rfl, rfl⟩ | ⟨rfl, rfl⟩ | ⟨rfl, rfl⟩ | ⟨rfl, rfl⟩ | ⟨rfl, rfl⟩ | ⟨rfl, rfl⟩ |
    ⟨rfl, rfl⟩ | ⟨rfl, rfl⟩ | ⟨rfl, rfl⟩ | ⟨rfl, rfl⟩ | ⟨rfl, rfl⟩ := listed
  · exact alone '=' .eq (by decide) fun _ _ => rfl
  · exact alone '(' .lparen (by decide) fun _ _ => rfl
  · exact alone ')' .rparen (by decide) fun _ _ => rfl
  · exact alone ',' .comma (by decide) fun _ _ => rfl
  · exact alone '*' .star (by decide) fun _ _ => rfl
  · exact pair '<' '=' .lte (by decide) fun _ => rfl
  · exact pair '<' '>' .notEq (by decide) fun _ => rfl
  · refine alone '<' .lt (by decide) fun rest stops => cut_lt ?_
    simp only [List.mem_cons, List.not_mem_nil, or_false, forall_eq_or_imp, forall_eq]
    exact ⟨stops.ne_cons (by decide) (by decide) (by decide),
      stops.ne_cons (by decide) (by decide) (by decide)⟩
  · exact pair '>' '=' .gte (by decide) fun _ => rfl
  · refine alone '>' .gt (by decide) fun rest stops => cut_gt ?_
    simp only [List.mem_singleton, forall_eq]
    exact stops.ne_cons (by decide) (by decide) (by decide)
  · exact pair '!' '=' .notEq (by decide) fun _ => rfl

/-- A number without a fraction goes as far as its digits. -/
theorem cutNumber_digits (negative : Bool) (digits : ∀ d ∈ l, Text.isAsciiDigit d = true)
    (stops : Stops x) : (cutNumber negative (l ++ x)).token = integerToken negative l ∧
      (cutNumber negative (l ++ x)).rest = x := by
  obtain ⟨taken, after⟩ :=
    takeWhile_append_of_stops digits black_of_isAsciiDigit (by decide) (by decide) stops
  have whole := cutNumber_whole negative (x := l ++ x) fun c y here =>
    absurd (after.symm.trans here) (stops.ne_cons (by decide) (by decide) (by decide) _)
  rwa [taken, after] at whole

/-- A number with a fraction goes as far as the digits after its point. -/
theorem cutNumber_decimals (negative : Bool) {decimals : List Char}
    (digits : ∀ d ∈ l, Text.isAsciiDigit d = true)
    (digits' : ∀ d ∈ decimals, Text.isAsciiDigit d = true) (nonempty : decimals ≠ [])
    (stops : Stops x) :
    (cutNumber negative (l ++ '.' :: decimals ++ x)).token = floatToken negative l decimals ∧
      (cutNumber negative (l ++ '.' :: decimals ++ x)).rest = x := by
  obtain ⟨taken, after⟩ :=
    takeWhile_append_of_stops digits' black_of_isAsciiDigit (by decide) (by decide) stops
  cases decimals with
  | nil => exact absurd rfl nonempty
  | cons c y =>
    have front : (l ++ '.' :: (c :: y) ++ x).takeWhile Text.isAsciiDigit = l ∧
        (l ++ '.' :: (c :: y) ++ x).dropWhile Text.isAsciiDigit = '.' :: c :: (y ++ x) := by
      rw [List.append_assoc, List.takeWhile_append_of_pos digits,
        List.dropWhile_append_of_pos digits]
      exact ⟨List.append_nil l, rfl⟩
    have number := cutNumber_fraction negative (digits' c (List.mem_cons_self ..)) front.2
    rwa [front.1, ← List.cons_append, taken, after] at number

/-- A number is cut off with its sign. -/
theorem cutsOff_signed (negative : Bool) {body : List Char}
    (starts : ∀ x, (body ++ x).head?.any Text.isAsciiDigit = true)
    (number : ∀ rest, Stops rest → (cutNumber negative (body ++ rest)).token = t ∧
      (cutNumber negative (body ++ rest)).rest = rest) :
    CutsOff (sign negative ++ body) t := by
  cases negative with
  | true =>
    refine ⟨'-', body, rfl, by decide, fun rest stops => ?_⟩
    rw [cut_minus (starts rest)]
    exact number rest stops
  | false =>
    cases body with
    | nil => exact absurd (starts []) (by simp)
    | cons c l =>
      have digit : Text.isAsciiDigit c = true := starts []
      refine ⟨c, l, rfl, black_of_isAsciiDigit c digit, fun rest stops => ?_⟩
      rw [cut_digit digit]
      exact number rest stops

/-- Characters that write a token are cut off as that token before anything that ends it. -/
theorem Writes.cutsOff (writes : Writes w t) : CutsOff w t := by
  cases writes with
  | symbol listed => exact cutsOff_symbol listed
  | @string quote raw known taken =>
    obtain ⟨escape, black, _⟩ := quote_facts known
    refine ⟨quote, raw ++ [quote], rfl, black, fun rest stops => ?_⟩
    have single := stops.ne_cons black (by rintro rfl; simp at known) (by rintro rfl; simp at known)
    rw [cut_of_quote known, cutString, List.append_assoc, taken, List.singleton_append,
      spanString_quote escape single]
    simp
  | @quotedName n free =>
    refine ⟨nameQuote, n ++ [nameQuote], rfl, by decide, fun rest _ => ?_⟩
    rw [cut_nameQuote, List.append_assoc]
    exact cutQuotedName_append free rest
  | whole negative all nonempty =>
    exact cutsOff_signed negative (any_head?_append all nonempty) fun rest =>
      cutNumber_digits negative all
  | @fraction negative digits decimals all nonempty all' nonempty' =>
    refine cutsOff_signed negative (fun x => ?_) fun rest =>
      cutNumber_decimals negative all all' nonempty'
    rw [List.append_assoc]
    exact any_head?_append all nonempty _
  | word word =>
    cases w with
    | nil => cases word
    | cons c l =>
      obtain ⟨start, part⟩ := Bool.and_eq_true_iff.mp word
      have black : ∀ d, isWordPart d = true → Text.isWhitespace d = false :=
        fun d part => (isBare_of_isWordPart part).2.2.2.2
      refine ⟨c, l, rfl, black c (isWordPart_of_isWordStart start), fun rest stops => ?_⟩
      obtain ⟨taken, after⟩ := takeWhile_append_of_stops (List.all_eq_true.mp part) black
        (by decide) (by decide) stops
      rw [List.tail_cons] at taken after
      rw [cut_word start]
      simp only [cutWord, taken, after, and_self]

/-- What is cut off before a text is its first token. -/
theorem CutsOff.lexes {ts : List Token} (cuts : CutsOff w t) (legal : t ≠ .illegal)
    (stops : Stops rest) (lexes : Lexes rest ts) : Lexes (w ++ rest) (t :: ts) := by
  obtain ⟨c, l, rfl, black, cuts⟩ := cuts
  obtain ⟨token, after⟩ := cuts rest stops
  have first : Lexes (c :: (l ++ rest)) ((cut c (l ++ rest)).token :: ts) :=
    .token black (token ▸ legal) (after.symm ▸ lexes)
  rwa [token] at first

end Completeness

/-! ## The bytes that tokens cover -/

section Places

variable {before x y : List Char} {t : PlacedToken}

/-- The byte length is the one the standard library counts. -/
theorem byteLength_eq_utf8Len (x : List Char) : byteLength x = String.utf8Len x := by
  induction x with
  | nil => rfl
  | cons c x ih => rw [byteLength, ih, String.utf8Len_cons, Nat.add_comm]

/-- The bytes of two texts put together add up. -/
theorem byteLength_append (x y : List Char) :
    byteLength (x ++ y) = byteLength x + byteLength y := by
  simp only [byteLength_eq_utf8Len, String.utf8Len_append]

/-- A placed token covers what it is cut off with, after all that comes before it. -/
theorem exists_cut_of_mem_tokensFrom {fuel : Nat}
    (member : t ∈ tokensFrom fuel (byteLength before) x) :
    ∃ a c y, before ++ x = a ++ c :: y ∧ Text.isWhitespace c = false ∧
      t = ⟨(cut c y).token, ⟨byteLength a, byteLength a + byteLength (cut c y).lexeme⟩⟩ := by
  induction fuel generalizing before x with
  | zero => cases member
  | succ fuel ih =>
    cases x with
    | nil => cases member
    | cons c x =>
      rw [tokensFrom] at member
      split at member
      · have later : byteLength before + c.utf8Size = byteLength (before ++ [c]) := by
          rw [byteLength_append]
          rfl
        rw [later] at member
        simpa using ih member
      · rename_i black
        rcases List.mem_cons.mp member with rfl | member
        · exact ⟨before, c, x, rfl, by simpa using black, rfl⟩
        · rw [← byteLength_append] at member
          have whole := ih member
          rwa [List.append_assoc, lexeme_append_rest] at whole

end Places

end Lexer

/-- The part of a text that a token covers. -/
def PlacedToken.source (s : String) (t : PlacedToken) : String :=
  String.Pos.Raw.extract s ⟨t.span.start⟩ ⟨t.span.stop⟩

open Lexer in
/-- Each token of a text is cut off as the part of the text that it covers. -/
theorem exists_cut_of_mem_tokens {s : String} {t : PlacedToken} (member : t ∈ tokens s) :
    ∃ c x, Text.isWhitespace c = false ∧ t.token = (cut c x).token ∧
      (t.source s).toList = (cut c x).lexeme := by
  have first : t ∈ tokensFrom s.length (byteLength []) s.toList := member
  obtain ⟨a, c, x, whole, black, rfl⟩ := exists_cut_of_mem_tokensFrom first
  refine ⟨c, x, black, rfl, ?_⟩
  have parts : s = String.ofList (a ++ (cut c x).lexeme ++ (cut c x).rest) := by
    rw [List.append_assoc, lexeme_append_rest, ← whole]
    exact String.ofList_toList.symm
  rw [PlacedToken.source, byteLength_eq_utf8Len, byteLength_eq_utf8Len]
  conv_lhs => rw [parts]
  rw [String.extract_of_valid, String.toList_ofList]

end FederatedSearch
