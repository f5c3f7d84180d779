import FederatedSearch.Proofs.Query.Lexemes
import FederatedSearch.Query.Printer

/-!
# Spelling tokens

A text spells some tokens when it is cut into them wherever it stands before a space, a comma, a
closing parenthesis or the end. Such texts are put together with these characters between them, so
that the tokens of a longer text are found piece by piece. The single tokens come last: words,
symbols, whole numbers and strings.
-/

namespace FederatedSearch

namespace Lexer

/-- A text ends, or goes on with a character that ends any token before it. -/
def Ended (rest : List Char) : Prop :=
  ∀ c ∈ rest.head?, c = ' ' ∨ c = ',' ∨ c = ')'

/-- A text is cut into some tokens, whatever ends them. -/
def Spells (x : List Char) (ts : List Token) : Prop :=
  ∀ rest us, Ended rest → Lexes rest us → Lexes (x ++ rest) (ts ++ us)

section Spelling

variable {c : Char} {l x y : List Char} {t : Token} {ts us : List Token}

/-- A text is ended where nothing follows. -/
theorem ended_nil : Ended [] := by
  simp [Ended]

/-- Where a text is ended, every word and number stops. -/
theorem Ended.stops (ended : Ended x) : Stops x := by
  intro c first
  rcases ended c first with rfl | rfl | rfl
  · exact .inl (by decide)
  · exact .inr (.inl rfl)
  · exact .inr (.inr rfl)

/-- A blank, a comma and a closing parenthesis end a text. -/
theorem ended_cons (x : List Char) (ends : c = ' ' ∨ c = ',' ∨ c = ')') : Ended (c :: x) := by
  simpa [Ended] using ends

/-- What a text is cut into are its tokens. -/
theorem map_token_tokensFrom {fuel start : Nat} (lexes : Lexes x ts) (enough : x.length ≤ fuel) :
    (tokensFrom fuel start x).map PlacedToken.token = ts := by
  induction lexes generalizing fuel start with
  | done => cases fuel <;> rfl
  | blank white _ ih =>
    obtain _ | fuel := fuel
    · cases enough
    · rw [tokensFrom, if_pos white]
      exact ih (Nat.le_of_succ_le_succ enough)
  | token black legal _ ih =>
    obtain _ | fuel := fuel
    · cases enough
    · have shorter := (length_of_cut black legal).trans (Nat.le_of_succ_le_succ enough)
      rw [tokensFrom, if_neg (by simp [black]), List.map_cons, ih shorter]

/-- None of the tokens that a text is cut into is illegal. -/
theorem Lexes.legal (lexes : Lexes x ts) : ∀ t ∈ ts, t ≠ .illegal := by
  induction lexes with
  | done => exact List.forall_mem_nil _
  | blank _ _ ih => exact ih
  | token _ legal _ ih => exact List.forall_mem_cons.mpr ⟨legal, ih⟩

/-! ## Putting texts together -/

/-- A blank in front spells nothing. -/
theorem Spells.blank (spells : Spells x ts) : Spells (' ' :: x) ts :=
  fun rest us ended lexes => .blank rfl (spells rest us ended lexes)

/-- Two texts with something between them that ends the first one. -/
theorem Spells.append (first : Spells x ts) (second : Spells y us)
    (ends : ∀ rest, Ended (y ++ rest)) : Spells (x ++ y) (ts ++ us) := by
  intro rest vs ended lexes
  rw [List.append_assoc, List.append_assoc]
  exact first _ _ (ends rest) (second rest vs ended lexes)

/-- Two spellings with a blank between them spell the tokens of both. -/
theorem Spells.space (first : Spells x ts) (second : Spells y us) :
    Spells (x ++ ' ' :: y) (ts ++ us) :=
  first.append second.blank fun _ => ended_cons _ (.inl rfl)

/-- Two spellings with a comma between them spell the tokens of both around it. -/
theorem Spells.comma (first : Spells x ts) (second : Spells y us) :
    Spells (x ++ ',' :: y) (ts ++ .symbol .comma :: us) := by
  have after : Spells (',' :: y) (.symbol .comma :: us) := fun rest vs ended lexes =>
    .token (by decide) (by simp [cut, cutSymbol]) (second rest vs ended lexes)
  exact first.append after fun _ => ended_cons _ (.inr (.inl rfl))

/-- A spelling in parentheses spells its tokens in parentheses. -/
theorem Spells.parens (inner : Spells x ts) :
    Spells ('(' :: (x ++ [')'])) (.symbol .lparen :: (ts ++ [.symbol .rparen])) := by
  have closing : Spells [')'] [.symbol .rparen] := fun rest vs _ lexes =>
    .token (by decide) (by simp [cut, cutSymbol]) lexes
  have after := inner.append closing fun _ => ended_cons _ (.inr (.inr rfl))
  exact fun rest vs ended lexes =>
    .token (by decide) (by simp [cut, cutSymbol]) (after rest vs ended lexes)

/-! ## Single tokens -/

/-- Characters that write a token spell it. -/
theorem Writes.spells {w : List Char} (writes : Writes w t) (legal : t ≠ .illegal) :
    Spells w [t] :=
  fun _ _ ended lexes => writes.cutsOff.lexes legal ended.stops lexes

/-- Comparisons are spelled by their symbols. -/
theorem spells_symbol (op : String) (s : Symbol) (listed : (op, s) ∈ [("=", Symbol.eq),
      ("!=", .notEq), ("<", .lt), (">", .gt), ("<=", .lte), (">=", .gte)]) :
    Spells op.toList [.symbol s] := by
  have written : ∀ pair ∈ [("=", Symbol.eq), ("!=", .notEq), ("<", .lt), (">", .gt),
      ("<=", .lte), (">=", .gte)], (pair.1.toList, pair.2) ∈ symbolTexts := by decide
  exact (Writes.symbol (written _ listed)).spells (by simp)

/-- A word spells its token. -/
theorem spells_word {w : List Char} (word : isWordText w = true) : Spells w [wordToken w] := by
  refine (Writes.word word).spells ?_
  unfold wordToken
  split <;> simp

/-- A keyword is spelled by its text. -/
theorem spells_keyword (k : Keyword) : Spells k.text.toList [.keyword k] := by
  have words : ∀ k ∈ Keyword.all,
      isWordText k.text.toList = true ∧ wordToken k.text.toList = .keyword k := by decide
  obtain ⟨word, token⟩ := words k (by cases k <;> decide)
  exact token ▸ spells_word word

/-- The decimal digits of a number are digits. -/
theorem isAsciiDigit_of_mem_toDigits {n : Nat} (member : c ∈ Nat.toDigits 10 n) :
    Text.isAsciiDigit c = true := by
  have digit := Nat.isDigit_of_mem_toDigits (by decide) (by decide) member
  simpa [Char.isDigit, Text.isAsciiDigit, Char.le_def] using digit

/-- Reading the digits of a number yields that number. -/
theorem digitsValue_toDigits (n : Nat) : digitsValue (Nat.toDigits 10 n) = n := by
  have fold := Nat.ofDigitChars_ten_toDigits (n := n)
  rw [Nat.ofDigitChars_eq_foldl] at fold
  simpa [digitsValue, Nat.mul_comm] using fold

/-- Digits that make up a number with its sign spell it. -/
theorem spells_natural {n : Nat} (fits : WordRange.isSigned n = true) :
    Spells (Nat.toDigits 10 n) [.integer n] := by
  have digits : ∀ d ∈ Nat.toDigits 10 n, Text.isAsciiDigit d = true :=
    fun _ => isAsciiDigit_of_mem_toDigits
  have token : integerToken false (Nat.toDigits 10 n) = .integer n := by
    rw [integerToken, digitsValue_toDigits]
    exact if_pos fits
  exact token ▸ (Writes.whole false digits Nat.toDigits_ne_nil).spells (by simp [token])

/-- A negative number is written with its digits after a minus. -/
theorem toList_toString_negSucc (m : Nat) :
    (toString (Int.negSucc m)).toList = '-' :: Nat.toDigits 10 (m + 1) := by
  have sign : toString (Int.negSucc m) = "-" ++ toString (m + 1) := rfl
  rw [sign, Nat.toString_eq_ofList_toDigits, String.toList_append, String.toList_ofList]
  simp

/-- A whole number that fits into 64 bits is spelled by its digits after its sign. -/
theorem spells_integer {n : Int} (fits : WordRange.isSigned n = true) :
    Spells (toString n).toList [.integer n] := by
  cases n with
  | ofNat m =>
    have text : toString (Int.ofNat m) = toString m := rfl
    rw [text, Nat.toString_eq_ofList_toDigits, String.toList_ofList]
    exact spells_natural fits
  | negSucc m =>
    have digits : ∀ d ∈ Nat.toDigits 10 (m + 1), Text.isAsciiDigit d = true :=
      fun _ => isAsciiDigit_of_mem_toDigits
    have token : integerToken true (Nat.toDigits 10 (m + 1)) = .integer (Int.negSucc m) := by
      rw [integerToken, digitsValue_toDigits]
      exact if_pos fits
    rw [toList_toString_negSucc]
    exact token ▸ (Writes.whole true digits Nat.toDigits_ne_nil).spells (by simp [token])

/-- A string without backslashes is spelled with its single quotes doubled. -/
theorem spells_string {s : List Char} (unescaped : '\\' ∉ s) :
    Spells ('\'' :: (Literal.doubleQuotes s ++ ['\'']))
      [.string (String.ofList (Literal.doubleQuotes s))] := by
  have taken : Taken '\'' (Literal.doubleQuotes s) := by
    unfold Literal.doubleQuotes
    induction s with
    | nil => exact taken_of_forall (List.forall_mem_nil _)
    | cons c s ih =>
      obtain ⟨first, others⟩ := not_or.mp (mt List.mem_cons.mpr unescaped)
      rw [List.flatMap_cons]
      refine Taken.append ?_ (ih others)
      split
      · exact taken_double (by decide)
      · rename_i plain
        exact taken_plain plain (Ne.symm first)
  exact (Writes.string (by simp) taken).spells (by simp)

end Spelling

end Lexer

end FederatedSearch
