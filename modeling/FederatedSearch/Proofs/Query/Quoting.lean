import FederatedSearch.Proofs.Cache.Parsing

/-!
# Strings between quotes

A string is written between two quotes of one kind, with every backslash and every quote of that
kind twice. The lexer, which knows the kind, takes all of that text as one string. The reader of
values does not know it any more: it takes two quotes of the other kind for one as well, so the
string comes back exactly when no two of those stand side by side.
-/

namespace FederatedSearch

/-- The two kinds of quotes around strings. -/
inductive QuoteMark
  | single
  | double
  deriving DecidableEq

namespace QuoteMark

/-- The character of a quote. -/
def char : QuoteMark → Char
  | single => '\''
  | double => '"'

/-- The other kind of quote. -/
def other : QuoteMark → QuoteMark
  | single => double
  | double => single

/-- Characters as they stand between quotes of a kind: backslashes and quotes of that kind are
written twice. -/
def inner (q : QuoteMark) (s : List Char) : List Char :=
  s.flatMap fun c => if c = '\\' ∨ c = q.char then [c, c] else [c]

/-- A string between quotes of a kind. -/
def quoted (q : QuoteMark) (s : String) : String :=
  String.ofList (q.char :: (q.inner s.toList ++ [q.char]))

/-- Characters with one quote of a kind in place of every two that stand side by side. -/
def merged (q : QuoteMark) : List Char → List Char
  | [] => []
  | [c] => [c]
  | c :: d :: rest =>
    if c = q.char ∧ d = q.char then c :: merged q rest else c :: merged q (d :: rest)

variable {q : QuoteMark} {c : Char} {s x : List Char}

/-- A quote is no backslash. -/
theorem char_ne_backslash (q : QuoteMark) : q.char ≠ '\\' := by
  cases q with
  | single => decide
  | double => decide

/-- The two quotes differ. -/
theorem char_other_ne (q : QuoteMark) : q.other.char ≠ q.char := by
  cases q with
  | single => decide
  | double => decide

/-- One of the two quotes is this one or the other one. -/
theorem char_eq_iff : c = '\'' ∨ c = '"' ↔ c = q.char ∨ c = q.other.char := by
  cases q with
  | single => exact Iff.rfl
  | double => exact or_comm

/-- Backslashes and quotes of the kind at the ends are written twice. -/
theorem inner_twice (twice : c = '\\' ∨ c = q.char) (s : List Char) :
    q.inner (c :: s) = c :: c :: q.inner s := by
  rw [inner, List.flatMap_cons, if_pos twice]
  rfl

/-- Any other character is written once. -/
theorem inner_once (once : ¬ (c = '\\' ∨ c = q.char)) (s : List Char) :
    q.inner (c :: s) = c :: q.inner s := by
  rw [inner, List.flatMap_cons, if_neg once]
  rfl

/-! ## The token of a quoted string -/

/-- What stands between the quotes does not end the string. -/
theorem taken_inner (q : QuoteMark) (s : List Char) : Lexer.Taken q.char (q.inner s) := by
  induction s with
  | nil => exact Lexer.taken_of_forall (List.forall_mem_nil _)
  | cons c s ih =>
    rw [inner, List.flatMap_cons]
    refine Lexer.Taken.append ?_ ih
    split
    · rename_i twice
      rcases twice with rfl | rfl
      · exact Lexer.taken_escape _ _
      · exact Lexer.taken_double q.char_ne_backslash
    · rename_i once
      obtain ⟨unescaped, plain⟩ := not_or.mp once
      exact Lexer.taken_plain plain unescaped

/-- A quoted string is cut off as one token, and nothing is left. -/
theorem cut_inner (q : QuoteMark) (s : List Char) :
    Lexer.cut q.char (q.inner s ++ [q.char]) =
      ⟨.string (String.ofList (q.inner s)), q.char :: (q.inner s ++ [q.char]), []⟩ := by
  have known : q.char ∈ ['\'', '"'] := by
    cases q with
    | single => decide
    | double => decide
  rw [Lexer.cut_of_quote known, Lexer.cutString, q.taken_inner,
    Lexer.spanString_quote q.char_ne_backslash (by simp)]
  simp

/-- The bytes of characters are those of their string. -/
theorem byteLength_eq (x : List Char) : Lexer.byteLength x = (String.ofList x).utf8ByteSize := by
  induction x with
  | nil => rfl
  | cons c x ih =>
    rw [Lexer.byteLength, ih, String.ofList_cons]
    simp

/-- A quoted string is one token that covers all of it. -/
theorem tokens_quoted (q : QuoteMark) (s : String) :
    tokens (q.quoted s) =
      [⟨.string (String.ofList (q.inner s.toList)), ⟨0, (q.quoted s).utf8ByteSize⟩⟩] := by
  have black : Text.isWhitespace q.char = false := by
    cases q with
    | single => decide
    | double => decide
  have rest (fuel start : Nat) : Lexer.tokensFrom fuel start [] = [] := by
    cases fuel <;> rfl
  rw [tokens, quoted, String.toList_ofList, String.length_ofList, List.length_cons,
    Lexer.tokensFrom, if_neg (by simp [black])]
  simp only [cut_inner, rest, Nat.zero_add, byteLength_eq]

/-! ## The value of a quoted string -/

/-- Nothing that stands between the quotes starts with a quote of the other kind unless the string
does. -/
theorem inner_ne_cons_other (apart : ∀ z, s ≠ q.other.char :: z) (z : List Char) :
    q.inner s ≠ q.other.char :: z := by
  cases s with
  | nil => exact fun same => nomatch same
  | cons c s =>
    have different : c ≠ q.other.char := fun same => apart s (by rw [same])
    intro same
    by_cases twice : c = '\\' ∨ c = q.char
    · rw [inner_twice twice] at same
      exact different (List.cons.inj same).1
    · rw [inner_once twice] at same
      exact different (List.cons.inj same).1

/-- A character is read as itself, unless it is the first of two quotes of the other kind. -/
theorem unescape_inner_cons (apart : c = q.other.char → ∀ z, s ≠ q.other.char :: z) :
    Parser.unescape (q.inner (c :: s)) = c :: Parser.unescape (q.inner s) := by
  by_cases twice : c = '\\' ∨ c = q.char
  · rw [inner_twice twice]
    rcases twice with rfl | rfl
    · rw [Parser.unescape]
      rfl
    · exact unescape_double (char_eq_iff.mpr (.inl rfl)) _
  · obtain ⟨unescaped, plain⟩ := not_or.mp twice
    rw [inner_once twice]
    refine unescape_keep unescaped fun quote z => ?_
    have same := (char_eq_iff.mp quote).resolve_left plain
    rw [same]
    exact inner_ne_cons_other (apart same) z

/-- Reading takes out what quoting has put in, and merges quotes of the other kind. -/
theorem unescape_inner (q : QuoteMark) (s : List Char) :
    Parser.unescape (q.inner s) = q.other.merged s := by
  fun_induction merged q.other s with
  | case1 => rfl
  | case2 c => exact unescape_inner_cons fun _ z => (List.cons_ne_nil _ z).symm
  | case3 c d rest both ih =>
    obtain ⟨rfl, rfl⟩ := both
    have once : ¬ (q.other.char = '\\' ∨ q.other.char = q.char) :=
      not_or.mpr ⟨q.other.char_ne_backslash, q.char_other_ne⟩
    rw [inner_once once, inner_once once, unescape_double (char_eq_iff.mpr (.inr rfl)), ih]
  | case4 c d rest apart ih =>
    rw [unescape_inner_cons, ih]
    rintro rfl z same
    exact apart ⟨rfl, (List.cons.inj same).1⟩

/-- Merging does not lengthen a text. -/
theorem length_merged_le (q : QuoteMark) (s : List Char) : (q.merged s).length ≤ s.length := by
  fun_induction merged q s with
  | case1 => exact le_rfl
  | case2 c => exact le_rfl
  | case3 c d rest both ih =>
    simp only [List.length_cons]
    omega
  | case4 c d rest apart ih => exact Nat.succ_le_succ ih

/-- Merging changes nothing exactly when no two of the quotes stand side by side. -/
theorem merged_eq_self_iff (q : QuoteMark) (s : List Char) :
    q.merged s = s ↔ ¬ [q.char, q.char] <:+: s := by
  fun_induction merged q s with
  | case1 => simp
  | case2 c => simp [List.infix_cons_iff]
  | case3 c d rest both ih =>
    obtain ⟨rfl, rfl⟩ := both
    have shorter := length_merged_le q rest
    constructor
    · intro same
      have lengths := congrArg List.length same
      simp only [List.length_cons] at lengths
      omega
    · exact fun apart => absurd (List.prefix_append [q.char, q.char] rest).isInfix apart
  | case4 c d rest apart ih =>
    have front : ¬ [q.char, q.char] <+: c :: d :: rest := by
      rintro ⟨_, same⟩
      cases same
      exact apart ⟨rfl, rfl⟩
    have later : [q.char, q.char] <:+: c :: d :: rest ↔ [q.char, q.char] <:+: d :: rest :=
      List.infix_cons_iff.trans (or_iff_right front)
    rw [List.cons_inj_right, ih, later]

/-! ## Both together -/

/-- A string between quotes of either kind is one token that covers the whole text. Its value is
the string with every two quotes of the other kind merged, which is the string itself exactly when
no two of those stand side by side. -/
theorem literal_tokens_quoted (q : QuoteMark) (s : String) :
    ∃ raw, tokens (q.quoted s) = [⟨.string raw, ⟨0, (q.quoted s).utf8ByteSize⟩⟩] ∧
      Parser.literal (tokens (q.quoted s)) =
        .ok (.string (String.ofList (q.other.merged s.toList)), []) ∧
      (Parser.literal (tokens (q.quoted s)) = .ok (.string s, []) ↔
        ¬ [q.other.char, q.other.char] <:+: s.toList) := by
  have value : Parser.literal (tokens (q.quoted s)) =
      .ok (.string (String.ofList (q.other.merged s.toList)), []) := by
    rw [tokens_quoted, ← unescape_inner]
    simp only [Parser.literal, Parser.literalOf, Parser.stringValue, String.toList_ofList]
    rfl
  refine ⟨_, q.tokens_quoted s, value, ?_⟩
  rw [value, ← merged_eq_self_iff]
  constructor
  · intro same
    have strings := Literal.string.inj (Prod.mk.inj (Except.ok.inj same)).1
    rwa [← String.toList_inj, String.toList_ofList] at strings
  · intro same
    rw [same, String.ofList_toList]

/-- Two single quotes between double quotes are read as one. -/
theorem literal_tokens_two_single_quotes :
    Parser.literal (tokens (double.quoted "''")) = .ok (.string "'", []) ∧
      Parser.literal (tokens (double.quoted "''")) ≠ .ok (.string "''", []) := by
  have value : Parser.literal (tokens (double.quoted "''")) = .ok (.string "'", []) := rfl
  rw [value]
  exact ⟨rfl, by simp⟩

end QuoteMark

end FederatedSearch
