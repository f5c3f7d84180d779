import FederatedSearch.Proofs.Failure
import FederatedSearch.Proofs.Query.Relocation
import FederatedSearch.Proofs.Query.Spelling

/-!
# Layout and the case of keywords

A text may be laid out anew: its tokens are written as they are written there, keywords in letters
of either case, with any white space between them. Since what writes a token is cut off as that
token before white space, the new text has the same tokens in other places, so that it forms the
same statement or fails for the same cause.
-/

namespace FederatedSearch

open Lexer (Writes wordToken isWordText Lexes Stops)

/-- White space only. -/
def IsBlank (x : List Char) : Prop :=
  ∀ c ∈ x, Text.isWhitespace c = true

/-- Characters that a token of a text may be written with instead of those in the text: the same
ones, but for the case of letters in keywords. -/
def PlacedToken.Rewrites (s : String) (t : PlacedToken) (w : List Char) : Prop :=
  match t.token with
  | .keyword _ => w.map Text.asciiUpper = (t.source s).toList.map Text.asciiUpper
  | _ => w = (t.source s).toList

/-- Tokens of a text written one after another, with white space after each of them, of which
there is some between any two. -/
inductive Rewritten (s : String) : List PlacedToken → List Char → Prop
  | nil : Rewritten s [] []
  | cons {t : PlacedToken} {ts : List PlacedToken} {w blanks rest : List Char}
    (written : t.Rewrites s w) (blank : IsBlank blanks) (apart : ts ≠ [] → blanks ≠ [])
    (others : Rewritten s ts rest) : Rewritten s (t :: ts) (w ++ (blanks ++ rest))

/-- A text that has the tokens of another one in a new layout. -/
def Relaid (s t : String) : Prop :=
  ∃ blanks body, IsBlank blanks ∧ Rewritten s (tokens s) body ∧ t.toList = blanks ++ body

/-! ## Keywords -/

section Keywords

variable {k : Keyword} {w x : List Char}

/-- Every keyword is listed. -/
theorem Keyword.mem_all (k : Keyword) : k ∈ all := by
  cases k <;> decide

/-- A word is a keyword when it is the text of the keyword in capitals. -/
theorem Keyword.ofWord?_eq_some_iff :
    ofWord? w = some k ↔ w.map Text.asciiUpper = k.text.toList := by
  have apart : ∀ k ∈ all, all.find? (fun l => l.text.toList == k.text.toList) = some k := by decide
  constructor
  · intro found
    rw [ofWord?] at found
    have known := List.find?_some found
    exact (eq_of_beq known).symm
  · intro same
    rw [ofWord?, same]
    exact apart k k.mem_all

/-- What writes a keyword is the keyword in letters of either case. -/
theorem Lexer.Writes.map_asciiUpper (writes : Writes w (.keyword k)) :
    w.map Text.asciiUpper = k.text.toList := by
  generalize same : Token.keyword k = t at writes
  cases writes with
  | whole negative all nonempty =>
    unfold integerToken at same
    dsimp only at same
    generalize (if negative = true then -(digitsValue _ : Int) else digitsValue _) = n at same
    split at same <;> cases same
  | word word =>
    refine Keyword.ofWord?_eq_some_iff.mp ?_
    unfold wordToken at same
    split at same
    · rename_i found
      cases same
      exact found
    · cases same
  | _ => cases same

/-- A keyword may be written in letters of either case. -/
theorem Lexer.writes_keyword (same : w.map Text.asciiUpper = k.text.toList) :
    Writes w (.keyword k) := by
  have letters : ∀ k ∈ Keyword.all,
      (k.text.toList != [] && k.text.toList.all Text.isAsciiLetter) = true := by decide
  obtain ⟨nonempty, capital⟩ := Bool.and_eq_true_iff.mp (letters k k.mem_all)
  rw [bne_iff_ne] at nonempty
  have start : ∀ c ∈ w, isWordStart c = true := by
    intro c member
    have upper := List.all_eq_true.mp capital _ (same ▸ List.mem_map_of_mem member)
    simp [isWordStart, Text.isAlphabetic_of_isAsciiLetter (Text.isAsciiLetter_of_asciiUpper upper)]
  have token : wordToken w = .keyword k := by
    rw [wordToken, Keyword.ofWord?_eq_some_iff.mpr same]
  have word : isWordText w = true := by
    cases w with
    | nil => exact absurd same.symm nonempty
    | cons c l =>
      refine Bool.and_eq_true_iff.mpr ⟨start c (List.mem_cons_self ..), List.all_eq_true.mpr ?_⟩
      exact fun d member => isWordPart_of_isWordStart (start d (List.mem_cons_of_mem _ member))
  exact token ▸ .word word

end Keywords

/-! ## New layouts -/

section Layouts

variable {s t : String} {p : PlacedToken} {ps : List PlacedToken} {blanks rest w x : List Char}
  {ts : List Token}

/-- White space before a text adds no tokens. -/
theorem Lexer.Lexes.after_blank (blank : IsBlank blanks) (lexes : Lexes rest ts) :
    Lexes (blanks ++ rest) ts := by
  induction blanks with
  | nil => exact lexes
  | cons c blanks ih =>
    obtain ⟨white, others⟩ := List.forall_mem_cons.mp blank
    exact .blank white (ih others)

/-- A token of a text may be written as there, and in other cases of letters if it is a keyword. -/
theorem PlacedToken.Rewrites.writes (written : p.Rewrites s w) (member : p ∈ tokens s)
    (legal : p.token ≠ .illegal) : Writes w p.token := by
  obtain ⟨c, x, _, token, source⟩ := exists_cut_of_mem_tokens member
  have writes : Writes (p.source s).toList p.token := by
    rw [source, token]
    exact Lexer.writes_cut (token ▸ legal)
  unfold PlacedToken.Rewrites at written
  split at written
  · rename_i k known
    rw [known] at writes ⊢
    exact Lexer.writes_keyword (written.trans writes.map_asciiUpper)
  · exact written ▸ writes

/-- What follows a token in a new layout ends the token. -/
theorem Rewritten.stops (others : Rewritten s ps rest) (blank : IsBlank blanks)
    (apart : ps ≠ [] → blanks ≠ []) : Stops (blanks ++ rest) := by
  intro c first
  cases blanks with
  | nil =>
    cases others with
    | nil => cases first
    | cons _ _ _ _ => exact absurd rfl (apart (List.cons_ne_nil _ _))
  | cons d blanks =>
    cases first
    exact .inl (blank _ (List.mem_cons_self ..))

/-- A new layout of some tokens is cut into these tokens. -/
theorem Rewritten.lexes (rewritten : Rewritten s ps x)
    (known : ∀ p ∈ ps, p ∈ tokens s ∧ p.token ≠ .illegal) :
    Lexes x (ps.map PlacedToken.token) := by
  induction rewritten with
  | nil => exact .done
  | cons written blank apart others ih =>
    obtain ⟨⟨member, legal⟩, later⟩ := List.forall_mem_cons.mp known
    exact (written.writes member legal).cutsOff.lexes legal (others.stops blank apart)
      ((ih later).after_blank blank)

/-- A new layout has the same tokens. -/
theorem Relaid.map_token_eq (relaid : Relaid s t) (legal : ∀ p ∈ tokens s, p.token ≠ .illegal) :
    (tokens t).map PlacedToken.token = (tokens s).map PlacedToken.token := by
  obtain ⟨blanks, body, blank, rewritten, text⟩ := relaid
  have lexes := (rewritten.lexes fun p member => ⟨member, legal p member⟩).after_blank blank
  rw [← text] at lexes
  exact Lexer.map_token_tokensFrom lexes (String.length_toList ▸ le_rfl)

/-- A text without illegal tokens may be laid out anew, with any white space around its tokens and
some between any two of them, and with its keywords in letters of either case. It has the same
tokens then, and forms the same statement or fails for the same cause. -/
theorem Relaid.ofText_alike (relaid : Relaid s t)
    (legal : ∀ p ∈ tokens s, p.token ≠ .illegal) :
    (tokens t).map PlacedToken.token = (tokens s).map PlacedToken.token ∧
      ((∃ statement, Statement.ofText s = .ok statement ∧ Statement.ofText t = .ok statement) ∨
        ∃ e e', Statement.ofText s = .error e ∧ Statement.ofText t = .error e' ∧
          e.cause = e'.cause) := by
  have same := relaid.map_token_eq legal
  exact ⟨same, mapError_eq_iff.mp (Statement.ofTokens_congr same.symm)⟩

/-- White space between the parts of a condition and small letters in keywords change nothing. -/
theorem Relaid.ofText_alike_comparison :
    Relaid "FROM a WHERE b<-1" " from a\nWhere  b < -1" ∧
      (∀ p ∈ tokens "FROM a WHERE b<-1", p.token ≠ .illegal) ∧
      (tokens " from a\nWhere  b < -1").map PlacedToken.token =
        (tokens "FROM a WHERE b<-1").map PlacedToken.token ∧
      Statement.ofText " from a\nWhere  b < -1" =
        .ok ⟨false, ["a"], some (.compare "b" .lt (.integer (-1))), [], [], none⟩ := by
  have placed : tokens "FROM a WHERE b<-1" =
      [⟨.keyword .from, ⟨0, 4⟩⟩, ⟨.identifier "a", ⟨5, 6⟩⟩, ⟨.keyword .where, ⟨7, 12⟩⟩,
        ⟨.identifier "b", ⟨13, 14⟩⟩, ⟨.symbol .lt, ⟨14, 15⟩⟩, ⟨.integer (-1), ⟨15, 17⟩⟩] := rfl
  have next {s : String} {p : PlacedToken} {ps : List PlacedToken} {rest : List Char}
      (w blanks : List Char) (written : p.Rewrites s w) (blank : IsBlank blanks)
      (apart : ps ≠ [] → blanks ≠ []) (others : Rewritten s ps rest) :
      Rewritten s (p :: ps) (w ++ (blanks ++ rest)) :=
    .cons written blank apart others
  have empty : IsBlank [] := List.forall_mem_nil _
  have blank : IsBlank [' '] ∧ IsBlank ['\n'] ∧ IsBlank [' ', ' '] := by
    simp [IsBlank, show Text.isWhitespace ' ' = true by decide,
      show Text.isWhitespace '\n' = true by decide]
  have body : Rewritten "FROM a WHERE b<-1" (tokens "FROM a WHERE b<-1")
      ['f', 'r', 'o', 'm', ' ', 'a', '\n', 'W', 'h', 'e', 'r', 'e', ' ', ' ', 'b', ' ', '<', ' ',
        '-', '1'] := by
    rw [placed]
    exact next ['f', 'r', 'o', 'm'] [' '] rfl blank.1 (by simp) <|
      next ['a'] ['\n'] rfl blank.2.1 (by simp) <|
      next ['W', 'h', 'e', 'r', 'e'] [' ', ' '] rfl blank.2.2 (by simp) <|
      next ['b'] [' '] rfl blank.1 (by simp) <| next ['<'] [' '] rfl blank.1 (by simp) <|
      next ['-', '1'] [] rfl empty (by simp) .nil
  have relaid : Relaid "FROM a WHERE b<-1" " from a\nWhere  b < -1" :=
    ⟨[' '], _, blank.1, body, rfl⟩
  have legal : ∀ p ∈ tokens "FROM a WHERE b<-1", p.token ≠ .illegal := by simp [placed]
  have read : Statement.ofText "FROM a WHERE b<-1" =
      .ok ⟨false, ["a"], some (.compare "b" .lt (.integer (-1))), [], [], none⟩ := by
    rw [Statement.ofText, placed]
    rfl
  obtain ⟨same, ⟨statement, first, second⟩ | ⟨e, _, fault, _⟩⟩ := relaid.ofText_alike legal
  · rw [read] at first
    cases first
    exact ⟨relaid, legal, same, second⟩
  · rw [read] at fault
    cases fault

end Layouts

end FederatedSearch
