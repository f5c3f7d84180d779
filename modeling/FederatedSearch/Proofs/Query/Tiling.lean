import FederatedSearch.Proofs.Query.Lexemes
import FederatedSearch.Proofs.Query.Relocation

/-!
# Tokens tile their text

The tokens of a text cover its characters one stretch after the other, with nothing but white
space between them. `Lexer.Tiles` says so of the characters that are left to read, with one
constructor for each step of the lexer, and the lexer keeps to it to the end of the text
(`Lexer.tiles_tokensFrom`). What spans are like follows by induction on tilings
(`Tiling`), and faults are placed nowhere but at these spans, since they move with the tokens.
-/

namespace FederatedSearch

/-- The part of its own text that a token keeps: a name, or a string without its quotes. -/
def Token.kept? : Token → Option String
  | identifier name => some name
  | string raw => some raw
  | _ => none

namespace Lexer

/-- Placed tokens cover the characters that stand from a byte on, white space apart, each token
with a nonempty stretch of characters that writes it. -/
inductive Tiles : (start : Nat) → List PlacedToken → List Char → Prop
  | done {start : Nat} : Tiles start [] []
  | blank {start : Nat} {ts : List PlacedToken} {c : Char} {x : List Char}
    (white : Text.isWhitespace c = true) (others : Tiles (start + c.utf8Size) ts x) :
    Tiles start ts (c :: x)
  | token {start : Nat} {t : Token} {ts : List PlacedToken} {w x : List Char} (nonempty : w ≠ [])
    (writes : t ≠ .illegal → Writes w t) (others : Tiles (start + byteLength w) ts x) :
    Tiles start (⟨t, ⟨start, start + byteLength w⟩⟩ :: ts) (w ++ x)

/-! ## The lexer tiles -/

section Lexing

variable {c : Char} {x : List Char}

/-- The lexeme of a number is not empty when a sign or a digit starts it. -/
theorem lexeme_cutNumber_ne_nil (negative : Bool)
    (front : sign negative ++ x.takeWhile Text.isAsciiDigit ≠ []) :
    (cutNumber negative x).lexeme ≠ [] := by
  rcases cutNumber_cases negative x with ⟨_, _, _, _, cut⟩ | ⟨_, cut⟩
  · rw [cut]
    exact List.append_ne_nil_of_left_ne_nil front _
  · rw [cut]
    exact front

/-- Every step of the lexer takes at least one character. -/
theorem lexeme_ne_nil (c : Char) (x : List Char) : (cut c x).lexeme ≠ [] := by
  by_cases known : c ∈ ['=', '(', ')', ',', '*', '<', '>', '!']
  · rcases cut_symbol_cases known x with ⟨l, s, rest, _, _, cut⟩ | cut
    · rw [cut]
      exact List.cons_ne_nil c l
    · rw [cut]
      exact List.cons_ne_nil c []
  rw [cut_other known]
  split
  · unfold cutString
    split <;> exact List.cons_ne_nil _ _
  split
  · unfold cutQuotedName
    dsimp only
    split <;> exact List.cons_ne_nil _ _
  split
  · exact lexeme_cutNumber_ne_nil true (List.cons_ne_nil _ _)
  split
  · rename_i digit
    refine lexeme_cutNumber_ne_nil false (List.append_ne_nil_of_right_ne_nil _ ?_)
    rw [List.takeWhile_cons_of_pos digit]
    exact List.cons_ne_nil _ _
  split <;> exact List.cons_ne_nil _ _

/-- What follows a token is shorter than what begins with it. -/
theorem length_rest_le (c : Char) (x : List Char) : (cut c x).rest.length ≤ x.length := by
  have parts := congrArg List.length (lexeme_append_rest c x)
  have taken := List.length_pos_of_ne_nil (lexeme_ne_nil c x)
  rw [List.length_append, List.length_cons] at parts
  omega

/-- A step for each character is enough to get to the end of a text, and the tokens that are found
on the way tile it. -/
theorem tiles_tokensFrom {fuel start : Nat} (enough : x.length ≤ fuel) :
    Tiles start (tokensFrom fuel start x) x := by
  induction fuel generalizing x start with
  | zero =>
    cases List.length_eq_zero_iff.mp (Nat.le_zero.mp enough)
    exact .done
  | succ fuel ih =>
    cases x with
    | nil => exact .done
    | cons c x =>
      have enough : x.length ≤ fuel := Nat.le_of_succ_le_succ enough
      rw [tokensFrom]
      split
      · rename_i white
        exact .blank white (ih enough)
      · have first : Tiles start _ ((cut c x).lexeme ++ (cut c x).rest) :=
          .token (lexeme_ne_nil c x) writes_cut (ih ((length_rest_le c x).trans enough))
        rwa [lexeme_append_rest] at first

/-- The lexer comes to its end by itself: with more steps it finds the same tokens. -/
theorem tokensFrom_eq_of_le {fuel more start : Nat} (enough : x.length ≤ fuel)
    (further : x.length ≤ more) : tokensFrom more start x = tokensFrom fuel start x := by
  induction fuel generalizing x start more with
  | zero =>
    cases List.length_eq_zero_iff.mp (Nat.le_zero.mp enough)
    cases more <;> rfl
  | succ fuel ih =>
    cases x with
    | nil => cases more <;> rfl
    | cons c x =>
      obtain _ | more := more
      · cases further
      have enough : x.length ≤ fuel := Nat.le_of_succ_le_succ enough
      have further : x.length ≤ more := Nat.le_of_succ_le_succ further
      rw [tokensFrom, tokensFrom]
      split
      · exact ih enough further
      · have shorter := length_rest_le c x
        exact congrArg _ (ih (shorter.trans enough) (shorter.trans further))

end Lexing

/-! ## What tilings are like -/

section Tilings

variable {start : Nat} {t : PlacedToken} {ts : List PlacedToken} {w x : List Char}

/-- A text with characters has bytes. -/
theorem byteLength_pos (nonempty : w ≠ []) : 0 < byteLength w := by
  cases w with
  | nil => exact absurd rfl nonempty
  | cons c w => exact Nat.add_pos_left c.utf8Size_pos _

/-- The text that a token keeps stands in what writes the token. -/
theorem Writes.within {t : Token} {name : String} (writes : Writes w t)
    (kept : t.kept? = some name) : name.toList <:+: w := by
  have number (negative : Bool) (digits : List Char) :
      (integerToken negative digits).kept? = none := by
    unfold integerToken
    dsimp only
    generalize (if negative = true then -(digitsValue digits : Int) else digitsValue digits) = n
    split <;> rfl
  cases writes with
  | symbol _ => cases kept
  | string _ _ =>
    cases kept
    rw [String.toList_ofList]
    exact List.infix_append' [_] _ [_]
  | quotedName _ =>
    cases kept
    rw [String.toList_ofList]
    exact List.infix_append' [_] _ [_]
  | whole negative _ _ => cases (number negative _).symm.trans kept
  | fraction _ _ _ _ _ => cases kept
  | word _ =>
    unfold wordToken at kept
    split at kept
    · cases kept
    · cases kept
      rw [String.toList_ofList]

/-- A token of a tiling covers a stretch of the text, and keeps a part of it. -/
theorem Tiles.exists_stretch (tiles : Tiles start ts x) (member : t ∈ ts) :
    ∃ before w after, x = before ++ (w ++ after) ∧ w ≠ [] ∧
      (∀ name, t.token.kept? = some name → name.toList <:+: w) ∧
      t.span = ⟨start + byteLength before, start + byteLength before + byteLength w⟩ := by
  induction tiles with
  | done => cases member
  | @blank start ts c x _ _ ih =>
    obtain ⟨before, w, after, rfl, nonempty, kept, span⟩ := ih member
    refine ⟨c :: before, w, after, rfl, nonempty, kept, ?_⟩
    rw [span, byteLength, Nat.add_assoc start]
  | @token start t ts w x nonempty writes _ ih =>
    rcases List.mem_cons.mp member with rfl | member
    · refine ⟨[], w, x, rfl, nonempty, fun name kept => ?_, rfl⟩
      refine (writes ?_).within kept
      rintro rfl
      cases kept
    · obtain ⟨before, w', after, rfl, nonempty, kept, span⟩ := ih member
      refine ⟨w ++ before, w', after, (List.append_assoc ..).symm, nonempty, kept, ?_⟩
      rw [span, byteLength_append, Nat.add_assoc start]

/-- No token starts before the tiling does. -/
theorem Tiles.le_start (tiles : Tiles start ts x) (member : t ∈ ts) : start ≤ t.span.start := by
  obtain ⟨_, _, _, _, _, _, span⟩ := tiles.exists_stretch member
  rw [span]
  exact Nat.le_add_right ..

/-- Each token of a tiling ends before the next one starts. -/
theorem Tiles.pairwise (tiles : Tiles start ts x) :
    ts.Pairwise fun t u => t.span.stop ≤ u.span.start := by
  induction tiles with
  | done => exact .nil
  | blank _ _ ih => exact ih
  | token _ _ others ih => exact .cons (fun _ => others.le_start) ih

/-- A character that no token of a tiling covers is white space. -/
theorem Tiles.isWhitespace (tiles : Tiles start ts x) {before after : List Char} {c : Char}
    (place : x = before ++ c :: after)
    (outside : ∀ t ∈ ts, ¬ (t.span.start ≤ start + byteLength before ∧
      start + byteLength before < t.span.stop)) : Text.isWhitespace c = true := by
  induction tiles generalizing before with
  | done => cases before <;> cases place
  | @blank start ts d x white _ ih =>
    cases before with
    | nil =>
      cases place
      exact white
    | cons e before =>
      cases place
      refine ih rfl fun t member => ?_
      rw [Nat.add_assoc]
      exact outside t member
  | @token start t ts w x _ _ _ ih =>
    obtain ⟨first, others⟩ := List.forall_mem_cons.mp outside
    -- The character stands behind the token, since all that stands before its end is covered.
    obtain ⟨between, rfl⟩ : ∃ between, before = w ++ between := by
      rcases List.append_eq_append_iff.mp place with ⟨between, rfl, _⟩ | ⟨within, rfl, rest⟩
      · exact ⟨between, rfl⟩
      · cases within with
        | nil => exact ⟨[], by simp⟩
        | cons d within =>
          refine absurd ⟨Nat.le_add_right .., ?_⟩ first
          have room := byteLength_pos (List.cons_ne_nil d within)
          simp only [byteLength_append]
          omega
    rw [List.append_assoc] at place
    refine ih (List.append_cancel_left place) fun t member => ?_
    rw [Nat.add_assoc, ← byteLength_append]
    exact others t member

end Tilings

end Lexer

open Lexer (byteLength)

/-- A byte of a text at which a character begins, or the end of the text. -/
def IsBoundary (s : String) (byte : Nat) : Prop :=
  String.Pos.Raw.IsValid s ⟨byte⟩

/-- How spans of tokens lie in a text. -/
structure Tiling (s : String) (ts : List PlacedToken) : Prop where
  nonempty : ∀ t ∈ ts, t.span.start < t.span.stop
  apart : ts.Pairwise fun t u => t.span.stop ≤ u.span.start
  bounded : ∀ t ∈ ts, IsBoundary s t.span.start ∧ IsBoundary s t.span.stop
  covering : ∀ before c after, s.toList = before ++ c :: after →
    (∀ t ∈ ts, ¬ (t.span.start ≤ byteLength before ∧ byteLength before < t.span.stop)) →
    Text.isWhitespace c = true
  slices : ∀ t ∈ ts, ∀ name, t.token.kept? = some name →
    ∃ first last, t.span.start ≤ first ∧ first ≤ last ∧ last ≤ t.span.stop ∧
      IsBoundary s first ∧ IsBoundary s last ∧ String.Pos.Raw.extract s ⟨first⟩ ⟨last⟩ = name

section Text

variable {s : String} {t : PlacedToken} {ts : List PlacedToken} {before w after : List Char}

/-- A front of a text ends at a character boundary. -/
theorem isBoundary_of_append (parts : s.toList = before ++ after) :
    IsBoundary s (byteLength before) := by
  refine String.Pos.Raw.isValid_iff_exists_append.mpr
    ⟨String.ofList before, String.ofList after, ?_, ?_⟩
  · rw [← String.ofList_append, ← parts, String.ofList_toList]
  · rw [String.rawEndPos_ofList, Lexer.byteLength_eq_utf8Len]

/-- A stretch of a text is cut out by its byte positions. -/
theorem extract_of_append (parts : s.toList = before ++ (w ++ after)) :
    String.Pos.Raw.extract s ⟨byteLength before⟩ ⟨byteLength before + byteLength w⟩ =
      String.ofList w := by
  rw [← List.append_assoc] at parts
  rw [← String.ofList_toList (s := s), parts, Lexer.byteLength_eq_utf8Len,
    Lexer.byteLength_eq_utf8Len, String.extract_of_valid]

/-- Tokens that tile the characters of a text tile the text. -/
theorem Lexer.Tiles.tiling (tiles : Tiles 0 ts s.toList) : Tiling s ts where
  nonempty t member := by
    obtain ⟨before, w, after, _, nonempty, _, span⟩ := tiles.exists_stretch member
    have room := byteLength_pos nonempty
    rw [span]
    dsimp only
    omega
  apart := tiles.pairwise
  bounded t member := by
    obtain ⟨before, w, after, parts, _, _, span⟩ := tiles.exists_stretch member
    rw [span, Nat.zero_add, ← byteLength_append]
    exact ⟨isBoundary_of_append parts,
      isBoundary_of_append (parts.trans (List.append_assoc ..).symm)⟩
  covering before c after place outside := by
    refine tiles.isWhitespace place fun t member => ?_
    rw [Nat.zero_add]
    exact outside t member
  slices t member name kept := by
    obtain ⟨before, w, after, parts, _, within, span⟩ := tiles.exists_stretch member
    obtain ⟨opening, closing, rfl⟩ := within name kept
    have place : s.toList =
        (before ++ opening) ++ (name.toList ++ (closing ++ after)) := by
      simpa only [List.append_assoc] using parts
    refine ⟨byteLength (before ++ opening), byteLength (before ++ opening) + byteLength name.toList,
      ?_, Nat.le_add_right .., ?_, isBoundary_of_append place, ?_, ?_⟩
    · rw [span]
      simp only [byteLength_append]
      omega
    · rw [span]
      simp only [byteLength_append]
      omega
    · rw [← byteLength_append]
      exact isBoundary_of_append (place.trans (List.append_assoc ..).symm)
    · rw [extract_of_append place, String.ofList_toList]

/-- A fault that tokens show has the span of one of them. -/
theorem Statement.mem_spans_of_ofTokens {e : ParseError} (fault : ofTokens ts = .error e)
    {span : Span} (placed : e.span = some span) : ∃ t ∈ ts, t.span = span := by
  classical
  by_contra absent
  -- Tokens stay where they are under a move of all other spans, and so does the fault.
  let move (other : Span) : Span :=
    if ∃ t ∈ ts, t.span = other then other else ⟨other.start + 1, other.stop⟩
  have fixed : Parser.moved move ts = ts := by
    refine (List.map_congr_left fun t member => ?_).trans (List.map_id ts)
    rw [PlacedToken.moved, show move t.span = t.span from if_pos ⟨t, member, rfl⟩]
    rfl
  have moved : ofTokens (Parser.moved move ts) = Parser.carried move id (ofTokens ts) :=
    ofTokens_moved ts
  rw [fixed, fault] at moved
  have same : e.span = e.span.map move := congrArg ParseError.span (Except.error.inj moved)
  rw [placed, Option.map_some, Option.some_inj] at same
  have start := congrArg Span.start (same.trans (if_neg absent))
  exact absurd start (Nat.ne_of_lt (Nat.lt_succ_self _))

end Text

/-- The lexer gets to the end of every text. Its tokens tile the text: spans are nonempty, lie one
after the other on boundaries of characters and leave out nothing but white space, and names and
strings are slices of their spans. A fault of the text that has a place has the span of one of
these tokens. -/
theorem tiling_tokens (s : String) :
    (∀ fuel, s.length ≤ fuel → Lexer.tokensFrom fuel 0 s.toList = tokens s) ∧
      Tiling s (tokens s) ∧
      ∀ e, Statement.ofText s = .error e → ∀ span, e.span = some span →
        ∃ t ∈ tokens s, t.span = span := by
  have length : s.toList.length ≤ s.length := String.length_toList.le
  refine ⟨fun fuel enough => ?_, (Lexer.tiles_tokensFrom length).tiling, ?_⟩
  · exact Lexer.tokensFrom_eq_of_le length (length.trans enough)
  · exact fun e fault span placed => Statement.mem_spans_of_ofTokens fault placed

end FederatedSearch
