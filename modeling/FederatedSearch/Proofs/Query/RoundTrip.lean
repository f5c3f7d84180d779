import FederatedSearch.Proofs.Cache.Parsing
import FederatedSearch.Proofs.Query.Spelling
import FederatedSearch.Proofs.Query.StatementReading
import FederatedSearch.Query.Preparation

/-!
# Reading what was written

A written query is read as the query itself. Its text spells the tokens `Query.tokens`
(`Query.spells_text`), and these have the form of the query (`Query.IsPlain.form`); each of the two
goes by the structure of predicates. Parentheses are part of the tree, so that a tree reads back
only when it has the shape that reading yields: `Predicate.IsShaped`.
-/

namespace FederatedSearch

open FederatedSearch.Lexer (Spells)
open FederatedSearch.Parser (Tokens)

/-! ## What is written -/

/-- A name that can be written without quotes: one word that is not reserved. -/
def IsBareName (n : String) : Prop :=
  Lexer.isWordText n.toList = true ∧ Keyword.ofWord? n.toList = none

/-- A value that is written as one token which stands for it. A string holds nothing that reading
would change: no backslash, and no two double quotes side by side. -/
def Literal.IsPlain : Literal → Prop
  | string s => '\\' ∉ s.toList ∧ ¬ ['"', '"'] <:+: s.toList
  | integer n => WordRange.isSigned n = true
  | bool _ => True
  | column n => IsBareName n
  | float _ => False
  | list _ => False

/-- A value of the kind that a comparison is written with. -/
def CompareOp.Takes (v : Literal) : CompareOp → Prop
  | isIn => ∃ items, v = .list items ∧ items ≠ [] ∧ ∀ item ∈ items, item.IsPlain
  | notIn => ∃ items, v = .list items ∧ items ≠ [] ∧ ∀ item ∈ items, item.IsPlain
  | like => ∃ s, v = .string s ∧ v.IsPlain
  | notLike => ∃ s, v = .string s ∧ v.IsPlain
  | _ => v.IsPlain

namespace Predicate

/-- Every name is bare and every value of the kind that its comparison is written with. -/
def IsPlain : Predicate → Prop
  | compare field op value => IsBareName field ∧ op.Takes value
  | between field low high => IsBareName field ∧ low.IsPlain ∧ high.IsPlain
  | and left right => left.IsPlain ∧ right.IsPlain
  | or left right => left.IsPlain ∧ right.IsPlain
  | paren inner => inner.IsPlain

/-- How tightly the parts of a predicate hold together without parentheses around it. -/
def level : Predicate → Grammar.Level
  | and _ _ => .conjunction
  | or _ _ => .disjunction
  | _ => .primary

/-- Both connectives join to the left, AND before OR: the right side of an AND is neither AND nor
OR, its left side is no OR, and neither is the right side of an OR. -/
def IsShaped : Predicate → Prop
  | and left right =>
    left.level ≠ .disjunction ∧ right.level = .primary ∧ left.IsShaped ∧ right.IsShaped
  | or left right => right.level ≠ .disjunction ∧ left.IsShaped ∧ right.IsShaped
  | paren inner => inner.IsShaped
  | _ => True

end Predicate

/-- A query whose names are bare, whose values are plain, and which reading could have yielded. -/
structure Query.IsPlain (q : Query) : Prop where
  source : IsBareName q.source
  predicate : q.predicate.IsPlain
  shaped : q.predicate.IsShaped
  filters : ∀ field low high, q.predicate ≠ .between field low high
  ranges : q.predicate.datetimeRangeCount ≤ 1
  orderBy : ∀ key ∈ q.orderBy, IsBareName key.field
  offset : (q.offset : Int) ≤ WordRange.greatest

/-! ## The tokens of what is written -/

/-- The token of a value that is no list. -/
def Literal.token : Literal → Token
  | string s => .string (String.ofList (doubleQuotes s.toList))
  | integer n => .integer n
  | float x => .float x
  | bool true => .keyword .true
  | bool false => .keyword .false
  | column n => .identifier n
  | list _ => .illegal

/-- Tokens of items with commas between them. -/
def commaTokens (items : List (List Token)) : List Token :=
  [Token.symbol .comma].intercalate items

/-- The tokens of a value. -/
def Literal.tokens : Literal → List Token
  | list items => .symbol .lparen :: (commaTokens (items.map ([·.token])) ++ [.symbol .rparen])
  | v => [v.token]

/-- The tokens of a comparison. -/
def CompareOp.tokens : CompareOp → List Token
  | eq => [.symbol .eq]
  | notEq => [.symbol .notEq]
  | lt => [.symbol .lt]
  | gt => [.symbol .gt]
  | lte => [.symbol .lte]
  | gte => [.symbol .gte]
  | isIn => [.keyword .in]
  | notIn => [.keyword .not, .keyword .in]
  | like => [.keyword .like]
  | notLike => [.keyword .not, .keyword .like]

/-- The tokens of a predicate. -/
def Predicate.tokens : Predicate → List Token
  | compare field op value => .identifier field :: (op.tokens ++ value.tokens)
  | between field low high =>
    .identifier field :: .keyword .between :: (low.tokens ++ .keyword .and :: high.tokens)
  | and left right => left.tokens ++ .keyword .and :: right.tokens
  | or left right => left.tokens ++ .keyword .or :: right.tokens
  | paren inner => .symbol .lparen :: (inner.tokens ++ [.symbol .rparen])

/-- The tokens of a sort key. -/
def SortKey.tokens (key : SortKey) : List Token :=
  if key.descending then [.identifier key.field, .keyword .desc] else [.identifier key.field]

/-- The tokens of an order, of which there are none when there is no order. -/
def orderTokens (keys : List SortKey) : List Token :=
  if keys.isEmpty then []
  else .keyword .order :: .keyword .by :: commaTokens (keys.map SortKey.tokens)

/-- The tokens of a query. -/
def Query.tokens (q : Query) : List Token :=
  .keyword .from :: .identifier q.source :: .keyword .where :: (q.predicate.tokens ++
    (orderTokens q.orderBy ++
      [.keyword .limit, .integer q.offset, .symbol .comma, .integer q.rowcount]))

/-! ## Texts spell their tokens -/

section Spelling

/-- The tokens of a list are those of its first item and, after a comma, those of the others. -/
theorem commaTokens_cons {items : List (List Token)} (more : items ≠ []) (item : List Token) :
    commaTokens (item :: items) = item ++ .symbol .comma :: commaTokens items := by
  rw [commaTokens, List.intercalate_cons_of_ne_nil more, List.append_assoc]
  rfl

/-- A bare name is spelled by itself. -/
theorem IsBareName.spells {n : String} (bare : IsBareName n) :
    Spells n.toList [.identifier n] := by
  have token : Lexer.wordToken n.toList = .identifier n := by
    rw [Lexer.wordToken, bare.2, String.ofList_toList]
  exact token ▸ Lexer.spells_word bare.1

/-- The text of a plain value spells its one token. -/
theorem Literal.IsPlain.spells {v : Literal} (plain : v.IsPlain) :
    Spells v.text.toList [v.token] := by
  cases v with
  | string s =>
    have spelled := Lexer.spells_string plain.1
    simpa [Literal.text, Literal.token] using spelled
  | integer n => exact Lexer.spells_integer plain
  | float x => exact plain.elim
  | bool b =>
    cases b with
    | true => exact Lexer.spells_word (w := ['t', 'r', 'u', 'e']) (by decide)
    | false => exact Lexer.spells_word (w := ['f', 'a', 'l', 's', 'e']) (by decide)
  | column n => exact IsBareName.spells plain
  | list items => exact plain.elim

/-- Texts of items with commas between them spell the tokens of the items. -/
theorem spells_intercalate {α : Type} {text : α → String} {tokens : α → List Token} {items : List α}
    (some : items ≠ []) (each : ∀ a ∈ items, Spells (text a).toList (tokens a)) :
    Spells (", ".intercalate (items.map text)).toList (commaTokens (items.map tokens)) := by
  induction items with
  | nil => exact absurd rfl some
  | cons a items ih =>
    obtain ⟨first, others⟩ := List.forall_mem_cons.mp each
    by_cases alone : items = []
    · subst alone
      simpa [commaTokens] using first
    · have more : items.map text ≠ [] ∧ items.map tokens ≠ [] := by simpa using alone
      rw [List.map_cons, List.map_cons, String.intercalate_cons_of_ne_nil more.1,
        commaTokens_cons more.2]
      have joined := first.comma (ih alone others).blank
      simpa using joined

/-- The items of a list are printed with commas between them. -/
theorem Literal.itemsText_eq (items : List Literal) :
    itemsText items = ", ".intercalate (items.map text) := by
  induction items with
  | nil => rfl
  | cons item items ih =>
    cases items with
    | nil => simp [itemsText]
    | cons next items =>
      rw [itemsText, ih, List.map_cons, List.map_cons, List.map_cons, String.intercalate_cons_cons]
      simp

/-- A plain value has one token. -/
theorem Literal.IsPlain.tokens_eq {v : Literal} (plain : v.IsPlain) : v.tokens = [v.token] := by
  cases v with
  | list items => exact plain.elim
  | _ => rfl

/-- A list of plain values is written in parentheses. -/
theorem spells_list {items : List Literal} (some : items ≠ [])
    (plain : ∀ item ∈ items, item.IsPlain) :
    Spells (Literal.list items).text.toList (Literal.list items).tokens := by
  have inside := (spells_intercalate some fun item member => (plain item member).spells).parens
  rw [← Literal.itemsText_eq] at inside
  simpa [Literal.text, Literal.tokens] using inside

/-- A comparison takes a list of plain values, or a plain value. -/
theorem CompareOp.Takes.cases {op : CompareOp} {v : Literal} (takes : op.Takes v) :
    v.IsPlain ∨ ∃ items, v = .list items ∧ items ≠ [] ∧ ∀ item ∈ items, item.IsPlain := by
  cases op with
  | isIn => exact .inr takes
  | notIn => exact .inr takes
  | like => exact .inl takes.choose_spec.2
  | notLike => exact .inl takes.choose_spec.2
  | _ => exact .inl takes

/-- The operand of a comparison is spelled by its text. -/
theorem CompareOp.Takes.spells {op : CompareOp} {v : Literal} (takes : op.Takes v) :
    Spells v.text.toList v.tokens := by
  rcases takes.cases with plain | ⟨items, rfl, some, plain⟩
  · rw [plain.tokens_eq]
    exact plain.spells
  · exact spells_list some plain

/-- An operator is spelled by its text. -/
theorem CompareOp.spells_text (op : CompareOp) : Spells op.text.toList op.tokens := by
  cases op with
  | isIn => exact Lexer.spells_keyword .in
  | notIn => exact (Lexer.spells_keyword .not).space (Lexer.spells_keyword .in)
  | like => exact Lexer.spells_keyword .like
  | notLike => exact (Lexer.spells_keyword .not).space (Lexer.spells_keyword .like)
  | _ => exact Lexer.spells_symbol _ _ (by simp [CompareOp.text])

/-- The text of a predicate spells its tokens. -/
theorem Predicate.IsPlain.spells {p : Predicate} (plain : p.IsPlain) :
    Spells p.text.toList p.tokens := by
  induction p with
  | compare field op value =>
    have joined := (plain.1.spells.space op.spells_text).space plain.2.spells
    simpa [Predicate.text, Predicate.tokens] using joined
  | between field low high =>
    have bounds := (plain.2.1.spells.space (Lexer.spells_keyword .and)).space plain.2.2.spells
    have joined := (plain.1.spells.space (Lexer.spells_keyword .between)).space bounds
    simpa [Predicate.text, Predicate.tokens, Keyword.text, plain.2.1.tokens_eq,
      plain.2.2.tokens_eq] using joined
  | and left right ihLeft ihRight =>
    have joined := ((ihLeft plain.1).space (Lexer.spells_keyword .and)).space (ihRight plain.2)
    simpa [Predicate.text, Predicate.tokens, Keyword.text] using joined
  | or left right ihLeft ihRight =>
    have joined := ((ihLeft plain.1).space (Lexer.spells_keyword .or)).space (ihRight plain.2)
    simpa [Predicate.text, Predicate.tokens, Keyword.text] using joined
  | paren inner ih =>
    simpa [Predicate.text, Predicate.tokens] using (ih plain).parens

/-- A sort key with a bare name is spelled by its text. -/
theorem SortKey.spells_text {key : SortKey} (bare : IsBareName key.field) :
    Spells key.text.toList key.tokens := by
  unfold SortKey.text SortKey.tokens
  split
  · have joined := bare.spells.space (Lexer.spells_keyword .desc)
    simpa [Keyword.text] using joined
  · exact bare.spells

/-- The text of a query spells its tokens. -/
theorem Query.IsPlain.spells {q : Query} (plain : q.IsPlain)
    (fits : (q.rowcount : Int) ≤ WordRange.greatest) : Spells q.text.toList q.tokens := by
  have count {n : Nat} (bound : (n : Int) ≤ WordRange.greatest) :
      Spells (toString n).toList [.integer n] := by
    rw [Nat.toString_eq_ofList_toDigits, String.toList_ofList]
    refine Lexer.spells_natural ?_
    simp only [WordRange.isSigned, Bool.and_eq_true, decide_eq_true_eq]
    exact ⟨by simp only [WordRange.least]; omega, bound⟩
  have page := (Lexer.spells_keyword .limit).space ((count plain.offset).comma (count fits))
  have front := ((Lexer.spells_keyword .from).space plain.source.spells).space
    ((Lexer.spells_keyword .where).space plain.predicate.spells)
  by_cases none : q.orderBy = []
  · have joined := front.space page
    simpa [Query.text, Query.tokens, orderText, orderTokens, none, Keyword.text] using joined
  · have keys := spells_intercalate none fun key member =>
      SortKey.spells_text (plain.orderBy key member)
    have order := ((Lexer.spells_keyword .order).space (Lexer.spells_keyword .by)).space keys
    have joined := (front.space order).space page
    simpa [Query.text, Query.tokens, orderText, orderTokens, none, Keyword.text] using joined

end Spelling

/-! ## Tokens have the form of what they were written for -/

section Forms

variable {ps : Tokens} {t : Token} {ts : List Token}

/-- Placed tokens that carry a first token begin with it, wherever it stands. -/
theorem exists_placed_cons (placed : ps.map PlacedToken.token = t :: ts) :
    ∃ span rest, ps = ⟨t, span⟩ :: rest ∧ rest.map PlacedToken.token = ts := by
  obtain ⟨⟨token, span⟩, rest, rfl, rfl, others⟩ := List.map_eq_cons_iff.mp placed
  exact ⟨span, rest, rfl, others⟩

/-- Placed tokens that carry one token are that token somewhere. -/
theorem exists_placed_singleton (placed : ps.map PlacedToken.token = [t]) :
    ∃ span, ps = [⟨t, span⟩] := by
  obtain ⟨span, rest, rfl, none⟩ := exists_placed_cons placed
  exact ⟨span, by rw [List.map_eq_nil_iff.mp none]⟩

/-- Tokens between two others. -/
theorem exists_placed_middle {us : List Token} (placed : ps.map PlacedToken.token = ts ++ t :: us) :
    ∃ front span rest, ps = front ++ ⟨t, span⟩ :: rest ∧
      front.map PlacedToken.token = ts ∧ rest.map PlacedToken.token = us := by
  obtain ⟨front, back, rfl, first, second⟩ := List.map_eq_append_iff.mp placed
  obtain ⟨span, rest, rfl, others⟩ := exists_placed_cons second
  exact ⟨front, span, rest, rfl, first, others⟩

/-- Doubling the single quotes of a string and taking escapes out again changes nothing. -/
theorem stringValue_doubleQuotes {s : String} (unescaped : '\\' ∉ s.toList)
    (apart : ¬ ['"', '"'] <:+: s.toList) :
    Parser.stringValue (String.ofList (Literal.doubleQuotes s.toList)) = s := by
  have reads : Parser.unescape (Literal.doubleQuotes s.toList) = s.toList := by
    generalize s.toList = x at unescaped apart
    unfold Literal.doubleQuotes
    induction x with
    | nil => rfl
    | cons c x ih =>
      obtain ⟨first, others⟩ := not_or.mp (mt List.mem_cons.mpr unescaped)
      have rest := ih others fun inside => apart (inside.trans (List.suffix_cons c x).isInfix)
      rw [List.flatMap_cons]
      split
      · rename_i single
        subst single
        rw [List.cons_append, List.cons_append, List.nil_append,
          unescape_double (.inl rfl), rest]
      · rename_i plain
        rw [List.singleton_append, unescape_keep (Ne.symm first), rest]
        rintro (quote | rfl) z next
        · exact plain quote
        · -- A double quote would come from one of the string itself.
          cases x with
          | nil => cases next
          | cons d x =>
            rw [List.flatMap_cons] at next
            split at next
            · cases next
            · cases next
              exact apart ⟨[], x, rfl⟩
  rw [Parser.stringValue, String.toList_ofList, reads, String.ofList_toList]

/-- The token of a plain value reads as this value, wherever it stands. -/
theorem Literal.IsPlain.value {v : Literal} (plain : v.IsPlain)
    (placed : ps.map PlacedToken.token = [v.token]) : Grammar.Value ps v := by
  obtain ⟨span, rfl⟩ := exists_placed_singleton placed
  cases v with
  | string s =>
    have form := Grammar.Value.string (String.ofList (doubleQuotes s.toList)) span
    rwa [stringValue_doubleQuotes plain.1 plain.2] at form
  | integer n => exact .integer n span
  | float x => exact plain.elim
  | bool b =>
    cases b with
    | true => exact .true span
    | false => exact .false span
  | column n => exact .name n span
  | list items => exact plain.elim

/-- When the tokens of each item read as the item, those of the list read as the items between
commas. -/
theorem commaSeparated_of_placed {α : Type} {form : Tokens → α → Prop} {tokens : α → List Token}
    {items : List α} (some : items ≠ [])
    (each : ∀ a ∈ items, ∀ ps : Tokens, ps.map PlacedToken.token = tokens a → form ps a)
    (placed : ps.map PlacedToken.token = commaTokens (items.map tokens)) :
    Grammar.CommaSeparated form ps items := by
  induction items generalizing ps with
  | nil => exact absurd rfl some
  | cons a items ih =>
    obtain ⟨first, others⟩ := List.forall_mem_cons.mp each
    by_cases alone : items = []
    · subst alone
      exact .last (first ps (by simpa [commaTokens] using placed))
    · rw [List.map_cons, commaTokens_cons (by simpa using alone)] at placed
      obtain ⟨front, span, rest, rfl, one, more⟩ := exists_placed_middle placed
      exact .more span (first front one) (ih alone others more)

/-- The tokens of a list of plain values read as the list. -/
theorem valueList_of_placed {items : List Literal} (some : items ≠ [])
    (plain : ∀ item ∈ items, item.IsPlain)
    (placed : ps.map PlacedToken.token = (Literal.list items).tokens) :
    Grammar.ValueList ps items := by
  obtain ⟨opened, rest, rfl, within⟩ := exists_placed_cons placed
  obtain ⟨front, closed, rest, rfl, inside, none⟩ := exists_placed_middle within
  rw [List.map_eq_nil_iff.mp none]
  exact .parens opened closed (commaSeparated_of_placed some
    (fun item member ps => (plain item member).value) inside)

/-- What a comparison is written as is a condition on its field. -/
theorem CompareOp.Takes.condition {op : CompareOp} {v : Literal} (takes : op.Takes v)
    (field : String) (placed : ps.map PlacedToken.token = op.tokens ++ v.tokens) :
    Grammar.Condition field ps (.compare field op v) := by
  have symbol {s : Symbol} {op : CompareOp} (comparison : Grammar.Comparison s op)
      (plain : v.IsPlain) (placed : ps.map PlacedToken.token = .symbol s :: v.tokens) :
      Grammar.Condition field ps (.compare field op v) := by
    obtain ⟨span, rest, rfl, value⟩ := exists_placed_cons placed
    rw [plain.tokens_eq] at value
    exact .compare span comparison (plain.value value)
  cases op with
  | eq => exact symbol .eq takes placed
  | notEq => exact symbol .notEq takes placed
  | lt => exact symbol .lt takes placed
  | gt => exact symbol .gt takes placed
  | lte => exact symbol .lte takes placed
  | gte => exact symbol .gte takes placed
  | isIn =>
    obtain ⟨items, rfl, some, plain⟩ := takes
    obtain ⟨span, rest, rfl, list⟩ := exists_placed_cons placed
    exact .isIn span (valueList_of_placed some plain list)
  | notIn =>
    obtain ⟨items, rfl, some, plain⟩ := takes
    obtain ⟨negation, rest, rfl, further⟩ := exists_placed_cons placed
    obtain ⟨span, rest, rfl, list⟩ := exists_placed_cons further
    exact .notIn negation span (valueList_of_placed some plain list)
  | like =>
    obtain ⟨s, rfl, plain⟩ := takes
    obtain ⟨span, rest, rfl, pattern⟩ := exists_placed_cons placed
    obtain ⟨place, rfl⟩ := exists_placed_singleton pattern
    have form : Grammar.Condition field _ _ :=
      .like span (String.ofList (Literal.doubleQuotes s.toList)) place
    rwa [stringValue_doubleQuotes plain.1 plain.2] at form
  | notLike =>
    obtain ⟨s, rfl, plain⟩ := takes
    obtain ⟨negation, rest, rfl, further⟩ := exists_placed_cons placed
    obtain ⟨span, rest, rfl, pattern⟩ := exists_placed_cons further
    obtain ⟨place, rfl⟩ := exists_placed_singleton pattern
    have form : Grammar.Condition field _ _ :=
      .notLike negation span (String.ofList (Literal.doubleQuotes s.toList)) place
    rwa [stringValue_doubleQuotes plain.1 plain.2] at form

open Grammar (Derives)

/-- A predicate that is no disjunction may be an operand of one. -/
theorem derives_conjunction {p : Predicate} (loose : p.level ≠ .disjunction)
    (derived : Derives p.level ps p) : Derives .conjunction ps p := by
  cases p with
  | and left right => exact derived
  | or left right => exact absurd rfl loose
  | _ => exact .primary derived

/-- Each predicate reads as an operand of the loosest level. -/
theorem derives_disjunction {p : Predicate} (derived : Derives p.level ps p) :
    Derives .disjunction ps p := by
  by_cases loose : p.level = .disjunction
  · rwa [loose] at derived
  · exact .conjunction (derives_conjunction loose derived)

/-- The tokens of a predicate derive it, as tightly as its parts hold together. -/
theorem Predicate.derives_tokens {p : Predicate} (plain : p.IsPlain) (shaped : p.IsShaped)
    (placed : ps.map PlacedToken.token = p.tokens) : Derives p.level ps p := by
  induction p generalizing ps with
  | compare field op value =>
    obtain ⟨span, rest, rfl, further⟩ := exists_placed_cons placed
    exact .condition span (plain.2.condition field further)
  | between field low high =>
    obtain ⟨place, rest, rfl, further⟩ := exists_placed_cons placed
    obtain ⟨span, rest, rfl, bounds⟩ := exists_placed_cons further
    obtain ⟨lows, conjunction, highs, rfl, lower, upper⟩ := exists_placed_middle bounds
    rw [plain.2.1.tokens_eq] at lower
    rw [plain.2.2.tokens_eq] at upper
    exact .condition place
      (.between span conjunction (plain.2.1.value lower) (plain.2.2.value upper))
  | and left right ihLeft ihRight =>
    obtain ⟨loose, tight, shapedLeft, shapedRight⟩ := shaped
    obtain ⟨front, span, rest, rfl, first, second⟩ := exists_placed_middle placed
    have derived := ihRight plain.2 shapedRight second
    rw [tight] at derived
    exact .and span (derives_conjunction loose (ihLeft plain.1 shapedLeft first)) derived
  | or left right ihLeft ihRight =>
    obtain ⟨loose, shapedLeft, shapedRight⟩ := shaped
    obtain ⟨front, span, rest, rfl, first, second⟩ := exists_placed_middle placed
    exact .or span (derives_disjunction (ihLeft plain.1 shapedLeft first))
      (derives_conjunction loose (ihRight plain.2 shapedRight second))
  | paren inner ih =>
    obtain ⟨opened, rest, rfl, within⟩ := exists_placed_cons placed
    obtain ⟨front, closed, rest, rfl, inside, none⟩ := exists_placed_middle within
    rw [List.map_eq_nil_iff.mp none]
    exact .paren opened closed (derives_disjunction (ih plain shaped inside))

/-- The tokens of a sort key read as the key. -/
theorem SortKey.key_tokens (key : SortKey) (placed : ps.map PlacedToken.token = key.tokens) :
    Grammar.Key ps key := by
  obtain ⟨field, descending⟩ := key
  cases descending with
  | false =>
    obtain ⟨span, rfl⟩ := exists_placed_singleton placed
    exact .plain (.identifier field span)
  | true =>
    obtain ⟨span, rest, rfl, further⟩ := exists_placed_cons placed
    obtain ⟨place, rfl⟩ := exists_placed_singleton further
    exact .descending (.identifier field span) place

/-- The tokens of the order clause read as its keys, and none as no clause. -/
theorem orderClause_of_placed (keys : List SortKey)
    (placed : ps.map PlacedToken.token = orderTokens keys) :
    Grammar.Optional Grammar.OrderClause [] ps keys := by
  unfold orderTokens at placed
  split at placed
  · rename_i none
    rw [List.isEmpty_iff.mp none, List.map_eq_nil_iff.mp placed]
    exact .absent
  · rename_i some
    obtain ⟨span, rest, rfl, further⟩ := exists_placed_cons placed
    obtain ⟨preposition, rest, rfl, order⟩ := exists_placed_cons further
    exact .present (.mk span preposition (commaSeparated_of_placed (by simpa using some)
      (fun key _ _ => key.key_tokens) order))

/-- The statement that the tokens of a query form. -/
def Query.statement (q : Query) : Statement :=
  ⟨false, [q.source], some q.predicate, [], q.orderBy, some ⟨some q.offset, q.rowcount⟩⟩

/-- The tokens of a query have the form of its statement. -/
theorem Query.IsPlain.form {q : Query} (plain : q.IsPlain)
    (placed : ps.map PlacedToken.token = q.tokens) : Grammar.Form ps q.statement := by
  obtain ⟨span, rest, rfl, afterFrom⟩ := exists_placed_cons placed
  obtain ⟨place, rest, rfl, afterSource⟩ := exists_placed_cons afterFrom
  obtain ⟨condition, rest, rfl, afterWhere⟩ := exists_placed_cons afterSource
  obtain ⟨filters, back, rfl, predicate, afterFilters⟩ := List.map_eq_append_iff.mp afterWhere
  obtain ⟨order, limit, rfl, orderBy, page⟩ := List.map_eq_append_iff.mp afterFilters
  obtain ⟨word, rest, rfl, afterLimit⟩ := exists_placed_cons page
  obtain ⟨first, rest, rfl, afterOffset⟩ := exists_placed_cons afterLimit
  obtain ⟨comma, rest, rfl, afterComma⟩ := exists_placed_cons afterOffset
  obtain ⟨second, rfl⟩ := exists_placed_singleton afterComma
  have derived := Predicate.derives_tokens plain.predicate plain.shaped predicate
  exact .mk span .absent (.last (.identifier q.source place))
    (.present (.mk condition (derives_disjunction derived))) .absent
    (orderClause_of_placed q.orderBy orderBy)
    (.present (.page word q.offset first comma q.rowcount second))

end Forms

/-! ## Reading back -/

namespace Query

/-- The statement of a written query is read from its text. -/
theorem IsPlain.ofText_text {q : Query} (plain : q.IsPlain)
    (fits : (q.rowcount : Int) ≤ WordRange.greatest) :
    Statement.ofText q.text = .ok q.statement := by
  have lexes : Lexer.Lexes q.text.toList q.tokens := by
    simpa using plain.spells fits [] [] Lexer.ended_nil .done
  have placed : (FederatedSearch.tokens q.text).map PlacedToken.token = q.tokens :=
    Lexer.map_token_tokensFrom lexes (String.length_toList ▸ Nat.le_refl _)
  have legal : (FederatedSearch.tokens q.text).find? (·.token == .illegal) = none := by
    refine List.find?_eq_none.mpr fun t member => ?_
    have token : t.token ∈ q.tokens := placed ▸ List.mem_map_of_mem member
    simpa using lexes.legal t.token token
  rw [Statement.ofText, Statement.ofTokens]
  simp only [legal, Parser.clauses_complete (plain.form placed), bind, Except.bind]
  rfl

/-- The statement of a query is accepted as that query. -/
theorem IsPlain.accept_statement {q : Query} (plain : q.IsPlain) {max : Nat}
    (within : q.rowcount ≤ max) : q.statement.accept max = .ok q := by
  have filters : Statement.filters (some q.predicate) = .ok q.predicate := by
    unfold Statement.filters
    split
    · rename_i none
      cases none
    · rename_i same
      exact absurd (Option.some.inj same) (plain.filters _ _ _)
    · rename_i same
      rw [← Option.some.inj same, if_neg (Nat.not_lt.mpr plain.ranges)]
  have page : Statement.page max (some ⟨some (q.offset : Int), q.rowcount⟩) =
      .ok (q.offset, q.rowcount) := by
    have natural (n : Nat) : ¬ (n : Int) < 0 := by omega
    simp [Statement.page, natural, within]
  simp [Statement.accept, statement, filters, page, bind, Except.bind, pure, Except.pure]

/-- A query that is written is read as itself. -/
theorem prepare_text {q : Query} {max : Nat} (plain : q.IsPlain) (within : q.rowcount ≤ max)
    (bound : (max : Int) ≤ WordRange.greatest) : prepare q.text max = .ok q := by
  have fits : (q.rowcount : Int) ≤ WordRange.greatest := by omega
  rw [prepare, plain.ofText_text fits]
  simp only [plain.accept_statement within]

/-- Quotes in strings, the least integer, a name that holds a keyword, nested parentheses, a time
range, and a descending order. -/
theorem prepare_text_nested :
    let range : Predicate := .between "datetime" (.string "2026-01-01") (.string "2026-02-01")
    let names : Predicate := .or
      (.compare "src.ip-v4" .isIn (.list [.string "it's \"x\"", .column "b"]))
      (.and (.compare "_from" .notLike (.string "%''_")) (.compare "up" .eq (.bool true)))
    let q : Query := ⟨"logs", .and (.and (.paren names) range)
      (.compare "n" .gte (.integer (-9223372036854775808))),
      [⟨"orderly", true⟩, ⟨"n", false⟩], 3, 7⟩
    q.IsPlain ∧ q.rowcount ≤ 500 ∧ ((500 : Nat) : Int) ≤ WordRange.greatest ∧
      prepare q.text 500 = .ok q := by
  intro range names q
  have bare : ∀ n ∈ ["logs", "src.ip-v4", "b", "_from", "up", "n", "datetime", "orderly"],
      IsBareName n := by
    unfold IsBareName
    decide
  have text : ∀ s ∈ ["it's \"x\"", "%''_", "2026-01-01", "2026-02-01"],
      (Literal.string s).IsPlain := by
    simp only [Literal.IsPlain]
    decide
  have members : ∀ item ∈ [Literal.string "it's \"x\"", .column "b"], item.IsPlain :=
    List.forall_mem_cons.mpr ⟨text _ (by simp),
      List.forall_mem_singleton.mpr (bare "b" (by simp))⟩
  have first : names.IsPlain :=
    ⟨⟨bare _ (by simp), _, rfl, by simp, members⟩,
      ⟨bare _ (by simp), _, rfl, text _ (by simp)⟩, bare _ (by simp), trivial⟩
  have second : range.IsPlain := ⟨bare _ (by simp), text _ (by simp), text _ (by simp)⟩
  have plain : q.IsPlain :=
    { source := bare _ (by simp [q])
      predicate := ⟨⟨first, second⟩, bare _ (by simp), by unfold CompareOp.Takes; rfl⟩
      shaped := by simp [q, names, range, Predicate.IsShaped, Predicate.level]
      filters := by simp [q]
      ranges := by decide
      orderBy := by
        simp only [q, List.forall_mem_cons, List.not_mem_nil, false_imp_iff, implies_true, and_true]
        exact ⟨bare _ (by simp), bare _ (by simp)⟩
      offset := by decide }
  exact ⟨plain, by decide, by decide, prepare_text plain (by decide) (by decide)⟩

end Query

end FederatedSearch
