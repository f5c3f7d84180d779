import FederatedSearch.Proofs.Cache.Twins
import FederatedSearch.Proofs.Query.Grammar

/-!
# Statements of agreeing tokens

Forms of the grammar carry over from tokens to tokens that agree with them: these stand for the
same tree up to texts, and up to timestamps of the same ten minutes in bounds of the time field
(`Grammar.carries_form`).
-/

namespace FederatedSearch

open FederatedSearch.Parser (Tokens unescape escaped stringValue)

/-! ## Trees -/

/-- Two single values that are the same up to texts. -/
inductive ValuesAlike (texts : String → String → Prop) : Literal → Literal → Prop
  | same (v : Literal) : ValuesAlike texts v v
  | string {s t : String} (alike : texts s t) : ValuesAlike texts (.string s) (.string t)
  | column {m n : String} (alike : texts m n) : ValuesAlike texts (.column m) (.column n)

/-- Two bounds of a range of a field that are the same up to texts, or strings that bound the time
field and are the same up to timestamps of the same ten minutes. -/
inductive BoundsAlike (texts : String → String → Prop) (field : String) : Literal → Literal → Prop
  | value {v w : Literal} (alike : ValuesAlike texts v w) : BoundsAlike texts field v w
  | twins {s t : String} (time : field = datetimeField) (alike : TwinTexts s t) :
    BoundsAlike texts field (.string s) (.string t)

/-- Two predicates that are the same up to texts, and to timestamps of the same ten minutes in
bounds of the time field. -/
inductive PredicatesAlike (texts : String → String → Prop) : Predicate → Predicate → Prop
  | compare {f g : String} {v w : Literal} (op : CompareOp) (fields : texts f g)
    (values : ValuesAlike texts v w) : PredicatesAlike texts (.compare f op v) (.compare g op w)
  | member {f g : String} {vs ws : List Literal} (op : CompareOp) (fields : texts f g)
    (values : List.Forall₂ (ValuesAlike texts) vs ws) :
    PredicatesAlike texts (.compare f op (.list vs)) (.compare g op (.list ws))
  | between {f g : String} {low high low' high' : Literal} (fields : texts f g)
    (lows : BoundsAlike texts f low low') (highs : BoundsAlike texts f high high') :
    PredicatesAlike texts (.between f low high) (.between g low' high')
  | and {l l' r r' : Predicate} (left : PredicatesAlike texts l l')
    (right : PredicatesAlike texts r r') : PredicatesAlike texts (.and l r) (.and l' r')
  | or {l l' r r' : Predicate} (left : PredicatesAlike texts l l')
    (right : PredicatesAlike texts r r') : PredicatesAlike texts (.or l r) (.or l' r')
  | paren {p p' : Predicate} (inner : PredicatesAlike texts p p') :
    PredicatesAlike texts (.paren p) (.paren p')

/-- Two sort keys that are the same up to the text of their field. -/
def KeysAlike (texts : String → String → Prop) (k l : SortKey) : Prop :=
  texts k.field l.field ∧ k.descending = l.descending

/-- Two statements that are the same up to texts, and to timestamps of the same ten minutes in
bounds of the time field. -/
structure StatementsAlike (texts : String → String → Prop) (s t : Statement) : Prop where
  distinct : s.distinct = t.distinct
  sources : List.Forall₂ texts s.sources t.sources
  selection : Option.Rel (PredicatesAlike texts) s.selection t.selection
  groupBy : List.Forall₂ texts s.groupBy t.groupBy
  orderBy : List.Forall₂ (KeysAlike texts) s.orderBy t.orderBy
  limit : s.limit = t.limit

/-! ## Escapes -/

section Escapes

variable {c : Char} {w x y : List Char}

/-- A character that is no backslash and no first of two quotes is kept. -/
theorem unescape_keep (unescaped : c ≠ '\\') (single : c = '\'' ∨ c = '"' → ∀ z, x ≠ c :: z) :
    unescape (c :: x) = c :: unescape x := by
  cases x with
  | nil => simp [unescape]
  | cons d x =>
    rw [unescape]
    · rw [if_neg]
      rintro ⟨quote, rfl⟩
      exact single quote x rfl
    · exact unescaped

/-- Two quotes stand for one. -/
theorem unescape_double (quote : c = '\'' ∨ c = '"') (x : List Char) :
    unescape (c :: c :: x) = c :: unescape x := by
  rcases quote with rfl | rfl
  · simp [unescape]
  · simp [unescape]

/-- A timestamp stands for itself, also after a backslash. -/
theorem unescape_timestamp (stamp : CacheKey.Timestamp w) (x : List Char) :
    unescape (w ++ x) = w ++ unescape x ∧ unescape ('\\' :: (w ++ x)) = w ++ unescape x := by
  have plain {u : List Char} (plain : ∀ c ∈ u, c ∉ ['\'', '"', Lexer.nameQuote, '\\']) :
      unescape (u ++ x) = u ++ unescape x := by
    induction u with
    | nil => rfl
    | cons c u ih =>
      have first := plain c (List.mem_cons_self ..)
      simp only [List.mem_cons, List.not_mem_nil, or_false, not_or] at first
      have single : c = '\'' ∨ c = '"' → ∀ z, u ++ x ≠ c :: z := fun quote =>
        absurd quote (not_or.mpr ⟨first.1, first.2.1⟩)
      rw [List.cons_append, unescape_keep first.2.2.2 single,
        ih fun d member => plain d (List.mem_cons_of_mem _ member)]
      rfl
  have all := fun c (member : c ∈ w) => Lexer.plain_of_mem_timestamp stamp member
  refine ⟨plain all, ?_⟩
  obtain ⟨c, w, rfl, digit⟩ := Lexer.exists_cons_of_timestamp stamp
  have itself : escaped c = c := by
    have other (d : Char) (letter : Text.isDigit d = false) : c ≠ d :=
      Text.ne_of_isDigit digit letter
    rw [escaped, if_neg (other 'n' (by decide)), if_neg (other 't' (by decide)),
      if_neg (other 'r' (by decide))]
  rw [List.cons_append, unescape, itself,
    plain fun d member => all d (List.mem_cons_of_mem _ member)]
  rfl

/-- Resolving escapes keeps texts the same up to timestamps of the same ten minutes. -/
theorem twins_unescape (twins : Twins x y) : Twins (unescape x) (unescape y) := by
  have plain : ∀ q, q = '\'' ∨ q = '"' → Text.isDigit q = false ∧
      ∀ x y, ¬ CacheKey.Over (q :: x) y ∧ ¬ CacheKey.Over x (q :: y) := by
    intro q quote
    have undigit : Text.isDigit q = false := by
      rcases quote with rfl | rfl
      · decide
      · decide
    exact ⟨undigit, fun x y =>
      ⟨fun both => List.cons_ne_nil q x both.1, fun both => List.cons_ne_nil q y both.2⟩⟩
  induction twins using CacheKey.SameWindows.escapes_induction
    (fun q => q = '\'' ∨ q = '"') plain with
  | finish both =>
    obtain ⟨rfl, rfl⟩ := both
    exact .ends ⟨rfl, rfl⟩
  | @stamp v w x y place first second window rest ih =>
    rw [(unescape_timestamp first x).1, (unescape_timestamp second y).1]
    exact .stamp trivial first second window ih
  | escapeFinish both =>
    obtain ⟨rfl, rfl⟩ := both
    exact .keep _ (.ends ⟨rfl, rfl⟩)
  | escape d rest ih => exact .keep (escaped d) ih
  | @escapeStamp v w x y place first second window rest ih =>
    rw [(unescape_timestamp first x).2, (unescape_timestamp second y).2]
    exact .stamp trivial first second window ih
  | double q rest quote ih =>
    rw [unescape_double quote, unescape_double quote]
    exact .keep q ih
  | keep c rest unescaped single ih =>
    rw [unescape_keep unescaped fun quote z => (single quote z).1,
      unescape_keep unescaped fun quote z => (single quote z).2]
    exact .keep c ih

/-- Timestamps hold no quotes and backslashes, so that the values of strings stay the same up to
them. -/
theorem twinTexts_stringValue {raw raw' : String} (twins : TwinTexts raw raw') :
    TwinTexts (stringValue raw) (stringValue raw') := by
  rw [TwinTexts, stringValue, stringValue, String.toList_ofList, String.toList_ofList]
  exact twins_unescape twins

end Escapes

/-! ## Tokens that agree -/

/-- What relates texts may relate the texts of tokens: it relates each text to itself, and the
values of strings whenever it relates the strings. -/
structure RelatesTexts (texts : String → String → Prop) : Prop where
  refl : ∀ s, texts s s
  value : ∀ {raw raw'}, texts raw raw' → texts (stringValue raw) (stringValue raw')

/-- Being the same up to timestamps may relate the texts of tokens. -/
theorem relatesTexts_twinTextsUnder (strict : Prop) : RelatesTexts (TwinTextsUnder strict) where
  refl := fun s => ⟨.refl s, fun _ => rfl⟩
  value := fun alike => ⟨twinTexts_stringValue alike.1, fun given => by rw [alike.2 given]⟩

/-- Placed tokens agree when they do so wherever they are. -/
abbrev AgreePlaced (texts : String → String → Prop) (before : List Token) (ts us : Tokens) : Prop :=
  TokensAgree texts before (ts.map PlacedToken.token) (us.map PlacedToken.token)

/-- Whether a token is a string or a name. -/
def Token.holdsText : Token → Bool
  | .string _ => true
  | .identifier _ => true
  | _ => false

namespace AgreePlaced

variable {texts : String → String → Prop} {before : List Token} {t : Token} {span : Span}
  {p : PlacedToken} {ts rest us : Tokens} {n raw : String}

/-- No tokens agree with none. -/
theorem eq_nil (agree : AgreePlaced texts before [] us) : us = [] := by
  cases us with
  | nil => rfl
  | cons p us => cases agree

/-- Tokens agree when the first ones do and, after these, the others do. -/
theorem exists_cons (agree : AgreePlaced texts before (p :: ts) us) :
    ∃ p' us', us = p' :: us' ∧ AgreePlaced texts before [p] [p'] ∧
      AgreePlaced texts (p.token :: before) ts us' := by
  obtain ⟨t, place⟩ := p
  cases us with
  | nil => cases agree
  | cons p' us =>
    refine ⟨p', us, rfl, ?_⟩
    obtain ⟨t', place'⟩ := p'
    cases agree with
    | cons alike others => exact ⟨.cons alike (.nil _), others⟩
    | bound bound twins others => exact ⟨.bound bound twins (.nil _), others⟩

/-- Tokens that are put together agree part by part. -/
theorem split (agree : AgreePlaced texts before (ts ++ rest) us) :
    ∃ us₁ us₂, us = us₁ ++ us₂ ∧ AgreePlaced texts before ts us₁ ∧
      AgreePlaced texts ((ts.map PlacedToken.token).reverse ++ before) rest us₂ := by
  induction ts generalizing before us with
  | nil => exact ⟨[], us, rfl, .nil _, agree⟩
  | cons p ts ih =>
    obtain ⟨p', us, rfl, first, others⟩ := agree.exists_cons
    obtain ⟨us₁, us₂, rfl, front, back⟩ := ih others
    obtain ⟨t, place⟩ := p
    obtain ⟨t', place'⟩ := p'
    refine ⟨⟨t', place'⟩ :: us₁, us₂, rfl, ?_, ?_⟩
    · cases first with
      | cons alike _ => exact .cons alike front
      | bound bound twins _ => exact .bound bound twins front
    · simpa using back

/-- A token that holds no text agrees with itself only. -/
theorem fixed (agree : AgreePlaced texts before (⟨t, span⟩ :: ts) us)
    (plain : t.holdsText = false) :
    ∃ span' us', us = ⟨t, span'⟩ :: us' ∧ AgreePlaced texts (t :: before) ts us' := by
  obtain ⟨⟨t', span'⟩, us, rfl, first, others⟩ := agree.exists_cons
  refine ⟨span', us, ?_, others⟩
  cases first with
  | cons alike _ =>
    cases alike with
    | same t => rfl
    | string _ => cases plain
    | identifier _ => cases plain
  | bound _ _ _ => cases plain

/-- A name agrees with a name only. -/
theorem identifier (good : RelatesTexts texts)
    (agree : AgreePlaced texts before (⟨.identifier n, span⟩ :: ts) us) :
    ∃ n' span' us', us = ⟨.identifier n', span'⟩ :: us' ∧ texts n n' ∧
      AgreePlaced texts (.identifier n :: before) ts us' := by
  obtain ⟨⟨t', span'⟩, us, rfl, first, others⟩ := agree.exists_cons
  cases first with
  | cons alike _ =>
    cases alike with
    | same t => exact ⟨n, span', us, rfl, good.refl n, others⟩
    | identifier alike => exact ⟨_, span', us, rfl, alike, others⟩

/-- A string agrees with a string only, up to timestamps where it bounds the time field. -/
theorem string (good : RelatesTexts texts)
    (agree : AgreePlaced texts before (⟨.string raw, span⟩ :: ts) us) :
    ∃ raw' span' us', us = ⟨.string raw', span'⟩ :: us' ∧
      (texts raw raw' ∨ expectsBound before = true ∧ TwinTexts raw raw') ∧
        AgreePlaced texts (.string raw :: before) ts us' := by
  obtain ⟨⟨t', span'⟩, us, rfl, first, others⟩ := agree.exists_cons
  cases first with
  | cons alike _ =>
    cases alike with
    | same t => exact ⟨raw, span', us, rfl, .inl (good.refl raw), others⟩
    | string alike => exact ⟨_, span', us, rfl, .inl alike, others⟩
  | bound bound twins _ => exact ⟨_, span', us, rfl, .inr ⟨bound, twins⟩, others⟩

end AgreePlaced

/-! ## Forms that carry over -/

namespace Grammar

/-- What some tokens stand for, tokens that agree with them stand for alike, when `free` holds of
the tokens before. -/
def Carries {α : Type} (texts : String → String → Prop) (free : List Token → Prop)
    (form : Tokens → α → Prop) (alike : α → α → Prop) : Prop :=
  ∀ ⦃ts a before us⦄, form ts a → AgreePlaced texts before ts us → free before →
    ∃ b, form us b ∧ alike a b

/-- The next token is no bound of the time field. -/
def Calm (before : List Token) : Prop :=
  expectsBound before = false

/-- Whatever the tokens before are. -/
def Anywhere (_ : List Token) : Prop :=
  True

section Forms

variable {texts : String → String → Prop} {before : List Token} {ts us : Tokens} {f f' : String}
  {v : Literal} {p : Predicate}

/-- Names carry over to tokens that agree. -/
theorem carries_name (good : RelatesTexts texts) : Carries texts Anywhere Name texts := by
  intro ts n before us form agree _
  obtain ⟨n, span⟩ := form
  obtain ⟨n', span', us, rfl, alike, others⟩ := agree.identifier good
  cases others.eq_nil
  exact ⟨n', .identifier n' span', alike⟩

/-- A value is one token. -/
theorem exists_singleton_of_value (form : Value ts v) : ∃ p, ts = [p] := by
  cases form <;> exact ⟨_, rfl⟩

/-- A value carries over to tokens that agree, up to timestamps in a bound of the time field. -/
theorem exists_value (good : RelatesTexts texts) (form : Value ts v)
    (agree : AgreePlaced texts before ts us) : ∃ w, Value us w ∧ (ValuesAlike texts v w ∨
      expectsBound before = true ∧ ∃ s t, v = .string s ∧ w = .string t ∧ TwinTexts s t) := by
  cases form with
  | string raw span =>
    obtain ⟨raw', span', us, rfl, alike, others⟩ := agree.string good
    cases others.eq_nil
    refine ⟨_, .string raw' span', ?_⟩
    rcases alike with alike | ⟨bound, twins⟩
    · exact .inl (.string (good.value alike))
    · exact .inr ⟨bound, _, _, rfl, rfl, twinTexts_stringValue twins⟩
  | integer n span =>
    obtain ⟨span', us, rfl, others⟩ := agree.fixed rfl
    cases others.eq_nil
    exact ⟨_, .integer n span', .inl (.same _)⟩
  | float x span =>
    obtain ⟨span', us, rfl, others⟩ := agree.fixed rfl
    cases others.eq_nil
    exact ⟨_, .float x span', .inl (.same _)⟩
  | true span =>
    obtain ⟨span', us, rfl, others⟩ := agree.fixed rfl
    cases others.eq_nil
    exact ⟨_, .true span', .inl (.same _)⟩
  | false span =>
    obtain ⟨span', us, rfl, others⟩ := agree.fixed rfl
    cases others.eq_nil
    exact ⟨_, .false span', .inl (.same _)⟩
  | name n span =>
    obtain ⟨n', span', us, rfl, alike, others⟩ := agree.identifier good
    cases others.eq_nil
    exact ⟨_, .name n' span', .inl (.column alike)⟩

/-- Values that are no bounds of the time field carry over to tokens that agree. -/
theorem carries_value (good : RelatesTexts texts) :
    Carries texts Calm Value (ValuesAlike texts) := by
  intro ts v before us form agree calm
  obtain ⟨w, form', alike | ⟨bound, _⟩⟩ := exists_value good form agree
  · exact ⟨w, form', alike⟩
  · rw [calm] at bound
    cases bound

/-- What carries over does so in lists with commas. -/
theorem carries_commaSeparated {α : Type} {free : List Token → Prop} {item : Tokens → α → Prop}
    {alike : α → α → Prop} (carries : Carries texts free item alike)
    (comma : ∀ before, free (.symbol .comma :: before)) :
    Carries texts free (CommaSeparated item) (List.Forall₂ alike) := by
  intro ts as before us form agree free
  induction form generalizing before us with
  | last one =>
    obtain ⟨b, one', same⟩ := carries one agree free
    exact ⟨[b], .last one', .cons same .nil⟩
  | more span one others ih =>
    obtain ⟨us₁, us₂, rfl, front, back⟩ := agree.split
    obtain ⟨span', us, rfl, rest⟩ := back.fixed rfl
    obtain ⟨b, one', same⟩ := carries one front free
    obtain ⟨bs, others', sames⟩ := ih rest (comma _)
    exact ⟨b :: bs, .more span' one' others', .cons same sames⟩

/-- Lists of values carry over to tokens that agree. -/
theorem carries_valueList (good : RelatesTexts texts) :
    Carries texts Anywhere ValueList (List.Forall₂ (ValuesAlike texts)) := by
  intro ts values before us form agree _
  obtain ⟨opened, closed, items⟩ := form
  obtain ⟨opened', us, rfl, inner⟩ := agree.fixed rfl
  obtain ⟨us₁, us₂, rfl, front, back⟩ := inner.split
  obtain ⟨closed', us, rfl, rest⟩ := back.fixed rfl
  cases rest.eq_nil
  obtain ⟨ws, items', alike⟩ :=
    carries_commaSeparated (carries_value good) (fun _ => rfl) items front rfl
  exact ⟨ws, .parens opened' closed' items', alike⟩

/-! ### Predicates -/

/-- The bound of a range carries over, up to timestamps if the range is one of the time field. -/
theorem exists_bound (good : RelatesTexts texts) {field : String} (form : Value ts v)
    (agree : AgreePlaced texts before ts us)
    (time : expectsBound before = true → field = datetimeField) :
    ∃ w, Value us w ∧ BoundsAlike texts field v w := by
  obtain ⟨w, form', alike | ⟨bound, s, t, rfl, rfl, twins⟩⟩ := exists_value good form agree
  · exact ⟨w, form', .value alike⟩
  · exact ⟨_, form', .twins (time bound) twins⟩

/-- A condition carries over to tokens that agree, form by form. -/
theorem exists_condition (good : RelatesTexts texts) (fields : texts f f')
    (form : Condition f ts p) (agree : AgreePlaced texts (.identifier f :: before) ts us) :
    ∃ p', Condition f' us p' ∧ PredicatesAlike texts p p' := by
  cases form with
  | compare span comparison value =>
    obtain ⟨span', us, rfl, rest⟩ := agree.fixed rfl
    obtain ⟨w, value', alike⟩ := carries_value good value rest rfl
    exact ⟨_, .compare span' comparison value', .compare _ fields alike⟩
  | isIn span items =>
    obtain ⟨span', us, rfl, rest⟩ := agree.fixed rfl
    obtain ⟨ws, items', alike⟩ := carries_valueList good items rest trivial
    exact ⟨_, .isIn span' items', .member _ fields alike⟩
  | notIn negation span items =>
    obtain ⟨negation', us, rfl, rest⟩ := agree.fixed rfl
    obtain ⟨span', us, rfl, inner⟩ := rest.fixed rfl
    obtain ⟨ws, items', alike⟩ := carries_valueList good items inner trivial
    exact ⟨_, .notIn negation' span' items', .member _ fields alike⟩
  | like span raw pattern =>
    obtain ⟨span', us, rfl, rest⟩ := agree.fixed rfl
    obtain ⟨raw', pattern', us, rfl, alike, others⟩ := rest.string good
    cases others.eq_nil
    have alike := alike.resolve_right fun ⟨bound, _⟩ => by cases bound
    exact ⟨_, .like span' raw' pattern', .compare _ fields (.string (good.value alike))⟩
  | notLike negation span raw pattern =>
    obtain ⟨negation', us, rfl, inner⟩ := agree.fixed rfl
    obtain ⟨span', us, rfl, rest⟩ := inner.fixed rfl
    obtain ⟨raw', pattern', us, rfl, alike, others⟩ := rest.string good
    cases others.eq_nil
    have alike := alike.resolve_right fun ⟨bound, _⟩ => by cases bound
    exact ⟨_, .notLike negation' span' raw' pattern',
      .compare _ fields (.string (good.value alike))⟩
  | between span conjunction lower upper =>
    obtain ⟨span', us, rfl, inner⟩ := agree.fixed rfl
    obtain ⟨us₁, us₂, rfl, front, back⟩ := inner.split
    obtain ⟨conjunction', us, rfl, rest⟩ := back.fixed rfl
    obtain ⟨low, lower', lows⟩ :=
      exists_bound good lower front fun bound => by simpa [expectsBound] using bound
    obtain ⟨_, rfl⟩ := exists_singleton_of_value lower
    obtain ⟨high, upper', highs⟩ :=
      exists_bound good upper rest fun bound => by simpa [expectsBound] using bound
    exact ⟨_, .between span' conjunction' lower' upper', .between fields lows highs⟩

/-- Predicates carry over to tokens that agree, by induction on how they are derived. -/
theorem carries_derives (good : RelatesTexts texts) (level : Level) :
    Carries texts Anywhere (Derives level) (PredicatesAlike texts) := by
  intro ts p before us form agree _
  induction form generalizing before us with
  | conjunction only ih =>
    obtain ⟨p', only', alike⟩ := ih agree trivial
    exact ⟨p', .conjunction only', alike⟩
  | or span left right ihLeft ihRight =>
    obtain ⟨us₁, us₂, rfl, front, back⟩ := agree.split
    obtain ⟨span', us, rfl, rest⟩ := back.fixed rfl
    obtain ⟨l, left', lefts⟩ := ihLeft front trivial
    obtain ⟨r, right', rights⟩ := ihRight rest trivial
    exact ⟨_, .or span' left' right', .or lefts rights⟩
  | primary only ih =>
    obtain ⟨p', only', alike⟩ := ih agree trivial
    exact ⟨p', .primary only', alike⟩
  | and span left right ihLeft ihRight =>
    obtain ⟨us₁, us₂, rfl, front, back⟩ := agree.split
    obtain ⟨span', us, rfl, rest⟩ := back.fixed rfl
    obtain ⟨l, left', lefts⟩ := ihLeft front trivial
    obtain ⟨r, right', rights⟩ := ihRight rest trivial
    exact ⟨_, .and span' left' right', .and lefts rights⟩
  | paren opened closed inner ih =>
    obtain ⟨opened', us, rfl, content⟩ := agree.fixed rfl
    obtain ⟨us₁, us₂, rfl, front, back⟩ := content.split
    obtain ⟨closed', us, rfl, rest⟩ := back.fixed rfl
    cases rest.eq_nil
    obtain ⟨p', inner', alike⟩ := ih front trivial
    exact ⟨_, .paren opened' closed' inner', .paren alike⟩
  | condition span condition =>
    obtain ⟨field', span', us, rfl, fields, rest⟩ := agree.identifier good
    obtain ⟨p', condition', alike⟩ := exists_condition good fields condition rest
    exact ⟨p', .condition span' condition', alike⟩

/-! ### Clauses -/

/-- The columns of a result carry over to tokens that agree. -/
theorem exists_columns (good : RelatesTexts texts) (form : Columns ts)
    (agree : AgreePlaced texts before ts us) : Columns us := by
  cases form with
  | all span =>
    obtain ⟨span', us, rfl, rest⟩ := agree.fixed rfl
    cases rest.eq_nil
    exact .all span'
  | names names =>
    obtain ⟨ns, names', _⟩ :=
      carries_commaSeparated (carries_name good) (fun _ => trivial) names agree trivial
    exact .names names'

/-- The first clause carries over to tokens that agree. -/
theorem carries_selectClause (good : RelatesTexts texts) :
    Carries texts Anywhere SelectClause Eq := by
  intro ts distinct before us form agree _
  cases form with
  | plain span columns =>
    obtain ⟨span', us, rfl, rest⟩ := agree.fixed rfl
    exact ⟨_, .plain span' (exists_columns good columns rest), rfl⟩
  | distinct span distinct columns =>
    obtain ⟨span', us, rfl, inner⟩ := agree.fixed rfl
    obtain ⟨distinct', us, rfl, rest⟩ := inner.fixed rfl
    exact ⟨_, .distinct span' distinct' (exists_columns good columns rest), rfl⟩

/-- The selection carries over to tokens that agree. -/
theorem carries_whereClause (good : RelatesTexts texts) :
    Carries texts Anywhere WhereClause (Option.Rel (PredicatesAlike texts)) := by
  intro ts selection before us form agree _
  obtain ⟨span, selection⟩ := form
  obtain ⟨span', us, rfl, rest⟩ := agree.fixed rfl
  obtain ⟨p', selection', alike⟩ := carries_derives good _ selection rest trivial
  exact ⟨_, .mk span' selection', .some alike⟩

/-- The groups carry over to tokens that agree. -/
theorem carries_groupClause (good : RelatesTexts texts) :
    Carries texts Anywhere GroupClause (List.Forall₂ texts) := by
  intro ts fields before us form agree _
  obtain ⟨span, preposition, names⟩ := form
  obtain ⟨span', us, rfl, inner⟩ := agree.fixed rfl
  obtain ⟨preposition', us, rfl, rest⟩ := inner.fixed rfl
  obtain ⟨ns, names', alike⟩ :=
    carries_commaSeparated (carries_name good) (fun _ => trivial) names rest trivial
  exact ⟨ns, .mk span' preposition' names', alike⟩

/-- Sort keys carry over to tokens that agree. -/
theorem carries_key (good : RelatesTexts texts) :
    Carries texts Anywhere Key (KeysAlike texts) := by
  intro ts key before us form agree _
  cases form with
  | plain name =>
    obtain ⟨n, name', alike⟩ := carries_name good name agree trivial
    exact ⟨_, .plain name', alike, rfl⟩
  | ascending name span =>
    obtain ⟨us₁, us₂, rfl, front, back⟩ := agree.split
    obtain ⟨span', us, rfl, rest⟩ := back.fixed rfl
    cases rest.eq_nil
    obtain ⟨n, name', alike⟩ := carries_name good name front trivial
    exact ⟨_, .ascending name' span', alike, rfl⟩
  | descending name span =>
    obtain ⟨us₁, us₂, rfl, front, back⟩ := agree.split
    obtain ⟨span', us, rfl, rest⟩ := back.fixed rfl
    cases rest.eq_nil
    obtain ⟨n, name', alike⟩ := carries_name good name front trivial
    exact ⟨_, .descending name' span', alike, rfl⟩

/-- The order carries over to tokens that agree. -/
theorem carries_orderClause (good : RelatesTexts texts) :
    Carries texts Anywhere OrderClause (List.Forall₂ (KeysAlike texts)) := by
  intro ts keys before us form agree _
  obtain ⟨span, preposition, order⟩ := form
  obtain ⟨span', us, rfl, inner⟩ := agree.fixed rfl
  obtain ⟨preposition', us, rfl, rest⟩ := inner.fixed rfl
  obtain ⟨ks, order', alike⟩ :=
    carries_commaSeparated (carries_key good) (fun _ => trivial) order rest trivial
  exact ⟨ks, .mk span' preposition' order', alike⟩

/-- The page carries over to tokens that agree, which hold the same numbers. -/
theorem carries_limitClause : Carries texts Anywhere LimitClause Eq := by
  intro ts limit before us form agree _
  cases form with
  | rowcount span n number =>
    obtain ⟨span', us, rfl, inner⟩ := agree.fixed rfl
    obtain ⟨number', us, rfl, rest⟩ := inner.fixed rfl
    cases rest.eq_nil
    exact ⟨_, .rowcount span' n number', rfl⟩
  | page span m first comma n second =>
    obtain ⟨span', us, rfl, afterKeyword⟩ := agree.fixed rfl
    obtain ⟨first', us, rfl, afterFirst⟩ := afterKeyword.fixed rfl
    obtain ⟨comma', us, rfl, afterComma⟩ := afterFirst.fixed rfl
    obtain ⟨second', us, rfl, rest⟩ := afterComma.fixed rfl
    cases rest.eq_nil
    exact ⟨_, .page span' m first' comma' n second', rfl⟩

/-- A clause that may be absent carries over when it does where it is present. -/
theorem carries_optional {α : Type} {clause : Tokens → α → Prop} {absent : α}
    {alike : α → α → Prop} (carries : Carries texts Anywhere clause alike)
    (same : alike absent absent) : Carries texts Anywhere (Optional clause absent) alike := by
  intro ts a before us form agree _
  cases form with
  | absent =>
    cases agree.eq_nil
    exact ⟨absent, .absent, same⟩
  | present given =>
    obtain ⟨b, given', alike⟩ := carries given agree trivial
    exact ⟨b, .present given', alike⟩

/-- Tokens that agree with the tokens of a statement are a statement that is the same up to texts,
and to timestamps of the same ten minutes in bounds of the time field. -/
theorem carries_form (good : RelatesTexts texts) :
    Carries texts Anywhere Form (StatementsAlike texts) := by
  intro ts s before us form agree _
  obtain ⟨span, selects, reads, filters, groups, orders, limits⟩ := form
  obtain ⟨select', us, rfl, agreeSelect, others⟩ := agree.split
  obtain ⟨span', us, rfl, afterFrom⟩ := others.fixed rfl
  obtain ⟨sources', us, rfl, agreeSources, afterSources⟩ := afterFrom.split
  obtain ⟨condition', us, rfl, agreeCondition, afterCondition⟩ := afterSources.split
  obtain ⟨group', us, rfl, agreeGroup, afterGroup⟩ := afterCondition.split
  obtain ⟨order', limit', rfl, agreeOrder, agreeLimit⟩ := afterGroup.split
  obtain ⟨_, selects', sameDistinct⟩ :=
    carries_optional (carries_selectClause good) rfl selects agreeSelect trivial
  obtain ⟨_, reads', alikeSources⟩ := carries_commaSeparated (carries_name good)
    (fun _ => trivial) reads agreeSources trivial
  obtain ⟨_, filters', alikeSelection⟩ :=
    carries_optional (carries_whereClause good) .none filters agreeCondition trivial
  obtain ⟨_, groups', alikeGroup⟩ :=
    carries_optional (carries_groupClause good) .nil groups agreeGroup trivial
  obtain ⟨_, orders', alikeOrder⟩ :=
    carries_optional (carries_orderClause good) .nil orders agreeOrder trivial
  obtain ⟨_, limits', sameLimit⟩ :=
    carries_optional carries_limitClause rfl limits agreeLimit trivial
  exact ⟨_, .mk span' selects' reads' filters' groups' orders' limits',
    ⟨sameDistinct, alikeSources, alikeSelection, alikeGroup, alikeOrder, sameLimit⟩⟩

end Forms

end Grammar

end FederatedSearch
