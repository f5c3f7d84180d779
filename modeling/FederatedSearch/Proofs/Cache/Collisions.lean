import FederatedSearch.Proofs.Cache.Parsing
import FederatedSearch.Proofs.Query.Acceptance

/-!
# Queries with one key

Accepted texts with one key stand for queries that ask for the same page and are the same up to
timestamps of the same ten minutes in names and strings. Rounding is meant for the bounds of the
range of the time field, and where it changes these only, nothing else differs. But a time range is
found by its letters, whatever stands before them: as the end of a longer name it is found too, or
within a string, and then queries of different meaning have one key.
-/

namespace FederatedSearch

/-- A bound of a time range as a key may leave it: what is in a string is not told. -/
def Literal.withoutText : Literal → Literal
  | .string _ => .string ""
  | v => v

/-- A predicate without the strings that bound ranges of the time field. -/
def Predicate.withoutBounds : Predicate → Predicate
  | .compare field op v => .compare field op v
  | .between field low high =>
    if field = datetimeField then .between field low.withoutText high.withoutText
    else .between field low high
  | .and left right => .and left.withoutBounds right.withoutBounds
  | .or left right => .or left.withoutBounds right.withoutBounds
  | .paren inner => .paren inner.withoutBounds

/-- Two queries for the same page that are the same up to texts, and to timestamps of the same ten
minutes in bounds of the time field. -/
structure QueriesAlike (texts : String → String → Prop) (q r : Query) : Prop where
  source : texts q.source r.source
  predicate : PredicatesAlike texts q.predicate r.predicate
  orderBy : List.Forall₂ (KeysAlike texts) q.orderBy r.orderBy
  offset : q.offset = r.offset
  rowcount : q.rowcount = r.rowcount

/-! ## Alike up to bounds -/

section Alike

variable {texts wider : String → String → Prop} {v w : Literal} {p p' : Predicate} {field : String}

/-- Values that are the same up to some texts are so up to more. -/
theorem ValuesAlike.mono (alike : ValuesAlike texts v w) (more : ∀ s t, texts s t → wider s t) :
    ValuesAlike wider v w := by
  cases alike with
  | same v => exact .same v
  | string alike => exact .string (more _ _ alike)
  | column alike => exact .column (more _ _ alike)

/-- Bounds that are the same up to some texts are so up to more. -/
theorem BoundsAlike.mono (alike : BoundsAlike texts field v w)
    (more : ∀ s t, texts s t → wider s t) : BoundsAlike wider field v w := by
  cases alike with
  | value alike => exact .value (alike.mono more)
  | twins time alike => exact .twins time alike

/-- Predicates that are the same up to some texts are so up to more. -/
theorem PredicatesAlike.mono (alike : PredicatesAlike texts p p')
    (more : ∀ s t, texts s t → wider s t) : PredicatesAlike wider p p' := by
  induction alike with
  | compare op fields values => exact .compare op (more _ _ fields) (values.mono more)
  | member op fields values =>
    exact .member op (more _ _ fields) (values.imp fun _ _ one => one.mono more)
  | between fields lows highs =>
    exact .between (more _ _ fields) (lows.mono more) (highs.mono more)
  | and _ _ left right => exact .and left right
  | or _ _ left right => exact .or left right
  | paren _ inner => exact .paren inner

/-- Sort keys that are the same up to some texts are so up to more. -/
theorem KeysAlike.mono {k l : SortKey} (alike : KeysAlike texts k l)
    (more : ∀ s t, texts s t → wider s t) : KeysAlike wider k l :=
  alike.imp_left (more _ _)

/-- Queries that are the same up to some texts are so up to more. -/
theorem QueriesAlike.mono {q r : Query} (alike : QueriesAlike texts q r)
    (more : ∀ s t, texts s t → wider s t) : QueriesAlike wider q r where
  source := more _ _ alike.source
  predicate := alike.predicate.mono more
  orderBy := alike.orderBy.imp fun _ _ keys => keys.mono more
  offset := alike.offset
  rowcount := alike.rowcount

/-- Sort keys that are the same up to no difference are equal. -/
theorem KeysAlike.eq {k l : SortKey} (alike : KeysAlike Eq k l) : k = l := by
  obtain ⟨field, descending⟩ := k
  obtain ⟨rfl, rfl⟩ := alike
  rfl

/-- Queries that are the same up to no difference of texts have the same order. -/
theorem QueriesAlike.orderBy_eq {q r : Query} (alike : QueriesAlike Eq q r) :
    q.orderBy = r.orderBy := by
  have equal : List.Forall₂ Eq q.orderBy r.orderBy := alike.orderBy.imp fun _ _ keys => keys.eq
  rwa [List.forall₂_eq_eq_eq] at equal

/-- Values that are the same up to no difference are equal. -/
theorem ValuesAlike.eq (alike : ValuesAlike Eq v w) : v = w := by
  cases alike with
  | same v => rfl
  | string alike => rw [alike]
  | column alike => rw [alike]

/-- Bounds that are the same up to no difference of texts are equal, or bound the time field and are
equal but for what the strings hold. -/
theorem BoundsAlike.eq_or_withoutText_eq (alike : BoundsAlike Eq field v w) :
    v = w ∨ field = datetimeField ∧ v.withoutText = w.withoutText := by
  cases alike with
  | value alike => exact .inl alike.eq
  | twins time alike => exact .inr ⟨time, rfl⟩

/-- Predicates that are the same up to bounds of the time field are the same without them. -/
theorem PredicatesAlike.withoutBounds_eq (alike : PredicatesAlike Eq p p') :
    p.withoutBounds = p'.withoutBounds := by
  induction alike with
  | compare op fields values => rw [fields, values.eq]
  | member op fields values =>
    have equal : List.Forall₂ Eq _ _ := values.imp fun _ _ alike => alike.eq
    rw [List.forall₂_eq_eq_eq] at equal
    rw [fields, equal]
  | @between f g low high low' high' fields lows highs =>
    subst fields
    have settled {v w : Literal} (alike : BoundsAlike Eq f v w) :
        v.withoutText = w.withoutText ∧ (f ≠ datetimeField → v = w) := by
      rcases alike.eq_or_withoutText_eq with rfl | ⟨time, same⟩
      · exact ⟨rfl, fun _ => rfl⟩
      · exact ⟨same, fun other => absurd time other⟩
    unfold Predicate.withoutBounds
    split
    · rw [(settled lows).1, (settled highs).1]
    · rename_i other
      rw [(settled lows).2 other, (settled highs).2 other]
  | and _ _ left right => rw [Predicate.withoutBounds, left, right, Predicate.withoutBounds]
  | or _ _ left right => rw [Predicate.withoutBounds, left, right, Predicate.withoutBounds]
  | paren _ inner => rw [Predicate.withoutBounds, inner, Predicate.withoutBounds]

end Alike

/-! ## Accepted statements -/

namespace Statement

variable {s : Statement} {max : Nat} {q : Query}

/-- Statements that are alike are accepted as queries that are so. -/
theorem queriesAlike {texts : String → String → Prop} {s' : Statement} {r : Query}
    (alike : StatementsAlike texts s s') (accepted : s.accept max = .ok q)
    (accepted' : s'.accept max = .ok r) : QueriesAlike texts q r := by
  obtain ⟨⟨more, source⟩, predicate, order, page⟩ := accept_eq_ok accepted
  obtain ⟨⟨more', source'⟩, predicate', order', page'⟩ := accept_eq_ok accepted'
  obtain ⟨_, sources, selection, _, orders, limits⟩ := alike
  rw [source, source', List.forall₂_cons] at sources
  rw [predicate, predicate', Option.rel_some_some] at selection
  rw [order, order'] at orders
  rw [limits, page'] at page
  obtain ⟨offset, rowcount⟩ := Prod.mk.inj (Except.ok.inj page)
  exact ⟨sources.1, selection, orders, offset.symm, rowcount.symm⟩

end Statement

namespace Query

/-- Accepted texts with one key stand for queries of the same page that are the same up to
timestamps of the same ten minutes in names and strings. If the timestamps of the first text that
rounding changes are in bounds of the time field only, then the queries are the same but for strings
that bound the time field. -/
theorem alike_of_cacheKey_eq {s t : String} {max : Nat} {q r : Query}
    (first : prepare s max = .ok q) (second : prepare t max = .ok r)
    (same : cacheKey s = cacheKey t) :
    QueriesAlike TwinTexts q r ∧
      (RoundsBounds s → q.source = r.source ∧ q.orderBy = r.orderBy ∧
        q.predicate.withoutBounds = r.predicate.withoutBounds) := by
  obtain ⟨stmt, read, accepted⟩ := exists_of_prepare first
  obtain ⟨stmt', read', accepted'⟩ := exists_of_prepare second
  obtain ⟨legal, form⟩ := Statement.form_of_ofTokens read
  obtain ⟨legal', form'⟩ := Statement.form_of_ofTokens read'
  obtain ⟨found, foundForm, statements⟩ := Grammar.carries_form (relatesTexts_twinTextsUnder _) form
    (agree_of_cacheKey_eq same legal legal') trivial
  -- Tokens have the form of one statement only.
  have unique : found = stmt' := by
    have reads := (Parser.clauses_complete foundForm).symm.trans (Parser.clauses_complete form')
    cases reads
    rfl
  subst unique
  have alike := Statement.queriesAlike statements accepted accepted'
  refine ⟨alike.mono fun _ _ texts => texts.1, fun bounds => ?_⟩
  have strictly := alike.mono fun _ _ texts => texts.2 bounds
  exact ⟨strictly.source, strictly.orderBy_eq, strictly.predicate.withoutBounds_eq⟩

/-- The time in another field is told apart, the bounds of the time field are not. -/
theorem alike_of_cacheKey_eq_range :
    RoundsBounds
        "FROM d WHERE t='2023-01-01T10:21:37' AND datetime BETWEEN '2023-01-01T10:21:37' AND 'x'" ∧
      (Predicate.and (.compare "t" .eq (.string "2023-01-01T10:21:37"))
          (.between "datetime" (.string "2023-01-01T10:21:37") (.string "x"))).withoutBounds =
        (Predicate.and (.compare "t" .eq (.string "2023-01-01T10:21:37"))
          (.between "datetime" (.string "2023-01-01T10:25:00") (.string "x"))).withoutBounds := by
  have bounds : RoundsBounds
      "FROM d WHERE t='2023-01-01T10:21:37' AND datetime BETWEEN '2023-01-01T10:21:37' AND 'x'" :=
    by decide +kernel
  have first : prepare
      "FROM d WHERE t='2023-01-01T10:21:37' AND datetime BETWEEN '2023-01-01T10:21:37' AND 'x'"
        500 = .ok ⟨"d", .and (.compare "t" .eq (.string "2023-01-01T10:21:37"))
          (.between "datetime" (.string "2023-01-01T10:21:37") (.string "x")), [], 0, 500⟩ := by
    decide +kernel
  have second : prepare
      "FROM d WHERE t='2023-01-01T10:21:37' AND datetime BETWEEN '2023-01-01T10:25:00' AND 'x'"
        500 = .ok ⟨"d", .and (.compare "t" .eq (.string "2023-01-01T10:21:37"))
          (.between "datetime" (.string "2023-01-01T10:25:00") (.string "x")), [], 0, 500⟩ := by
    decide +kernel
  exact ⟨bounds, ((alike_of_cacheKey_eq first second (by cbv)).2 bounds).2.2⟩

/-- The range of a field whose name ends like the name of the time field is rounded as well, so that
two ranges of it have one key. -/
theorem withoutBounds_ne_of_longer_name :
    prepare "FROM d WHERE my_datetime BETWEEN '2023-01-01T10:21:37' AND 'x' AND ip = '1'" 500 =
        .ok ⟨"d", .and (.between "my_datetime" (.string "2023-01-01T10:21:37") (.string "x"))
          (.compare "ip" .eq (.string "1")), [], 0, 500⟩ ∧
      prepare "FROM d WHERE my_datetime BETWEEN '2023-01-01T10:25:00' AND 'x' AND ip = '1'" 500 =
        .ok ⟨"d", .and (.between "my_datetime" (.string "2023-01-01T10:25:00") (.string "x"))
          (.compare "ip" .eq (.string "1")), [], 0, 500⟩ ∧
      cacheKey "FROM d WHERE my_datetime BETWEEN '2023-01-01T10:21:37' AND 'x' AND ip = '1'" =
        cacheKey "FROM d WHERE my_datetime BETWEEN '2023-01-01T10:25:00' AND 'x' AND ip = '1'" ∧
      (Predicate.and (.between "my_datetime" (.string "2023-01-01T10:21:37") (.string "x"))
          (.compare "ip" .eq (.string "1"))).withoutBounds ≠
        (Predicate.and (.between "my_datetime" (.string "2023-01-01T10:25:00") (.string "x"))
          (.compare "ip" .eq (.string "1"))).withoutBounds := by
  refine ⟨by decide +kernel, by decide +kernel, by cbv, ?_⟩
  simp [Predicate.withoutBounds, datetimeField]

end Query

/-- Rounding changes more than bounds where a time range is found within a longer name. -/
example : ¬ RoundsBounds
    "FROM d WHERE my_datetime BETWEEN '2023-01-01T10:21:37' AND 'x' AND ip = '1'" := by
  decide +kernel

end FederatedSearch
