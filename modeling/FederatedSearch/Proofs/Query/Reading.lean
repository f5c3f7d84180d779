import FederatedSearch.Proofs.Query.Grammar
import FederatedSearch.Proofs.Success

/-!
# Readers and forms

A reader is sound for a form when what it takes off the front of some tokens has the form. It is
complete when it takes off any front of that form, as long as the next token is none of those
that would make it read on. This module holds both laws for every reader but those of
predicates.
-/

namespace FederatedSearch

namespace Parser

open Grammar

variable {α : Type}

/-- A reader yields what it has read together with the tokens that follow. -/
abbrev Reader (α : Type) := Tokens → Except ParseError (α × Tokens)

/-- What a reader takes off the front of some tokens has a form. -/
def Sound (read : Reader α) (form : Tokens → α → Prop) : Prop :=
  ∀ ⦃ts a rest⦄, read ts = .ok (a, rest) → ∃ front, ts = front ++ rest ∧ form front a

/-- The next token, if there is one, is none of some. -/
def NotBefore (stops : List Token) (rest : Tokens) : Prop :=
  ∀ t ∈ rest.head?, t.token ∉ stops

/-- A reader takes off any front of a form, unless one of some tokens follows. -/
def Complete (read : Reader α) (form : Tokens → α → Prop) (stops : List Token) : Prop :=
  ∀ ⦃front a rest⦄, form front a → NotBefore stops rest → read (front ++ rest) = .ok (a, rest)

@[simp] theorem notBefore_nil (rest : Tokens) : NotBefore [] rest :=
  fun _ _ => List.not_mem_nil

@[simp] theorem notBefore_end (stops : List Token) : NotBefore stops [] := by
  simp [NotBefore]

@[simp] theorem notBefore_cons {stops : List Token} {t : PlacedToken} {rest : Tokens} :
    NotBefore stops (t :: rest) ↔ t.token ∉ stops := by
  simp [NotBefore]

/-- Fewer tokens are easier to avoid. -/
theorem NotBefore.mono {stops more : List Token} {rest : Tokens} (avoided : NotBefore more rest)
    (fewer : stops ⊆ more) : NotBefore stops rest :=
  fun t next member => avoided t next (fewer member)

/-- Tokens start with a token or come with another one first. -/
theorem starts_or_notBefore (token : Token) (ts : Tokens) :
    (∃ span rest, ts = ⟨token, span⟩ :: rest) ∨ NotBefore [token] ts := by
  cases ts with
  | nil => exact .inr (notBefore_end _)
  | cons t rest =>
    obtain ⟨first, span⟩ := t
    by_cases same : first = token
    · exact .inl ⟨span, rest, by rw [same]⟩
    · exact .inr (notBefore_cons.mpr (by simpa using same))

/-! ## Single tokens -/

/-- A keyword is taken exactly where it comes first. -/
theorem expectKeyword_eq_ok_iff {k : Keyword} {ts rest : Tokens} :
    expectKeyword k ts = .ok rest ↔ ∃ span, ts = ⟨.keyword k, span⟩ :: rest := by
  cases ts with
  | nil => simp [expectKeyword]
  | cons t more =>
    obtain ⟨token, place⟩ := t
    by_cases same : token = .keyword k
    · simp [expectKeyword, same]
    · simp [expectKeyword, same]

/-- A symbol is taken exactly where it comes first. -/
theorem expectSymbol_eq_ok_iff {s : Symbol} {ts rest : Tokens} :
    expectSymbol s ts = .ok rest ↔ ∃ span, ts = ⟨.symbol s, span⟩ :: rest := by
  cases ts with
  | nil => simp [expectSymbol]
  | cons t more =>
    obtain ⟨token, place⟩ := t
    by_cases same : token = .symbol s
    · simp [expectSymbol, same]
    · simp [expectSymbol, same]

/-- What is read as a name is an identifier. -/
theorem name_sound : Sound name Name := by
  intro ts n rest read
  unfold name at read
  split at read
  · cases read
    exact ⟨_, rfl, .identifier _ _⟩
  · cases read

/-- An identifier is read as a name, whatever follows. -/
theorem name_complete : Complete name Name [] := by
  rintro _ _ rest ⟨n, span⟩ _
  rfl

/-- What is read as a literal is one token of a value. -/
theorem literal_sound : Sound literal Value := by
  intro ts v rest read
  cases ts with
  | nil => cases read
  | cons t more =>
    obtain ⟨value, found, same⟩ := bind_eq_ok_iff.mp read
    cases same
    refine ⟨[t], rfl, ?_⟩
    obtain ⟨token, span⟩ := t
    unfold literalOf at found
    split at found <;> cases found <;> rename_i known <;> cases known <;> constructor

/-- A token of a value is read as a literal, whatever follows. -/
theorem literal_complete : Complete literal Value [] := by
  rintro _ _ rest (_ | _ | _ | _ | _ | _) _ <;> rfl

/-! ## Lists -/

/-- Reads an item and, if a comma follows, what another reader finds after it. -/
def itemThen (item : Reader α) (list : Reader (List α)) : Reader (List α) := fun ts => do
  let (a, rest) ← item ts
  match rest with
  | ⟨.symbol .comma, _⟩ :: rest =>
    let (as, rest) ← list rest
    return (a :: as, rest)
  | _ => return ([a], rest)

section Lists

variable {item : Reader α} {list : Reader (List α)} {form : Tokens → α → Prop}
  {stops : List Token}

/-- An item before anything but a comma is all that there is. -/
theorem itemThen_of_notBefore {ts rest : Tokens} {a : α} (read : item ts = .ok (a, rest))
    (alone : NotBefore [.symbol .comma] rest) : itemThen item list ts = .ok ([a], rest) := by
  rw [itemThen, read]
  simp only [bind, Except.bind]
  split
  · simp at alone
  · rfl

/-- An item before a comma is followed by others. -/
theorem itemThen_of_comma {ts rest after : Tokens} {span : Span} {a : α} {as : List α}
    (read : item ts = .ok (a, ⟨.symbol .comma, span⟩ :: rest))
    (others : list rest = .ok (as, after)) :
    itemThen item list ts = .ok (a :: as, after) := by
  rw [itemThen, read]
  simp only [bind, Except.bind, others]
  rfl

/-- The items of a list are read alike by readers that agree on fewer tokens. -/
theorem itemThen_congr {other : Reader (List α)} {ts : Tokens} (sound : Sound item form)
    (agree : ∀ less : Tokens, less.length < ts.length → list less = other less) :
    itemThen item list ts = itemThen item other ts := by
  unfold itemThen
  cases read : item ts with
  | error e => rfl
  | ok result =>
    obtain ⟨a, rest⟩ := result
    obtain ⟨front, rfl, _⟩ := sound read
    simp only [bind, Except.bind]
    split
    · rename_i span less
      rw [agree less (by simp; omega)]
    · rfl

/-- Reading an item and then every further one after a comma is reading an item and, after a
comma, the same again. -/
theorem itemThen_eq_of_more {more : Reader (List α)}
    (comma : ∀ span ts, more (⟨.symbol .comma, span⟩ :: ts) = list ts)
    (done : ∀ ts, NotBefore [.symbol .comma] ts → more ts = .ok ([], ts)) (ts : Tokens) :
    itemThen item list ts = (do
      let (a, rest) ← item ts
      let (as, rest) ← more rest
      return (a :: as, rest)) := by
  cases read : item ts with
  | error e =>
    rw [itemThen, read]
    rfl
  | ok result =>
    obtain ⟨a, rest⟩ := result
    rcases starts_or_notBefore (.symbol .comma) rest with ⟨span, less, rfl⟩ | alone
    · rw [itemThen, read]
      simp only [bind, Except.bind, comma]
    · rw [itemThen_of_notBefore read alone]
      simp only [bind, Except.bind, done rest alone]
      rfl

/-- A reader of items with commas between them is sound for lists when it is for items. -/
theorem sound_of_itemThen (sound : Sound item form)
    (reads : ∀ ts, list ts = itemThen item list ts) :
    Sound list (CommaSeparated form) := by
  intro ts
  induction h : ts.length using Nat.strongRecOn generalizing ts with
  | _ n ih =>
    intro as rest read
    rw [reads] at read
    obtain ⟨⟨a, after⟩, first, further⟩ := bind_eq_ok_iff.mp read
    obtain ⟨front, rfl, one⟩ := sound first
    dsimp only at further
    split at further
    · rename_i span less
      obtain ⟨⟨others, after⟩, more, same⟩ := bind_eq_ok_iff.mp further
      cases same
      obtain ⟨fronts, rfl, among⟩ := ih less.length (by simp at h; omega) rfl more
      exact ⟨front ++ ⟨.symbol .comma, span⟩ :: fronts, by simp, .more span one among⟩
    · cases further
      exact ⟨front, rfl, .last one⟩

/-- A reader of items with commas between them is complete for lists when it is for items and
a comma does not make it read on. -/
theorem complete_of_itemThen (complete : Complete item form stops)
    (separates : .symbol .comma ∉ stops) (reads : ∀ ts, list ts = itemThen item list ts) :
    Complete list (CommaSeparated form) (.symbol .comma :: stops) := by
  intro front as rest items stopped
  induction items with
  | last one =>
    rw [reads]
    refine itemThen_of_notBefore (complete one (stopped.mono ?_)) (stopped.mono ?_)
    · exact List.subset_cons_self ..
    · exact List.cons_subset_cons _ (List.nil_subset _)
  | @more ts others a as span one _ ih =>
    rw [reads, List.append_assoc]
    refine itemThen_of_comma (complete one ?_) ih
    exact notBefore_cons.mpr separates

end Lists

/-- After a comma, further names are names. -/
theorem moreNames_comma (span : Span) (ts : Tokens) :
    moreNames (⟨.symbol .comma, span⟩ :: ts) = names ts := by
  cases ts with
  | nil => rfl
  | cons t rest =>
    obtain ⟨token, place⟩ := t
    cases token <;> rfl

/-- Before anything but a comma there are no further names. -/
theorem moreNames_of_notBefore (ts : Tokens) (alone : NotBefore [.symbol .comma] ts) :
    moreNames ts = .ok ([], ts) := by
  unfold moreNames
  split
  · simp at alone
  · simp at alone
  · rfl

/-- Names are a name and, after a comma, names again. -/
theorem names_eq (ts : Tokens) : names ts = itemThen name names ts :=
  (itemThen_eq_of_more moreNames_comma moreNames_of_notBefore ts).symm

/-- What is read as names are names with commas between them. -/
theorem names_sound : Sound names (CommaSeparated Name) :=
  sound_of_itemThen name_sound names_eq

/-- Names with commas between them are read, unless another comma follows. -/
theorem names_complete : Complete names (CommaSeparated Name) [.symbol .comma] :=
  complete_of_itemThen name_complete List.not_mem_nil names_eq

/-- Reads one or more values, separated by commas. -/
def literals : Reader (List Literal) := fun ts => do
  let (first, rest) ← literal ts
  let (more, rest) ← moreLiterals rest
  return (first :: more, rest)

/-- After a comma, further values are values. -/
theorem moreLiterals_comma (span : Span) (ts : Tokens) :
    moreLiterals (⟨.symbol .comma, span⟩ :: ts) = literals ts := by
  cases ts with
  | nil => rfl
  | cons t rest =>
    rw [moreLiterals, literals, literal]
    cases literalOf t <;> rfl

/-- Before anything but a comma there are no further values. -/
theorem moreLiterals_of_notBefore (ts : Tokens) (alone : NotBefore [.symbol .comma] ts) :
    moreLiterals ts = .ok ([], ts) := by
  unfold moreLiterals
  split
  · simp at alone
  · simp at alone
  · rfl

/-- Values are a value and, after a comma, values again. -/
theorem literals_eq (ts : Tokens) : literals ts = itemThen literal literals ts :=
  (itemThen_eq_of_more moreLiterals_comma moreLiterals_of_notBefore ts).symm

/-- What is read as values are values with commas between them. -/
theorem literals_sound : Sound literals (CommaSeparated Value) :=
  sound_of_itemThen literal_sound literals_eq

/-- Values with commas between them are read, unless another comma follows. -/
theorem literals_complete : Complete literals (CommaSeparated Value) [.symbol .comma] :=
  complete_of_itemThen literal_complete List.not_mem_nil literals_eq

/-- A list of values is read when values stand between parentheses. An empty list, which is
reported apart, would fail anyway. -/
theorem literalList_eq_ok_iff {ts rest : Tokens} {v : Literal} :
    literalList ts = .ok (v, rest) ↔ ∃ opened after values closed,
      ts = ⟨.symbol .lparen, opened⟩ :: after ∧
        literals after = .ok (values, ⟨.symbol .rparen, closed⟩ :: rest) ∧ v = .list values := by
  constructor
  · intro read
    obtain ⟨after, opening, chosen⟩ := bind_eq_ok_iff.mp read
    obtain ⟨opened, rfl⟩ := expectSymbol_eq_ok_iff.mp opening
    split at chosen
    · cases chosen
    · obtain ⟨⟨first, following⟩, one, further⟩ := bind_eq_ok_iff.mp chosen
      obtain ⟨⟨others, last⟩, more, ending⟩ := bind_eq_ok_iff.mp further
      obtain ⟨final, closing, same⟩ := bind_eq_ok_iff.mp ending
      cases same
      obtain ⟨closed, rfl⟩ := expectSymbol_eq_ok_iff.mp closing
      refine ⟨opened, after, first :: others, closed, rfl, ?_, rfl⟩
      simp [literals, one, more, bind, Except.bind, pure, Except.pure]
  · rintro ⟨opened, after, values, closed, rfl, read, rfl⟩
    obtain ⟨⟨first, following⟩, one, further⟩ := bind_eq_ok_iff.mp read
    obtain ⟨⟨others, last⟩, more, same⟩ := bind_eq_ok_iff.mp further
    cases same
    have opening : expectSymbol .lparen (⟨.symbol .lparen, opened⟩ :: after) = .ok after := rfl
    have closing : expectSymbol .rparen (⟨.symbol .rparen, closed⟩ :: rest) = .ok rest := rfl
    rw [literalList, opening]
    simp only [bind, Except.bind]
    split
    · cases one
    · simp [one, more, closing, pure, Except.pure]

/-- What is read as a list are values in parentheses. -/
theorem literalList_sound :
    Sound literalList fun ts v => ∃ values, v = .list values ∧ ValueList ts values := by
  intro ts v rest read
  obtain ⟨opened, after, values, closed, rfl, inner, rfl⟩ := literalList_eq_ok_iff.mp read
  obtain ⟨front, rfl, items⟩ := literals_sound inner
  exact ⟨⟨.symbol .lparen, opened⟩ :: (front ++ [⟨.symbol .rparen, closed⟩]), by simp, values, rfl,
    .parens opened closed items⟩

/-- Values in parentheses are read as a list, whatever follows. -/
theorem literalList_complete {ts : Tokens} {values : List Literal} (items : ValueList ts values)
    (rest : Tokens) : literalList (ts ++ rest) = .ok (.list values, rest) := by
  cases items with
  | @parens inner _ opened closed items =>
    have inside : literals (inner ++ ⟨.symbol .rparen, closed⟩ :: rest) =
        .ok (values, ⟨.symbol .rparen, closed⟩ :: rest) :=
      literals_complete items (notBefore_cons.mpr (by simp))
    exact literalList_eq_ok_iff.mpr ⟨opened, _, values, closed, by simp, inside, rfl⟩

/-! ## Conditions -/

/-- The symbols of comparisons are those of the grammar. -/
theorem comparisonOf_eq_some_iff {s : Symbol} {op : CompareOp} :
    comparisonOf? s = some op ↔ Comparison s op := by
  constructor
  · intro found
    cases s <;> cases found <;> constructor
  · rintro (_ | _) <;> rfl

section Conditions

variable {field : String} {op : CompareOp}

/-- What is read as a test for membership is a list of values. -/
theorem membership_sound : Sound (membership field op) fun ts p =>
    ∃ values, p = .compare field op (.list values) ∧ ValueList ts values := by
  intro ts p rest read
  obtain ⟨⟨v, after⟩, list, same⟩ := bind_eq_ok_iff.mp read
  cases same
  obtain ⟨front, rfl, values, rfl, items⟩ := literalList_sound list
  exact ⟨front, rfl, values, rfl, items⟩

/-- A list of values is read as a test for membership, whatever follows. -/
theorem membership_complete {ts : Tokens} {values : List Literal} (items : ValueList ts values)
    (rest : Tokens) :
    membership field op (ts ++ rest) = .ok (.compare field op (.list values), rest) := by
  rw [membership, literalList_complete items]
  rfl

/-- What is read as a test for likeness is one string. -/
theorem likeness_sound : Sound (likeness field op) fun ts p =>
    ∃ raw span, p = .compare field op (.string (stringValue raw)) ∧ ts = [⟨.string raw, span⟩] := by
  intro ts p rest read
  obtain ⟨⟨v, after⟩, pattern, same⟩ := bind_eq_ok_iff.mp read
  cases same
  unfold likePattern at pattern
  split at pattern
  · cases pattern
    exact ⟨_, rfl, _, _, rfl, rfl⟩
  · cases pattern
  · cases pattern

/-- A range takes the AND between its bounds. -/
theorem range_sound : Sound (range field) fun ts p =>
    ∃ lows highs low high span, p = .between field low high ∧
      ts = lows ++ ⟨.keyword .and, span⟩ :: highs ∧ Value lows low ∧ Value highs high := by
  intro ts p rest read
  obtain ⟨⟨low, following⟩, lower, further⟩ := bind_eq_ok_iff.mp read
  obtain ⟨after, conjunction, further⟩ := bind_eq_ok_iff.mp further
  obtain ⟨⟨high, final⟩, upper, same⟩ := bind_eq_ok_iff.mp further
  cases same
  obtain ⟨lows, rfl, isLow⟩ := literal_sound lower
  obtain ⟨span, rfl⟩ := expectKeyword_eq_ok_iff.mp conjunction
  obtain ⟨highs, rfl, isHigh⟩ := literal_sound upper
  exact ⟨lows ++ ⟨.keyword .and, span⟩ :: highs, by simp, lows, highs, low, high, span, rfl, rfl,
    isLow, isHigh⟩

/-- Two values with an AND between them are read as a range, whatever follows. -/
theorem range_complete {lows highs : Tokens} {low high : Literal} (lower : Value lows low)
    (upper : Value highs high) (span : Span) (rest : Tokens) :
    range field (lows ++ ⟨.keyword .and, span⟩ :: highs ++ rest) =
      .ok (.between field low high, rest) := by
  have conjunction : expectKeyword .and (⟨.keyword .and, span⟩ :: (highs ++ rest)) =
      .ok (highs ++ rest) := rfl
  rw [range, List.append_assoc, List.cons_append, literal_complete lower (notBefore_nil _)]
  simp only [bind, Except.bind, conjunction, literal_complete upper (notBefore_nil _)]
  rfl

/-- What is read after a field has the form of a condition, by the token it starts with. -/
theorem condition_sound (field : String) : Sound (condition field) (Condition field) := by
  intro ts p rest read
  unfold condition at read
  split at read
  · cases read
  rename_i t more
  obtain ⟨token, span⟩ := t
  split at read
  -- IN, LIKE, NOT, BETWEEN, IS, a parenthesis, another symbol, any other token
  · rename_i known
    cases known
    obtain ⟨front, rfl, values, rfl, items⟩ := membership_sound read
    exact ⟨_ :: front, rfl, .isIn span items⟩
  · rename_i known
    cases known
    obtain ⟨_, rfl, raw, place, rfl, rfl⟩ := likeness_sound read
    exact ⟨[_, _], rfl, .like span raw place⟩
  · rename_i known
    cases known
    split at read
    · obtain ⟨front, rfl, values, rfl, items⟩ := membership_sound read
      exact ⟨_ :: _ :: front, rfl, .notIn span _ items⟩
    · obtain ⟨_, rfl, raw, place, rfl, rfl⟩ := likeness_sound read
      exact ⟨[_, _, _], rfl, .notLike span _ raw place⟩
    · cases read
  · rename_i known
    cases known
    obtain ⟨_, rfl, lows, highs, low, high, place, rfl, rfl, lower, upper⟩ := range_sound read
    exact ⟨_ :: (lows ++ _ :: highs), rfl, .between span place lower upper⟩
  · cases read
  · cases read
  · rename_i s _ known
    cases known
    split at read
    · rename_i op found
      obtain ⟨⟨v, after⟩, value, same⟩ := bind_eq_ok_iff.mp read
      cases same
      obtain ⟨front, rfl, isValue⟩ := literal_sound value
      exact ⟨_ :: front, rfl, .compare span (comparisonOf_eq_some_iff.mp found) isValue⟩
    · cases read
  · cases read

/-- A condition is read after its field, whatever follows. -/
theorem condition_complete (field : String) : Complete (condition field) (Condition field) [] := by
  intro front p rest form _
  cases form with
  | @compare s op ts v span comparison value =>
    have read := literal_complete value (notBefore_nil rest)
    cases comparison <;>
      simp [condition, comparisonOf?, read, bind, Except.bind, pure, Except.pure]
  | isIn span items => exact membership_complete items rest
  | notIn negation span items => exact membership_complete items rest
  | like span raw pattern => rfl
  | notLike negation span raw pattern => rfl
  | between span conjunction lower upper => exact range_complete lower upper conjunction rest

end Conditions

end Parser

end FederatedSearch
