import FederatedSearch.Proofs.Query.PredicateReading

/-!
# Reading statements

The readers of clauses are sound and complete for the forms of clauses, and so is that of whole
statements: tokens are accepted exactly when they have the form of a statement, which has one
tree only (`ofTokens_eq_ok_iff_form`).
-/

namespace FederatedSearch

namespace Parser

open Grammar

/-! ## Sort keys -/

/-- Reads a sort key. -/
def sortKey : Reader SortKey := fun ts => do
  let (field, rest) ← name ts
  let (descending, rest) := direction rest
  return (⟨field, descending⟩, rest)

/-- What is read as a sort key is a name with a direction or without one. -/
theorem sortKey_sound : Sound sortKey Key := by
  intro ts key rest read
  obtain ⟨⟨field, after⟩, found, same⟩ := bind_eq_ok_iff.mp read
  obtain ⟨front, rfl, isName⟩ := name_sound found
  dsimp only at same
  unfold direction at same
  split at same
  · rename_i span others
    cases same
    exact ⟨front ++ [⟨.keyword .desc, span⟩], by simp, .descending isName span⟩
  · rename_i span others
    cases same
    exact ⟨front ++ [⟨.keyword .asc, span⟩], by simp, .ascending isName span⟩
  · cases same
    exact ⟨front, rfl, .plain isName⟩

/-- A sort key is read up to what follows its direction. -/
theorem sortKey_complete : Complete sortKey Key [.keyword .asc, .keyword .desc] := by
  intro front key rest form ends
  cases form with
  | plain isName =>
    rw [sortKey, name_complete isName (notBefore_nil rest)]
    simp only [bind, Except.bind, direction]
    split
    · simp at ends
    · simp at ends
    · rfl
  | ascending isName span =>
    rw [sortKey, List.append_assoc, name_complete isName (notBefore_nil _)]
    rfl
  | descending isName span =>
    rw [sortKey, List.append_assoc, name_complete isName (notBefore_nil _)]
    rfl

/-- With one more call at hand, sort keys are a key and, after a comma, the rest. -/
theorem sortKeys_succ (fuel : Nat) (ts : Tokens) :
    sortKeys (fuel + 1) ts = itemThen sortKey (sortKeys fuel) ts := by
  rw [sortKeys, itemThen, sortKey]
  cases name ts <;> rfl

/-- One call for each token and one more are enough to read sort keys: whatever bound is at least
as large, the result is the same. -/
theorem sortKeys_settled {fuel : Nat} : ∀ {ts : Tokens}, ts.length + 1 ≤ fuel →
    sortKeys fuel ts = sortKeys (ts.length + 1) ts := by
  induction fuel using Nat.strongRecOn with
  | _ fuel ih =>
    intro ts enough
    obtain ⟨fuel, rfl⟩ := Nat.exists_eq_add_one.mpr (show 0 < fuel by omega)
    rw [sortKeys_succ, sortKeys_succ]
    refine itemThen_congr sortKey_sound fun less shorter => ?_
    rcases Nat.eq_or_lt_of_le enough with same | larger
    · rw [Nat.add_right_cancel same]
    · rw [ih fuel (by omega) (by omega), ih ts.length (by omega) (by omega)]

/-- Reads sort keys with a bound that is large enough. -/
def keys : Reader (List SortKey) := fun ts =>
  sortKeys (ts.length + 1) ts

/-- Sort keys are a key and, after a comma, sort keys again. -/
theorem keys_eq (ts : Tokens) : keys ts = itemThen sortKey keys ts := by
  rw [keys, sortKeys_succ]
  exact itemThen_congr sortKey_sound fun less shorter => sortKeys_settled shorter

/-- What is read as sort keys are keys with commas between them. -/
theorem keys_sound : Sound keys (CommaSeparated Key) :=
  sound_of_itemThen sortKey_sound keys_eq

/-- Keys with commas between them are read, unless another comma or a direction follows. -/
theorem keys_complete :
    Complete keys (CommaSeparated Key) [.symbol .comma, .keyword .asc, .keyword .desc] :=
  complete_of_itemThen sortKey_complete (by simp) keys_eq

/-! ## Clauses -/

/-- Reads the columns of a result. -/
def columns : Tokens → Except ParseError Tokens
  | ⟨.symbol .star, _⟩ :: rest => .ok rest
  | ts => do return (← names ts).2

/-- What is read as the columns of a result is a star or names. -/
theorem columns_sound {ts rest : Tokens} (read : columns ts = .ok rest) :
    ∃ front, ts = front ++ rest ∧ Columns front := by
  unfold columns at read
  split at read
  · rename_i span others
    cases read
    exact ⟨[⟨.symbol .star, span⟩], rfl, .all span⟩
  · obtain ⟨⟨_, after⟩, found, same⟩ := bind_eq_ok_iff.mp read
    cases same
    obtain ⟨front, rfl, form⟩ := names_sound found
    exact ⟨front, rfl, .names form⟩

/-- The columns of a result are read up to what is no comma. -/
theorem columns_complete {front rest : Tokens} (form : Columns front)
    (ends : NotBefore [.symbol .comma] rest) : columns (front ++ rest) = .ok rest := by
  cases form with
  | all span => rfl
  | names form =>
    have read := names_complete form ends
    unfold columns
    split
    · rename_i starts
      rw [starts] at read
      cases read
    · rw [read]
      rfl

/-- The word DISTINCT is taken before the columns. -/
theorem projection_distinct (span : Span) (ts : Tokens) :
    projection (⟨.keyword .distinct, span⟩ :: ts) = do return (true, ← columns ts) := by
  rcases starts_or_notBefore (.symbol .star) ts with ⟨place, rest, rfl⟩ | other
  · rfl
  · simp only [projection, columns]
    split
    · simp at other
    · simp

/-- Without that word a projection is its columns. -/
theorem projection_of_notBefore {ts : Tokens} (plain : NotBefore [.keyword .distinct] ts) :
    projection ts = do return (false, ← columns ts) := by
  rcases starts_or_notBefore (.symbol .star) ts with ⟨place, rest, rfl⟩ | other
  · rfl
  · unfold projection columns
    split
    rename_i chosen
    split at chosen
    · simp at plain
    · cases chosen
      split
      · simp at other
      · simp

/-- Columns do not start with DISTINCT, which is reserved. -/
theorem notBefore_distinct {front : Tokens} (form : Columns front) (rest : Tokens) :
    NotBefore [.keyword .distinct] (front ++ rest) := by
  have ofName : ∀ {ts n}, Name ts n → ∀ rest, NotBefore [.keyword .distinct] (ts ++ rest) := by
    rintro _ _ ⟨n, span⟩ rest
    simp
  cases form with
  | all span => simp
  | names form =>
    cases form with
    | last one => exact ofName one rest
    | more span one others =>
      rw [List.append_assoc]
      exact ofName one _

section Optional

variable {α : Type} {read : Reader α} {clause : Tokens → α → Prop} {absent : α} {k : Keyword}
  {stops : List Token}

/-- A reader of a clause that may be left out is sound when it is for the clause after its keyword
and takes nothing off other tokens. -/
theorem sound_optional (skips : ∀ ts, NotBefore [.keyword k] ts → read ts = .ok (absent, ts))
    (sound : ∀ span ts a rest, read (⟨.keyword k, span⟩ :: ts) = .ok (a, rest) →
      ∃ front, ts = front ++ rest ∧ clause (⟨.keyword k, span⟩ :: front) a) :
    Sound read (Optional clause absent) := by
  intro ts a rest result
  rcases starts_or_notBefore (.keyword k) ts with ⟨span, more, rfl⟩ | other
  · obtain ⟨front, rfl, form⟩ := sound span more a rest result
    exact ⟨⟨.keyword k, span⟩ :: front, rfl, .present form⟩
  · rw [skips ts other] at result
    cases result
    exact ⟨[], rfl, .absent⟩

/-- A reader of a clause that may be left out is complete when it is for the clause and takes
nothing off tokens that do not start with its keyword. -/
theorem complete_optional (skips : ∀ ts, NotBefore [.keyword k] ts → read ts = .ok (absent, ts))
    (complete : Complete read clause stops) :
    Complete read (Optional clause absent) (.keyword k :: stops) := by
  intro front a rest form ends
  cases form with
  | absent => exact skips rest (ends.mono (List.cons_subset_cons _ (List.nil_subset _)))
  | present form => exact complete form (ends.mono (List.subset_cons_self ..))

end Optional

/-- Where no SELECT comes next, no such clause is read. -/
theorem selectClause_skips (ts : Tokens) (other : NotBefore [.keyword .select] ts) :
    selectClause ts = .ok (false, ts) := by
  unfold selectClause
  split
  · simp at other
  · rfl

/-- What is read as the first clause is a SELECT, if it is there at all. -/
theorem selectClause_sound : Sound selectClause (Optional SelectClause false) := by
  refine sound_optional selectClause_skips fun span ts distinct rest read => ?_
  rw [selectClause] at read
  rcases starts_or_notBefore (.keyword .distinct) ts with ⟨place, more, rfl⟩ | plain
  · rw [projection_distinct] at read
    obtain ⟨_, found, same⟩ := bind_eq_ok_iff.mp read
    cases same
    obtain ⟨front, rfl, form⟩ := columns_sound found
    exact ⟨_ :: front, rfl, .distinct span place form⟩
  · rw [projection_of_notBefore plain] at read
    obtain ⟨_, found, same⟩ := bind_eq_ok_iff.mp read
    cases same
    obtain ⟨front, rfl, form⟩ := columns_sound found
    exact ⟨front, rfl, .plain span form⟩

/-- A SELECT, or its absence, is read up to what does not go on with it. -/
theorem selectClause_complete :
    Complete selectClause (Optional SelectClause false) [.keyword .select, .symbol .comma] := by
  refine complete_optional selectClause_skips fun front distinct rest form ends => ?_
  cases form with
  | plain span form =>
    rw [List.cons_append, selectClause, projection_of_notBefore (notBefore_distinct form rest),
      columns_complete form ends]
    rfl
  | distinct span place form =>
    rw [List.cons_append, List.cons_append, selectClause, projection_distinct,
      columns_complete form ends]
    rfl

/-- Where no WHERE comes next, no such clause is read. -/
theorem whereClause_skips (ts : Tokens) (other : NotBefore [.keyword .where] ts) :
    whereClause ts = .ok (none, ts) := by
  unfold whereClause
  split
  · simp at other
  · rfl

/-- What is read as a selection is a WHERE with a predicate, if it is there at all. -/
theorem whereClause_sound : Sound whereClause (Optional WhereClause none) := by
  refine sound_optional whereClause_skips fun span ts selection rest read => ?_
  obtain ⟨⟨p, after⟩, found, same⟩ := bind_eq_ok_iff.mp read
  cases same
  obtain ⟨front, rfl, derived⟩ := predicate_sound found
  exact ⟨front, rfl, .mk span derived⟩

/-- A WHERE, or its absence, is read unless a connective goes on with its predicate. -/
theorem whereClause_complete : Complete whereClause (Optional WhereClause none)
    [.keyword .where, .keyword .and, .keyword .or] := by
  refine complete_optional whereClause_skips fun front selection rest form ends => ?_
  obtain ⟨span, derived⟩ := form
  rw [List.cons_append, whereClause, predicate_complete derived ends]
  rfl

/-- Where no GROUP comes next, no such clause is read. -/
theorem groupClause_skips (ts : Tokens) (other : NotBefore [.keyword .group] ts) :
    groupClause ts = .ok ([], ts) := by
  unfold groupClause
  split
  · simp at other
  · rfl

/-- What is read as groups is a GROUP BY with names, if it is there at all. -/
theorem groupClause_sound : Sound groupClause (Optional GroupClause []) := by
  refine sound_optional groupClause_skips fun span ts fields rest read => ?_
  obtain ⟨after, preposition, found⟩ := bind_eq_ok_iff.mp read
  obtain ⟨by_, rfl⟩ := expectKeyword_eq_ok_iff.mp preposition
  obtain ⟨front, rfl, names⟩ := names_sound found
  exact ⟨_ :: front, rfl, .mk span by_ names⟩

/-- A GROUP BY, or its absence, is read unless a comma goes on with its names. -/
theorem groupClause_complete :
    Complete groupClause (Optional GroupClause []) [.keyword .group, .symbol .comma] := by
  refine complete_optional groupClause_skips fun front fields rest form ends => ?_
  obtain ⟨span, preposition, form⟩ := form
  exact names_complete form ends

/-- Where no ORDER comes next, no such clause is read. -/
theorem orderClause_skips (ts : Tokens) (other : NotBefore [.keyword .order] ts) :
    orderClause ts = .ok ([], ts) := by
  unfold orderClause
  split
  · simp at other
  · rfl

/-- What is read as an order is an ORDER BY with keys, if it is there at all. -/
theorem orderClause_sound : Sound orderClause (Optional OrderClause []) := by
  refine sound_optional orderClause_skips fun span ts order rest read => ?_
  obtain ⟨after, preposition, found⟩ := bind_eq_ok_iff.mp read
  obtain ⟨by_, rfl⟩ := expectKeyword_eq_ok_iff.mp preposition
  obtain ⟨front, rfl, form⟩ := keys_sound found
  exact ⟨_ :: front, rfl, .mk span by_ form⟩

/-- An ORDER BY, or its absence, is read unless a comma or a direction goes on with its keys. -/
theorem orderClause_complete : Complete orderClause (Optional OrderClause [])
    [.keyword .order, .symbol .comma, .keyword .asc, .keyword .desc] := by
  refine complete_optional orderClause_skips fun front order rest form ends => ?_
  obtain ⟨span, preposition, form⟩ := form
  exact keys_complete form ends

/-- What is read as an integer is one token. -/
theorem integer_sound : Sound integer fun ts n => ∃ span, ts = [⟨.integer n, span⟩] := by
  intro ts n rest read
  unfold integer at read
  split at read
  · cases read
    exact ⟨_, rfl, _, rfl⟩
  · cases read

/-- Where no LIMIT comes next, no such clause is read. -/
theorem limitClause_skips (ts : Tokens) (other : NotBefore [.keyword .limit] ts) :
    limitClause ts = .ok (none, ts) := by
  unfold limitClause
  split
  · simp at other
  · rfl

/-- What is read as a page is a LIMIT with one number or two, if it is there at all. -/
theorem limitClause_sound : Sound limitClause (Optional LimitClause none) := by
  refine sound_optional limitClause_skips fun span ts limit rest read => ?_
  obtain ⟨⟨m, after⟩, first, further⟩ := bind_eq_ok_iff.mp read
  obtain ⟨_, rfl, number, rfl⟩ := integer_sound first
  dsimp only at further
  split at further
  · obtain ⟨⟨n, final⟩, second, same⟩ := bind_eq_ok_iff.mp further
    cases same
    obtain ⟨_, rfl, place, rfl⟩ := integer_sound second
    exact ⟨[_, _, _], rfl, .page span m number _ n place⟩
  · cases further
    exact ⟨[_], rfl, .rowcount span m number⟩

/-- A LIMIT, or its absence, is read unless a comma goes on with its number. -/
theorem limitClause_complete :
    Complete limitClause (Optional LimitClause none) [.keyword .limit, .symbol .comma] := by
  refine complete_optional limitClause_skips fun front limit rest form ends => ?_
  cases form with
  | rowcount span n number =>
    simp only [limitClause, List.cons_append, List.nil_append, integer, bind, Except.bind]
    split
    · simp at ends
    · rfl
  | page span m first comma n second => rfl

/-! ## Statements -/

/-- A clause that may be left out starts with its keyword, so that it does not keep an earlier
clause from ending. -/
theorem notBefore_optional {α : Type} {clause : Tokens → α → Prop} {absent : α} {k : Keyword}
    (starts : ∀ ts a, clause ts a → ∃ span rest, ts = ⟨.keyword k, span⟩ :: rest)
    {stops : List Token} (ends : .keyword k ∉ stops) {front rest : Tokens} {a : α}
    (form : Optional clause absent front a) (after : NotBefore stops rest) :
    NotBefore stops (front ++ rest) := by
  cases form with
  | absent => exact after
  | present form =>
    obtain ⟨span, others, rfl⟩ := starts _ _ form
    exact notBefore_cons.mpr ends

/-- A selection starts with its keyword, which no clause before it may contain. -/
theorem WhereClause.starts : ∀ ts selection, WhereClause ts selection →
    ∃ span rest, ts = ⟨.keyword .where, span⟩ :: rest := by
  rintro _ _ ⟨span, _⟩
  exact ⟨span, _, rfl⟩

/-- Groups start with their keyword. -/
theorem GroupClause.starts : ∀ ts fields, GroupClause ts fields →
    ∃ span rest, ts = ⟨.keyword .group, span⟩ :: rest := by
  rintro _ _ ⟨span, _, _⟩
  exact ⟨span, _, rfl⟩

/-- An order starts with its keyword. -/
theorem OrderClause.starts : ∀ ts keys, OrderClause ts keys →
    ∃ span rest, ts = ⟨.keyword .order, span⟩ :: rest := by
  rintro _ _ ⟨span, _, _⟩
  exact ⟨span, _, rfl⟩

/-- A page starts with its keyword. -/
theorem LimitClause.starts : ∀ ts limit, LimitClause ts limit →
    ∃ span rest, ts = ⟨.keyword .limit, span⟩ :: rest := by
  rintro _ _ (⟨span, _, _⟩ | ⟨span, _, _, _, _, _⟩)
  · exact ⟨span, _, rfl⟩
  · exact ⟨span, _, rfl⟩

/-- Tokens that are read to their end have the form of a statement. -/
theorem clauses_sound {ts : Tokens} {s : Statement} (read : clauses ts = .ok (s, [])) :
    Form ts s := by
  obtain ⟨⟨distinct, _⟩, selects, afterSelect⟩ := bind_eq_ok_iff.mp read
  obtain ⟨_, keyword, afterKeyword⟩ := bind_eq_ok_iff.mp afterSelect
  obtain ⟨⟨names, _⟩, reads, afterNames⟩ := bind_eq_ok_iff.mp afterKeyword
  obtain ⟨⟨selection, _⟩, filters, afterWhere⟩ := bind_eq_ok_iff.mp afterNames
  obtain ⟨⟨groupBy, _⟩, groups, afterGroup⟩ := bind_eq_ok_iff.mp afterWhere
  obtain ⟨⟨orderBy, _⟩, orders, afterOrder⟩ := bind_eq_ok_iff.mp afterGroup
  obtain ⟨⟨page, _⟩, limits, same⟩ := bind_eq_ok_iff.mp afterOrder
  cases same
  obtain ⟨select, rfl, selectForm⟩ := selectClause_sound selects
  obtain ⟨span, rfl⟩ := expectKeyword_eq_ok_iff.mp keyword
  obtain ⟨sources, rfl, namesForm⟩ := names_sound reads
  obtain ⟨condition, rfl, whereForm⟩ := whereClause_sound filters
  obtain ⟨group, rfl, groupForm⟩ := groupClause_sound groups
  obtain ⟨order, rfl, orderForm⟩ := orderClause_sound orders
  obtain ⟨limit, rfl, limitForm⟩ := limitClause_sound limits
  rw [List.append_nil]
  exact .mk span selectForm namesForm whereForm groupForm orderForm limitForm

/-- Tokens of the form of a statement are read to their end, clause by clause. -/
theorem clauses_complete {ts : Tokens} {s : Statement} (form : Form ts s) :
    clauses ts = .ok (s, []) := by
  obtain ⟨span, selects, reads, filters, groups, orders, limits⟩ := form
  rename_i select sources condition group order limit distinct names selection groupBy orderBy page
  have limitRead := limitClause_complete limits (notBefore_end _)
  rw [List.append_nil] at limitRead
  have beforeLimit : ∀ {stops : List Token}, .keyword .limit ∉ stops → NotBefore stops limit :=
    fun ends => by
      simpa using notBefore_optional LimitClause.starts ends limits (notBefore_end _)
  have beforeOrder : ∀ {stops : List Token}, .keyword .limit ∉ stops → .keyword .order ∉ stops →
      NotBefore stops (order ++ limit) := fun noLimit noOrder =>
    notBefore_optional OrderClause.starts noOrder orders (beforeLimit noLimit)
  have beforeGroup : ∀ {stops : List Token}, .keyword .limit ∉ stops → .keyword .order ∉ stops →
      .keyword .group ∉ stops → NotBefore stops (group ++ (order ++ limit)) :=
    fun noLimit noOrder noGroup =>
      notBefore_optional GroupClause.starts noGroup groups (beforeOrder noLimit noOrder)
  have beforeWhere : NotBefore [.symbol .comma] (condition ++ (group ++ (order ++ limit))) :=
    notBefore_optional WhereClause.starts (by simp) filters
      (beforeGroup (by simp) (by simp) (by simp))
  have keyword : ∀ rest, expectKeyword .from (⟨.keyword .from, span⟩ :: rest) = .ok rest :=
    fun _ => rfl
  rw [clauses, selectClause_complete selects (by simp)]
  simp only [bind, Except.bind, keyword, names_complete reads beforeWhere,
    whereClause_complete filters (beforeGroup (by simp) (by simp) (by simp)),
    groupClause_complete groups (beforeOrder (by simp) (by simp)),
    orderClause_complete orders (beforeLimit (by simp)), limitRead]
  rfl

end Parser

/-- Tokens are a statement exactly when none of them is illegal and they have the form of that
statement. They have the form of one statement at most, and reading them ends by itself: larger
bounds than those that its recursive readers are given do not change what they read. -/
theorem Statement.ofTokens_eq_ok_iff_form (ts : Parser.Tokens) :
    (∀ s, Statement.ofTokens ts = .ok s ↔
        (∀ t ∈ ts, t.token ≠ .illegal) ∧ Grammar.Form ts s) ∧
      (∀ s s', Grammar.Form ts s → Grammar.Form ts s' → s = s') ∧
      (∀ fuel, 3 * ts.length + 3 ≤ fuel → Parser.disjunction fuel ts = Parser.predicate ts) ∧
      ∀ fuel, ts.length + 1 ≤ fuel →
        Parser.sortKeys fuel ts = Parser.sortKeys (ts.length + 1) ts := by
  refine ⟨fun s => ?_, fun s s' form other => ?_, fun _ => Parser.disjunction_settled,
    fun _ => Parser.sortKeys_settled⟩
  · unfold Statement.ofTokens
    split
    · rename_i t found
      have illegal := List.find?_some found
      refine iff_of_false (by simp) fun ⟨legal, _⟩ => ?_
      exact legal t (List.mem_of_find?_eq_some found) (by simpa using illegal)
    · rename_i legal
      have legal : ∀ t ∈ ts, t.token ≠ .illegal := by simpa using legal
      constructor
      · intro read
        obtain ⟨⟨statement, rest⟩, clauses, ends⟩ := bind_eq_ok_iff.mp read
        cases rest with
        | nil =>
          cases ends
          exact ⟨legal, Parser.clauses_sound clauses⟩
        | cons t rest => cases ends
      · rintro ⟨_, form⟩
        rw [Parser.clauses_complete form]
        rfl
  · have same := (Parser.clauses_complete form).symm.trans (Parser.clauses_complete other)
    cases same
    rfl

/-- A range takes the first AND, the second one binds more tightly than OR. -/
theorem Statement.form_of_range_or_membership :
    Grammar.Form
      ([.keyword .from, .identifier "d", .keyword .where, .identifier "a", .keyword .between,
        .integer 1, .keyword .and, .integer 2, .keyword .or, .identifier "b", .keyword .not,
        .keyword .in, .symbol .lparen, .identifier "x", .symbol .rparen, .keyword .and,
        .identifier "c", .symbol .eq, .keyword .true].map fun token => ⟨token, ⟨0, 0⟩⟩)
      ⟨false, ["d"],
        some (.or (.between "a" (.integer 1) (.integer 2))
          (.and (.compare "b" .notIn (.list [.column "x"])) (.compare "c" .eq (.bool true)))),
        [], [], none⟩ :=
  (((Statement.ofTokens_eq_ok_iff_form _).1 _).mp rfl).2

end FederatedSearch
