import FederatedSearch.Query.Parser

/-!
# Tokens in other places

Readers look at what tokens are and not at where they are. When tokens move, what is read stays
the same, what is left to read moves with the tokens, and so does the fault that a reader ends
with. This is shown reader by reader, by the laws for sequences and for single tokens
(`Statement.ofTokens_moved`). It follows that tokens of the same kinds form the same statement or
fail for the same cause (`Statement.ofTokens_congr`).
-/

namespace FederatedSearch

/-- A token at another place. -/
def PlacedToken.moved (move : Span → Span) (t : PlacedToken) : PlacedToken :=
  ⟨t.token, move t.span⟩

/-- A fault at another place. -/
def ParseError.moved (move : Span → Span) (e : ParseError) : ParseError :=
  ⟨e.cause, e.span.map move⟩

namespace Parser

variable {α α' β β' : Type}

/-- Tokens at other places. -/
def moved (move : Span → Span) (ts : Tokens) : Tokens :=
  ts.map (PlacedToken.moved move)

/-- An outcome with another value, or with its fault at another place. -/
def carried (move : Span → Span) (f : α → β) : Except ParseError α → Except ParseError β
  | .ok a => .ok (f a)
  | .error e => .error (e.moved move)

/-- When tokens move, a reader yields what it did, and leaves tokens that have moved. -/
def Follows (move : Span → Span) (read : Tokens → Except ParseError (α × Tokens)) : Prop :=
  ∀ ts, read (moved move ts) = carried move (Prod.map id (moved move)) (read ts)

section Sequences

variable {move : Span → Span} {ts : Tokens}

@[simp] theorem moved_cons (t : PlacedToken) (rest : Tokens) :
    moved move (t :: rest) = ⟨t.token, move t.span⟩ :: moved move rest := rfl

@[simp] theorem length_moved : (moved move ts).length = ts.length :=
  List.length_map ..

/-- A sequence follows when its parts do. -/
theorem bind_carried {f : α → α'} {g : β → β'} {x : Except ParseError α}
    {k : α → Except ParseError β} {k' : α' → Except ParseError β'}
    (later : ∀ a, k' (f a) = carried move g (k a)) :
    carried move f x >>= k' = carried move g (x >>= k) := by
  cases x with
  | error e => rfl
  | ok a => exact later a

/-- Two readers one after the other follow when both do. -/
theorem Follows.bind {first : Tokens → Except ParseError (α × Tokens)}
    {second : α → Tokens → Except ParseError (β × Tokens)} (follows : Follows move first)
    (later : ∀ a, Follows move (second a)) :
    Follows move fun ts => first ts >>= fun (a, rest) => second a rest := by
  intro ts
  dsimp only
  rw [follows]
  exact bind_carried fun (a, rest) => later a rest

/-- What a reader yields may be put into another form. -/
theorem follows_pure (a : α) : Follows move fun ts => pure (a, ts) :=
  fun _ => rfl

/-! ## Single tokens -/

/-- A keyword is expected alike wherever the tokens are. -/
theorem expectKeyword_moved (k : Keyword) (ts : Tokens) :
    expectKeyword k (moved move ts) = carried move (moved move) (expectKeyword k ts) := by
  cases ts with
  | nil => rfl
  | cons t rest =>
    rw [moved_cons, expectKeyword, expectKeyword]
    split <;> rfl

/-- A symbol is expected alike wherever the tokens are. -/
theorem expectSymbol_moved (s : Symbol) (ts : Tokens) :
    expectSymbol s (moved move ts) = carried move (moved move) (expectSymbol s ts) := by
  cases ts with
  | nil => rfl
  | cons t rest =>
    rw [moved_cons, expectSymbol, expectSymbol]
    split <;> rfl

/-- A reader follows after a keyword that has to come first. -/
theorem follows_expectKeyword (k : Keyword) {read : Tokens → Except ParseError (α × Tokens)}
    (follows : Follows move read) : Follows move fun ts => expectKeyword k ts >>= read := by
  intro ts
  dsimp only
  rw [expectKeyword_moved]
  exact bind_carried follows

/-- A reader follows after a symbol that has to come first. -/
theorem follows_expectSymbol (s : Symbol) {read : Tokens → Except ParseError (α × Tokens)}
    (follows : Follows move read) : Follows move fun ts => expectSymbol s ts >>= read := by
  intro ts
  dsimp only
  rw [expectSymbol_moved]
  exact bind_carried follows

/-- A name is read alike wherever it is. -/
theorem follows_name : Follows move name := by
  rintro (_ | ⟨⟨t, span⟩, rest⟩)
  · rfl
  · cases t <;> rfl

/-- An integer is read alike wherever it is. -/
theorem follows_integer : Follows move integer := by
  rintro (_ | ⟨⟨t, span⟩, rest⟩)
  · rfl
  · cases t <;> rfl

/-- A pattern is read alike wherever it is. -/
theorem follows_likePattern : Follows move likePattern := by
  rintro (_ | ⟨⟨t, span⟩, rest⟩)
  · rfl
  · cases t <;> rfl

/-- The direction of a sort key does not depend on where it is. -/
theorem direction_moved (ts : Tokens) :
    direction (moved move ts) = Prod.map id (moved move) (direction ts) := by
  obtain _ | ⟨⟨t, span⟩, rest⟩ := ts
  · rfl
  · cases t with
    | keyword k => cases k <;> rfl
    | _ => rfl

/-- A token stands for the same literal in every place. -/
theorem literalOf_moved (t : PlacedToken) :
    literalOf (t.moved move) = carried move id (literalOf t) := by
  obtain ⟨t, span⟩ := t
  cases t with
  | keyword k => cases k <;> rfl
  | _ => rfl

/-- A literal is read alike wherever it is. -/
theorem follows_literal : Follows move literal := by
  rintro (_ | ⟨t, rest⟩)
  · rfl
  · have first : literalOf ⟨t.token, move t.span⟩ = carried move id (literalOf t) :=
      literalOf_moved t
    rw [moved_cons, literal, literal, first]
    exact bind_carried fun _ => rfl

/-! ## Lists -/

/-- Further names are read alike wherever they are. -/
theorem follows_moreNames : Follows move moreNames := by
  intro ts
  fun_induction moreNames ts with
  | case1 span n place rest ih =>
    simp only [moved_cons, moreNames, ih]
    exact bind_carried fun _ => rfl
  | case2 span rest other =>
    obtain _ | ⟨⟨t, place⟩, rest⟩ := rest
    · rfl
    · cases t with
      | identifier n => exact absurd rfl (other n place rest)
      | _ => rfl
  | case3 ts names comma =>
    obtain _ | ⟨⟨t, span⟩, rest⟩ := ts
    · rfl
    · cases t with
      | symbol s =>
        cases s with
        | comma => exact absurd rfl (comma span rest)
        | _ => rfl
      | _ => rfl

/-- Names are read alike wherever they are. -/
theorem follows_names : Follows move names :=
  follows_name.bind fun _ => follows_moreNames.bind fun _ => follows_pure _

/-- Further literals are read alike wherever they are. -/
theorem follows_moreLiterals : Follows move moreLiterals := by
  intro ts
  fun_induction moreLiterals ts with
  | case1 span t rest ih =>
    simp only [moved_cons, moreLiterals]
    have first : literalOf ⟨t.token, move t.span⟩ = carried move id (literalOf t) :=
      literalOf_moved t
    rw [first]
    refine bind_carried fun value => ?_
    rw [ih]
    exact bind_carried fun _ => rfl
  | case2 span => rfl
  | case3 ts another comma =>
    obtain _ | ⟨⟨t, span⟩, rest⟩ := ts
    · rfl
    · cases t with
      | symbol s =>
        cases s with
        | comma =>
          cases rest with
          | nil => exact absurd rfl (comma span)
          | cons t rest => exact absurd rfl (another span t rest)
        | _ => rfl
      | _ => rfl

/-- A list of literals is read alike wherever it is, also where it is refused. -/
theorem follows_literalList : Follows move literalList := by
  have items : Follows move _ :=
    follows_literal.bind fun first => follows_moreLiterals.bind fun more =>
      follows_expectSymbol .rparen (follows_pure (Literal.list (first :: more)))
  intro ts
  rw [literalList, literalList, expectSymbol_moved]
  refine bind_carried fun rest => ?_
  obtain _ | ⟨⟨t, span⟩, rest⟩ := rest
  · exact items []
  · cases t with
    | symbol s =>
      cases s with
      | rparen => rfl
      | _ => exact items (_ :: rest)
    | _ => exact items (_ :: rest)

/-! ## Conditions -/

/-- A test for membership is read alike wherever it is. -/
theorem follows_membership (field : String) (op : CompareOp) :
    Follows move (membership field op) :=
  follows_literalList.bind fun _ => follows_pure _

/-- A test for likeness is read alike wherever it is. -/
theorem follows_likeness (field : String) (op : CompareOp) : Follows move (likeness field op) :=
  follows_likePattern.bind fun _ => follows_pure _

/-- A range is read alike wherever it is. -/
theorem follows_range (field : String) : Follows move (range field) :=
  follows_literal.bind fun _ => follows_expectKeyword _ <|
    follows_literal.bind fun _ => follows_pure _

/-- What follows a field is read alike wherever it is, by the token it starts with. -/
theorem follows_condition (field : String) : Follows move (condition field) := by
  rintro (_ | ⟨⟨t, span⟩, rest⟩)
  · rfl
  · cases t with
    | keyword k =>
      cases k with
      | «in» => exact follows_membership field .isIn rest
      | like => exact follows_likeness field .like rest
      | between => exact follows_range field rest
      | not =>
        obtain _ | ⟨⟨u, place⟩, rest⟩ := rest
        · rfl
        · cases u with
          | keyword k =>
            cases k with
            | «in» => exact follows_membership field .notIn rest
            | like => exact follows_likeness field .notLike rest
            | _ => rfl
          | _ => rfl
      | _ => rfl
    | symbol s =>
      have compared (op : CompareOp) : Follows move _ :=
        follows_literal.bind fun value => follows_pure (Predicate.compare field op value)
      cases s with
      | eq => exact compared .eq rest
      | notEq => exact compared .notEq rest
      | lt => exact compared .lt rest
      | gt => exact compared .gt rest
      | lte => exact compared .lte rest
      | gte => exact compared .gte rest
      | _ => rfl
    | _ => rfl

mutual

/-- An OR is read alike with every bound on the calls. -/
theorem follows_disjunction : (fuel : Nat) → Follows move (disjunction fuel)
  | 0 => fun _ => rfl
  | fuel + 1 => (follows_conjunction fuel).bind (follows_moreDisjuncts fuel)

/-- Further operands of an OR are read alike. -/
theorem follows_moreDisjuncts :
    (fuel : Nat) → (left : Predicate) → Follows move (moreDisjuncts fuel left)
  | 0, _ => fun _ => rfl
  | fuel + 1, left => by
    rintro (_ | ⟨⟨t, span⟩, rest⟩)
    · rfl
    · cases t with
      | keyword k =>
        cases k with
        | or =>
          exact (follows_conjunction fuel).bind
            (fun right => follows_moreDisjuncts fuel (.or left right)) rest
        | _ => rfl
      | _ => rfl

/-- An AND is read alike with every bound on the calls. -/
theorem follows_conjunction : (fuel : Nat) → Follows move (conjunction fuel)
  | 0 => fun _ => rfl
  | fuel + 1 => (follows_primary fuel).bind (follows_moreConjuncts fuel)

/-- Further operands of an AND are read alike. -/
theorem follows_moreConjuncts :
    (fuel : Nat) → (left : Predicate) → Follows move (moreConjuncts fuel left)
  | 0, _ => fun _ => rfl
  | fuel + 1, left => by
    rintro (_ | ⟨⟨t, span⟩, rest⟩)
    · rfl
    · cases t with
      | keyword k =>
        cases k with
        | and =>
          exact (follows_primary fuel).bind
            (fun right => follows_moreConjuncts fuel (.and left right)) rest
        | _ => rfl
      | _ => rfl

/-- What stands in parentheses or after a field is read alike. -/
theorem follows_primary : (fuel : Nat) → Follows move (primary fuel)
  | 0 => fun _ => rfl
  | fuel + 1 => by
    rintro (_ | ⟨⟨t, span⟩, rest⟩)
    · rfl
    · cases t with
      | keyword k => cases k <;> rfl
      | symbol s =>
        cases s with
        | lparen =>
          exact (follows_disjunction fuel).bind
            (fun _ => follows_expectSymbol _ (follows_pure _)) rest
        | _ => rfl
      | identifier field => exact follows_condition field rest
      | _ => rfl

end

/-- A predicate is read alike, since moved tokens are as many and so bound the calls alike. -/
theorem follows_predicate : Follows move predicate := by
  intro ts
  rw [predicate, predicate, length_moved]
  exact follows_disjunction _ ts

/-! ## Clauses -/

/-- Sort keys are read alike with every bound on the calls. -/
theorem follows_sortKeys : (fuel : Nat) → Follows move (sortKeys fuel)
  | 0 => fun _ => rfl
  | fuel + 1 => by
    intro ts
    rw [sortKeys, sortKeys, follows_name]
    refine bind_carried fun (field, ts) => ?_
    dsimp only [Prod.map, id_eq]
    rw [direction_moved]
    obtain ⟨descending, rest⟩ := direction ts
    obtain _ | ⟨⟨t, span⟩, rest⟩ := rest
    · rfl
    · cases t with
      | symbol s =>
        cases s with
        | comma =>
          exact (follows_sortKeys fuel).bind
            (fun more => follows_pure (⟨field, descending⟩ :: more)) rest
        | _ => rfl
      | _ => rfl

/-- A projection is read alike wherever it is. -/
theorem follows_projection : Follows move projection := by
  have columns (distinct : Bool) : Follows move _ :=
    follows_names.bind fun _ => follows_pure distinct
  rintro (_ | ⟨⟨t, span⟩, rest⟩)
  · rfl
  · cases t with
    | keyword k =>
      cases k with
      | distinct =>
        obtain _ | ⟨⟨t, place⟩, rest⟩ := rest
        · rfl
        · cases t with
          | symbol s =>
            cases s with
            | star => rfl
            | _ => exact columns true (_ :: rest)
          | _ => exact columns true (_ :: rest)
      | _ => exact columns false (_ :: rest)
    | symbol s =>
      cases s with
      | star => rfl
      | _ => exact columns false (_ :: rest)
    | _ => exact columns false (_ :: rest)

/-- The clause of the result is read alike wherever it is. -/
theorem follows_selectClause : Follows move selectClause := by
  rintro (_ | ⟨⟨t, span⟩, rest⟩)
  · rfl
  · cases t with
    | keyword k =>
      cases k with
      | select => exact follows_projection rest
      | _ => rfl
    | _ => rfl

/-- The clause of the selection is read alike wherever it is. -/
theorem follows_whereClause : Follows move whereClause := by
  rintro (_ | ⟨⟨t, span⟩, rest⟩)
  · rfl
  · cases t with
    | keyword k =>
      cases k with
      | «where» => exact follows_predicate.bind (fun _ => follows_pure _) rest
      | _ => rfl
    | _ => rfl

/-- The clause of the groups is read alike wherever it is. -/
theorem follows_groupClause : Follows move groupClause := by
  rintro (_ | ⟨⟨t, span⟩, rest⟩)
  · rfl
  · cases t with
    | keyword k =>
      cases k with
      | group => exact follows_expectKeyword _ follows_names rest
      | _ => rfl
    | _ => rfl

/-- The clause of the order is read alike wherever it is. -/
theorem follows_orderClause : Follows move orderClause := by
  rintro (_ | ⟨⟨t, span⟩, rest⟩)
  · rfl
  · cases t with
    | keyword k =>
      cases k with
      | order =>
        refine follows_expectKeyword _ (fun ts => ?_) rest
        rw [length_moved]
        exact follows_sortKeys _ ts
      | _ => rfl
    | _ => rfl

/-- The clause of the page is read alike wherever it is. -/
theorem follows_limitClause : Follows move limitClause := by
  rintro (_ | ⟨⟨t, span⟩, rest⟩)
  · rfl
  · cases t with
    | keyword k =>
      cases k with
      | limit =>
        rw [moved_cons, limitClause, limitClause, follows_integer]
        refine bind_carried fun (first, rest) => ?_
        obtain _ | ⟨⟨t, span⟩, rest⟩ := rest
        · rfl
        · cases t with
          | symbol s =>
            cases s with
            | comma =>
              exact follows_integer.bind
                (fun rowcount => follows_pure (some (⟨some first, rowcount⟩ : Limit))) rest
            | _ => rfl
          | _ => rfl
      | _ => rfl
    | _ => rfl

/-- All clauses of a statement are read alike, one after the other. -/
theorem follows_clauses : Follows move clauses :=
  follows_selectClause.bind fun _ => follows_expectKeyword _ <|
    follows_names.bind fun _ => follows_whereClause.bind fun _ =>
      follows_groupClause.bind fun _ => follows_orderClause.bind fun _ =>
        follows_limitClause.bind fun _ => follows_pure _

end Sequences

end Parser

open FederatedSearch.Parser (moved carried)

variable {move : Span → Span} {ts us : List PlacedToken}

/-- When tokens move, they form the same statement or fail for the same cause, at the place that
the place of the fault has moved to. -/
theorem Statement.ofTokens_moved (ts : List PlacedToken) :
    ofTokens (moved move ts) = carried move id (ofTokens ts) := by
  have found : (moved move ts).find? (·.token == .illegal) =
      (ts.find? (·.token == .illegal)).map (PlacedToken.moved move) := by
    rw [moved, List.find?_map]
    rfl
  rw [ofTokens, ofTokens, found]
  cases ts.find? (·.token == .illegal) with
  | some t => rfl
  | none =>
    dsimp only [Option.map_none]
    rw [Parser.follows_clauses]
    refine Parser.bind_carried fun (statement, rest) => ?_
    cases rest with
    | nil => rfl
    | cons t rest => rfl

/-- Tokens of the same kinds form the same statement or fail for the same cause. -/
theorem Statement.ofTokens_congr (same : ts.map PlacedToken.token = us.map PlacedToken.token) :
    (ofTokens ts).mapError ParseError.cause = (ofTokens us).mapError ParseError.cause := by
  have forget (ts : List PlacedToken) : moved (fun _ => ⟨0, 0⟩) ts =
      (ts.map PlacedToken.token).map fun t => ⟨t, ⟨0, 0⟩⟩ := by
    rw [moved, List.map_map]
    rfl
  have cause (x : Except ParseError Statement) :
      (carried (fun _ => ⟨0, 0⟩) id x).mapError ParseError.cause = x.mapError ParseError.cause := by
    cases x <;> rfl
  rw [← cause, ← ofTokens_moved, forget, same, ← forget, ofTokens_moved, cause]

end FederatedSearch
