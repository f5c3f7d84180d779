import FederatedSearch.Proofs.Query.Reading

/-!
# Reading predicates

The readers of predicates call each other with a bound on their depth. Soundness needs no
assumption on the bound. Three calls for each token are always enough: beyond that the bound does
not change the result (`disjunction_settled`), and the readers satisfy the equations that they
would have without one. Completeness is shown by induction on derivations with these equations.
-/

namespace FederatedSearch

namespace Parser

open Grammar

/-! ## Soundness -/

mutual

/-- What is read as an OR is derived as one, with every bound on the calls. -/
theorem disjunction_sound : (fuel : Nat) → Sound (disjunction fuel) (Derives .disjunction)
  | 0 => fun _ _ _ read => nomatch read
  | fuel + 1 => by
    intro ts p rest read
    rw [disjunction] at read
    obtain ⟨⟨l, after⟩, first, more⟩ := bind_eq_ok_iff.mp read
    obtain ⟨ls, rfl, left⟩ := conjunction_sound fuel first
    obtain ⟨front, rfl, whole⟩ := moreDisjuncts_sound fuel more (.conjunction left)
    exact ⟨ls ++ front, by simp, whole⟩

/-- What is read after a disjunction extends it. -/
theorem moreDisjuncts_sound : (fuel : Nat) → ∀ ⦃l p : Predicate⦄ ⦃ls ts rest : Tokens⦄,
    moreDisjuncts fuel l ts = .ok (p, rest) → Derives .disjunction ls l →
      ∃ front, ts = front ++ rest ∧ Derives .disjunction (ls ++ front) p
  | 0 => fun _ _ _ _ _ read => nomatch read
  | fuel + 1 => by
    intro l p ls ts rest read left
    rw [moreDisjuncts.eq_def] at read
    dsimp only at read
    split at read
    · rename_i span others
      obtain ⟨⟨r, after⟩, next, more⟩ := bind_eq_ok_iff.mp read
      obtain ⟨rs, rfl, right⟩ := conjunction_sound fuel next
      obtain ⟨front, rfl, whole⟩ := moreDisjuncts_sound fuel more (.or span left right)
      exact ⟨⟨.keyword .or, span⟩ :: (rs ++ front), by simp, by simpa using whole⟩
    · cases read
      exact ⟨[], rfl, by simpa using left⟩

/-- What is read as an AND is derived as one, with every bound on the calls. -/
theorem conjunction_sound : (fuel : Nat) → Sound (conjunction fuel) (Derives .conjunction)
  | 0 => fun _ _ _ read => nomatch read
  | fuel + 1 => by
    intro ts p rest read
    rw [conjunction] at read
    obtain ⟨⟨l, after⟩, first, more⟩ := bind_eq_ok_iff.mp read
    obtain ⟨ls, rfl, left⟩ := primary_sound fuel first
    obtain ⟨front, rfl, whole⟩ := moreConjuncts_sound fuel more (.primary left)
    exact ⟨ls ++ front, by simp, whole⟩

/-- What is read after a conjunction extends it. -/
theorem moreConjuncts_sound : (fuel : Nat) → ∀ ⦃l p : Predicate⦄ ⦃ls ts rest : Tokens⦄,
    moreConjuncts fuel l ts = .ok (p, rest) → Derives .conjunction ls l →
      ∃ front, ts = front ++ rest ∧ Derives .conjunction (ls ++ front) p
  | 0 => fun _ _ _ _ _ read => nomatch read
  | fuel + 1 => by
    intro l p ls ts rest read left
    rw [moreConjuncts.eq_def] at read
    dsimp only at read
    split at read
    · rename_i span others
      obtain ⟨⟨r, after⟩, next, more⟩ := bind_eq_ok_iff.mp read
      obtain ⟨rs, rfl, right⟩ := primary_sound fuel next
      obtain ⟨front, rfl, whole⟩ := moreConjuncts_sound fuel more (.and span left right)
      exact ⟨⟨.keyword .and, span⟩ :: (rs ++ front), by simp, by simpa using whole⟩
    · cases read
      exact ⟨[], rfl, by simpa using left⟩

/-- What is read as a primary is derived as one, with every bound on the calls. -/
theorem primary_sound : (fuel : Nat) → Sound (primary fuel) (Derives .primary)
  | 0 => fun _ _ _ read => nomatch read
  | fuel + 1 => by
    intro ts p rest read
    rw [primary.eq_def] at read
    dsimp only at read
    split at read
    · cases read
    rename_i t more
    obtain ⟨token, span⟩ := t
    split at read
    · rename_i known
      cases known
      obtain ⟨⟨inner, after⟩, inside, closing⟩ := bind_eq_ok_iff.mp read
      obtain ⟨final, symbol, same⟩ := bind_eq_ok_iff.mp closing
      cases same
      obtain ⟨front, rfl, derived⟩ := disjunction_sound fuel inside
      obtain ⟨closed, rfl⟩ := expectSymbol_eq_ok_iff.mp symbol
      exact ⟨_ :: (front ++ [_]), by simp, .paren span closed derived⟩
    · cases read
    · rename_i known
      cases known
      obtain ⟨front, rfl, form⟩ := condition_sound _ read
      exact ⟨_ :: front, rfl, .condition span form⟩
    · cases read

end

/-- A sound reader leaves no more tokens than it was given. -/
theorem Sound.length_le {α : Type} {read : Reader α} {form : Tokens → α → Prop}
    (sound : Sound read form) {ts rest : Tokens} {a : α} (result : read ts = .ok (a, rest)) :
    rest.length ≤ ts.length := by
  obtain ⟨front, rfl, _⟩ := sound result
  simp

/-! ## Termination -/

mutual

/-- Three calls for each token and three more are enough to read an OR. -/
theorem disjunction_succ : (fuel : Nat) → ∀ ⦃ts : Tokens⦄, 3 * ts.length + 3 ≤ fuel →
    disjunction (fuel + 1) ts = disjunction fuel ts
  | 0 => by
    intro ts enough
    omega
  | fuel + 1 => by
    intro ts enough
    rw [disjunction, disjunction, conjunction_succ fuel (by omega)]
    refine bind_congr_of_ok fun ⟨l, after⟩ first => ?_
    have less := (conjunction_sound fuel).length_le first
    exact moreDisjuncts_succ fuel (show 3 * after.length + 1 ≤ fuel by omega)

/-- Three calls for each token and one more are enough for further operands of an OR. -/
theorem moreDisjuncts_succ : (fuel : Nat) → ∀ ⦃l : Predicate⦄ ⦃ts : Tokens⦄,
    3 * ts.length + 1 ≤ fuel → moreDisjuncts (fuel + 1) l ts = moreDisjuncts fuel l ts
  | 0 => by
    intro l ts enough
    omega
  | fuel + 1 => by
    intro l ts enough
    rw [moreDisjuncts.eq_def, moreDisjuncts.eq_def]
    dsimp only
    split
    · rename_i span more
      rw [List.length_cons] at enough
      rw [conjunction_succ fuel (by omega)]
      refine bind_congr_of_ok fun ⟨r, after⟩ next => ?_
      have less := (conjunction_sound fuel).length_le next
      exact moreDisjuncts_succ fuel (show 3 * after.length + 1 ≤ fuel by omega)
    · rfl

/-- Three calls for each token and two more are enough to read an AND. -/
theorem conjunction_succ : (fuel : Nat) → ∀ ⦃ts : Tokens⦄, 3 * ts.length + 2 ≤ fuel →
    conjunction (fuel + 1) ts = conjunction fuel ts
  | 0 => by
    intro ts enough
    omega
  | fuel + 1 => by
    intro ts enough
    rw [conjunction, conjunction, primary_succ fuel (by omega)]
    refine bind_congr_of_ok fun ⟨l, after⟩ first => ?_
    have less := (primary_sound fuel).length_le first
    exact moreConjuncts_succ fuel (show 3 * after.length + 1 ≤ fuel by omega)

/-- Three calls for each token and one more are enough for further operands of an AND. -/
theorem moreConjuncts_succ : (fuel : Nat) → ∀ ⦃l : Predicate⦄ ⦃ts : Tokens⦄,
    3 * ts.length + 1 ≤ fuel → moreConjuncts (fuel + 1) l ts = moreConjuncts fuel l ts
  | 0 => by
    intro l ts enough
    omega
  | fuel + 1 => by
    intro l ts enough
    rw [moreConjuncts.eq_def, moreConjuncts.eq_def]
    dsimp only
    split
    · rename_i span more
      rw [List.length_cons] at enough
      rw [primary_succ fuel (by omega)]
      refine bind_congr_of_ok fun ⟨r, after⟩ next => ?_
      have less := (primary_sound fuel).length_le next
      exact moreConjuncts_succ fuel (show 3 * after.length + 1 ≤ fuel by omega)
    · rfl

/-- Three calls for each token and one more are enough to read a primary. -/
theorem primary_succ : (fuel : Nat) → ∀ ⦃ts : Tokens⦄, 3 * ts.length + 1 ≤ fuel →
    primary (fuel + 1) ts = primary fuel ts
  | 0 => by
    intro ts enough
    omega
  | fuel + 1 => by
    intro ts enough
    rw [primary.eq_def, primary.eq_def]
    dsimp only
    cases ts with
    | nil => rfl
    | cons t more =>
      rw [List.length_cons] at enough
      dsimp only
      rw [disjunction_succ fuel (by omega)]

end

/-- Three calls for each token and three more are enough to read a predicate: whatever bound is
at least as large, the result is the same. -/
theorem disjunction_settled {ts : Tokens} {fuel : Nat} (enough : 3 * ts.length + 3 ≤ fuel) :
    disjunction fuel ts = predicate ts := by
  have settled : ∀ fuel, 3 * ts.length + 3 ≤ fuel →
      disjunction fuel ts = disjunction (3 * ts.length + 3) ts := by
    intro fuel enough
    induction enough with
    | refl => rfl
    | @step fuel enough ih => rw [disjunction_succ fuel enough, ih]
  rw [predicate, settled fuel enough, settled (4 * ts.length + 4) (by omega)]

/-! ## Completeness -/

/-- Disjuncts end before anything but OR. -/
theorem moreDisjuncts_of_notBefore {fuel : Nat} {p : Predicate} {rest : Tokens}
    (ends : NotBefore [.keyword .or] rest) (enough : 0 < fuel) :
    moreDisjuncts fuel p rest = .ok (p, rest) := by
  obtain ⟨fuel, rfl⟩ := Nat.exists_eq_add_one.mpr enough
  rw [moreDisjuncts.eq_def]
  dsimp only
  split
  · simp at ends
  · rfl

/-- Conjuncts end before anything but AND. -/
theorem moreConjuncts_of_notBefore {fuel : Nat} {p : Predicate} {rest : Tokens}
    (ends : NotBefore [.keyword .and] rest) (enough : 0 < fuel) :
    moreConjuncts fuel p rest = .ok (p, rest) := by
  obtain ⟨fuel, rfl⟩ := Nat.exists_eq_add_one.mpr enough
  rw [moreConjuncts.eq_def]
  dsimp only
  split
  · simp at ends
  · rfl

/-- What reading a front of each level comes to, when the bound is large enough. Since chains
join to the left, a chain has been read when it is what further operands would be joined to. -/
def Reads : Level → Tokens → Predicate → Prop
  | .disjunction, front, p => ∀ rest fuel, NotBefore [.keyword .and] rest →
    3 * (front ++ rest).length + 3 ≤ fuel →
      disjunction fuel (front ++ rest) = moreDisjuncts fuel p rest
  | .conjunction, front, p => ∀ rest fuel, 3 * (front ++ rest).length + 2 ≤ fuel →
    conjunction fuel (front ++ rest) = moreConjuncts fuel p rest
  | .primary, front, p => ∀ rest fuel, 3 * (front ++ rest).length + 1 ≤ fuel →
    primary fuel (front ++ rest) = .ok (p, rest)

section Steps

variable {ls rs : Tokens} {l r : Predicate}

/-- What is read as an AND is read as an OR with one operand. -/
theorem reads_conjunction (only : Reads .conjunction ls l) : Reads .disjunction ls l := by
  intro rest fuel ends enough
  obtain ⟨fuel, rfl⟩ := Nat.exists_eq_add_one.mpr (show 0 < fuel by omega)
  rw [List.length_append] at enough
  have first : conjunction fuel (ls ++ rest) = .ok (l, rest) := by
    rw [only rest fuel (by rw [List.length_append]; omega)]
    exact moreConjuncts_of_notBefore ends (by omega)
  rw [disjunction, first, moreDisjuncts_succ fuel (by omega)]
  rfl

/-- An OR and, after the keyword, an AND are read as one longer OR. -/
theorem reads_or (span : Span) (left : Reads .disjunction ls l) (right : Reads .conjunction rs r) :
    Reads .disjunction (ls ++ ⟨.keyword .or, span⟩ :: rs) (.or l r) := by
  intro rest fuel ends enough
  obtain ⟨fuel, rfl⟩ := Nat.exists_eq_add_one.mpr (show 0 < fuel by omega)
  rw [List.append_assoc] at enough ⊢
  rw [left _ _ (by simp) enough]
  simp only [List.length_append, List.length_cons] at enough
  have next : conjunction fuel (rs ++ rest) = .ok (r, rest) := by
    rw [right rest fuel (by rw [List.length_append]; omega)]
    exact moreConjuncts_of_notBefore ends (by omega)
  rw [List.cons_append, moreDisjuncts, next, moreDisjuncts_succ fuel (by omega)]
  rfl

/-- What is read as a primary is read as an AND with one operand. -/
theorem reads_primary (only : Reads .primary ls l) : Reads .conjunction ls l := by
  intro rest fuel enough
  obtain ⟨fuel, rfl⟩ := Nat.exists_eq_add_one.mpr (show 0 < fuel by omega)
  rw [List.length_append] at enough
  have first := only rest fuel (by rw [List.length_append]; omega)
  rw [conjunction, first, moreConjuncts_succ fuel (by omega)]
  rfl

/-- An AND and, after the keyword, a primary are read as one longer AND. -/
theorem reads_and (span : Span) (left : Reads .conjunction ls l) (right : Reads .primary rs r) :
    Reads .conjunction (ls ++ ⟨.keyword .and, span⟩ :: rs) (.and l r) := by
  intro rest fuel enough
  obtain ⟨fuel, rfl⟩ := Nat.exists_eq_add_one.mpr (show 0 < fuel by omega)
  rw [List.append_assoc] at enough ⊢
  rw [left _ _ enough]
  simp only [List.length_append, List.length_cons] at enough
  have next := right rest fuel (by rw [List.length_append]; omega)
  rw [List.cons_append, moreConjuncts, next, moreConjuncts_succ fuel (by omega)]
  rfl

/-- An OR in parentheses is read as a primary. -/
theorem reads_paren (opened closed : Span) (inner : Reads .disjunction ls l) :
    Reads .primary (⟨.symbol .lparen, opened⟩ :: (ls ++ [⟨.symbol .rparen, closed⟩]))
      (.paren l) := by
  intro rest fuel enough
  obtain ⟨fuel, rfl⟩ := Nat.exists_eq_add_one.mpr (show 0 < fuel by omega)
  rw [List.cons_append, List.append_assoc, List.singleton_append] at enough ⊢
  simp only [List.length_append, List.length_cons] at enough
  have inside : disjunction fuel (ls ++ ⟨.symbol .rparen, closed⟩ :: rest) =
      .ok (l, ⟨.symbol .rparen, closed⟩ :: rest) := by
    rw [inner _ fuel (by simp) (by simp only [List.length_append, List.length_cons]; omega)]
    exact moreDisjuncts_of_notBefore (by simp) (by omega)
  rw [primary, inside]
  rfl

/-- A field and its condition are read as a primary. -/
theorem reads_condition {field : String} (span : Span) (form : Condition field ls l) :
    Reads .primary (⟨.identifier field, span⟩ :: ls) l := by
  intro rest fuel enough
  obtain ⟨fuel, rfl⟩ := Nat.exists_eq_add_one.mpr (show 0 < fuel by omega)
  exact condition_complete field form (notBefore_nil rest)

end Steps

/-- Every derivation is read back. -/
theorem reads_of_derives {level : Level} {front : Tokens} {p : Predicate}
    (derived : Derives level front p) : Reads level front p := by
  induction derived with
  | conjunction _ ih => exact reads_conjunction ih
  | or span _ _ ihLeft ihRight => exact reads_or span ihLeft ihRight
  | primary _ ih => exact reads_primary ih
  | and span _ _ ihLeft ihRight => exact reads_and span ihLeft ihRight
  | paren opened closed _ ih => exact reads_paren opened closed ih
  | condition span form => exact reads_condition span form

/-- What is read as a predicate is derived as an OR. -/
theorem predicate_sound : Sound predicate (Derives .disjunction) :=
  fun _ _ _ read => disjunction_sound _ read

/-- What is derived as an OR is read as a predicate, unless a connective goes on with it. -/
theorem predicate_complete :
    Complete predicate (Derives .disjunction) [.keyword .and, .keyword .or] := by
  intro front p rest derived ends
  rw [predicate, reads_of_derives derived rest _ (ends.mono (by simp)) (by omega)]
  exact moreDisjuncts_of_notBefore (ends.mono (by simp)) (by omega)

end Parser

end FederatedSearch
