import FederatedSearch.Regex.Matching
import Mathlib.Tactic.Common

/-!
# Where matches end

A pattern matches from one position to another, and what it may match there depends on nothing but
the characters. `Pattern.Leads` says of a pattern in a text from which positions it gets to which,
whatever its groups have matched before; for most patterns these are the ends of the stretches of
some form (`Stretch`). What one part leads to goes into what a sequence leads to (`Leads.seq`), and
with the positions that a pattern leads to it is settled whether it matches anywhere
(`isMatch_iff`).
-/

namespace FederatedSearch.Regex

variable {chars : List Char} {set : CharSet}

/-! ## Stretches -/

/-- The characters between two positions of a text are of some form. -/
def Stretch (chars : List Char) (form : List Char → Prop) (i j : Nat) : Prop :=
  ∃ taken rest, chars.drop i = taken ++ rest ∧ form taken ∧ j = i + taken.length

/-- Stretches that follow each other are a stretch. -/
theorem stretch_append_iff {first second : List Char → Prop} {i j : Nat} :
    Stretch chars (fun both => ∃ taken more, both = taken ++ more ∧ first taken ∧ second more) i j ↔
      ∃ k, Stretch chars first i k ∧ Stretch chars second k j := by
  constructor
  · rintro ⟨_, rest, cut, ⟨taken, more, rfl, here, later⟩, rfl⟩
    rw [List.append_assoc] at cut
    refine ⟨i + taken.length, ⟨taken, more ++ rest, cut, here, rfl⟩, more, rest, ?_, later, ?_⟩
    · rw [← List.drop_drop, cut, List.drop_left]
    · rw [List.length_append, Nat.add_assoc]
  · rintro ⟨_, ⟨taken, left, cut, here, rfl⟩, more, rest, further, later, rfl⟩
    rw [← List.drop_drop, cut, List.drop_left] at further
    refine ⟨taken ++ more, rest, ?_, ⟨taken, more, rfl, here, later⟩, ?_⟩
    · rw [cut, further, List.append_assoc]
    · rw [List.length_append, Nat.add_assoc]

/-- Stretches of one character. -/
theorem stretch_one_iff {form : Char → Prop} {i j : Nat} :
    Stretch chars (fun taken => ∃ c, taken = [c] ∧ form c) i j ↔
      (∃ c, chars[i]? = some c ∧ form c) ∧ j = i + 1 := by
  simp only [← List.head?_drop]
  constructor
  · rintro ⟨_, rest, cut, ⟨c, rfl, here⟩, rfl⟩
    refine ⟨⟨c, ?_, here⟩, rfl⟩
    rw [cut]
    rfl
  · rintro ⟨⟨c, first, here⟩, rfl⟩
    obtain ⟨rest, cut⟩ := List.head?_eq_some_iff.mp first
    exact ⟨[c], rest, cut, ⟨c, rfl, here⟩, rfl⟩

/-- Stretches of characters of a set: none, or a first one and more after it. -/
theorem stretch_all_iff {i j : Nat} :
    Stretch chars (∀ c ∈ ·, set.contains c = true) i j ↔
      j = i ∨ (chars.toArray[i]?).any set.contains = true ∧
        Stretch chars (∀ c ∈ ·, set.contains c = true) (i + 1) j := by
  simp only [List.getElem?_toArray, ← List.head?_drop, Stretch, ← List.tail_drop,
    Option.any_eq_true]
  constructor
  · rintro ⟨taken, rest, cut, inside, rfl⟩
    cases taken with
    | nil => exact .inl rfl
    | cons c taken =>
      obtain ⟨here, later⟩ := List.forall_mem_cons.mp inside
      refine .inr ⟨⟨c, ?_, here⟩, taken, rest, ?_, later, ?_⟩
      · rw [cut]
        rfl
      · rw [cut]
        rfl
      · rw [List.length_cons]
        omega
  · rintro (rfl | ⟨⟨c, first, here⟩, taken, rest, cut, later, rfl⟩)
    · exact ⟨[], chars.drop j, rfl, by simp, rfl⟩
    · obtain ⟨more, split⟩ := List.head?_eq_some_iff.mp first
      rw [split, List.tail_cons] at cut
      refine ⟨c :: taken, rest, ?_, List.forall_mem_cons.mpr ⟨here, later⟩, ?_⟩
      · rw [split, cut]
        rfl
      · rw [List.length_cons]
        omega

/-! ## What patterns lead to -/

/-- The positions that matches end at. -/
def positions (found : List Progress) : List Nat :=
  found.map (·.position)

/-- Keeping one entry for each position loses no position. -/
theorem mem_positions_firsts_iff {seen : List Nat} {found : List Progress} {j : Nat} :
    j ∈ positions (Progress.firsts seen found) ↔ j ∉ seen ∧ j ∈ positions found := by
  induction found generalizing seen with
  | nil => simp [Progress.firsts, positions]
  | cons p found ih =>
    simp only [positions, List.map_cons, List.mem_cons] at ih ⊢
    rw [Progress.firsts]
    split
    · rename_i known
      rw [List.contains_iff_mem] at known
      rw [ih]
      refine and_congr_right fun fresh => (or_iff_right ?_).symm
      rintro rfl
      exact fresh known
    · rename_i unknown
      rw [List.contains_iff_mem] at unknown
      rw [List.map_cons, List.mem_cons, ih, List.mem_cons, not_or]
      by_cases same : j = p.position
      · simp [same, unknown]
      · simp [same]

/-- From every position a pattern gets to certain others, whatever its groups have matched on the
way there. -/
def Pattern.Leads (text : Array Char) (ends : Nat → Nat → Prop) (pattern : Pattern) : Prop :=
  ∀ (p : Progress) (j : Nat), j ∈ positions (pattern.matches text p) ↔ ends p.position j

namespace Pattern

variable {text : Array Char} {first second : Nat → Nat → Prop} {a b : Pattern}

/-- The empty expression leads from each place to itself. -/
theorem leads_empty : Leads text (fun i j => j = i) empty := by
  intro p j
  exact List.mem_singleton

/-- An anchor leads from each place where it holds to itself. -/
theorem leads_anchor (condition : Anchor) :
    Leads text (fun i j => condition.holds text i = true ∧ j = i) (anchor condition) := by
  intro p j
  rw [Pattern.matches]
  split
  · rename_i holds
    simp [positions, holds]
  · rename_i fails
    simp [positions, fails]

/-- One character of a set leads past it. -/
theorem positions_matches_one (set : CharSet) (p : Progress) :
    positions ((one set).matches text p) =
      if (text[p.position]?).any set.contains then [p.position + 1] else [] := by
  rw [Pattern.matches]
  cases text[p.position]? with
  | none => rfl
  | some c =>
    dsimp only [Option.any_some]
    split <;> rfl

/-- A set leads past a character that it contains. -/
theorem leads_one :
    Leads text (fun i j => (text[i]?).any set.contains = true ∧ j = i + 1) (one set) := by
  intro p j
  rw [positions_matches_one]
  split
  · rename_i inside
    simp [inside]
  · rename_i outside
    simp [outside]

/-- Two parts lead where the second one leads from where the first one does. -/
theorem Leads.seq (left : Leads text first a) (right : Leads text second b) :
    Leads text (fun i j => ∃ k, first i k ∧ second k j) (seq a b) := by
  intro p j
  rw [Pattern.matches, mem_positions_firsts_iff, and_iff_right List.not_mem_nil, positions,
    List.map_flatMap, List.mem_flatMap]
  constructor
  · rintro ⟨r, between, reached⟩
    exact ⟨r.position, (left p _).mp (List.mem_map_of_mem between), (right r j).mp reached⟩
  · rintro ⟨k, between, reached⟩
    obtain ⟨r, member, rfl⟩ := List.mem_map.mp ((left p k).mpr between)
    exact ⟨r, member, (right r j).mpr reached⟩

/-! ### Repetitions of one character -/

section Rounds

variable {greedy : Bool} {origin fuel : Nat} {seen : List Nat} {p : Progress}

/-- A round that takes one character is followed by the rounds from the next position, if the
character is of the set. -/
theorem gather_matches_one {α : Type} (visit : List α → Progress → List Progress × List α)
    (known : List α) (p : Progress) :
    (gather visit known ((one set).matches text p)).1 =
      if (text[p.position]?).any set.contains then
        (visit known { p with position := p.position + 1 }).1
      else [] := by
  rw [Pattern.matches]
  cases text[p.position]? with
  | none => rfl
  | some c =>
    dsimp only [Option.any_some]
    split
    · exact List.nil_append _
    · rfl

/-- What is preferred makes no difference to which positions there are. -/
theorem mem_positions_ite {found : List Progress} {j : Nat} :
    j ∈ positions (if greedy then found ++ [p] else p :: found) ↔
      j = p.position ∨ j ∈ positions found := by
  cases greedy <;> simp [positions, or_comm]

/-- Rounds that take one character each never come to where one was begun before, so that they go on
as far as there are characters of the set. -/
theorem mem_positions_moreRounds_iff (later : origin < p.position)
    (fresh : ∀ s ∈ seen, s < p.position) (enough : chars.length < fuel + p.position) (j : Nat) :
    j ∈ positions
        (moreRounds ((one set).matches chars.toArray) greedy origin fuel seen p).1 ↔
      Stretch chars (∀ c ∈ ·, set.contains c = true) p.position j := by
  induction fuel generalizing seen p with
  | zero =>
    have beyond : chars.toArray[p.position]? = none := by
      rw [List.getElem?_toArray, List.getElem?_eq_none_iff]
      omega
    rw [moreRounds, stretch_all_iff, beyond]
    simp [positions]
  | succ fuel ih =>
    have unseen : ¬ seen.contains p.position = true := fun member =>
      Nat.lt_irrefl _ (fresh _ (List.contains_iff_mem.mp member))
    have forward : ((one set).matches chars.toArray p).filter (p.position < ·.position) =
        (one set).matches chars.toArray p := by
      rw [List.filter_eq_self]
      intro q reached
      have here := (leads_one p _).mp (List.mem_map_of_mem reached)
      exact decide_eq_true (by omega)
    -- The one round from here ends at the next position, where no round was begun.
    have fresh' : ∀ s ∈ p.position :: seen, s < p.position + 1 :=
      List.forall_mem_cons.mpr
        ⟨Nat.lt_succ_self _, fun s member => Nat.lt_succ_of_lt (fresh s member)⟩
    have enough' : chars.length < fuel + (p.position + 1) := by omega
    rw [moreRounds, if_neg unseen, if_neg (Nat.ne_of_gt later), forward]
    dsimp only
    rw [mem_positions_ite, gather_matches_one, stretch_all_iff]
    refine or_congr_right ?_
    split
    · rename_i inside
      rw [and_iff_right inside]
      exact ih (Nat.lt_succ_of_lt later) fresh' enough'
    · rename_i outside
      exact iff_of_false List.not_mem_nil fun both => outside both.1

/-- Any number of characters of a set leads to the ends of all stretches of such characters. -/
theorem leads_rounds_one (greedy : Bool) :
    Leads chars.toArray (Stretch chars (∀ c ∈ ·, set.contains c = true))
      (rounds (one set) 0 none greedy) := by
  intro p j
  rw [Pattern.matches, mem_positions_firsts_iff, and_iff_right List.not_mem_nil]
  dsimp only
  rw [if_pos rfl, mem_positions_ite, someRounds, gather_matches_one, stretch_all_iff]
  refine or_congr_right ?_
  split
  · rename_i inside
    rw [and_iff_right inside]
    refine mem_positions_moreRounds_iff (Nat.lt_succ_self _) (by simp) ?_ j
    rw [List.size_toArray]
    dsimp only
    omega
  · rename_i outside
    exact iff_of_false List.not_mem_nil fun both => outside both.1

end Rounds

end Pattern

/-! ## Matching anywhere -/

/-- A search finds a match exactly when one starts at one of the positions that it tries. -/
theorem isSome_findFrom?_iff {pattern : Pattern} {text : Array Char} {start tries : Nat} :
    (findFrom? pattern text start tries).isSome = true ↔
      ∃ i, start ≤ i ∧ i < start + tries ∧ (matchAt? pattern text i).isSome = true := by
  induction tries generalizing start with
  | zero =>
    simp only [findFrom?, Option.isSome_none, Bool.false_eq_true, false_iff]
    rintro ⟨i, low, high, _⟩
    omega
  | succ tries ih =>
    rw [findFrom?]
    cases here : matchAt? pattern text start with
    | some p => exact iff_of_true rfl ⟨start, Nat.le_refl _, by omega, by rw [here]; rfl⟩
    | none =>
      simp only [ih]
      constructor
      · rintro ⟨i, low, high, found⟩
        exact ⟨i, by omega, by omega, found⟩
      · rintro ⟨i, low, high, found⟩
        have later : i ≠ start := by
          rintro rfl
          rw [here] at found
          cases found
        exact ⟨i, by omega, by omega, found⟩

/-- A pattern matches anywhere in a text exactly when it leads from some position to another. -/
theorem isMatch_iff {regex : Regex} {text : String} {ends : Nat → Nat → Prop}
    (leads : regex.pattern.Leads text.toList.toArray ends) :
    regex.isMatch text = true ↔ ∃ i, i ≤ text.toList.length ∧ ∃ j, ends i j := by
  have starts : ∀ i, (matchAt? regex.pattern text.toList.toArray i).isSome = true ↔
      ∃ j, ends i j := by
    intro i
    rw [matchAt?, List.isSome_head?]
    constructor
    · intro found
      obtain ⟨q, reached⟩ := List.exists_mem_of_ne_nil _ found
      exact ⟨q.position, (leads ⟨i, []⟩ _).mp (List.mem_map_of_mem reached)⟩
    · rintro ⟨j, reached⟩
      obtain ⟨q, member, _⟩ := List.mem_map.mp ((leads ⟨i, []⟩ j).mpr reached)
      exact List.ne_nil_of_mem member
  simp only [Regex.isMatch, find?, isSome_findFrom?_iff, starts, List.size_toArray]
  refine exists_congr fun i => ?_
  constructor
  · rintro ⟨_, high, reached⟩
    exact ⟨by omega, reached⟩
  · rintro ⟨high, reached⟩
    exact ⟨Nat.zero_le _, by omega, reached⟩

end FederatedSearch.Regex
