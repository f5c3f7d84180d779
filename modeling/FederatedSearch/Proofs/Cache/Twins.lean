import FederatedSearch.Proofs.Cache.Lexing
import FederatedSearch.Query.Syntax

/-!
# Tokens of texts with one key

Texts that are the same up to timestamps of the same ten minutes are cut in the same places, and
their tokens are the same up to such timestamps in strings and names. Where tokens differ, a
timestamp stands in them that rounding changes (`twins_of_cut`), so that texts with one key that
have such timestamps in the bounds of time ranges only differ in these bounds only
(`agree_of_cacheKey_eq`).
-/

namespace FederatedSearch

/-- Two lists of characters that are the same up to timestamps of the same ten minutes. -/
abbrev Twins : List Char → List Char → Prop :=
  CacheKey.SameWindows (fun _ => True) CacheKey.Over

/-- Two texts that are the same up to timestamps of the same ten minutes. -/
def TwinTexts (s t : String) : Prop :=
  Twins s.toList t.toList

/-- Each text is a twin of itself. -/
theorem TwinTexts.refl (s : String) : TwinTexts s s := by
  have keep (x : List Char) : Twins x x := by
    induction x with
    | nil => exact .ends ⟨rfl, rfl⟩
    | cons c x ih => exact .keep c ih
  exact keep s.toList

/-- Two texts that are the same up to timestamps of the same ten minutes, and the same at all under
some condition. -/
def TwinTextsUnder (strict : Prop) (s t : String) : Prop :=
  TwinTexts s t ∧ (strict → s = t)

namespace CacheKey

section SameWindows

variable {inside : List Char → Prop} {ends : List Char → List Char → Prop} {x y : List Char}
  {d : Char}

/-- Which of two texts comes first does not matter, but for where timestamps may differ. -/
theorem SameWindows.symm (same : SameWindows inside ends x y) :
    SameWindows (fun _ => True) (fun y x => ends x y) y x := by
  induction same with
  | ends both => exact .ends both
  | keep c _ ih => exact .keep c ih
  | stamp _ first second window _ ih => exact .stamp trivial second first window.symm ih

/-- A text starts with a character that is no digit when the other does. -/
theorem SameWindows.exists_cons (same : SameWindows inside ends (d :: x) y)
    (other : Text.isDigit d = false) (further : ¬ ends (d :: x) y) :
    ∃ y', y = d :: y' ∧ SameWindows inside ends x y' := by
  generalize whole : d :: x = z at same
  cases same with
  | ends both => exact absurd (whole ▸ both) further
  | keep c rest =>
    cases whole
    exact ⟨_, rfl, rest⟩
  | stamp _ first second window rest =>
    obtain ⟨c, w, rfl, digit⟩ := Lexer.exists_cons_of_timestamp first
    cases whole
    rw [digit] at other
    cases other

/-- Texts that are the same up to timestamps are made of pairs of timestamps and of characters, as
far as strings tell them apart: a backslash takes the next character with it, and some characters
count as one when they are doubled. -/
theorem SameWindows.escapes_induction (doubled : Char → Prop)
    (plain : ∀ q, doubled q → Text.isDigit q = false ∧
      ∀ x y, ¬ ends (q :: x) y ∧ ¬ ends x (q :: y))
    {motive : ∀ {x y : List Char}, SameWindows inside ends x y → Prop}
    (finish : ∀ {x y} (both : ends x y), motive (.ends both))
    (stamp : ∀ {v w x y} (place : inside (v ++ x)) (first : Timestamp v) (second : Timestamp w)
      (window : v.take keptLength = w.take keptLength) (rest : SameWindows inside ends x y),
      motive rest → motive (.stamp place first second window rest))
    (escapeFinish : ∀ {x y} (both : ends x y), motive (.keep '\\' (.ends both)))
    (escape : ∀ (c : Char) {x y} (rest : SameWindows inside ends x y), motive rest →
      motive (.keep '\\' (.keep c rest)))
    (escapeStamp : ∀ {v w x y} (place : inside (v ++ x)) (first : Timestamp v)
      (second : Timestamp w) (window : v.take keptLength = w.take keptLength)
      (rest : SameWindows inside ends x y), motive rest →
        motive (.keep '\\' (.stamp place first second window rest)))
    (double : ∀ (q : Char) {x y} (rest : SameWindows inside ends x y), doubled q → motive rest →
      motive (.keep q (.keep q rest)))
    (keep : ∀ (c : Char) {x y} (rest : SameWindows inside ends x y), c ≠ '\\' →
      (doubled c → ∀ z, x ≠ c :: z ∧ y ≠ c :: z) → motive rest → motive (.keep c rest))
    {x y : List Char} (same : SameWindows inside ends x y) : motive same := by
  induction hn : x.length using Nat.strongRecOn generalizing x y with
  | _ n ih =>
    subst hn
    have longer {v x : List Char} (stamp : Timestamp v) : x.length < (v ++ x).length := by
      rw [List.length_append, stamp.length_eq]
      exact Nat.lt_add_of_pos_left (by decide)
    cases same with
    | ends both => exact finish both
    | stamp place first second window rest =>
      exact stamp place first second window rest (ih _ (longer first) rest rfl)
    | @keep c x y rest =>
      by_cases backslash : c = '\\'
      · subst backslash
        cases rest with
        | ends both => exact escapeFinish both
        | keep d rest =>
          refine escape d rest (ih _ ?_ rest rfl)
          simp only [List.length_cons]
          omega
        | stamp place first second window rest =>
          exact escapeStamp place first second window rest
            (ih _ ((longer first).trans (Nat.lt_succ_self _)) rest rfl)
      · by_cases pair : doubled c ∧ ∃ z, x = c :: z
        · obtain ⟨twice, z, rfl⟩ := pair
          obtain ⟨z', rfl, further⟩ :=
            rest.exists_cons (plain c twice).1 ((plain c twice).2 _ _).1
          refine double c further twice (ih _ ?_ further rfl)
          simp only [List.length_cons]
          omega
        · refine keep c rest backslash (fun twice z => ?_) (ih _ (Nat.lt_succ_self _) rest rfl)
          have single : x ≠ c :: z := fun here => pair ⟨twice, z, here⟩
          refine ⟨single, ?_⟩
          rintro rfl
          obtain ⟨z', here, _⟩ :=
            rest.symm.exists_cons (plain c twice).1 ((plain c twice).2 _ _).2
          exact pair ⟨twice, z', here⟩

end SameWindows

end CacheKey

namespace Lexer

open CacheKey (Timestamp SameWindows Over)

/-! ## Texts with one key -/

/-- Nothing but white space is left of two texts. -/
def Blank (x y : List Char) : Prop :=
  (∀ c ∈ x, Text.isWhitespace c = true) ∧ ∀ c ∈ y, Text.isWhitespace c = true

/-- Two texts are the same up to timestamps of the same ten minutes in some places, and white space
at their ends. -/
abbrev Kin (inside : List Char → Prop) : List Char → List Char → Prop :=
  SameWindows inside Blank

/-- One of the places is in a text before the given rest of it. -/
def Holds (inside : List Char → Prop) (x rest : List Char) : Prop :=
  ∃ z, z <:+ x ∧ rest.length < z.length ∧ inside z

section Kin

variable {inside : List Char → Prop} {x y r r' : List Char} {d : Char}

/-- A place that is in a text is in every text with that end, before any shorter rest. -/
theorem Holds.later {after rest : List Char} (holds : Holds inside x rest) (later : x <:+ y)
    (shorter : after.length ≤ rest.length) : Holds inside y after := by
  obtain ⟨z, inner, longer, place⟩ := holds
  exact ⟨z, inner.trans later, shorter.trans_lt longer, place⟩

/-- Where two texts part for the first time, one timestamp meets another, or white space is
left. -/
inductive Parting : List Char → List Char → Prop
  | blank {x y : List Char} (both : Blank x y) : Parting x y
  | stamp {v w x y : List Char} (first : Timestamp v) (second : Timestamp w)
    (window : v.take CacheKey.keptLength = w.take CacheKey.keptLength) : Parting (v ++ x) (w ++ y)

/-- Two texts go on alike up to where they part. -/
theorem Kin.exists_parting (kin : Kin inside x y) :
    ∃ l r r', x = l ++ r ∧ y = l ++ r' ∧ Parting r r' ∧ Kin inside r r' := by
  induction kin with
  | ends both => exact ⟨[], _, _, rfl, rfl, .blank both, .ends both⟩
  | keep c _ ih =>
    obtain ⟨l, r, r', rfl, rfl, parting, rest⟩ := ih
    exact ⟨c :: l, r, r', rfl, rfl, parting, rest⟩
  | stamp place first second window rest =>
    exact ⟨[], _, _, rfl, rfl, .stamp first second window, .stamp place first second window rest⟩

/-- The same characters may be put before two texts. -/
theorem Kin.prepend (kin : Kin inside r r') (l : List Char) : Kin inside (l ++ r) (l ++ r') := by
  induction l with
  | nil => exact kin
  | cons c l ih => exact .keep c ih

/-- Two texts go on with the same characters where they part. -/
theorem Parting.peek_eq (parting : Parting r r') (l : List Char) :
    peek (l ++ r) = peek (l ++ r') := by
  cases parting with
  | blank both =>
    have none {x : List Char} (all : ∀ c ∈ x, Text.isWhitespace c = true) (n : Nat) :
        (x.take n).takeWhile (fun c => !Text.isWhitespace c) = [] := by
      cases x with
      | nil => simp
      | cons c x =>
        have white := all c (List.mem_cons_self ..)
        cases n <;> simp [white]
    unfold peek
    match l with
    | [] => exact (none both.1 2).trans (none both.2 2).symm
    | [c] =>
      have left := none both.1 1
      have right := none both.2 1
      simp only [List.cons_append, List.nil_append, List.take_succ_cons, List.takeWhile_cons, left,
        right]
    | c :: d :: l => simp
  | @stamp v w x y first second window =>
    have two : (v ++ x).take 2 = (w ++ y).take 2 := by
      have both := congrArg (List.take 2) window
      rw [List.take_take, List.take_take] at both
      have long {u : List Char} (stamp : Timestamp u) : 2 ≤ u.length := by
        rw [stamp.length_eq]
        decide
      rw [List.take_append_of_le_length (long first), List.take_append_of_le_length (long second)]
      exact both
    unfold peek
    match l with
    | [] => rw [List.nil_append, List.nil_append, two]
    | [c] =>
      have one := congrArg (List.take 1) two
      rw [List.take_take, List.take_take] at one
      simp only [List.cons_append, List.nil_append, List.take_succ_cons]
      rw [show List.take 1 (v ++ x) = List.take 1 (w ++ y) from one]
    | c :: d :: l => simp

/-- Of texts with one key the same bare token is cut off. -/
theorem kin_of_cutsBare {c : Char} {ts : List Token} (kin : Kin inside x y)
    (bare : CutsBare (cut c) c x) (lexes : Lexes (c :: x) ts) :
    (cut c y).token = (cut c x).token ∧ Kin inside (cut c x).rest (cut c y).rest := by
  obtain ⟨p, r, r', rfl, rfl, parting, back⟩ := kin.exists_parting
  obtain ⟨l, split, bares, settled⟩ := bare
  -- The token ends before the texts part: past that there is white space or a timestamp.
  have inside : ∃ a, p = l ++ a ∧ (cut c (p ++ r)).rest = a ++ r := by
    rcases List.append_eq_append_iff.mp split with ⟨a, longer, tail⟩ | ⟨a, shorter, tail⟩
    · cases a with
      | nil => exact ⟨[], by simpa using longer.symm, tail.symm⟩
      | cons e a =>
        exfalso
        have member : e ∈ l := longer ▸ List.mem_append_right _ (List.mem_cons_self ..)
        cases parting with
        | blank both =>
          have white := both.1 e (tail ▸ List.mem_cons_self ..)
          rw [(bares e (List.mem_cons_of_mem _ member)).2.2.2.2] at white
          cases white
        | stamp first second window =>
          refine not_lexes_timestamp (u := c :: p) (fun d early => ?_) first lexes
          have known : IsBare d := by
            rcases List.mem_cons.mp early with rfl | later
            · exact bares d (List.mem_cons_self ..)
            · exact bares d (List.mem_cons_of_mem _ (longer ▸ List.mem_append_left _ later))
          simpa using ⟨known.1, known.2.1, known.2.2.1⟩
    · exact ⟨a, shorter, tail⟩
  obtain ⟨a, rfl, rest⟩ := inside
  have same : peek (a ++ r') = peek (cut c (l ++ a ++ r)).rest := by
    rw [rest]
    exact (parting.peek_eq a).symm
  obtain ⟨token, rest'⟩ := settled (a ++ r') same
  rw [← List.append_assoc] at token rest'
  rw [rest, rest']
  exact ⟨token, back.prepend a⟩

end Kin

/-! ### Strings -/

/-- Some characters go into a string as they are, whatever follows them. -/
def Taken (quote : Char) (u : List Char) : Prop :=
  ∀ x, spanString quote (u ++ x) =
    (spanString quote x).map fun (raw, after) => (u ++ raw, after)

/-- If one text goes on with the end of a string, then the other does so too, and the strings are
the same up to timestamps of the same ten minutes in some places. -/
def SpansAlike (inside : List Char → Prop) (quote : Char) (x y : List Char) : Prop :=
  ∀ raw rest, spanString quote x = some (raw, rest) → ∃ raw' rest',
    spanString quote y = some (raw', rest') ∧ Twins raw raw' ∧
      (raw = raw' ∨ Holds inside x rest) ∧ Kin inside rest rest'

section Strings

variable {inside : List Char → Prop} {quote c : Char} {u v w x y : List Char}

/-- Characters that go into a string one after the other go into it together. -/
theorem Taken.append (first : Taken quote u) (second : Taken quote v) : Taken quote (u ++ v) := by
  intro x
  rw [List.append_assoc, first, second, Option.map_map]
  congr 1
  funext ⟨raw, after⟩
  simp

/-- A character that is neither the quote nor a backslash goes into a string. -/
theorem taken_plain (plain : c ≠ quote) (unescaped : c ≠ '\\') : Taken quote [c] := by
  intro x
  cases x with
  | nil => simp [spanString, plain]
  | cons d x => simp [spanString, plain]

/-- A backslash takes the next character with it. -/
theorem taken_escape (quote c : Char) : Taken quote ['\\', c] := by
  intro x
  rw [List.cons_append, List.cons_append, List.nil_append, spanString]
  rfl

/-- Two quotes do not end the string. -/
theorem taken_double (escape : quote ≠ '\\') : Taken quote [quote, quote] := by
  intro x
  simp [spanString]

/-- Characters without quotes and backslashes go into a string. -/
theorem taken_of_forall (plain : ∀ c ∈ u, c ≠ quote ∧ c ≠ '\\') : Taken quote u := by
  induction u with
  | nil =>
    intro x
    simp
  | cons c u ih =>
    have first := plain c (List.mem_cons_self ..)
    have others := ih fun d member => plain d (List.mem_cons_of_mem _ member)
    exact (taken_plain first.1 first.2).append others

/-- A quote that no other follows ends the string. -/
theorem spanString_quote (escape : quote ≠ '\\') (single : ∀ z, x ≠ quote :: z) :
    spanString quote (quote :: x) = some ([], x) := by
  cases x with
  | nil => simp [spanString]
  | cons d x =>
    have other : d ≠ quote := by
      rintro rfl
      exact single x rfl
    simp [spanString, other]

/-- What follows a string is shorter than the text. -/
theorem length_of_spanString {raw rest : List Char}
    (spanned : spanString quote x = some (raw, rest)) : rest.length < x.length := by
  have inner {after raw rest : List Char} {n : Nat} {f : List Char × List Char → List Char}
      (ih : ∀ {raw rest}, spanString quote after = some (raw, rest) → rest.length < after.length)
      (spanned : (spanString quote after).map (fun p => (f p, p.2)) = some (raw, rest))
      (longer : after.length ≤ n) : rest.length < n := by
    obtain ⟨⟨raw', rest'⟩, found, same⟩ := Option.map_eq_some_iff.mp spanned
    cases same
    exact (ih found).trans_le longer
  induction x using spanString.induct quote generalizing raw rest with
  | case1 => cases spanned
  | case2 => cases spanned
  | case3 c x ih =>
    rw [spanString] at spanned
    exact inner ih spanned (Nat.le_add_right _ 2)
  | case4 =>
    simp [spanString] at spanned
    simp [← spanned.2]
  | case5 c _ other => simp [spanString, other] at spanned
  | case6 x escape ih =>
    simp only [spanString, if_true] at spanned
    exact inner ih spanned (Nat.le_add_right _ 2)
  | case7 d x other escape =>
    simp [spanString, other] at spanned
    simp [← spanned.2]
  | case8 c d x escape other ih =>
    simp only [spanString, other, if_false] at spanned
    exact inner ih spanned (Nat.le_succ _)

/-- What both strings take keeps them alike. -/
theorem SpansAlike.carry (alike : SpansAlike inside quote x y) (left : Taken quote u)
    (right : Taken quote v) (places : u = v ∨ Holds inside (u ++ x) x)
    (windows : ∀ {raw raw' : List Char}, Twins raw raw' → Twins (u ++ raw) (v ++ raw')) :
    SpansAlike inside quote (u ++ x) (v ++ y) := by
  intro raw rest spanned
  rw [left] at spanned
  obtain ⟨⟨raw₁, rest₁⟩, inner, same⟩ := Option.map_eq_some_iff.mp spanned
  cases same
  obtain ⟨raw', rest', found, twins, differ, back⟩ := alike raw₁ rest inner
  refine ⟨v ++ raw', rest', ?_, windows twins, ?_, back⟩
  · rw [right, found]
    rfl
  · rcases places with rfl | holds
    · rcases differ with rfl | holds
      · exact .inl rfl
      · exact .inr (holds.later (List.suffix_append ..) (Nat.le_refl _))
    · exact .inr (holds.later (List.suffix_refl _) (length_of_spanString inner).le)

/-- The quotes of strings are neither digits nor white space, and are not escaped by one another. -/
theorem quote_facts (known : quote ∈ ['\'', '"']) :
    quote ≠ '\\' ∧ Text.isWhitespace quote = false ∧ Text.isDigit quote = false := by
  simp only [List.mem_cons, List.not_mem_nil, or_false] at known
  rcases known with rfl | rfl
  · decide
  · decide

/-- A string takes a timestamp in, also after a backslash. -/
theorem taken_timestamp (known : quote ∈ ['\'', '"']) (stamp : Timestamp w) :
    Taken quote w ∧ Taken quote ('\\' :: w) := by
  have free : ∀ c ∈ w, c ≠ quote ∧ c ≠ '\\' := by
    intro c member
    have plain := plain_of_mem_timestamp stamp member
    constructor
    · rintro rfl
      simp only [List.mem_cons, List.not_mem_nil, or_false] at known plain
      tauto
    · rintro rfl
      simp at plain
  refine ⟨taken_of_forall free, ?_⟩
  obtain ⟨c, w, rfl, _⟩ := exists_cons_of_timestamp stamp
  have others : Taken quote w :=
    taken_of_forall fun d member => free d (List.mem_cons_of_mem _ member)
  exact (taken_escape quote c).append others

/-- The place of a timestamp that is cut off is in the text before the rest. -/
theorem holds_timestamp (stamp : Timestamp v) (place : inside (v ++ x)) (later : v ++ x <:+ y) :
    Holds inside y x := by
  refine ⟨v ++ x, later, ?_, place⟩
  rw [List.length_append, stamp.length_eq]
  exact Nat.lt_add_of_pos_left (by decide)

/-- White space does not end a string. -/
theorem spanString_blank (known : quote ∈ ['\'', '"'])
    (all : ∀ c ∈ x, Text.isWhitespace c = true) : spanString quote x = none := by
  have plain : ∀ c ∈ x, c ≠ quote ∧ c ≠ '\\' := by
    intro c member
    have white := all c member
    constructor
    · rintro rfl
      rw [(quote_facts known).2.1] at white
      cases white
    · rintro rfl
      exact absurd white (by decide)
  have none := taken_of_forall plain []
  rwa [List.append_nil] at none

/-- A string that does not end puts no condition on the other text. -/
theorem spansAlike_of_none (none : spanString quote x = none) :
    SpansAlike inside quote x y := by
  intro raw rest spanned
  rw [none] at spanned
  cases spanned

/-- Of texts with one key strings are cut off that are the same up to timestamps of the same ten
minutes. -/
theorem spansAlike_of_kin (known : quote ∈ ['\'', '"']) (kin : Kin inside x y) :
    SpansAlike inside quote x y := by
  obtain ⟨escape, black, undigit⟩ := quote_facts known
  have plain : ∀ q, q = quote → Text.isDigit q = false ∧
      ∀ x y, ¬ Blank (q :: x) y ∧ ¬ Blank x (q :: y) := by
    rintro q rfl
    refine ⟨undigit, fun x y => ⟨fun both => ?_, fun both => ?_⟩⟩
    · exact absurd (both.1 q (List.mem_cons_self ..)) (by simp [black])
    · exact absurd (both.2 q (List.mem_cons_self ..)) (by simp [black])
  induction kin using SameWindows.escapes_induction (· = quote) plain with
  | finish both => exact spansAlike_of_none (spanString_blank known both.1)
  | @stamp v w x y place first second window rest ih =>
    exact ih.carry (taken_timestamp known first).1 (taken_timestamp known second).1
      (.inr (holds_timestamp first place (List.suffix_refl _)))
      (.stamp trivial first second window)
  | @escapeFinish x y both =>
    refine spansAlike_of_none ?_
    cases x with
    | nil => rfl
    | cons d x =>
      have others := spanString_blank (x := x) known fun e member =>
        both.1 e (List.mem_cons_of_mem _ member)
      have taken := taken_escape quote d x
      rwa [others] at taken
  | escape d rest ih =>
    exact ih.carry (taken_escape quote d) (taken_escape quote d) (.inl rfl)
      fun windows => .keep _ (.keep _ windows)
  | escapeStamp place first second window rest ih =>
    exact ih.carry (taken_timestamp known first).2 (taken_timestamp known second).2
      (.inr (holds_timestamp first place (List.suffix_cons ..)))
      fun windows => .keep _ (.stamp trivial first second window windows)
  | double q rest closing ih =>
    subst closing
    exact ih.carry (taken_double escape) (taken_double escape) (.inl rfl)
      fun windows => .keep _ (.keep _ windows)
  | @keep c x y rest unescaped single ih =>
    by_cases closing : c = quote
    · subst closing
      intro raw after spanned
      rw [spanString_quote escape fun z => (single rfl z).1] at spanned
      cases spanned
      exact ⟨[], y, spanString_quote escape fun z => (single rfl z).2, .ends ⟨rfl, rfl⟩, .inl rfl,
        rest⟩
    · have taken : Taken quote [c] := taken_plain closing unescaped
      exact ih.carry taken taken (.inl rfl) (.keep c)

end Strings

/-! ### Quoted names -/

section QuotedNames

variable {inside : List Char → Prop} {n x y rest : List Char}

/-- A quoted name ends at the next of its quotes. -/
theorem cutQuotedName_append (free : nameQuote ∉ n) (rest : List Char) :
    (cutQuotedName (n ++ nameQuote :: rest)).token = .identifier (String.ofList n) ∧
      (cutQuotedName (n ++ nameQuote :: rest)).rest = rest := by
  have all : ∀ c ∈ n, (c != nameQuote) = true := by
    intro c member
    rw [bne_iff_ne]
    rintro rfl
    exact free member
  have name : (n ++ nameQuote :: rest).takeWhile (· != nameQuote) = n := by
    rw [List.takeWhile_append_of_pos all]
    simp
  have ends : (n ++ nameQuote :: rest).dropWhile (· != nameQuote) = nameQuote :: rest := by
    rw [List.dropWhile_append_of_pos all]
    simp
  simp only [cutQuotedName, name, ends, and_self]

/-- A quoted name goes on to the next quote of its kind. -/
theorem exists_of_cutQuotedName (legal : (cutQuotedName x).token ≠ .illegal) :
    ∃ n rest, x = n ++ nameQuote :: rest ∧ nameQuote ∉ n := by
  cases ends : x.dropWhile (· != nameQuote) with
  | nil =>
    refine absurd ?_ legal
    simp only [cutQuotedName, ends]
  | cons c rest =>
    have quote : c = nameQuote := by
      have stops := List.head?_dropWhile_not (· != nameQuote) x
      rw [ends] at stops
      simpa using stops
    subst quote
    refine ⟨x.takeWhile (· != nameQuote), rest, ?_, fun member => ?_⟩
    · rw [← ends, List.takeWhile_append_dropWhile]
    · have other := List.mem_takeWhile_imp member
      simp at other

/-- Of texts with one key quoted names are cut off that are the same up to timestamps of the same
ten minutes. -/
theorem exists_name_of_kin (kin : Kin inside x y) (whole : x = n ++ nameQuote :: rest)
    (free : nameQuote ∉ n) : ∃ n' rest', y = n' ++ nameQuote :: rest' ∧ nameQuote ∉ n' ∧
      Twins n n' ∧ (n = n' ∨ Holds inside x rest) ∧ Kin inside rest rest' := by
  induction kin generalizing n with
  | ends both =>
    have white := both.1 nameQuote (by simp [whole])
    exact absurd white (by decide)
  | keep c back ih =>
    cases n with
    | nil =>
      cases whole
      exact ⟨[], _, rfl, free, .ends ⟨rfl, rfl⟩, .inl rfl, back⟩
    | cons d n =>
      obtain ⟨rfl, others⟩ := List.cons.inj whole
      rw [List.mem_cons, not_or] at free
      obtain ⟨n', rest', rfl, free', twins, differ, further⟩ := ih others free.2
      refine ⟨c :: n', rest', rfl, ?_, .keep c twins, ?_, further⟩
      · rw [List.mem_cons, not_or]
        exact ⟨free.1, free'⟩
      · rcases differ with rfl | holds
        · exact .inl rfl
        · exact .inr (holds.later (List.suffix_cons ..) (Nat.le_refl _))
  | @stamp v w x y place first second window back ih =>
    have unquoted {u : List Char} (stamp : Timestamp u) : nameQuote ∉ u :=
      fun member => plain_of_mem_timestamp stamp member (by simp)
    -- The timestamp is a part of the name.
    have inner : ∃ a, n = v ++ a ∧ x = a ++ nameQuote :: rest := by
      rcases List.append_eq_append_iff.mp whole with ⟨a, longer, tail⟩ | ⟨a, shorter, tail⟩
      · exact ⟨a, longer, tail⟩
      · cases a with
        | nil => exact ⟨[], by simpa using shorter.symm, tail.symm⟩
        | cons e a =>
          obtain ⟨rfl, _⟩ := List.cons.inj tail
          exact absurd (shorter ▸ List.mem_append_right _ (List.mem_cons_self ..)) (unquoted first)
    obtain ⟨a, rfl, tail⟩ := inner
    rw [List.mem_append, not_or] at free
    obtain ⟨n', rest', rfl, free', twins, _, further⟩ := ih tail free.2
    refine ⟨w ++ n', rest', (List.append_assoc ..).symm, ?_,
      .stamp trivial first second window twins, .inr ⟨_, List.suffix_refl _, ?_, place⟩, further⟩
    · rw [List.mem_append, not_or]
      exact ⟨unquoted second, free'⟩
    · rw [tail]
      simp only [List.length_append, List.length_cons]
      omega

end QuotedNames

end Lexer

/-! ## Tokens -/

/-- Two tokens that are the same up to texts in strings and names. -/
inductive TokensAlike (texts : String → String → Prop) : Token → Token → Prop
  | same (t : Token) : TokensAlike texts t t
  | string {raw raw' : String} (alike : texts raw raw') :
    TokensAlike texts (.string raw) (.string raw')
  | identifier {n n' : String} (alike : texts n n') :
    TokensAlike texts (.identifier n) (.identifier n')

namespace Lexer

open CacheKey (Timestamp SameWindows Over)

section Tokens

variable {inside : List Char → Prop} {c : Char} {x y : List Char} {ts ts' : List Token}

/-- A quote starts a string. -/
theorem cut_of_quote (quote : c ∈ ['\'', '"']) : cut c x = cutString c x := by
  simp only [List.mem_cons, List.not_mem_nil, or_false] at quote
  rcases quote with rfl | rfl
  · rfl
  · rfl

/-- The quote of names starts a name. -/
theorem cut_nameQuote : cut nameQuote x = cutQuotedName x :=
  rfl

/-- Of texts with one key tokens are cut off that are the same up to timestamps of the same ten
minutes, and the same at all if none of these is in a place where the texts may differ. -/
theorem twins_of_cut (kin : Kin inside x y) (black : Text.isWhitespace c = false)
    (legal : (cut c x).token ≠ .illegal) (lexes : Lexes (c :: x) ts) :
    TokensAlike TwinTexts (cut c x).token (cut c y).token ∧
      ((cut c x).token = (cut c y).token ∨ Holds inside x (cut c x).rest) ∧
        Kin inside (cut c x).rest (cut c y).rest := by
  by_cases quote : c ∈ ['\'', '"']
  · rw [cut_of_quote quote] at legal ⊢
    rw [cut_of_quote quote]
    cases spanned : spanString c x with
    | none => exact absurd (by rw [cutString, spanned]) legal
    | some span =>
      obtain ⟨raw, rest⟩ := span
      obtain ⟨raw', rest', spanned', windows, differ, further⟩ :=
        spansAlike_of_kin quote kin raw rest spanned
      have twins : TwinTexts (String.ofList raw) (String.ofList raw') := by
        rwa [TwinTexts, String.toList_ofList, String.toList_ofList]
      simp only [cutString, spanned, spanned']
      exact ⟨.string twins, differ.imp_left fun same => by rw [same], further⟩
  · by_cases nameQuoted : c = nameQuote
    · rw [nameQuoted, cut_nameQuote] at legal ⊢
      rw [cut_nameQuote]
      obtain ⟨n, rest, rfl, free⟩ := exists_of_cutQuotedName legal
      obtain ⟨n', rest', rfl, free', windows, differ, further⟩ := exists_name_of_kin kin rfl free
      obtain ⟨token, others⟩ := cutQuotedName_append free rest
      obtain ⟨token', others'⟩ := cutQuotedName_append free' rest'
      have twins : TwinTexts (String.ofList n) (String.ofList n') := by
        rwa [TwinTexts, String.toList_ofList, String.toList_ofList]
      rw [token, token', others, others']
      exact ⟨.identifier twins, differ.imp_left fun same => by rw [same], further⟩
    · have plain : c ∉ ['\'', '"', nameQuote] := by
        simp only [List.mem_cons, List.not_mem_nil, or_false, not_or] at quote ⊢
        exact ⟨quote.1, quote.2, nameQuoted⟩
      obtain ⟨token, further⟩ := kin_of_cutsBare kin (cutsBare_cut black plain legal) lexes
      rw [token]
      exact ⟨.same _, .inl rfl, further⟩

/-- White space holds no tokens. -/
theorem Lexes.of_blank (lexes : Lexes x ts) (all : ∀ c ∈ x, Text.isWhitespace c = true) :
    ts = [] := by
  induction lexes with
  | done => rfl
  | blank white others ih => exact ih fun c member => all c (List.mem_cons_of_mem _ member)
  | token black legal others ih =>
    rw [all _ (List.mem_cons_self ..)] at black
    cases black

/-- No token starts with a timestamp, so that texts with one key start with the same character. -/
theorem Lexes.blank_or_keep (lexes : Lexes (c :: x) ts) (kin : Kin inside (c :: x) y) :
    Blank (c :: x) y ∨ ∃ y', y = c :: y' ∧ Kin inside x y' := by
  generalize whole : c :: x = z at kin
  cases kin with
  | ends both => exact .inl (whole ▸ both)
  | keep d back =>
    cases whole
    exact .inr ⟨_, rfl, back⟩
  | stamp _ first second window back =>
    rw [whole] at lexes
    exact absurd lexes (not_lexes_timestamp (u := []) (by simp) first)

/-- What follows a token is no longer than the text. -/
theorem length_of_cut (black : Text.isWhitespace c = false) (legal : (cut c x).token ≠ .illegal) :
    (cut c x).rest.length ≤ x.length := by
  by_cases quote : c ∈ ['\'', '"']
  · rw [cut_of_quote quote] at legal ⊢
    cases spanned : spanString c x with
    | none => exact absurd (by rw [cutString, spanned]) legal
    | some span =>
      simp only [cutString, spanned]
      exact (length_of_spanString spanned).le
  · by_cases nameQuoted : c = nameQuote
    · rw [nameQuoted, cut_nameQuote] at legal ⊢
      obtain ⟨n, rest, rfl, free⟩ := exists_of_cutQuotedName legal
      rw [(cutQuotedName_append free rest).2, List.length_append, List.length_cons]
      omega
    · have plain : c ∉ ['\'', '"', nameQuote] := by
        simp only [List.mem_cons, List.not_mem_nil, or_false, not_or] at quote ⊢
        exact ⟨quote.1, quote.2, nameQuoted⟩
      obtain ⟨l, split, _⟩ := cutsBare_cut black plain legal
      have length := congrArg List.length split
      rw [List.length_append] at length
      omega

/-- The tokens of a text are what it is cut into, when none of them is illegal. -/
theorem lexes_tokensFrom {fuel start : Nat} (enough : x.length ≤ fuel)
    (legal : ∀ t ∈ tokensFrom fuel start x, t.token ≠ .illegal) :
    Lexes x ((tokensFrom fuel start x).map PlacedToken.token) := by
  induction fuel generalizing x start with
  | zero =>
    cases List.length_eq_zero_iff.mp (Nat.le_zero.mp enough)
    exact .done
  | succ fuel ih =>
    cases x with
    | nil => exact .done
    | cons c x =>
      have others : x.length ≤ fuel := Nat.le_of_succ_le_succ enough
      rw [tokensFrom] at legal ⊢
      split
      · rename_i white
        rw [if_pos white] at legal
        exact .blank white (ih others legal)
      · rename_i black
        rw [if_neg black] at legal
        have black : Text.isWhitespace c = false := by simpa using black
        have first := legal _ (List.mem_cons_self ..)
        exact .token black first (ih ((length_of_cut black first).trans others)
          fun t member => legal t (List.mem_cons_of_mem _ member))

/-- White space at the front makes no token. -/
theorem Lexes.dropWhile (lexes : Lexes x ts) : Lexes (x.dropWhile Text.isWhitespace) ts := by
  induction lexes with
  | done => exact .done
  | blank white others ih => rwa [List.dropWhile_cons_of_pos white]
  | token black legal others ih =>
    rw [List.dropWhile_cons_of_neg (by simp [black])]
    exact .token black legal others

/-- White space is left where a text is trimmed at its end. -/
theorem exists_trim_append (x : List Char) :
    ∃ blanks, x.dropWhile Text.isWhitespace = Text.trim x ++ blanks ∧
      ∀ c ∈ blanks, Text.isWhitespace c = true := by
  let back := (x.dropWhile Text.isWhitespace).reverse
  refine ⟨(back.takeWhile Text.isWhitespace).reverse, ?_, fun c member => ?_⟩
  · rw [Text.trim, ← List.reverse_append, List.takeWhile_append_dropWhile, List.reverse_reverse]
  · exact List.mem_takeWhile_imp (List.mem_reverse.mp member)

end Tokens

end Lexer

/-! ## Tokens that differ in bounds -/

/-- Whether the next token after these, of which the latest comes first, is a bound of a range of
the time field. -/
def expectsBound : List Token → Bool
  | .keyword .between :: .identifier n :: _ => n == datetimeField
  | .keyword .and :: _ :: .keyword .between :: .identifier n :: _ => n == datetimeField
  | _ => false

/-- Whether a token that stands after others is a string that bounds a range of the time field. -/
def Token.isBound (before : List Token) : Token → Bool
  | .string _ => expectsBound before
  | _ => false

/-- Two lists of tokens that follow others, of which the latest comes first, are the same up to
texts, and to timestamps of the same ten minutes in bounds of the time field. -/
inductive TokensAgree (texts : String → String → Prop) : List Token → List Token → List Token → Prop
  | nil (before : List Token) : TokensAgree texts before [] []
  | cons {before ts ts' : List Token} {t t' : Token} (alike : TokensAlike texts t t')
    (others : TokensAgree texts (t :: before) ts ts') :
    TokensAgree texts before (t :: ts) (t' :: ts')
  | bound {before ts ts' : List Token} {raw raw' : String}
    (bound : expectsBound before = true) (twins : TwinTexts raw raw')
    (others : TokensAgree texts (.string raw :: before) ts ts') :
    TokensAgree texts before (.string raw :: ts) (.string raw' :: ts')

section TokensAgree

variable {strict : Prop} {before ts ts' : List Token} {t t' : Token}

/-- Tokens agree that are the same up to timestamps of the same ten minutes, and strictly so if they
differ in bounds only. -/
theorem TokensAgree.twin (twins : TokensAlike TwinTexts t t')
    (settled : strict → t.isBound before = true ∨ t = t')
    (others : TokensAgree (TwinTextsUnder strict) (t :: before) ts ts') :
    TokensAgree (TwinTextsUnder strict) before (t :: ts) (t' :: ts') := by
  by_cases strictly : strict
  · rcases settled strictly with bound | rfl
    · cases twins with
      | same t => exact .cons (.same t) others
      | string alike => exact .bound bound alike others
      | identifier alike => cases bound
    · exact .cons (.same t) others
  · have loose {a b : String} (alike : TwinTexts a b) : TwinTextsUnder strict a b :=
      ⟨alike, fun given => absurd given strictly⟩
    cases twins with
    | same t => exact .cons (.same t) others
    | string alike => exact .cons (.string (loose alike)) others
    | identifier alike => exact .cons (.identifier (loose alike)) others

end TokensAgree

namespace Lexer

/-- Whether one of the timestamps that rounding changes starts in `x` before the given rest. -/
def holdsRounded (text x rest : List Char) : Bool :=
  x.tails.any fun z => CacheKey.roundedAt text z && rest.length < z.length

/-- Whether the timestamps that rounding changes are in bounds of the time field only, as far as
the tokens of `x` go. Every step passes over a character, so `fuel` may be the length of `x`. -/
def roundsBounds (text : List Char) : (fuel : Nat) → (before : List Token) → List Char → Bool
  | 0, _, _ => true
  | _, _, [] => true
  | fuel + 1, before, c :: x =>
    if Text.isWhitespace c then roundsBounds text fuel before x
    else
      let piece := cut c x
      (piece.token.isBound before || !holdsRounded text x piece.rest) &&
        roundsBounds text fuel (piece.token :: before) piece.rest

section RoundsBounds

variable {strict : Prop} {c : Char} {text x y : List Char} {before ts ts' : List Token} {fuel : Nat}

/-- The places that rounding changes are found by going through the ends of a text. -/
theorem holds_iff {rest : List Char} :
    Holds (fun z => CacheKey.roundedAt text z = true) x rest ↔ holdsRounded text x rest = true := by
  simp only [Holds, holdsRounded, List.any_eq_true, List.mem_tails, Bool.and_eq_true,
    decide_eq_true_eq, and_comm]

/-- White space is passed over when bounds are looked for. -/
theorem roundsBounds_blank (white : Text.isWhitespace c = true)
    (bounds : roundsBounds text (fuel + 1) before (c :: x) = true) :
    roundsBounds text fuel before x = true := by
  rwa [roundsBounds, if_pos white] at bounds

/-- A token is a bound of the time field, or rounding changes nothing in it. -/
theorem roundsBounds_token (black : Text.isWhitespace c = false)
    (bounds : roundsBounds text (fuel + 1) before (c :: x) = true) :
    ((cut c x).token.isBound before = true ∨ holdsRounded text x (cut c x).rest = false) ∧
      roundsBounds text fuel ((cut c x).token :: before) (cut c x).rest = true := by
  rw [roundsBounds, if_neg (by simp [black])] at bounds
  simpa using bounds

/-- Tokens of texts with one key agree, and strictly so if the timestamps that rounding changes are
in bounds of the time field only. -/
theorem agree_of_kin (kin : Kin (fun z => CacheKey.roundedAt text z = true) x y)
    (lexes : Lexes x ts) (lexes' : Lexes y ts') (enough : x.length ≤ fuel)
    (bounds : strict → roundsBounds text fuel before x = true) :
    TokensAgree (TwinTextsUnder strict) before ts ts' := by
  have blank {before ts ts' : List Token} {x y : List Char} (both : Blank x y)
      (lexes : Lexes x ts) (lexes' : Lexes y ts') :
      TokensAgree (TwinTextsUnder strict) before ts ts' := by
    rw [lexes.of_blank both.1, lexes'.of_blank both.2]
    exact .nil before
  have exists_fuel {c : Char} {x : List Char} {fuel : Nat} (enough : (c :: x).length ≤ fuel) :
      ∃ less, fuel = less + 1 ∧ x.length ≤ less := by
    cases fuel with
    | zero => cases enough
    | succ less => exact ⟨less, rfl, Nat.le_of_succ_le_succ enough⟩
  induction lexes generalizing y ts' fuel before with
  | done =>
    generalize whole : [] = x at kin
    cases kin with
    | ends both => exact blank both (whole ▸ .done) lexes'
    | keep c back => cases whole
    | stamp _ first second window back =>
      obtain ⟨c, w, rfl, _⟩ := exists_cons_of_timestamp first
      cases whole
  | @blank c x ts white others ih =>
    rcases (Lexes.blank white others).blank_or_keep kin with both | ⟨y, rfl, back⟩
    · exact blank both (.blank white others) lexes'
    · obtain ⟨fuel, rfl, less⟩ := exists_fuel enough
      cases lexes' with
      | blank _ others' =>
        exact ih back others' less fun strictly => roundsBounds_blank white (bounds strictly)
      | token black =>
        rw [white] at black
        cases black
  | @token c x ts black legal others ih =>
    rcases (Lexes.token black legal others).blank_or_keep kin with both | ⟨y, rfl, back⟩
    · exact blank both (.token black legal others) lexes'
    · obtain ⟨fuel, rfl, less⟩ := exists_fuel enough
      cases lexes' with
      | blank white =>
        rw [white] at black
        cases black
      | token _ legal' others' =>
        obtain ⟨twins, differ, further⟩ := twins_of_cut back black legal (.token black legal others)
        have rests := ih further others' ((length_of_cut black legal).trans less)
          fun strictly => (roundsBounds_token black (bounds strictly)).2
        refine .twin twins (fun strictly => ?_) rests
        rcases (roundsBounds_token black (bounds strictly)).1 with bound | none
        · exact .inl bound
        · refine .inr (differ.resolve_right fun holds => ?_)
          rw [holds_iff.mp holds] at none
          cases none

end RoundsBounds

end Lexer

/-- The timestamps that rounding changes in a text are in bounds of the time field only. -/
def RoundsBounds (s : String) : Prop :=
  let text := s.toList.dropWhile Text.isWhitespace
  Lexer.roundsBounds text text.length [] text = true

instance (s : String) : Decidable (RoundsBounds s) :=
  inferInstanceAs (Decidable (_ = true))

/-- Tokens of texts with one key are the same up to timestamps of the same ten minutes in strings
and names, and in bounds of the time field only if rounding changes nothing else. -/
theorem agree_of_cacheKey_eq {s t : String} (same : cacheKey s = cacheKey t)
    (legal : ∀ p ∈ tokens s, p.token ≠ .illegal) (legal' : ∀ p ∈ tokens t, p.token ≠ .illegal) :
    TokensAgree (TwinTextsUnder (RoundsBounds s)) []
      ((tokens s).map PlacedToken.token) ((tokens t).map PlacedToken.token) := by
  have lexes {s : String} (legal : ∀ p ∈ tokens s, p.token ≠ .illegal) :
      Lexer.Lexes (s.toList.dropWhile Text.isWhitespace) ((tokens s).map PlacedToken.token) :=
    (Lexer.lexes_tokensFrom (String.length_toList ▸ Nat.le_refl _) legal).dropWhile
  obtain ⟨blanks, split, white⟩ := Lexer.exists_trim_append s.toList
  obtain ⟨blanks', split', white'⟩ := Lexer.exists_trim_append t.toList
  have windows := CacheKey.sameWindows_of_cacheKey_eq ⟨[], split.symm⟩ same
  have kin : Lexer.Kin
      (fun z => CacheKey.roundedAt (s.toList.dropWhile Text.isWhitespace) z = true)
      (Text.trim s.toList ++ blanks) (Text.trim t.toList ++ blanks') :=
    windows.append (.ends ⟨white, white'⟩)
  rw [← split, ← split'] at kin
  exact Lexer.agree_of_kin kin (lexes legal) (lexes legal') (Nat.le_refl _) id

end FederatedSearch
