import FederatedSearch.Statistics
import FederatedSearch.Proofs.SortedTexts
import Mathlib.Data.List.Permutation

/-!
# What statistics list

A tally is an exact count: of the texts it was given it has each once, with the number of times it
was given (`Tally.ofTexts_eq`). So the order in which records come does not matter, and the values
that are listed for a field are the first ones of all its values by rank.
-/

namespace FederatedSearch

namespace ValueCount

/-- Whether `a` has its place above `b`: it is more frequent, or as frequent and lesser. -/
def Outranks (a b : ValueCount) : Prop :=
  b.count < a.count ∨ a.count = b.count ∧ a.value < b.value

/-- A value ranks before another when it is counted more often, or as often and its text does not
come later. -/
theorem ranksBefore_iff {a b : ValueCount} :
    a.ranksBefore b = true ↔ b.count < a.count ∨ a.count = b.count ∧ a.value ≤ b.value := by
  simp [ranksBefore]

/-- Ranking before is transitive. -/
theorem ranksBefore_trans (a b c : ValueCount) (first : a.ranksBefore b = true)
    (second : b.ranksBefore c = true) : a.ranksBefore c = true := by
  rw [ranksBefore_iff] at first second ⊢
  rcases first with more | ⟨same, lesser⟩
  · left
    omega
  · rcases second with more | ⟨same', lesser'⟩
    · left
      omega
    · exact .inr ⟨same.trans same', String.le_trans lesser lesser'⟩

/-- Of any two values one ranks before the other. -/
theorem ranksBefore_total (a b : ValueCount) : (a.ranksBefore b || b.ranksBefore a) = true := by
  rw [Bool.or_eq_true, ranksBefore_iff, ranksBefore_iff]
  rcases Nat.lt_trichotomy a.count b.count with fewer | same | more
  · exact .inr (.inl fewer)
  · exact (String.le_total a.value b.value).imp (.inr ⟨same, ·⟩) (.inr ⟨same.symm, ·⟩)
  · exact .inl (.inl more)

/-- Of two different values one that is listed no later than the other has its place above it. -/
theorem outranks_of_ranksBefore {a b : ValueCount} (before : a.ranksBefore b = true)
    (different : a.value ≠ b.value) : a.Outranks b :=
  (ranksBefore_iff.mp before).imp_right
    (And.imp_right fun lesser => Std.lt_of_le_of_ne lesser different)

end ValueCount

namespace Tally

variable {t : Tally} {text : String} {texts others : List String}

/-- The tally of some texts, counted one after the other. -/
def ofTexts (texts : List String) : Tally :=
  texts.foldl (fun t text => t.add text) []

/-- One step of counting: where the texts counted so far increase and one that is not among them
has the count 0, the count of the new text goes up by one and no other does. -/
theorem add_counts {count : String → Nat} (sorted : texts.Pairwise (· < ·))
    (uncounted : text ∉ texts → count text = 0) :
    add text (texts.map fun t => ⟨t, count t⟩) =
      (insertSorted text texts).map fun t => ⟨t, count t + if text = t then 1 else 0⟩ := by
  induction texts with
  | nil => simp [add, insertSorted, uncounted]
  | cons first rest ih =>
    obtain ⟨least, others⟩ := List.pairwise_cons.mp sorted
    have unchanged : ∀ {ts : List String}, (∀ t ∈ ts, text < t) →
        ts.map (fun t => (⟨t, count t⟩ : ValueCount)) =
          ts.map fun t => ⟨t, count t + if text = t then 1 else 0⟩ := by
      intro ts above
      refine List.map_congr_left fun t member => ?_
      rw [if_neg (String.ne_of_lt (above t member)), Nat.add_zero]
    rw [List.map_cons, add, insertSorted]
    split
    · rename_i before
      have above : ∀ t ∈ first :: rest, text < t := by
        intro t member
        rcases List.mem_cons.mp member with rfl | later
        · exact before
        · exact String.lt_trans before (least t later)
      rw [List.map_cons, ← unchanged above, if_pos rfl,
        uncounted fun member => String.lt_irrefl _ (above text member)]
      rfl
    · split
      · rename_i same
        subst same
        rw [List.map_cons, ← unchanged least, if_pos rfl]
      · rename_i different
        rw [List.map_cons, if_neg different, Nat.add_zero,
          ih others fun absent => uncounted (List.not_mem_cons_of_ne_of_not_mem different absent)]

/-- A tally has each of its texts once, by increasing text, with the number of times it was
given. -/
theorem ofTexts_eq (texts : List String) :
    ofTexts texts = (sortedDistinct texts).map fun text => ⟨text, texts.count text⟩ := by
  induction texts using List.reverseRecOn with
  | nil => rfl
  | append_singleton texts last ih =>
    have step : ofTexts (texts ++ [last]) = (ofTexts texts).add last := by simp [ofTexts]
    have uncounted : last ∉ sortedDistinct texts → texts.count last = 0 := by
      simp [List.count_eq_zero]
    rw [step, ih, add_counts (pairwise_sortedDistinct texts) uncounted, sortedDistinct_concat]
    simp [List.count_append, List.count_singleton]

/-- The tally of texts holds each of them once, with the number of its occurrences. -/
theorem mem_ofTexts {entry : ValueCount} :
    entry ∈ ofTexts texts ↔ entry.value ∈ texts ∧ entry.count = texts.count entry.value := by
  rw [ofTexts_eq, List.mem_map]
  constructor
  · rintro ⟨text, member, rfl⟩
    exact ⟨mem_sortedDistinct.mp member, rfl⟩
  · rintro ⟨member, counted⟩
    exact ⟨entry.value, mem_sortedDistinct.mpr member, by rw [← counted]⟩

/-- The values of a tally stand in order, each once. -/
theorem values_ofTexts (texts : List String) :
    (ofTexts texts).map (·.value) = sortedDistinct texts := by
  simp [ofTexts_eq, Function.comp_def]

/-- A tally is as long as there are different texts. -/
theorem length_ofTexts (texts : List String) : (ofTexts texts).length = texts.dedup.length := by
  rw [ofTexts_eq, List.length_map, length_sortedDistinct]

/-- Only the tally of no texts is empty. -/
theorem ofTexts_eq_nil_iff : ofTexts texts = [] ↔ texts = [] := by
  rw [ofTexts_eq, List.map_eq_nil_iff, sortedDistinct_eq_nil_iff]

/-- The order of the texts does not matter. -/
theorem ofTexts_perm (perm : texts.Perm others) : ofTexts texts = ofTexts others := by
  rw [ofTexts_eq, ofTexts_eq, sortedDistinct_congr fun text => perm.mem_iff]
  simp [perm.count_eq]

/-- By rank, no two values of a tally have one place. -/
theorem pairwise_outranks_mergeSort (distinct : (t.map (·.value)).Nodup) :
    (t.mergeSort ValueCount.ranksBefore).Pairwise ValueCount.Outranks := by
  have ranked := List.pairwise_mergeSort ValueCount.ranksBefore_trans
    ValueCount.ranksBefore_total t
  have apart : (t.mergeSort ValueCount.ranksBefore).Pairwise fun a b => a.value ≠ b.value :=
    List.pairwise_map.mp (((List.mergeSort_perm ..).map _).nodup_iff.mpr distinct)
  exact (ranked.and apart).imp fun both =>
    ValueCount.outranks_of_ranksBefore both.1 both.2

/-- The list of the most frequent values is filled as far as there are values. -/
theorem length_top (t : Tally) : t.top.length = min topSize t.length := by
  rw [top, List.length_take, List.length_mergeSort]

/-- Only tallied values are listed. -/
theorem mem_of_mem_top {entry : ValueCount} (listed : entry ∈ t.top) : entry ∈ t :=
  List.mem_mergeSort.mp (List.mem_of_mem_take listed)

/-- When no value is tallied twice, each listed one outranks those after it. -/
theorem pairwise_outranks_top (distinct : (t.map (·.value)).Nodup) :
    t.top.Pairwise ValueCount.Outranks :=
  (pairwise_outranks_mergeSort distinct).sublist (List.take_sublist ..)

/-- What is not listed has its place below all that is. -/
theorem outranks_of_not_mem_top (distinct : (t.map (·.value)).Nodup) {listed omitted : ValueCount}
    (first : listed ∈ t.top) (member : omitted ∈ t) (unlisted : omitted ∉ t.top) :
    listed.Outranks omitted := by
  have ranked := pairwise_outranks_mergeSort distinct
  have place : omitted ∈ t.mergeSort ValueCount.ranksBefore := List.mem_mergeSort.mpr member
  rw [← List.take_append_drop topSize (t.mergeSort ValueCount.ranksBefore)] at ranked place
  have below := (List.mem_append.mp place).resolve_left unlisted
  exact (List.pairwise_append.mp ranked).2.2 listed first omitted below

end Tally

namespace Statistics

variable {records : List Record} {field text : String}

/-- The statistics of some fields over records that came one after the other. -/
def ofRecords (fields : List String) (records : List Record) : Statistics :=
  records.foldl update (ofFields fields)

/-- The texts of the values that a field has in some records, where they are not empty. -/
def seenTexts (records : List Record) (field : String) : List String :=
  ((records.filterMap (·.lookup field)).map Json.plainText).filter (· ≠ "")

/-- How many records have, under a field, a value with a given text. -/
def occurrences (records : List Record) (field text : String) : Nat :=
  records.countP fun r => (r.lookup field).map Json.plainText == some text

/-! ## Records one by one -/

/-- The texts seen in a field are those the records count there, in their order. -/
theorem seenTexts_eq_filterMap (records : List Record) (field : String) :
    seenTexts records field = records.filterMap (countedText · field) := by
  rw [seenTexts, List.map_filterMap, List.filter_filterMap]
  rfl

/-- A further record adds the text it counts, if any. -/
theorem seenTexts_concat (records : List Record) (r : Record) (field : String) :
    seenTexts (records ++ [r]) field = seenTexts records field ++ (countedText r field).toList := by
  rw [seenTexts_eq_filterMap, seenTexts_eq_filterMap, List.filterMap_append, List.filterMap_cons]
  cases countedText r field <;> rfl

/-- Of each field statistics have the tally of what they have seen of it. -/
theorem tallies_ofRecords (fields : List String) (records : List Record) :
    (ofRecords fields records).tallies =
      (sortedDistinct fields).map fun field =>
        (field, Tally.ofTexts (seenTexts records field)) := by
  induction records using List.reverseRecOn with
  | nil => rfl
  | append_singleton records last ih =>
    have step : ofRecords fields (records ++ [last]) = (ofRecords fields records).update last := by
      simp [ofRecords]
    rw [step, update, ih, List.map_map]
    refine List.map_congr_left fun field _ => ?_
    simp only [Function.comp_apply, seenTexts_concat]
    cases countedText last field with
    | none => simp
    | some text => simp [Tally.ofTexts]

/-- Listed are the fields that something has been seen of, each with the top of its tally. -/
theorem top_ofRecords (fields : List String) (records : List Record) :
    (ofRecords fields records).top =
      ((sortedDistinct fields).filter (seenTexts records · ≠ [])).map fun field =>
        (field, (Tally.ofTexts (seenTexts records field)).top) := by
  rw [top, tallies_ofRecords, List.filterMap_map]
  induction sortedDistinct fields with
  | nil => rfl
  | cons field rest ih =>
    rw [List.filterMap_cons, List.filter_cons, ih]
    by_cases unseen : seenTexts records field = []
    · simp [unseen, Tally.ofTexts_eq_nil_iff]
    · simp [unseen, Tally.ofTexts_eq_nil_iff]

/-- The listed fields are those asked for in which some text is seen, each with its most frequent
texts. -/
theorem mem_top_ofRecords {fields : List String} {entries : List ValueCount} :
    (field, entries) ∈ (ofRecords fields records).top ↔
      (field ∈ fields ∧ seenTexts records field ≠ []) ∧
        entries = (Tally.ofTexts (seenTexts records field)).top := by
  rw [top_ofRecords]
  simp only [List.mem_map, List.mem_filter, mem_sortedDistinct, decide_eq_true_eq, Prod.mk.injEq]
  constructor
  · rintro ⟨field, listed, rfl, rfl⟩
    exact ⟨listed, rfl⟩
  · rintro ⟨listed, rfl⟩
    exact ⟨field, listed, rfl, rfl⟩

/-! ## What is listed -/

/-- A text is seen in a field when it is not empty and some record has a value of this text. -/
theorem mem_seenTexts :
    text ∈ seenTexts records field ↔
      text ≠ "" ∧ ∃ r ∈ records, ∃ value, r.lookup field = some value ∧ value.plainText = text := by
  rw [seenTexts, List.mem_filter, List.mem_map, decide_eq_true_eq]
  simp only [List.mem_filterMap]
  grind

/-- Something is seen in a field when some record holds a value there whose text is not empty. -/
theorem seenTexts_ne_nil_iff :
    seenTexts records field ≠ [] ↔
      ∃ r ∈ records, ∃ value, r.lookup field = some value ∧ value.plainText ≠ "" := by
  constructor
  · intro seen
    obtain ⟨text, member⟩ := List.exists_mem_of_ne_nil _ seen
    obtain ⟨nonempty, r, present, value, found, rfl⟩ := mem_seenTexts.mp member
    exact ⟨r, present, value, found, nonempty⟩
  · rintro ⟨r, present, value, found, nonempty⟩
    exact List.ne_nil_of_mem (mem_seenTexts.mpr ⟨nonempty, r, present, value, found, rfl⟩)

/-- A text is seen as often as records hold it. -/
theorem count_seenTexts (nonempty : text ≠ "") :
    (seenTexts records field).count text = occurrences records field text := by
  rw [seenTexts, List.count_filter (by simpa using nonempty), List.map_filterMap,
    List.count_filterMap]
  rfl

/-- The entries that are listed for a field, if they are what they should be: values with the
number of records they are found in, by rank, ten of them if there are so many, and none left out
that has its place above one of them. -/
structure ListsTop (records : List Record) (field : String) (entries : List ValueCount) :
    Prop where
  counted : ∀ entry ∈ entries, entry.value ≠ "" ∧ 0 < entry.count ∧
    entry.count = occurrences records field entry.value
  ranked : entries.Pairwise ValueCount.Outranks
  size : entries.length = min 10 (seenTexts records field).dedup.length
  omitted : ∀ text, text ≠ "" → 0 < occurrences records field text →
    text ∉ entries.map (·.value) →
      ∀ entry ∈ entries, entry.Outranks ⟨text, occurrences records field text⟩

/-- The most frequent texts of a field are listed exactly. -/
theorem listsTop_ofTexts (records : List Record) (field : String) :
    ListsTop records field (Tally.ofTexts (seenTexts records field)).top := by
  have distinct : ((Tally.ofTexts (seenTexts records field)).map (·.value)).Nodup := by
    rw [Tally.values_ofTexts]
    exact nodup_of_increasing (pairwise_sortedDistinct _)
  refine ⟨fun entry listed => ?_, Tally.pairwise_outranks_top distinct, ?_,
    fun text nonempty found absent entry listed => ?_⟩
  · obtain ⟨seen, counted⟩ := Tally.mem_ofTexts.mp (Tally.mem_of_mem_top listed)
    have nonempty := (mem_seenTexts.mp seen).1
    have positive := List.count_pos_iff.mpr seen
    rw [← counted] at positive
    exact ⟨nonempty, positive, counted.trans (count_seenTexts nonempty)⟩
  · rw [Tally.length_top, Tally.length_ofTexts]
    rfl
  · rw [← count_seenTexts nonempty] at found ⊢
    have counted : (⟨text, (seenTexts records field).count text⟩ : ValueCount) ∈
        Tally.ofTexts (seenTexts records field) :=
      Tally.mem_ofTexts.mpr ⟨List.count_pos_iff.mp found, rfl⟩
    exact Tally.outranks_of_not_mem_top distinct listed counted
      fun listed => absent (List.mem_map.mpr ⟨_, listed, rfl⟩)

/-- What statistics list after any records. The fields increase, and they are those of the tracked
ones that some record has a value for whose text is not empty. For each of them the values are
listed that occur most often, ten at most. The order of the records does not matter. -/
theorem top_ofRecords_exact (fields : List String) (records : List Record) :
    ((ofRecords fields records).top.map (·.1)).Pairwise (· < ·) ∧
      (∀ field, field ∈ (ofRecords fields records).top.map (·.1) ↔ field ∈ fields ∧
        ∃ r ∈ records, ∃ value, r.lookup field = some value ∧ value.plainText ≠ "") ∧
      (∀ field entries, (field, entries) ∈ (ofRecords fields records).top →
        ListsTop records field entries) ∧
      ∀ reordered, reordered.Perm records →
        (ofRecords fields reordered).top = (ofRecords fields records).top := by
  have fieldsListed : (ofRecords fields records).top.map (·.1) =
      (sortedDistinct fields).filter (seenTexts records · ≠ []) := by
    simp [top_ofRecords, Function.comp_def]
  refine ⟨?_, fun field => ?_, fun field entries listed => ?_, fun reordered perm => ?_⟩
  · rw [fieldsListed]
    exact (pairwise_sortedDistinct fields).filter _
  · rw [fieldsListed, List.mem_filter, mem_sortedDistinct, decide_eq_true_eq,
      seenTexts_ne_nil_iff]
  · obtain ⟨-, rfl⟩ := mem_top_ofRecords.mp listed
    exact listsTop_ofTexts records field
  · have seen : ∀ field, (seenTexts reordered field).Perm (seenTexts records field) :=
      fun field => ((perm.filterMap _).map _).filter _
    have same : ∀ field, Tally.ofTexts (seenTexts reordered field) =
        Tally.ofTexts (seenTexts records field) :=
      fun field => Tally.ofTexts_perm (seen field)
    have empty : ∀ field, seenTexts reordered field = [] ↔ seenTexts records field = [] := by
      intro field
      rw [← Tally.ofTexts_eq_nil_iff, same, Tally.ofTexts_eq_nil_iff]
    rw [top_ofRecords, top_ofRecords]
    simp only [same, ne_eq, empty]

/-- Eleven ports, the last of them in two records, as a number and as a text. -/
def elevenPorts : List Record :=
  (List.range 11).map (fun n => ⟨[("port", .ofNat n)]⟩) ++
    [⟨[("port", .string "10")]⟩, ⟨[("port", .null)]⟩, ⟨[("port", .string "")]⟩]

/-- The ten of them that are listed. -/
def tenPorts : List ValueCount :=
  ⟨"10", 2⟩ :: ["0", "1", "2", "3", "4", "5", "6", "7", "8"].map (⟨·, 1⟩)

/-- Eleven ports, of which the ten most frequent are listed, in whichever order the records come. -/
theorem top_ofRecords_exact_elevenPorts :
    ("port", tenPorts) ∈ (ofRecords ["port", "zone"] elevenPorts).top ∧
      ListsTop elevenPorts "port" tenPorts ∧
      elevenPorts.reverse.Perm elevenPorts ∧
      (ofRecords ["port", "zone"] elevenPorts.reverse).top =
        (ofRecords ["port", "zone"] elevenPorts).top := by
  let tally : Tally := ⟨"0", 1⟩ :: ⟨"1", 1⟩ :: ⟨"10", 2⟩ ::
    ["2", "3", "4", "5", "6", "7", "8", "9"].map (⟨·, 1⟩)
  have counted : (ofRecords ["port", "zone"] elevenPorts).tallies =
      [("port", tally), ("zone", [])] := by decide +kernel
  have ranked : tally.top = tenPorts := by cbv
  have top : (ofRecords ["port", "zone"] elevenPorts).top = [("port", tenPorts)] := by
    rw [Statistics.top, counted, ← ranked]
    rfl
  have listed : ("port", tenPorts) ∈ (ofRecords ["port", "zone"] elevenPorts).top :=
    top ▸ List.mem_singleton_self _
  have reversed := List.reverse_perm elevenPorts
  obtain ⟨-, -, lists, order⟩ := top_ofRecords_exact ["port", "zone"] elevenPorts
  exact ⟨listed, lists _ _ listed, reversed, order _ reversed⟩

end Statistics

end FederatedSearch
