import FederatedSearch.Record
import Mathlib.Data.List.Dedup
import Mathlib.Data.List.Induction

/-!
# Sorted texts

What `sortedDistinct` makes of some texts: it holds the same texts and they increase. A list of
texts that increase is determined by what is in it, so neither the order of the texts nor how often
each occurs changes what is made of them.
-/

namespace FederatedSearch

variable {text other : String} {texts others : List String}

/-- Inserting a text adds it and nothing else. -/
@[simp]
theorem mem_insertSorted : other ∈ insertSorted text texts ↔ other = text ∨ other ∈ texts := by
  induction texts with
  | nil => simp [insertSorted]
  | cons first rest ih =>
    rw [insertSorted]
    split
    · exact List.mem_cons
    · split
      · rename_i same
        simp [same]
      · simp only [List.mem_cons, ih]
        exact or_left_comm

/-- A text is put where the texts go on increasing. -/
theorem pairwise_insertSorted (text : String) (sorted : texts.Pairwise (· < ·)) :
    (insertSorted text texts).Pairwise (· < ·) := by
  induction texts with
  | nil => exact List.pairwise_singleton _ _
  | cons first rest ih =>
    obtain ⟨least, others⟩ := List.pairwise_cons.mp sorted
    rw [insertSorted]
    split
    · rename_i before
      refine List.pairwise_cons.mpr ⟨fun later member => ?_, sorted⟩
      rcases List.mem_cons.mp member with rfl | later
      · exact before
      · exact String.lt_trans before (least _ later)
    · rename_i notBefore
      split
      · exact sorted
      · rename_i different
        have above : first < text :=
          Std.lt_of_le_of_ne (String.not_lt.mp notBefore) (Ne.symm different)
        refine List.pairwise_cons.mpr ⟨fun later member => ?_, ih others⟩
        rcases mem_insertSorted.mp member with rfl | member
        · exact above
        · exact least _ member

/-- A further text is inserted last. -/
theorem sortedDistinct_concat (texts : List String) (text : String) :
    sortedDistinct (texts ++ [text]) = insertSorted text (sortedDistinct texts) := by
  simp [sortedDistinct]

/-- Sorting keeps which texts there are. -/
@[simp]
theorem mem_sortedDistinct : text ∈ sortedDistinct texts ↔ text ∈ texts := by
  induction texts using List.reverseRecOn with
  | nil => rfl
  | append_singleton texts last ih =>
    rw [sortedDistinct_concat, mem_insertSorted, ih, List.mem_append, List.mem_singleton, or_comm]

/-- Sorting gives nothing only for no texts. -/
theorem sortedDistinct_eq_nil_iff : sortedDistinct texts = [] ↔ texts = [] := by
  simp [List.eq_nil_iff_forall_not_mem]

/-- What is made of some texts increases. -/
theorem pairwise_sortedDistinct (texts : List String) :
    (sortedDistinct texts).Pairwise (· < ·) := by
  induction texts using List.reverseRecOn with
  | nil => exact .nil
  | append_singleton texts last ih =>
    rw [sortedDistinct_concat]
    exact pairwise_insertSorted last ih

/-- Increasing texts are different. -/
theorem nodup_of_increasing (sorted : texts.Pairwise (· < ·)) : texts.Nodup :=
  sorted.imp fun before => String.ne_of_lt before

/-- Which texts there are is all that counts. -/
theorem sortedDistinct_congr (same : ∀ text, text ∈ texts ↔ text ∈ others) :
    sortedDistinct texts = sortedDistinct others := by
  have members : (sortedDistinct texts).Perm (sortedDistinct others) :=
    (List.perm_ext_iff_of_nodup (nodup_of_increasing (pairwise_sortedDistinct texts))
      (nodup_of_increasing (pairwise_sortedDistinct others))).mpr (by simpa using same)
  exact members.eq_of_pairwise
    (fun _ _ _ _ before after => absurd (String.lt_trans before after) (String.lt_irrefl _))
    (pairwise_sortedDistinct texts) (pairwise_sortedDistinct others)

/-- There are as many texts as without repetition. -/
theorem length_sortedDistinct (texts : List String) :
    (sortedDistinct texts).length = texts.dedup.length := by
  have once := nodup_of_increasing (pairwise_sortedDistinct texts)
  have same : ∀ text, text ∈ sortedDistinct texts ↔ text ∈ texts.dedup := by simp
  exact ((List.perm_ext_iff_of_nodup once texts.nodup_dedup).mpr same).length_eq

end FederatedSearch
