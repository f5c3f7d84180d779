import Mathlib.Data.List.Sort

/-!
# Stable sorts

A stable sort of a list has its items in order, and items that the order does not tell apart as
they stood. Under an order that is sign-symmetric and transitive a list has exactly one: merge sort
yields it (`isStableSort_mergeSort`), and no other list will do (`IsStableSort.eq`).
-/

namespace FederatedSearch

variable {α : Type} {order : α → α → Ordering} {xs ys zs : List α}

/-- `ys` holds the items of `xs` in order, and items at one place of the order as they are in
`xs`. -/
structure IsStableSort (order : α → α → Ordering) (xs ys : List α) : Prop where
  perm : ys.Perm xs
  sorted : ys.Pairwise fun a b => order a b ≠ .gt
  stable : ∀ a, ys.filter (order a · == .eq) = xs.filter (order a · == .eq)

section Preorder

variable [Std.TransCmp order]

/-- Not coming after is transitive. -/
theorem ne_gt_trans {a b c : α} (first : order a b ≠ .gt) (second : order b c ≠ .gt) :
    order a c ≠ .gt :=
  Ordering.isLE_iff_ne_gt.mp (Std.TransCmp.isLE_trans (Ordering.isLE_iff_ne_gt.mpr first)
    (Ordering.isLE_iff_ne_gt.mpr second))

/-- Of any two one does not come after the other. -/
theorem ne_gt_total (a b : α) : order a b ≠ .gt ∨ order b a ≠ .gt := by
  have swapped : order a b = (order b a).swap := Std.OrientedCmp.eq_swap
  rw [swapped]
  cases order b a <;> simp

/-- Items at one place of the order are in order among each other. -/
theorem pairwise_filter_eq (xs : List α) (a : α) :
    (xs.filter (order a · == .eq)).Pairwise fun b c => order b c ≠ .gt := by
  refine List.pairwise_filter.mpr (List.pairwise_of_forall fun {b c} first second => ?_)
  have same : order a c = order b c := Std.TransCmp.congr_left (beq_iff_eq.mp first)
  rw [← same, beq_iff_eq.mp second]
  decide

/-- Merge sort yields a stable sort. -/
theorem isStableSort_mergeSort (xs : List α) :
    IsStableSort order xs (xs.mergeSort fun a b => order a b != .gt) := by
  have trans : ∀ a b c, (order a b != .gt) = true → (order b c != .gt) = true →
      (order a c != .gt) = true := by
    simp only [bne_iff_ne]
    exact fun _ _ _ => ne_gt_trans
  have total : ∀ a b, (order a b != .gt || order b a != .gt) = true := by
    simp only [Bool.or_eq_true, bne_iff_ne]
    exact ne_gt_total
  have sorted := List.pairwise_mergeSort trans total xs
  refine ⟨List.mergeSort_perm .., sorted.imp fun inOrder => bne_iff_ne.mp inOrder, fun a => ?_⟩
  -- The items at the place of `a` are a sorted part of `xs`, and merge sort keeps such a part.
  have part : (xs.filter (order a · == .eq)).Pairwise fun b c => (order b c != .gt) = true :=
    (pairwise_filter_eq xs a).imp fun inOrder => bne_iff_ne.mpr inOrder
  have kept := (List.sublist_mergeSort trans total part List.filter_sublist).filter
    (order a · == .eq)
  simp only [List.filter_filter, Bool.and_self] at kept
  exact (kept.eq_of_length ((List.mergeSort_perm ..).filter _).length_eq.symm).symm

/-- The first items of two sorts of one list stand at one place of the order. -/
theorem order_head_eq {y z : α} (perm : (y :: ys).Perm (z :: zs))
    (first : (y :: ys).Pairwise fun a b => order a b ≠ .gt)
    (second : (z :: zs).Pairwise fun a b => order a b ≠ .gt) : order y z = .eq := by
  have least : ∀ {a b : α} {rest : List α}, (a :: rest).Pairwise (fun a b => order a b ≠ .gt) →
      b ∈ a :: rest → (order a b).isLE = true := by
    intro a b rest sorted member
    rcases List.mem_cons.mp member with rfl | later
    · have self : order b b = .eq := Std.ReflCmp.compare_self
      rw [self]
      rfl
    · exact Ordering.isLE_iff_ne_gt.mpr (List.rel_of_pairwise_cons sorted later)
  have upper := least first (perm.mem_iff.mpr List.mem_cons_self)
  have lower := least second (perm.mem_iff.mp List.mem_cons_self)
  exact Std.OrientedCmp.isLE_antisymm upper lower

/-- Two sorted orders of the same items agree when they agree on each class of equal ones. -/
theorem eq_of_sorted_of_filter_eq (perm : ys.Perm zs)
    (first : ys.Pairwise fun a b => order a b ≠ .gt)
    (second : zs.Pairwise fun a b => order a b ≠ .gt)
    (same : ∀ a, ys.filter (order a · == .eq) = zs.filter (order a · == .eq)) : ys = zs := by
  induction ys generalizing zs with
  | nil => exact perm.nil_eq
  | cons y ys ih =>
    cases zs with
    | nil => cases perm.eq_nil
    | cons z zs =>
      have reflexive : (order y y == .eq) = true := beq_iff_eq.mpr Std.ReflCmp.compare_self
      have together : (order y z == .eq) = true := beq_iff_eq.mpr (order_head_eq perm first second)
      -- At the place that the first items share, each of them is the first in its list.
      have heads := same y
      simp only [List.filter_cons, reflexive, together, if_true, List.cons.injEq] at heads
      obtain ⟨rfl, _⟩ := heads
      refine congrArg (y :: ·) (ih perm.cons_inv first.of_cons second.of_cons fun a => ?_)
      have here := same a
      simp only [List.filter_cons] at here
      split at here
      · exact (List.cons.inj here).2
      · exact here

/-- A list has one stable sort. -/
theorem IsStableSort.eq (first : IsStableSort order xs ys) (second : IsStableSort order xs zs) :
    ys = zs :=
  eq_of_sorted_of_filter_eq (first.perm.trans second.perm.symm) first.sorted second.sorted
    fun a => (first.stable a).trans (second.stable a).symm

end Preorder

end FederatedSearch
