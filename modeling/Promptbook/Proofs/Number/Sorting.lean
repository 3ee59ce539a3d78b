import Mathlib.Data.List.Basic
import Promptbook.Proofs.Number.Order

/-!
# Stable sorts

A stable sort keeps the items with one key in their order, and is determined by that.  So the
order in which items with different keys are listed does not matter, and items may as well be taken
away before the others are sorted as afterwards.
-/

namespace Promptbook

/-! ## Sorting by a key -/

section StableSort

variable {β κ : Type} [LinearOrder κ] {key : β → κ} {xs ys : List β}

omit [LinearOrder κ] in
/-- Two orders that agree on a list sort it alike. -/
theorem mergeSort_congr {r s : β → β → Bool} (h : ∀ a ∈ xs, ∀ b ∈ xs, r a b = s a b) :
    xs.mergeSort r = xs.mergeSort s := by
  simpa using List.map_mergeSort (f := id) h

theorem le_key_trans (key : β → κ) : ∀ a b c : β, decide (key a ≤ key b) = true →
    decide (key b ≤ key c) = true → decide (key a ≤ key c) = true := by
  simpa using fun a b c => le_trans

theorem le_key_total (key : β → κ) :
    ∀ a b : β, (decide (key a ≤ key b) || decide (key b ≤ key a)) = true := by
  simpa using fun a b => le_total (key a) (key b)

theorem pairwise_mergeSort_key (key : β → κ) (xs : List β) :
    (xs.mergeSort fun a b => decide (key a ≤ key b)).Pairwise fun a b => key a ≤ key b :=
  (List.pairwise_mergeSort (le_key_trans key) (le_key_total key) xs).imp of_decide_eq_true

omit [LinearOrder κ] in
/-- A stable sort keeps items that are sorted already in their order, whatever stands between
them. -/
theorem filter_mergeSort_of_pairwise {r : β → β → Bool}
    (htrans : ∀ a b c, r a b = true → r b c = true → r a c = true)
    (htotal : ∀ a b, (r a b || r b a) = true) {p : β → Bool}
    (h : (xs.filter p).Pairwise fun a b => r a b = true) :
    (xs.mergeSort r).filter p = xs.filter p := by
  have hsub := (List.sublist_mergeSort htrans htotal h List.filter_sublist).filter p
  rw [List.filter_filter] at hsub
  simp only [Bool.and_self] at hsub
  refine (hsub.eq_of_length ?_).symm
  exact ((List.mergeSort_perm xs _).filter _).length_eq.symm

/-- A stable sort keeps the items with one key in their order. -/
theorem filter_key_mergeSort (key : β → κ) (xs : List β) (k : κ) :
    ((xs.mergeSort fun a b => decide (key a ≤ key b)).filter fun a => key a = k) =
      xs.filter fun a => key a = k := by
  refine filter_mergeSort_of_pairwise (le_key_trans key) (le_key_total key) ?_
  refine List.pairwise_of_forall_mem_list fun a ha b hb => ?_
  have ha : key a = k := by simpa using (List.mem_filter.1 ha).2
  have hb : key b = k := by simpa using (List.mem_filter.1 hb).2
  simp [ha, hb]

/-- A sorted list is determined by the items with each key, in their order. -/
theorem eq_of_filter_key (hxs : xs.Pairwise fun a b => key a ≤ key b)
    (hys : ys.Pairwise fun a b => key a ≤ key b)
    (h : ∀ k, (xs.filter fun a => key a = k) = ys.filter fun a => key a = k) : xs = ys := by
  induction xs generalizing ys with
  | nil =>
    cases ys with
    | nil => rfl
    | cons y ys => simpa using h (key y)
  | cons x xs ih =>
    cases ys with
    | nil => simpa using h (key x)
    | cons y ys =>
      rw [List.pairwise_cons] at hxs hys
      have hmem : ∀ a, a ∈ x :: xs ↔ a ∈ y :: ys := fun a => by
        have := congrArg (a ∈ ·) (h (key a))
        simpa using this
      have hxy : key x = key y := by
        refine le_antisymm ?_ ?_
        · rcases List.mem_cons.1 ((hmem y).2 List.mem_cons_self) with rfl | hy
          · exact le_rfl
          · exact hxs.1 y hy
        · rcases List.mem_cons.1 ((hmem x).1 List.mem_cons_self) with rfl | hx
          · exact le_rfl
          · exact hys.1 x hx
      obtain rfl : x = y := by
        have hhead := h (key x)
        rw [List.filter_cons_of_pos (by simp), List.filter_cons_of_pos (by simp [hxy])] at hhead
        exact (List.cons.inj hhead).1
      congr 1
      refine ih hxs.2 hys.2 fun k => ?_
      have htail := h k
      by_cases hk : key x = k
      · rw [List.filter_cons_of_pos (by simp [hk]), List.filter_cons_of_pos (by simp [hk])] at htail
        exact (List.cons.inj htail).2
      · rwa [List.filter_cons_of_neg (by simp [hk]), List.filter_cons_of_neg (by simp [hk])]
          at htail

/-- Lists are sorted alike when they hold the same items with each key in the same order. -/
theorem mergeSort_eq_of_filter_key
    (h : ∀ k, (xs.filter fun a => key a = k) = ys.filter fun a => key a = k) :
    (xs.mergeSort fun a b => decide (key a ≤ key b)) =
      ys.mergeSort fun a b => decide (key a ≤ key b) := by
  refine eq_of_filter_key (pairwise_mergeSort_key key xs) (pairwise_mergeSort_key key ys) ?_
  intro k
  rw [filter_key_mergeSort, filter_key_mergeSort, h k]

/-- It does not matter whether some items are taken away before or after the others are sorted. -/
theorem filter_mergeSort_key (key : β → κ) (p : β → Bool) (xs : List β) :
    (xs.mergeSort fun a b => decide (key a ≤ key b)).filter p =
      (xs.filter p).mergeSort fun a b => decide (key a ≤ key b) := by
  refine eq_of_filter_key ((pairwise_mergeSort_key key xs).filter p)
    (pairwise_mergeSort_key key (xs.filter p)) ?_
  intro k
  rw [List.filter_comm, filter_key_mergeSort, filter_key_mergeSort, List.filter_comm]

end StableSort

/-! ## Sorting by a time

The order of times is no preorder on all doubles; on numbers it is that of their keys. -/

namespace Double

variable {β : Type} {time : β → Float} {xs : List β}

theorem mergeSort_eq_key (h : ∀ a ∈ xs, (time a).isNaN = false) :
    (xs.mergeSort fun a b => decide ¬ time b < time a) =
      xs.mergeSort fun a b => decide (key (time a) ≤ key (time b)) := by
  refine mergeSort_congr fun a ha b hb => decide_eq_decide.2 ?_
  exact (not_lt (h b hb) (h a ha)).trans (le_iff_key (h a ha) (h b hb))

theorem pairwise_mergeSort (h : ∀ a ∈ xs, (time a).isNaN = false) :
    (xs.mergeSort fun a b => decide ¬ time b < time a).Pairwise fun a b => time a ≤ time b := by
  rw [mergeSort_eq_key h]
  refine (pairwise_mergeSort_key _ xs).imp_of_mem fun {a b} ha hb hab => ?_
  rw [List.mem_mergeSort] at ha hb
  exact (le_iff_key (h a ha) (h b hb)).2 hab

theorem filter_mergeSort (h : ∀ a ∈ xs, (time a).isNaN = false) (p : β → Bool) :
    (xs.mergeSort fun a b => decide ¬ time b < time a).filter p =
      (xs.filter p).mergeSort fun a b => decide ¬ time b < time a := by
  have hfilter : ∀ a ∈ xs.filter p, (time a).isNaN = false := fun a ha =>
    h a (List.mem_of_mem_filter ha)
  rw [mergeSort_eq_key h, mergeSort_eq_key hfilter, filter_mergeSort_key]

end Double

end Promptbook
