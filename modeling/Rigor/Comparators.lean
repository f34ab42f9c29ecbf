import Mathlib.Algebra.Order.Ring.Rat
import Mathlib.Tactic.Linarith
import Rigor.Matching

/-!
# Comparators

A sort of the browser takes a function whose sign is the order of its
arguments. Comparators are chained with `||`, so that a later one decides where
the earlier ones see no difference (`IsComparator.orElse`). Where nothing but
equal elements compare as equal, the order before the sort is forgotten
(`sort_eq_of_perm`).
-/

namespace Comparators

variable {α β : Type}

/-- The sign of `cmp` is an order, in which elements may be tied. -/
structure IsComparator (cmp : α → α → ℚ) : Prop where
  flip : ∀ a b, cmp a b < 0 ↔ 0 < cmp b a
  trans : ∀ a b c, cmp a b ≤ 0 → cmp b c ≤ 0 → cmp a c ≤ 0

/-- `x || y` on numbers. -/
def orElse (x y : ℚ) : ℚ := if x = 0 then y else x

@[simp] theorem orElse_eq_zero {x y : ℚ} : orElse x y = 0 ↔ x = 0 ∧ y = 0 := by
  unfold orElse
  split
  · rename_i h
    exact ⟨fun hy => ⟨h, hy⟩, fun h => h.2⟩
  · rename_i h
    exact ⟨fun hx => absurd hx h, fun hx => absurd hx.1 h⟩

theorem orElse_neg {x y : ℚ} : orElse x y < 0 ↔ x < 0 ∨ x = 0 ∧ y < 0 := by
  unfold orElse
  split
  · rename_i h
    exact ⟨fun hy => .inr ⟨h, hy⟩, fun hor => hor.elim (fun hx => absurd h (ne_of_lt hx)) And.right⟩
  · rename_i h
    exact ⟨.inl, fun hor => hor.elim id fun hx => absurd hx.1 h⟩

theorem orElse_pos {x y : ℚ} : 0 < orElse x y ↔ 0 < x ∨ x = 0 ∧ 0 < y := by
  unfold orElse
  split
  · rename_i h
    exact ⟨fun hy => .inr ⟨h, hy⟩,
      fun hor => hor.elim (fun hx => absurd h (ne_of_gt hx)) And.right⟩
  · rename_i h
    exact ⟨.inl, fun hor => hor.elim id fun hx => absurd hx.1 h⟩

/-! ## Orders -/

namespace IsComparator

variable {cmp cmp' : α → α → ℚ}

theorem nonpos_iff (h : IsComparator cmp) {a b : α} : cmp a b ≤ 0 ↔ 0 ≤ cmp b a := by
  rw [← not_lt, ← not_lt, h.flip b a]

theorem zero_of_zero (h : IsComparator cmp) {a b : α} (hab : cmp a b = 0) : cmp b a = 0 :=
  le_antisymm (h.nonpos_iff.mpr hab.ge) (h.nonpos_iff.mp hab.le)

theorem zero_iff (h : IsComparator cmp) {a b : α} : cmp a b = 0 ↔ cmp b a = 0 :=
  ⟨h.zero_of_zero, h.zero_of_zero⟩

theorem self_eq_zero (h : IsComparator cmp) (a : α) : cmp a a = 0 := by
  rcases lt_trichotomy (cmp a a) 0 with hlt | heq | hgt
  · exact absurd ((h.flip a a).mp hlt) (not_lt_of_gt hlt)
  · exact heq
  · exact absurd ((h.flip a a).mpr hgt) (not_lt_of_gt hgt)

/-- The second comparator breaks the ties of the first. -/
theorem orElse (h : IsComparator cmp) (h' : IsComparator cmp') :
    IsComparator fun a b => orElse (cmp a b) (cmp' a b) := by
  constructor
  · intro a b
    rw [orElse_neg, orElse_pos, h.flip a b, h.zero_iff, h'.flip a b]
  · intro a b c hab hbc
    rw [← not_lt, orElse_pos] at hab hbc ⊢
    rw [not_or, not_and, not_lt, not_lt] at hab hbc ⊢
    refine ⟨h.trans a b c hab.1 hbc.1, fun hac => ?_⟩
    have hca : cmp c a ≤ 0 := le_of_eq (h.zero_of_zero hac)
    -- a tie of the ends is a tie all the way
    have hab0 : cmp a b = 0 :=
      le_antisymm hab.1 (h.nonpos_iff.mp (h.trans b c a hbc.1 hca))
    have hbc0 : cmp b c = 0 :=
      le_antisymm hbc.1 (h.nonpos_iff.mp (h.trans c a b hca hab.1))
    exact h'.trans a b c (hab.2 hab0) (hbc.2 hbc0)

end IsComparator

/-- The order of two values of a linear order, as a number. -/
def compareKey [LinearOrder β] (x y : β) : ℚ := if x < y then -1 else if y < x then 1 else 0

theorem compareKey_nonpos [LinearOrder β] {x y : β} : compareKey x y ≤ 0 ↔ x ≤ y := by
  unfold compareKey
  split
  · rename_i h
    exact iff_of_true (by norm_num) (le_of_lt h)
  · split
    · rename_i h
      exact iff_of_false (by norm_num) (not_le_of_gt h)
    · rename_i h
      exact iff_of_true (le_refl 0) (le_of_not_gt h)

theorem compareKey_neg [LinearOrder β] {x y : β} : compareKey x y < 0 ↔ x < y := by
  unfold compareKey
  split
  · rename_i h
    exact iff_of_true (by norm_num) h
  · rename_i hnot
    split
    · exact iff_of_false (by norm_num) hnot
    · exact iff_of_false (lt_irrefl 0) hnot

theorem compareKey_pos [LinearOrder β] {x y : β} : 0 < compareKey x y ↔ y < x := by
  rw [← not_le, compareKey_nonpos, not_le]

theorem compareKey_eq_zero [LinearOrder β] {x y : β} : compareKey x y = 0 ↔ x = y := by
  rw [le_antisymm_iff, compareKey_nonpos, ← @not_lt ℚ _ _ 0, compareKey_neg, not_lt,
    le_antisymm_iff]

theorem isComparator_compareKey [LinearOrder β] (key : α → β) :
    IsComparator fun a b => compareKey (key a) (key b) where
  flip a b := by rw [compareKey_neg, compareKey_pos]
  trans a b c hab hbc := by
    rw [compareKey_nonpos] at *
    exact hab.trans hbc

/-- Numbers are compared by their difference. -/
theorem isComparator_sub (key : α → ℚ) : IsComparator fun a b => key a - key b where
  flip a b := by rw [sub_neg, sub_pos]
  trans a b c hab hbc := by linarith

/-! ## Sorting -/

section Sorting

variable {cmp : α → α → ℚ} {A B : List α}

/-- `Array.prototype.sort`, which is stable. -/
def sort (cmp : α → α → ℚ) (A : List α) : List α := A.insertionSort fun a b => cmp a b ≤ 0

theorem sort_perm (cmp : α → α → ℚ) (A : List α) : (sort cmp A).Perm A :=
  List.perm_insertionSort _ _

theorem IsComparator.total (h : IsComparator cmp) : Std.Total fun a b => cmp a b ≤ 0 :=
  ⟨fun a b => (le_total (cmp a b) 0).imp_right h.nonpos_iff.mpr⟩

theorem IsComparator.isTrans (h : IsComparator cmp) : IsTrans α fun a b => cmp a b ≤ 0 :=
  ⟨h.trans⟩

theorem sort_pairwise (h : IsComparator cmp) (A : List α) :
    (sort cmp A).Pairwise fun a b => cmp a b ≤ 0 := by
  have := h.total
  have := h.isTrans
  exact List.pairwise_insertionSort _ A

/-- Without ties the sorted list is strictly in order. -/
theorem sort_strict (h : IsComparator cmp) (hnodup : A.Nodup)
    (hties : ∀ a ∈ A, ∀ b ∈ A, cmp a b = 0 → a = b) :
    (sort cmp A).Pairwise fun a b => cmp a b < 0 := by
  have hperm := sort_perm cmp A
  refine List.Pairwise.imp_of_mem (fun {a b} ha hb hab => ?_)
    ((sort_pairwise h A).and (hperm.nodup_iff.mpr hnodup))
  exact lt_of_le_of_ne hab.1 fun hzero =>
    hab.2 (hties a (hperm.mem_iff.mp ha) b (hperm.mem_iff.mp hb) hzero)

theorem sort_eq_of_perm (h : IsComparator cmp)
    (hties : ∀ a ∈ A, ∀ b ∈ A, cmp a b = 0 → a = b) (hperm : A.Perm B) :
    sort cmp A = sort cmp B := by
  have := h.total
  have := h.isTrans
  refine ListMatching.insertionSort_eq_of_perm (fun a ha b hb hab hba => ?_) hperm
  exact hties a ha b hb (le_antisymm hab (h.nonpos_iff.mp hba))

/-- What stands before an element of a list in strict order are the elements
that compare as less. -/
theorem filter_eq_front (h : IsComparator cmp) {front back : List α} {b : α}
    (hstrict : (front ++ b :: back).Pairwise fun x y => cmp x y < 0) :
    (front ++ b :: back).filter (fun x => cmp x b < 0) = front := by
  obtain ⟨-, hback, hfront⟩ := List.pairwise_append.mp hstrict
  rw [List.filter_append, List.filter_eq_self.mpr, List.filter_eq_nil_iff.mpr, List.append_nil]
  · intro x hx
    rw [decide_eq_true_eq, not_lt]
    rcases List.mem_cons.mp hx with rfl | hx
    · exact le_of_eq (h.self_eq_zero x).symm
    · exact le_of_lt ((h.flip b x).mp ((List.pairwise_cons.mp hback).1 x hx))
  · intro x hx
    exact decide_eq_true (hfront x hx b List.mem_cons_self)

end Sorting

end Comparators
