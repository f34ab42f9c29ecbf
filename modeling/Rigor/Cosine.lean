import Mathlib.Analysis.Real.Sqrt

/-!
# Cosine of two bags

The cosine of the count vectors of two lists, in exact reals. It lies in
`[0, 1]` (`cosine_mem`), is `1` for a list with itself unless that is empty
(`cosine_self`), and does not see the order of either list (`cosine_perm`).
-/

namespace Cosine

variable {α : Type} [DecidableEq α]

/-- The product of the count vectors. -/
def dot (a b : List α) : ℝ := ∑ x ∈ a.toFinset, (a.count x : ℝ) * b.count x

/-- The square of the length of the count vector. -/
def square (a : List α) : ℝ := ∑ x ∈ a.toFinset, (a.count x : ℝ) * a.count x

/-- The cosine of the count vectors, `0` where one of them is empty. -/
noncomputable def cosine (a b : List α) : ℝ :=
  if a = [] ∨ b = [] then 0 else dot a b / (√(square a) * √(square b))

theorem sum_of_subset {a : List α} {s : Finset α} (h : a.toFinset ⊆ s) (f : α → ℝ) :
    ∑ x ∈ a.toFinset, (a.count x : ℝ) * f x = ∑ x ∈ s, (a.count x : ℝ) * f x := by
  refine Finset.sum_subset h fun x _ hx => ?_
  rw [List.mem_toFinset] at hx
  rw [List.count_eq_zero_of_not_mem hx, Nat.cast_zero, zero_mul]

theorem dot_nonneg (a b : List α) : 0 ≤ dot a b :=
  Finset.sum_nonneg fun _ _ => mul_nonneg (Nat.cast_nonneg _) (Nat.cast_nonneg _)

theorem square_nonneg (a : List α) : 0 ≤ square a := dot_nonneg a a

theorem square_pos {a : List α} (h : a ≠ []) : 0 < square a := by
  obtain ⟨x, hx⟩ := List.exists_mem_of_ne_nil a h
  have hpos : (0 : ℝ) < a.count x := Nat.cast_pos.mpr (List.count_pos_iff.mpr hx)
  refine (mul_pos hpos hpos).trans_le ?_
  exact Finset.single_le_sum (f := fun x => (a.count x : ℝ) * a.count x)
    (fun _ _ => mul_self_nonneg _) (List.mem_toFinset.mpr hx)

/-- The inequality of Cauchy and Schwarz. -/
theorem dot_le (a b : List α) : dot a b ≤ √(square a) * √(square b) := by
  have ha : a.toFinset ⊆ a.toFinset ∪ b.toFinset := Finset.subset_union_left
  have hb : b.toFinset ⊆ a.toFinset ∪ b.toFinset := Finset.subset_union_right
  rw [dot, square, square, sum_of_subset ha fun x => (b.count x : ℝ),
    sum_of_subset ha fun x => (a.count x : ℝ), sum_of_subset hb fun x => (b.count x : ℝ)]
  have h := Real.sum_mul_le_sqrt_mul_sqrt (a.toFinset ∪ b.toFinset)
    (fun x => (a.count x : ℝ)) fun x => (b.count x : ℝ)
  simpa only [sq] using h

theorem cosine_nonneg (a b : List α) : 0 ≤ cosine a b := by
  unfold cosine
  split_ifs
  · exact le_refl _
  · exact div_nonneg (dot_nonneg a b) (mul_nonneg (Real.sqrt_nonneg _) (Real.sqrt_nonneg _))

theorem cosine_le_one (a b : List α) : cosine a b ≤ 1 := by
  unfold cosine
  split_ifs
  · exact zero_le_one
  · exact div_le_one_of_le₀ (dot_le a b) (mul_nonneg (Real.sqrt_nonneg _) (Real.sqrt_nonneg _))

theorem cosine_mem (a b : List α) : cosine a b ∈ Set.Icc (0 : ℝ) 1 :=
  ⟨cosine_nonneg a b, cosine_le_one a b⟩

theorem cosine_self {a : List α} (h : a ≠ []) : cosine a a = 1 := by
  rw [cosine, if_neg (not_or.mpr ⟨h, h⟩), Real.mul_self_sqrt (square_nonneg a)]
  exact div_self (square_pos h).ne'

theorem cosine_nil (b : List α) : cosine [] b = 0 := if_pos (.inl rfl)

theorem dot_perm (a : List α) {b b' : List α} (h : b.Perm b') : dot a b = dot a b' := by
  unfold dot
  exact Finset.sum_congr rfl fun x _ => by rw [h.count_eq]

theorem square_perm {b b' : List α} (h : b.Perm b') : square b = square b' := by
  unfold square
  rw [List.toFinset_eq_of_perm _ _ h]
  exact Finset.sum_congr rfl fun x _ => by rw [h.count_eq]

/-- The cosine does not see the order of the second list. -/
theorem cosine_perm (a : List α) {b b' : List α} (h : b.Perm b') : cosine a b = cosine a b' := by
  have hnil : b = [] ↔ b' = [] := by
    rw [← List.length_eq_zero_iff, ← List.length_eq_zero_iff, h.length_eq]
  unfold cosine
  rw [dot_perm a h, square_perm h]
  simp only [hnil]

end Cosine
