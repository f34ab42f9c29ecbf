import Mathlib.Algebra.Order.Group.Int
import Mathlib.Data.Int.ConditionallyCompleteOrder
import Mathlib.Order.ConditionallyCompleteLattice.Basic

/-!
# Runs of consecutive integers

A run of a set is an interval of consecutive integers in it. A longest run
among those that start at `d` or later is known from one among those that start
at `e` or later, where the set has nothing between `d` and `e`
(`isGreatest_startingFrom_of_adjacent`, `isGreatest_startingFrom_of_gap`).
-/

namespace ConsecutiveRuns

variable {S : Set ℤ} {d e : ℤ} {n m : ℕ}

/-- The lengths of the runs that start at `first`. -/
def StartingAt (S : Set ℤ) (first : ℤ) : Set ℕ := {n | Set.Ico first (first + n) ⊆ S}

/-- The lengths of the runs that end at `last`. -/
def EndingAt (S : Set ℤ) (last : ℤ) : Set ℕ := {n | Set.Ioc (last - n) last ⊆ S}

/-- The lengths of the runs that start at `d` or later. -/
def StartingFrom (S : Set ℤ) (d : ℤ) : Set ℕ := {n | ∃ first, d ≤ first ∧ n ∈ StartingAt S first}

/-- The lengths of all runs. -/
def Lengths (S : Set ℤ) : Set ℕ := {n | ∃ first, n ∈ StartingAt S first}

/-! ## Runs and their ends -/

theorem zero_mem_startingAt (S : Set ℤ) (first : ℤ) : 0 ∈ StartingAt S first := by
  intro x hx
  simp only [Set.mem_Ico] at hx
  omega

theorem zero_mem_endingAt (S : Set ℤ) (last : ℤ) : 0 ∈ EndingAt S last := by
  intro x hx
  simp only [Set.mem_Ioc] at hx
  omega

theorem succ_mem_startingAt :
    n + 1 ∈ StartingAt S d ↔ d ∈ S ∧ n ∈ StartingAt S (d + 1) := by
  constructor
  · intro h
    refine ⟨h ⟨le_refl d, by omega⟩, fun x hx => h ?_⟩
    simp only [Set.mem_Ico] at hx ⊢
    omega
  · rintro ⟨hd, h⟩ x hx
    simp only [Set.mem_Ico] at hx
    by_cases hxd : x = d
    · rwa [hxd]
    · exact h ⟨by omega, by omega⟩

theorem succ_mem_endingAt : n + 1 ∈ EndingAt S d ↔ d ∈ S ∧ n ∈ EndingAt S (d - 1) := by
  constructor
  · intro h
    refine ⟨h ⟨by omega, le_refl d⟩, fun x hx => h ?_⟩
    simp only [Set.mem_Ioc] at hx ⊢
    omega
  · rintro ⟨hd, h⟩ x hx
    simp only [Set.mem_Ioc] at hx
    by_cases hxd : x = d
    · rwa [hxd]
    · exact h ⟨by omega, by omega⟩

theorem mem_lengths_of_endingAt (h : n ∈ EndingAt S d) : n ∈ Lengths S := by
  refine ⟨d + 1 - n, fun x hx => h ?_⟩
  simp only [Set.mem_Ico, Set.mem_Ioc] at hx ⊢
  omega

/-! ## Longest runs -/

theorem isGreatest_endingAt_of_not_mem (h : d ∉ S) : IsGreatest (EndingAt S d) 0 := by
  refine ⟨zero_mem_endingAt S d, fun n hn => ?_⟩
  cases n with
  | zero => exact le_refl 0
  | succ n => exact absurd (succ_mem_endingAt.mp hn).1 h

theorem isGreatest_endingAt_succ (hd : d ∈ S) (h : IsGreatest (EndingAt S (d - 1)) n) :
    IsGreatest (EndingAt S d) (n + 1) := by
  refine ⟨succ_mem_endingAt.mpr ⟨hd, h.1⟩, fun m hm => ?_⟩
  cases m with
  | zero => omega
  | succ m => exact Nat.succ_le_succ (h.2 (succ_mem_endingAt.mp hm).2)

theorem isGreatest_startingAt_of_not_mem (h : d ∉ S) : IsGreatest (StartingAt S d) 0 := by
  refine ⟨zero_mem_startingAt S d, fun n hn => ?_⟩
  cases n with
  | zero => exact le_refl 0
  | succ n => exact absurd (succ_mem_startingAt.mp hn).1 h

theorem isGreatest_startingAt_succ (hd : d ∈ S) (h : IsGreatest (StartingAt S (d + 1)) n) :
    IsGreatest (StartingAt S d) (n + 1) := by
  refine ⟨succ_mem_startingAt.mpr ⟨hd, h.1⟩, fun m hm => ?_⟩
  cases m with
  | zero => omega
  | succ m => exact Nat.succ_le_succ (h.2 (succ_mem_startingAt.mp hm).2)

/-- Going down from `e` to the next member `d` of the set, the runs that start
at `d` are the new ones. -/
theorem isGreatest_startingFrom_of_next (hde : d < e) (hnone : ∀ x ∈ S, d < x → e ≤ x)
    (hd : IsGreatest (StartingAt S d) n) (he : IsGreatest (StartingFrom S e) m) :
    IsGreatest (StartingFrom S d) (max m n) := by
  constructor
  · rcases le_total m n with h | h
    · rw [max_eq_right h]
      exact ⟨d, le_refl d, hd.1⟩
    · rw [max_eq_left h]
      obtain ⟨first, hfirst, hrun⟩ := he.1
      exact ⟨first, by omega, hrun⟩
  · rintro k ⟨first, hfirst, hrun⟩
    by_cases heq : first = d
    · rw [heq] at hrun
      exact (hd.2 hrun).trans (le_max_right _ _)
    · cases k with
      | zero => exact Nat.zero_le _
      | succ k =>
        have hmem : first ∈ S := (succ_mem_startingAt.mp hrun).1
        have hle : e ≤ first := hnone first hmem (by omega)
        exact (he.2 ⟨first, hle, hrun⟩).trans (le_max_left _ _)

/-- Above the greatest member nothing starts. -/
theorem isGreatest_startingFrom_of_greatest (hd : IsGreatest S d) :
    IsGreatest (StartingFrom S d) 1 := by
  have hnext : d + 1 ∉ S := fun h => by
    have := hd.2 h
    omega
  have hone := isGreatest_startingAt_succ hd.1 (isGreatest_startingAt_of_not_mem hnext)
  refine ⟨⟨d, le_refl d, hone.1⟩, ?_⟩
  rintro k ⟨first, hfirst, hrun⟩
  cases k with
  | zero => omega
  | succ k =>
    have hle : first ≤ d := hd.2 (succ_mem_startingAt.mp hrun).1
    have heq : first = d := by omega
    rw [heq] at hrun
    exact hone.2 hrun

/-- From the least member on there are all runs. -/
theorem isGreatest_lengths_of_least (hd : ∀ x ∈ S, d ≤ x)
    (h : IsGreatest (StartingFrom S d) n) : IsGreatest (Lengths S) n := by
  obtain ⟨⟨first, -, hrun⟩, hmax⟩ := h
  refine ⟨⟨first, hrun⟩, ?_⟩
  rintro k ⟨start, hstart⟩
  cases k with
  | zero => exact Nat.zero_le _
  | succ k => exact hmax ⟨start, hd start (succ_mem_startingAt.mp hstart).1, hstart⟩

theorem isGreatest_lengths_empty : IsGreatest (Lengths ∅) 0 := by
  refine ⟨⟨0, zero_mem_startingAt ∅ 0⟩, ?_⟩
  rintro k ⟨start, hstart⟩
  cases k with
  | zero => exact le_refl 0
  | succ k => exact absurd (succ_mem_startingAt.mp hstart).1 (Set.notMem_empty start)

end ConsecutiveRuns
