import Mathlib.Data.List.Dedup
import Mathlib.Data.List.Sort
import Rigor.ConsecutiveRuns

/-!
# Streaks of activity days

`_streaks` of `knowledge_progress_routes.py`. Both loops go down the sorted
days: the first keeps the longest run among those that start at the day reached
or later (`foldl_countRun`), the second counts on from the greatest day until a
gap (`countBack_spec`). A `date` is its ordinal; the clock is past `date.min`,
so the day before today is a date as well.
-/

namespace Rigor

open ConsecutiveRuns

/-- `itertools.pairwise`. -/
def pairwise {α : Type} (l : List α) : List (α × α) := l.zip l.tail

@[simp] theorem pairwise_cons_cons {α : Type} (a b : α) (l : List α) :
    pairwise (a :: b :: l) = (a, b) :: pairwise (b :: l) := rfl

/-- `sorted(set(days), reverse=True)` -/
def sortedDays (days : List Int) : List Int := days.dedup.insertionSort (· ≥ ·)

/-- One round of the first loop, on `(longest, running)`. -/
def countRun : Nat × Nat → Int × Int → Nat × Nat
  | (longest, running), (previous, current) =>
    if previous - current = 1 then (max longest (running + 1), running + 1) else (longest, 1)

/-- The second loop, which breaks at the first gap. -/
def countBack (currentStreak : Nat) : List (Int × Int) → Nat
  | [] => currentStreak
  | (previous, current) :: rest =>
    if previous - current ≠ 1 then currentStreak else countBack (currentStreak + 1) rest

/-- `_streaks`, with the answer of `date.today()`. -/
def streaks (today : Int) (days : List Int) : Nat × Nat :=
  match sortedDays days with
  | [] => (0, 0)
  | first :: rest =>
    let longest := ((pairwise (first :: rest)).foldl countRun (1, 1)).1
    if first ≠ today ∧ first ≠ today - 1 then (0, longest)
    else (countBack 1 (pairwise (first :: rest)), longest)

example : streaks 100 [95, 100, 98, 99, 100] = (3, 3) := by decide

/-! ## The sorted days -/

theorem mem_sortedDays {days : List Int} {d : Int} : d ∈ sortedDays days ↔ d ∈ days := by
  rw [sortedDays, List.mem_insertionSort, List.mem_dedup]

theorem sortedDays_pairwise (days : List Int) : (sortedDays days).Pairwise (· > ·) := by
  have hsorted := List.pairwise_insertionSort (fun a b : Int => a ≥ b) days.dedup
  have hnodup : (sortedDays days).Nodup :=
    (List.perm_insertionSort _ _).nodup_iff.mpr days.nodup_dedup
  exact (hsorted.and hnodup).imp fun h => lt_of_le_of_ne h.1 (Ne.symm h.2)

/-- The days alone decide how they are sorted. -/
theorem sortedDays_congr {days days' : List Int} (h : ∀ d, d ∈ days' ↔ d ∈ days) :
    sortedDays days' = sortedDays days :=
  (sortedDays_pairwise days').eq_of_mem_iff (sortedDays_pairwise days) fun d => by
    rw [mem_sortedDays, mem_sortedDays, h]

/-! ## The loops -/

section Loops

variable {S : Set ℤ} {first current : Int} {rest : List Int}

/-- The days that the loops have still to reach: what the set has up to
`first`. -/
def Below (S : Set ℤ) (first : Int) (rest : List Int) : Prop :=
  first ∈ S ∧ (first :: rest).Pairwise (· > ·) ∧ ∀ d ∈ S, d < first → d ∈ rest

theorem Below.next (h : Below S first (current :: rest)) (hS : ∀ d ∈ current :: rest, d ∈ S) :
    Below S current rest := by
  obtain ⟨-, hsorted, hbelow⟩ := h
  obtain ⟨hfirst, hrest⟩ := List.pairwise_cons.mp hsorted
  refine ⟨hS current List.mem_cons_self, hrest, fun d hd hlt => ?_⟩
  have hcurrent := hfirst current List.mem_cons_self
  rcases List.mem_cons.mp (hbelow d hd (by omega)) with heq | hmem
  · omega
  · exact hmem

/-- Nothing lies between the two days of a pair. -/
theorem Below.between (h : Below S first (current :: rest)) :
    current < first ∧ ∀ d ∈ S, current < d → first ≤ d := by
  obtain ⟨-, hsorted, hbelow⟩ := h
  obtain ⟨hfirst, hrest⟩ := List.pairwise_cons.mp hsorted
  refine ⟨hfirst current List.mem_cons_self, fun d hd hlt => ?_⟩
  by_contra hnot
  rcases List.mem_cons.mp (hbelow d hd (by omega)) with heq | hmem
  · omega
  · have := (List.pairwise_cons.mp hrest).1 d hmem
    omega

/-- The first loop, from a day down to the least one. -/
theorem foldl_countRun : ∀ {rest : List Int} {first : Int} {longest running : Nat},
    Below S first rest → (∀ d ∈ rest, d ∈ S) →
    IsGreatest (StartingAt S first) running → IsGreatest (StartingFrom S first) longest →
    IsGreatest (Lengths S) ((pairwise (first :: rest)).foldl countRun (longest, running)).1
  | [], first, longest, running, hbelow, _, _, hlongest => by
    refine isGreatest_lengths_of_least (fun d hd => ?_) hlongest
    by_contra hnot
    exact absurd (hbelow.2.2 d hd (by omega)) List.not_mem_nil
  | current :: rest, first, longest, running, hbelow, hS, hrunning, hlongest => by
    have hnext := hbelow.next hS
    have hrest : ∀ d ∈ rest, d ∈ S := fun d hd => hS d (List.mem_cons_of_mem _ hd)
    obtain ⟨hlt, hnone⟩ := hbelow.between
    rw [pairwise_cons_cons, List.foldl_cons]
    by_cases hday : first - current = 1
    · have hstart : IsGreatest (StartingAt S current) (running + 1) := by
        refine isGreatest_startingAt_succ hnext.1 ?_
        rwa [show current + 1 = first by omega]
      rw [countRun, if_pos hday]
      exact foldl_countRun hnext hrest hstart
        (isGreatest_startingFrom_of_next hlt hnone hstart hlongest)
    · have hgap : current + 1 ∉ S := fun h => by
        have := hnone _ h (by omega)
        omega
      have hstart : IsGreatest (StartingAt S current) 1 :=
        isGreatest_startingAt_succ hnext.1 (isGreatest_startingAt_of_not_mem hgap)
      have hone : 1 ∈ StartingAt S first :=
        succ_mem_startingAt.mpr ⟨hbelow.1, zero_mem_startingAt S _⟩
      have hpos : 1 ≤ longest := hlongest.2 ⟨first, le_refl first, hone⟩
      have hfrom := isGreatest_startingFrom_of_next hlt hnone hstart hlongest
      rw [max_eq_left hpos] at hfrom
      rw [countRun, if_neg hday]
      exact foldl_countRun hnext hrest hstart hfrom

/-- The second loop adds the run that ends the day before. -/
theorem countBack_spec : ∀ {rest : List Int} {first : Int} (k : Nat),
    Below S first rest → (∀ d ∈ rest, d ∈ S) →
    ∃ n, countBack k (pairwise (first :: rest)) = k + n ∧ IsGreatest (EndingAt S (first - 1)) n
  | [], first, k, hbelow, _ => by
    refine ⟨0, rfl, isGreatest_endingAt_of_not_mem fun h => ?_⟩
    exact absurd (hbelow.2.2 _ h (by omega)) List.not_mem_nil
  | current :: rest, first, k, hbelow, hS => by
    rw [pairwise_cons_cons, countBack]
    by_cases hday : first - current = 1
    · rw [if_neg (not_not.mpr hday)]
      have hnext := hbelow.next hS
      obtain ⟨n, hcount, hrun⟩ := countBack_spec (k + 1) hnext
        fun d hd => hS d (List.mem_cons_of_mem _ hd)
      refine ⟨n + 1, by omega, ?_⟩
      rw [show first - 1 = current by omega]
      exact isGreatest_endingAt_succ hnext.1 hrun
    · rw [if_pos hday]
      obtain ⟨hlt, hnone⟩ := hbelow.between
      refine ⟨0, rfl, isGreatest_endingAt_of_not_mem fun h => ?_⟩
      have := hnone _ h (by omega)
      omega

end Loops

/-! ## Streaks -/

/-- The set of the days. -/
def daySet (days : List Int) : Set ℤ := {d | d ∈ days}

theorem below_sortedDays {days : List Int} {first : Int} {rest : List Int}
    (h : sortedDays days = first :: rest) :
    Below (daySet days) first rest ∧ (∀ d ∈ rest, d ∈ daySet days)
      ∧ IsGreatest (daySet days) first := by
  have hmem (d : Int) : d ∈ first :: rest ↔ d ∈ days := by rw [← h, mem_sortedDays]
  have hsorted : (first :: rest).Pairwise (· > ·) := h ▸ sortedDays_pairwise days
  have hfirst : first ∈ daySet days := (hmem first).mp List.mem_cons_self
  refine ⟨⟨hfirst, hsorted, fun d hd hlt => ?_⟩,
    fun d hd => (hmem d).mp (List.mem_cons_of_mem _ hd), hfirst, fun d hd => ?_⟩
  · rcases List.mem_cons.mp ((hmem d).mpr hd) with heq | hrest
    · omega
    · exact hrest
  · rcases List.mem_cons.mp ((hmem d).mpr hd) with heq | hrest
    · omega
    · exact le_of_lt ((List.pairwise_cons.mp hsorted).1 d hrest)

theorem streaks_longest (today : Int) (days : List Int) :
    IsGreatest (Lengths (daySet days)) (streaks today days).2 := by
  unfold streaks
  cases h : sortedDays days with
  | nil =>
    have hempty : daySet days = ∅ := by
      refine Set.eq_empty_iff_forall_notMem.mpr fun d hd => ?_
      exact absurd (h ▸ mem_sortedDays.mpr hd) List.not_mem_nil
    rw [hempty]
    exact isGreatest_lengths_empty
  | cons first rest =>
    obtain ⟨hbelow, hrest, hgreatest⟩ := below_sortedDays h
    have hnext : first + 1 ∉ daySet days := fun h => by
      have := hgreatest.2 h
      omega
    have hstart := isGreatest_startingAt_succ hgreatest.1 (isGreatest_startingAt_of_not_mem hnext)
    have hloop := foldl_countRun hbelow hrest hstart (isGreatest_startingFrom_of_greatest hgreatest)
    dsimp only
    split
    · exact hloop
    · exact hloop

/-- The day a current streak ends with. -/
def lastDay (today : Int) (days : List Int) : Int := if today ∈ days then today else today - 1

theorem streaks_current {today : Int} {days : List Int} (hpast : ∀ d ∈ days, d ≤ today) :
    IsGreatest (EndingAt (daySet days) (lastDay today days)) (streaks today days).1 := by
  have habsent (hnot : today ∉ days) (hnot' : today - 1 ∉ days) :
      IsGreatest (EndingAt (daySet days) (lastDay today days)) 0 := by
    rw [lastDay, if_neg hnot]
    exact isGreatest_endingAt_of_not_mem hnot'
  unfold streaks
  cases h : sortedDays days with
  | nil =>
    have hempty (d : Int) : d ∉ days := fun hd =>
      absurd (h ▸ mem_sortedDays.mpr hd) List.not_mem_nil
    exact habsent (hempty today) (hempty _)
  | cons first rest =>
    obtain ⟨hbelow, hrest, hgreatest⟩ := below_sortedDays h
    have hle : first ≤ today := hpast first hgreatest.1
    dsimp only
    split
    · rename_i hgap
      -- the greatest day is before yesterday
      refine habsent (fun hd => ?_) fun hd => ?_
      · have := hgreatest.2 hd
        omega
      · have := hgreatest.2 hd
        omega
    · rename_i hnear
      have hlast : lastDay today days = first := by
        by_cases hd : today ∈ days
        · have := hgreatest.2 hd
          rw [lastDay, if_pos hd]
          omega
        · rw [lastDay, if_neg hd]
          have hne : first ≠ today := fun heq => hd (heq ▸ hgreatest.1)
          omega
      obtain ⟨n, hcount, hrun⟩ := countBack_spec 1 hbelow hrest
      rw [hlast, hcount, Nat.add_comm]
      exact isGreatest_endingAt_succ hgreatest.1 hrun

/-- The streaks are the longest run of the days and the run that ends today or,
without today, yesterday. -/
theorem streaks_are_runs {today : Int} {days : List Int} (hpast : ∀ d ∈ days, d ≤ today) :
    IsGreatest (Lengths (daySet days)) (streaks today days).2
      ∧ IsGreatest (EndingAt (daySet days) (lastDay today days)) (streaks today days).1
      ∧ (streaks today days).1 ≤ (streaks today days).2
      ∧ ∀ days' : List Int, (∀ d, d ∈ days' ↔ d ∈ days) →
        streaks today days' = streaks today days := by
  have hlongest := streaks_longest today days
  have hcurrent := streaks_current hpast
  refine ⟨hlongest, hcurrent, hlongest.2 (mem_lengths_of_endingAt hcurrent.1), ?_⟩
  intro days' hdays
  rw [streaks, streaks, sortedDays_congr hdays]

theorem streaks_are_runs_gap : (∀ d ∈ [95, 99, 98, 99], d ≤ (100 : Int))
    ∧ IsGreatest (EndingAt (daySet [95, 99, 98, 99]) (lastDay 100 [95, 99, 98, 99]))
      (streaks 100 [95, 99, 98, 99]).1 :=
  ⟨by decide, (streaks_are_runs (by decide)).2.1⟩

end Rigor
