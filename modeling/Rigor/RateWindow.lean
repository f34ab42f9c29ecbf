import Mathlib.Data.Int.Order.Basic
import Mathlib.Data.List.Count

/-!
# Rate windows

A counter that is one row of a table: the window it counts in and how much of
it is used. A use at a later window starts afresh, and one at an earlier
window, of a caller that was late, is charged to the window of the row. So the
windows that are charged never go back, and none is charged more often than
the limit (`Counts.take`).
-/

namespace RateWindow

structure Counter where
  startedAt : Int
  used : Nat
  deriving DecidableEq

/-- One more use, of a caller whose window is `now`. -/
def take (limit : Nat) (now : Int) : Option Counter → Option Counter
  | none => some ⟨now, 1⟩
  | some c =>
      if c.startedAt < now then some ⟨now, 1⟩
      else if c.used < limit then some ⟨c.startedAt, c.used + 1⟩
      else none

/-- The counter accounts for the windows charged so far. -/
structure Counts (limit : Nat) (counter : Option Counter) (charged : List Int) : Prop where
  bounded : ∀ window, charged.count window ≤ limit
  used : ∀ c, counter = some c → charged.count c.startedAt ≤ c.used ∧ c.used ≤ limit
  latest : ∀ c, counter = some c → ∀ window ∈ charged, window ≤ c.startedAt
  unused : counter = none → charged = []

variable {limit : Nat} {now : Int} {counter : Option Counter} {charged : List Int} {c : Counter}

theorem Counts.start (h : ∀ c, counter = some c → c.used ≤ limit) : Counts limit counter [] where
  bounded _ := Nat.zero_le _
  used c hc := ⟨Nat.zero_le _, h c hc⟩
  latest _ _ _ hmem := by cases hmem
  unused _ := rfl

/-- No caller is charged for a window before its own. -/
theorem le_startedAt_of_take (h : take limit now counter = some c) : now ≤ c.startedAt := by
  cases counter with
  | none =>
      cases h
      exact le_refl _
  | some c₀ =>
      unfold take at h
      dsimp only at h
      split_ifs at h with hlater
      · cases h
        exact le_refl _
      · cases h
        exact not_lt.mp hlater

/-- A window that no charge has reached is charged once. -/
theorem Counts.fresh (hlimit : 1 ≤ limit) (h : Counts limit counter charged)
    (hnew : ∀ window ∈ charged, window < now) : Counts limit (some ⟨now, 1⟩) (charged ++ [now]) := by
  have hzero : charged.count now = 0 :=
    List.count_eq_zero.mpr fun hmem => lt_irrefl _ (hnew now hmem)
  refine ⟨fun window => ?_, fun c hc => ?_, fun c hc window hmem => ?_, fun hnone => by cases hnone⟩
  · rw [List.count_append, List.count_singleton]
    by_cases hsame : now = window
    · rw [← hsame, hzero, if_pos (beq_self_eq_true now), Nat.zero_add]
      exact hlimit
    · rw [if_neg (by simpa using hsame), Nat.add_zero]
      exact h.bounded window
  · cases hc
    rw [List.count_append, List.count_singleton_self, hzero]
    exact ⟨Nat.le_refl 1, hlimit⟩
  · cases hc
    rcases List.mem_append.mp hmem with hold | hlast
    · exact le_of_lt (hnew window hold)
    · exact le_of_eq (List.mem_singleton.mp hlast)

/-- One more charge of the window that is open. -/
theorem Counts.again (h : Counts limit (some c) charged) (hroom : c.used < limit) :
    Counts limit (some ⟨c.startedAt, c.used + 1⟩) (charged ++ [c.startedAt]) := by
  have hused := (h.used c rfl).1
  refine ⟨fun window => ?_, fun c' hc => ?_, fun c' hc window hmem => ?_,
    fun hnone => by cases hnone⟩
  · rw [List.count_append, List.count_singleton]
    by_cases hsame : c.startedAt = window
    · rw [← hsame, if_pos (beq_self_eq_true c.startedAt)]
      omega
    · rw [if_neg (by simpa using hsame), Nat.add_zero]
      exact h.bounded window
  · cases hc
    rw [List.count_append, List.count_singleton_self]
    exact ⟨Nat.succ_le_succ hused, hroom⟩
  · cases hc
    rcases List.mem_append.mp hmem with hold | hlast
    · exact h.latest c rfl window hold
    · exact le_of_eq (List.mem_singleton.mp hlast)

theorem Counts.take (hlimit : 1 ≤ limit) (h : Counts limit counter charged)
    (htake : RateWindow.take limit now counter = some c) :
    Counts limit (some c) (charged ++ [c.startedAt]) := by
  cases counter with
  | none =>
      cases htake
      refine h.fresh hlimit fun window hmem => ?_
      rw [h.unused rfl] at hmem
      cases hmem
  | some c₀ =>
      unfold RateWindow.take at htake
      dsimp only at htake
      split_ifs at htake with hlater hroom
      · cases htake
        exact h.fresh hlimit fun window hmem => lt_of_le_of_lt (h.latest c₀ rfl window hmem) hlater
      · cases htake
        exact h.again hroom

end RateWindow
