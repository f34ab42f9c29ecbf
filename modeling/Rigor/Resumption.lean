import Mathlib.Data.List.Pairwise
import Mathlib.Data.Option.Basic
import Mathlib.Order.MinMax
import Mathlib.Order.Nat

/-!
# Resumption

Numbered rows are taken one after the other by a step that may refuse one. A
checkpoint is a number, and what is left to take are the rows behind it. Whoever
starts again at a checkpoint that is too early takes some rows twice, which does
no harm where the end of the rows `Replays`.
-/

namespace Resumption

variable {α σ : Type}

section Run

variable (step : α → σ → Option σ)

def runAll : List α → σ → Option σ
  | [], s => some s
  | x :: xs, s => (step x s).bind (runAll xs)

variable {step} {xs ys : List α} {s s' : σ}

theorem runAll_append : runAll step (xs ++ ys) s = (runAll step xs s).bind (runAll step ys) := by
  induction xs generalizing s with
  | nil => rfl
  | cons x xs ih =>
      show (step x s).bind (runAll step (xs ++ ys)) = _
      rw [show runAll step (x :: xs) s = (step x s).bind (runAll step xs) from rfl,
        Option.bind_assoc]
      exact congrArg _ (funext fun _ => ih)

theorem runAll_of_append (hxs : runAll step xs s = some s') :
    runAll step ys s' = runAll step (xs ++ ys) s := by
  rw [runAll_append, hxs]
  rfl

/-- Every end of the rows, taken once more, changes nothing. -/
def Replays (step : α → σ → Option σ) (rows : List α) (s : σ) : Prop :=
  ∀ rest, rest <:+ rows → runAll step rest s = some s

end Run

section After

variable (number : α → Nat)

/-- The rows behind a checkpoint. -/
def after (checkpoint : Nat) (rows : List α) : List α :=
  rows.filter fun x => checkpoint < number x

variable {number} {checkpoint n : Nat} {xs ys rows : List α}

theorem after_eq_nil (h : ∀ x ∈ rows, number x ≤ checkpoint) : after number checkpoint rows = [] :=
  List.filter_eq_nil_iff.mpr fun x hx => by simpa using h x hx

theorem after_eq_self (h : ∀ x ∈ rows, checkpoint < number x) :
    after number checkpoint rows = rows :=
  List.filter_eq_self.mpr fun x hx => by simpa using h x hx

/-- A checkpoint at the last of some rows, unless it was past them. -/
theorem after_append (hxs : ∀ x ∈ xs, number x ≤ n) (hys : ∀ y ∈ ys, n < number y) :
    after number (max checkpoint n) (xs ++ ys) = after number checkpoint ys := by
  have hfront : xs.filter (fun x => decide (max checkpoint n < number x)) = [] :=
    after_eq_nil fun x hx => (hxs x hx).trans (le_max_right _ _)
  rw [after, List.filter_append, hfront, List.nil_append]
  refine List.filter_congr fun y hy => ?_
  rw [decide_eq_decide, max_lt_iff]
  exact and_iff_left (hys y hy)

/-- The rows behind a checkpoint are the end of the rows. -/
theorem after_suffix (hsorted : rows.Pairwise fun x y => number x < number y) :
    after number checkpoint rows <:+ rows := by
  induction rows with
  | nil => exact List.suffix_rfl
  | cons x rows ih =>
      obtain ⟨hx, hrest⟩ := List.pairwise_cons.mp hsorted
      by_cases h : checkpoint < number x
      · have hall : ∀ y ∈ x :: rows, checkpoint < number y := fun y hy =>
          (List.mem_cons.mp hy).elim (fun heq => heq ▸ h) fun hy => h.trans (hx y hy)
        exact (after_eq_self hall).symm ▸ List.suffix_rfl
      · have hskip : after number checkpoint (x :: rows) = after number checkpoint rows :=
          List.filter_cons_of_neg (by simpa using h)
        rw [hskip]
        exact (ih hrest).trans (List.suffix_cons x rows)

end After

end Resumption
