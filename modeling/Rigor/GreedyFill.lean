import Mathlib.Algebra.Order.BigOperators.Group.List
import Mathlib.Algebra.Order.Group.MinMax

/-!
# Filling a budget

Items are taken in turn until the budget is spent, the last one in part. Such a
fill spends the budget or the whole cost, whichever is less (`sum_fill`), takes
everything but its last item whole (`fill_whole`), and reaches an item exactly
if the items before it leave something (`prefix_fill_iff`).
-/

namespace GreedyFill

variable {α β : Type} [AddCommGroup β] [LinearOrder β]

/-- What is taken of each item of a list. -/
def fill (cost : α → β) : β → List α → List (α × β)
  | _, [] => []
  | budget, a :: rest =>
    if budget ≤ 0 then []
    else (a, min (cost a) budget) :: fill cost (budget - min (cost a) budget) rest

variable {cost : α → β} {budget : β} {items : List α}

theorem fill_of_nonpos (h : budget ≤ 0) (items : List α) : fill cost budget items = [] := by
  cases items with
  | nil => rfl
  | cons a rest => exact if_pos h

theorem fill_cons (h : 0 < budget) (a : α) (rest : List α) :
    fill cost budget (a :: rest)
      = (a, min (cost a) budget) :: fill cost (budget - min (cost a) budget) rest :=
  if_neg (not_le_of_gt h)

theorem fill_begins : ∀ (items : List α) (budget : β),
    ((fill cost budget items).map Prod.fst) <+: items
  | [], _ => List.nil_prefix
  | a :: rest, budget => by
    by_cases h : budget ≤ 0
    · rw [fill_of_nonpos h]
      exact List.nil_prefix
    · rw [fill_cons (lt_of_not_ge h), List.map_cons]
      exact List.cons_prefix_cons.mpr ⟨rfl, fill_begins rest _⟩

/-- Each item taken costs at least what is taken of it. -/
theorem fill_le : ∀ (items : List α) (budget : β), ∀ p ∈ fill cost budget items, p.2 ≤ cost p.1
  | [], _ => by simp [fill]
  | a :: rest, budget => by
    intro p hp
    by_cases h : budget ≤ 0
    · rw [fill_of_nonpos h] at hp
      exact absurd hp List.not_mem_nil
    · rw [fill_cons (lt_of_not_ge h)] at hp
      rcases List.mem_cons.mp hp with rfl | hp
      · exact min_le_left _ _
      · exact fill_le rest _ p hp

/-- Only the last item taken can be cut short. -/
theorem fill_whole : ∀ (items : List α) (budget : β),
    ∀ p ∈ (fill cost budget items).dropLast, p.2 = cost p.1
  | [], _ => by simp [fill]
  | a :: rest, budget => by
    intro p hp
    by_cases h : budget ≤ 0
    · rw [fill_of_nonpos h] at hp
      exact absurd hp List.not_mem_nil
    · rw [fill_cons (lt_of_not_ge h)] at hp
      cases htail : fill cost (budget - min (cost a) budget) rest with
      | nil =>
        rw [htail] at hp
        exact absurd hp List.not_mem_nil
      | cons q more =>
        rw [htail, List.dropLast_cons_cons] at hp
        rcases List.mem_cons.mp hp with rfl | hp
        · -- something is left for the next item
          have hleft : ¬ budget - min (cost a) budget ≤ 0 := fun hle => by
            rw [fill_of_nonpos hle] at htail
            cases htail
          rcases le_total (cost a) budget with hle | hle
          · exact min_eq_left hle
          · exact absurd (by rw [min_eq_right hle, sub_self]) hleft
        · rw [← htail] at hp
          exact fill_whole rest _ p hp

variable [IsOrderedAddMonoid β]

theorem sum_fill : ∀ (items : List α) (budget : β), 0 ≤ budget → (∀ a ∈ items, 0 ≤ cost a) →
    ((fill cost budget items).map Prod.snd).sum = min budget (items.map cost).sum
  | [], budget, h, _ => by
    rw [List.map_nil, List.sum_nil, min_eq_right h]
    rfl
  | a :: rest, budget, h, hcost => by
    obtain ⟨ha, hrest⟩ := List.forall_mem_cons.mp hcost
    have hsum : 0 ≤ (rest.map cost).sum := List.sum_nonneg (List.forall_mem_map.mpr hrest)
    rcases h.eq_or_lt with rfl | hpos
    · rw [fill_of_nonpos le_rfl, List.map_cons, List.sum_cons, min_eq_left (add_nonneg ha hsum)]
      rfl
    · have hleft : 0 ≤ budget - min (cost a) budget := sub_nonneg.mpr (min_le_right _ _)
      rw [fill_cons hpos, List.map_cons, List.sum_cons, sum_fill rest _ hleft hrest, List.map_cons,
        List.sum_cons]
      rcases le_total (cost a) budget with hle | hle
      · rw [min_eq_left hle, ← min_add_add_left, add_sub_cancel]
      · have hall : budget ≤ cost a + (rest.map cost).sum := hle.trans (le_add_of_nonneg_right hsum)
        rw [min_eq_right hle, sub_self, min_eq_left hsum, add_zero, min_eq_left hall]

theorem prefix_fill_iff : ∀ (front : List α) (a : α) (back : List α) (budget : β),
    (∀ x ∈ front, 0 ≤ cost x) →
    (front ++ [a] <+: (fill cost budget (front ++ a :: back)).map Prod.fst
      ↔ (front.map cost).sum < budget)
  | [], a, back, budget, _ => by
    rw [List.nil_append, List.nil_append, List.map_nil, List.sum_nil]
    by_cases h : budget ≤ 0
    · rw [fill_of_nonpos h]
      exact iff_of_false (by simp) (not_lt_of_ge h)
    · rw [fill_cons (lt_of_not_ge h), List.map_cons]
      exact iff_of_true (List.cons_prefix_cons.mpr ⟨rfl, List.nil_prefix⟩) (lt_of_not_ge h)
  | x :: front, a, back, budget, hcost => by
    obtain ⟨hx, hfront⟩ := List.forall_mem_cons.mp hcost
    have hsum : 0 ≤ (front.map cost).sum := List.sum_nonneg (List.forall_mem_map.mpr hfront)
    rw [List.cons_append, List.cons_append, List.map_cons, List.sum_cons]
    by_cases h : budget ≤ 0
    · rw [fill_of_nonpos h]
      exact iff_of_false (by simp) (not_lt_of_ge (h.trans (add_nonneg hx hsum)))
    · rw [fill_cons (lt_of_not_ge h), List.map_cons, List.cons_prefix_cons,
        prefix_fill_iff front a back _ hfront]
      rcases le_total (cost x) budget with hle | hle
      · rw [min_eq_left hle, lt_sub_iff_add_lt']
        exact and_iff_right rfl
      · rw [min_eq_right hle, sub_self]
        refine iff_of_false (fun hboth => not_lt_of_ge hsum hboth.2) (not_lt_of_ge ?_)
        exact hle.trans (le_add_of_nonneg_right hsum)

end GreedyFill
