import Mathlib.Data.List.Perm.Basic
import Mathlib.Data.List.Sort

/-!
# Matching two lists

Two lists match under a comparison when some permutation of the first is
related to the second, element by element. A comparison here is symmetric
and transitive on its domain but need not be reflexive: an element that is
not even related to itself matches nothing.

`matches_iff_balanced` decides a match by counting; `perm_map_iff_matches`
says when a permutation of keys decides it.
-/

namespace ListMatching

variable {α β : Type}

/-- A comparison of the elements of a domain. -/
structure Comparison (D : α → Prop) (r : α → α → Bool) : Prop where
  symm : ∀ {x y}, D x → D y → r x y = true → r y x = true
  trans : ∀ {x y z}, D x → D y → D z → r x y = true → r y z = true → r x z = true

def Matches (r : α → α → Bool) (A B : List α) : Prop :=
  ∃ A', A'.Perm A ∧ List.Forall₂ (fun x y => r x y = true) A' B

/-- Every element is related to itself, and to as many elements of the one
list as of the other. -/
def Balanced (r : α → α → Bool) (A B : List α) : Prop :=
  ∀ x ∈ A ++ B, r x x = true ∧ A.countP (r x) = B.countP (r x)

variable {D : α → Prop} {r : α → α → Bool}

namespace Comparison

variable (h : Comparison D r)

include h

theorem self {x y : α} (hx : D x) (hy : D y) (hxy : r x y = true) : r x x = true :=
  h.trans hx hy hx hxy (h.symm hx hy hxy)

/-- Related elements are related to the same elements. -/
theorem congr {x a b : α} (hx : D x) (ha : D a) (hb : D b) (hab : r a b = true) :
    r x a = r x b := by
  rw [Bool.eq_iff_iff]
  exact ⟨fun hxa => h.trans hx ha hb hxa hab,
    fun hxb => h.trans hx hb ha hxb (h.symm ha hb hab)⟩

theorem countP_eq {x : α} (hx : D x) {A B : List α} (hA : ∀ a ∈ A, D a) (hB : ∀ b ∈ B, D b)
    (hAB : List.Forall₂ (fun x y => r x y = true) A B) : A.countP (r x) = B.countP (r x) := by
  induction hAB with
  | nil => rfl
  | @cons a b A B hab _ ih =>
      rw [List.forall_mem_cons] at hA hB
      rw [List.countP_cons, List.countP_cons, ih hA.2 hB.2, h.congr hx hA.1 hB.1 hab]

theorem balanced_of_forall₂ {A B : List α} (hA : ∀ a ∈ A, D a) (hB : ∀ b ∈ B, D b)
    (hAB : List.Forall₂ (fun x y => r x y = true) A B) : Balanced r A B := by
  intro x hx
  have hD : D x := (List.mem_append.mp hx).elim (hA x) (hB x)
  refine ⟨?_, h.countP_eq hD hA hB hAB⟩
  rcases List.mem_append.mp hx with hx | hx
  · obtain ⟨i, hi, rfl⟩ := List.getElem_of_mem hx
    have hlen := hAB.length_eq
    exact h.self hD (hB _ (List.getElem_mem (hlen ▸ hi))) (hAB.get hi (hlen ▸ hi))
  · obtain ⟨i, hi, rfl⟩ := List.getElem_of_mem hx
    have hlen := hAB.length_eq
    have hi' : i < A.length := hlen ▸ hi
    have ha := hA _ (List.getElem_mem hi')
    exact h.self hD ha (h.symm ha hD (hAB.get hi' hi))

theorem balanced_of_matches {A B : List α} (hA : ∀ a ∈ A, D a) (hB : ∀ b ∈ B, D b)
    (hAB : Matches r A B) : Balanced r A B := by
  obtain ⟨A', hperm, hrel⟩ := hAB
  have hA' : ∀ a ∈ A', D a := fun a ha => hA a (hperm.mem_iff.mp ha)
  have hbalanced := h.balanced_of_forall₂ hA' hB hrel
  intro x hx
  rw [← hperm.countP_eq]
  apply hbalanced
  rw [List.mem_append, hperm.mem_iff, ← List.mem_append]
  exact hx

/-- A related pair is taken out of balanced lists. -/
theorem balanced_rest {a b : α} {A B : List α} (hA : ∀ x ∈ a :: A, D x) (hB : ∀ x ∈ b :: B, D x)
    (hab : r a b = true) (hAB : Balanced r (a :: A) (b :: B)) : Balanced r A B := by
  intro x hx
  rw [List.forall_mem_cons] at hA hB
  have hD : D x := (List.mem_append.mp hx).elim (hA.2 x) (hB.2 x)
  obtain ⟨hself, hcount⟩ := hAB x (by
    rcases List.mem_append.mp hx with hx | hx
    · exact List.mem_append_left _ (List.mem_cons_of_mem _ hx)
    · exact List.mem_append_right _ (List.mem_cons_of_mem _ hx))
  rw [List.countP_cons, List.countP_cons, h.congr hD hA.1 hB.1 hab] at hcount
  exact ⟨hself, Nat.add_right_cancel hcount⟩

/-- The elements of the second list are taken in order, each with an element
of the first that balance leaves for it. -/
theorem matches_of_balanced {A B : List α} (hA : ∀ a ∈ A, D a) (hB : ∀ b ∈ B, D b)
    (hAB : Balanced r A B) : Matches r A B := by
  induction B generalizing A with
  | nil =>
      cases A with
      | nil => exact ⟨[], .nil, .nil⟩
      | cons a A =>
          obtain ⟨hself, hcount⟩ := hAB a (by simp)
          rw [List.countP_cons, hself] at hcount
          cases hcount
  | cons b B ih =>
      obtain ⟨hself, hcount⟩ := hAB b (by simp)
      have hpos : 0 < A.countP (r b) := by
        rw [hcount, List.countP_cons, hself]
        exact Nat.succ_pos _
      obtain ⟨a, ha, hba⟩ := List.countP_pos_iff.mp hpos
      obtain ⟨front, back, rfl⟩ := List.append_of_mem ha
      have hperm : (front ++ a :: back).Perm (a :: (front ++ back)) := List.perm_middle
      have hA' : ∀ x ∈ a :: (front ++ back), D x := fun x hx => hA x (hperm.mem_iff.mpr hx)
      have hab : r a b = true := h.symm (hB b (by simp)) (hA a ha) hba
      have hrest : Balanced r (front ++ back) B := by
        refine h.balanced_rest hA' hB hab fun x hx => ?_
        rw [← hperm.countP_eq]
        apply hAB
        rw [List.mem_append, hperm.mem_iff, ← List.mem_append]
        exact hx
      obtain ⟨A', hperm', hrel⟩ := ih (List.forall_mem_cons.mp hA').2
        (List.forall_mem_cons.mp hB).2 hrest
      exact ⟨a :: A', (hperm'.cons a).trans hperm.symm, .cons hab hrel⟩

theorem matches_iff_balanced {A B : List α} (hA : ∀ a ∈ A, D a) (hB : ∀ b ∈ B, D b) :
    Matches r A B ↔ Balanced r A B :=
  ⟨h.balanced_of_matches hA hB, h.matches_of_balanced hA hB⟩

end Comparison

/-! ## Keys -/

/-- Sorting forgets the order and nothing else. -/
theorem insertionSort_eq_iff {le : α → α → Prop} [DecidableRel le] [Std.Total le] [IsTrans α le]
    [Std.Antisymm le] {A B : List α} : A.insertionSort le = B.insertionSort le ↔ A.Perm B := by
  have hA := List.perm_insertionSort le A
  have hB := List.perm_insertionSort le B
  constructor
  · intro h
    rw [h] at hA
    exact hA.symm.trans hB
  · intro h
    exact ((hA.trans h).trans hB.symm).eq_of_pairwise' (List.pairwise_insertionSort le A)
      (List.pairwise_insertionSort le B)

/-- Where only equal elements are in order both ways, sorting sees no order. -/
theorem insertionSort_eq_of_perm {le : α → α → Prop} [DecidableRel le] [Std.Total le]
    [IsTrans α le] {A B : List α} (hanti : ∀ a ∈ A, ∀ b ∈ A, le a b → le b a → a = b)
    (h : A.Perm B) : A.insertionSort le = B.insertionSort le := by
  have hA := List.perm_insertionSort le A
  have hB := List.perm_insertionSort le B
  refine ((hA.trans h).trans hB.symm).eq_of_pairwise (fun a b ha hb => ?_)
    (List.pairwise_insertionSort le A) (List.pairwise_insertionSort le B)
  exact hanti a (hA.mem_iff.mp ha) b (h.mem_iff.mpr (hB.mem_iff.mp hb))

theorem perm_map_iff {f : α → β} {A B : List α} :
    (A.map f).Perm (B.map f) ↔ ∃ A' : List α, A'.Perm A ∧ A'.map f = B.map f := by
  have hcomp := congrFun (congrFun (List.eq_map_comp_perm f) (B.map f)) A
  rw [List.perm_comm, ← iff_of_eq hcomp]
  constructor
  · rintro ⟨A', hmap, hperm⟩
    exact ⟨A', hperm, hmap.symm⟩
  · rintro ⟨A', hperm, hmap⟩
    exact ⟨A', hmap.symm, hperm⟩

/-- Each key is the key of as many elements of the one list as of the other. -/
theorem perm_map_iff_count [BEq β] [LawfulBEq β] {f : α → β} {A B : List α} :
    (A.map f).Perm (B.map f)
      ↔ ∀ x ∈ A ++ B, (A.map f).count (f x) = (B.map f).count (f x) := by
  rw [List.perm_iff_count]
  constructor
  · exact fun h x _ => h (f x)
  · intro h k
    by_cases hk : k ∈ (A ++ B).map f
    · obtain ⟨x, hx, rfl⟩ := List.mem_map.mp hk
      exact h x hx
    · rw [List.map_append, List.mem_append, not_or] at hk
      rw [List.count_eq_zero_of_not_mem hk.1, List.count_eq_zero_of_not_mem hk.2]

/-- Where elements with one key are related, two lists whose keys are the
same up to order match. -/
theorem matches_of_perm_map {f : α → β} {A B : List α}
    (hfine : ∀ x ∈ A, ∀ y ∈ B, f x = f y → r x y = true) (h : (A.map f).Perm (B.map f)) :
    Matches r A B := by
  obtain ⟨A', hperm, hmap⟩ := perm_map_iff.mp h
  refine ⟨A', hperm, ?_⟩
  have hlen : A'.length = B.length := by simpa using congrArg List.length hmap
  refine List.forall₂_iff_get.mpr ⟨hlen, fun i hA hB => ?_⟩
  refine hfine _ (hperm.mem_iff.mp (List.get_mem ..)) _ (List.get_mem ..) ?_
  have hi := congrArg (fun l : List β => l[i]?) hmap
  simpa [List.getElem?_eq_getElem, hA, hB] using hi

/-- Keys finer than the comparison decide a match if and only if balanced
lists have balanced keys. -/
theorem perm_map_iff_matches [BEq β] [LawfulBEq β] {f : α → β} (h : Comparison D r) {A B : List α}
    (hA : ∀ a ∈ A, D a) (hB : ∀ b ∈ B, D b)
    (hfine : ∀ x ∈ A, ∀ y ∈ B, f x = f y → r x y = true) :
    ((A.map f).Perm (B.map f) ↔ Matches r A B)
      ↔ (Balanced r A B →
        ∀ x ∈ A ++ B, (A.map f).count (f x) = (B.map f).count (f x)) := by
  rw [h.matches_iff_balanced hA hB, ← perm_map_iff_count]
  constructor
  · exact fun hiff => hiff.mpr
  · exact fun himp => ⟨fun hperm =>
      h.balanced_of_matches hA hB (matches_of_perm_map hfine hperm), himp⟩

end ListMatching
