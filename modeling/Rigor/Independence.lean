import Mathlib.Data.List.Basic

/-!
# Steps that commute

Letters that no listener hears both of are independent. Where the steps of
independent letters commute, a run depends only on what each listener hears:
two words of the same letters that every listener hears alike end in related
states (`foldl_of_heard`).
-/

namespace Independence

variable {α σ ι : Type*} {step : σ → α → σ} {hears : ι → α → Bool} {R : σ → σ → Prop}
  {I : σ → Prop}

/-- No listener hears both letters. -/
def Apart (hears : ι → α → Bool) (a b : α) : Prop := ∀ i, hears i a = true → hears i b = false

/-- The steps keep the relation and the invariant, and those of letters that
are apart commute. -/
structure Commuting (step : σ → α → σ) (hears : ι → α → Bool) (R : σ → σ → Prop) (I : σ → Prop) :
    Prop where
  equivalence : Equivalence R
  invariant : ∀ s a, I s → I (step s a)
  congruent : ∀ s t a, R s t → R (step s a) (step t a)
  apart : ∀ s a b, I s → Apart hears a b → R (step (step s a) b) (step (step s b) a)

theorem Commuting.run (h : Commuting step hears R I) {s t : σ} (l : List α) (hst : R s t) :
    R (l.foldl step s) (l.foldl step t) := by
  induction l generalizing s t with
  | nil => exact hst
  | cons a l ih => exact ih (h.congruent s t a hst)

/-- A letter that is apart from those before it may come first. -/
theorem Commuting.move (h : Commuting step hears R I) {a : α} (back : List α) :
    ∀ {front : List α} {s : σ}, I s → (∀ b ∈ front, Apart hears b a) →
      R ((front ++ a :: back).foldl step s) ((a :: (front ++ back)).foldl step s)
  | [], _, _, _ => h.equivalence.refl _
  | b :: front, s, hI, hfront => by
      have hrest : R ((front ++ a :: back).foldl step (step s b))
          ((a :: (front ++ back)).foldl step (step s b)) :=
        h.move back (h.invariant s b hI) fun c hc => hfront c (List.mem_cons_of_mem _ hc)
      have hswap : R ((front ++ back).foldl step (step (step s b) a))
          ((front ++ back).foldl step (step (step s a) b)) :=
        h.run (front ++ back) (h.apart s b a hI (hfront b (List.mem_cons_self ..)))
      exact h.equivalence.trans hrest hswap

/-- Before the first of a letter that both words have first, no listener of it
hears anything. -/
theorem apart_front {a : α} {l front back : List α} (hnot : a ∉ front)
    (hheard : ∀ i, (a :: l).filter (hears i) = (front ++ a :: back).filter (hears i)) :
    ∀ b ∈ front, Apart hears b a := by
  intro b hb i hib
  by_contra hia
  have hia : hears i a = true := by simpa using hia
  have hword := hheard i
  rw [List.filter_cons_of_pos hia, List.filter_append] at hword
  cases hfront : front.filter (hears i) with
  | nil => simp [List.filter_eq_nil_iff.mp hfront b hb] at hib
  | cons c rest =>
      have hc : c ∈ front := (List.mem_filter.mp (hfront ▸ List.mem_cons_self ..)).1
      rw [hfront, List.cons_append] at hword
      obtain ⟨rfl, -⟩ := List.cons.inj hword
      exact hnot hc

theorem Commuting.foldl_of_heard (h : Commuting step hears R I) :
    ∀ {l l' : List α} {s : σ}, I s → l.Perm l' →
      (∀ i, l.filter (hears i) = l'.filter (hears i)) → R (l.foldl step s) (l'.foldl step s)
  | [], l', s, _, hperm, _ => by
      rw [hperm.nil_eq]
      exact h.equivalence.refl _
  | a :: l, l', s, hI, hperm, hheard => by
      have hmem : a ∈ l' := hperm.subset (List.mem_cons_self ..)
      obtain ⟨front, back, rfl, hnot⟩ := List.eq_append_cons_of_mem hmem
      have hapart := apart_front hnot hheard
      have hmove := h.move back hI hapart
      have hrest : l.Perm (front ++ back) :=
        List.Perm.cons_inv (hperm.trans List.perm_middle)
      have hheard' : ∀ i, l.filter (hears i) = (front ++ back).filter (hears i) := by
        intro i
        have hword := hheard i
        rw [List.filter_append] at hword ⊢
        cases hia : hears i a with
        | false => simpa [hia] using hword
        | true =>
            have hfront : front.filter (hears i) = [] := by
              rw [List.filter_eq_nil_iff]
              intro b hb hib
              simp [hapart b hb i hib] at hia
            simpa [hia, hfront] using hword
      have ih := h.foldl_of_heard (s := step s a) (h.invariant s a hI) hrest hheard'
      exact h.equivalence.trans ih (h.equivalence.symm hmove)

end Independence
