import Mathlib.Data.List.Basic

/-!
# The first failure

A run over a list in the monad of exceptions fails exactly where an element
fails behind elements that do not, and with what that element raises.
-/

namespace FirstFailure

variable {α β σ ε : Type*} {e : ε}

/-- A run over a list in order fails with what the first element that fails
raises. -/
theorem mapM_error {f : α → Except ε β} : ∀ {xs : List α},
    xs.mapM f = .error e ↔ ∃ front x back, xs = front ++ x :: back
      ∧ (∀ y ∈ front, ∃ b, f y = .ok b) ∧ f x = .error e
  | [] => by
      refine iff_of_false nofun ?_
      rintro ⟨front, x, back, h, -, -⟩
      exact absurd h.symm (by simp)
  | x :: xs => by
      rw [List.mapM_cons]
      cases hx : f x with
      | error e' =>
          constructor
          · intro h
            cases h
            exact ⟨[], x, xs, rfl, nofun, hx⟩
          · rintro ⟨front, y, back, h, hfront, hy⟩
            cases front with
            | nil =>
                obtain ⟨rfl, -⟩ := List.cons.inj h
                rw [hx] at hy
                cases hy
                rfl
            | cons z front =>
                obtain ⟨rfl, -⟩ := List.cons.inj h
                obtain ⟨b, hb⟩ := hfront x (List.mem_cons_self ..)
                rw [hx] at hb
                cases hb
      | ok b =>
          have ih : xs.mapM f = .error e ↔ _ := mapM_error
          have hmap : (xs.mapM f >>= fun bs => pure (b :: bs) : Except ε (List β)) = .error e
              ↔ xs.mapM f = .error e := by
            cases xs.mapM f with
            | error e' => exact Iff.rfl
            | ok bs => exact iff_of_false nofun nofun
          refine (Iff.trans hmap ih).trans ?_
          constructor
          · rintro ⟨front, y, back, rfl, hfront, hy⟩
            exact ⟨x :: front, y, back, rfl, List.forall_mem_cons.mpr ⟨⟨b, hx⟩, hfront⟩, hy⟩
          · rintro ⟨front, y, back, h, hfront, hy⟩
            cases front with
            | nil =>
                obtain ⟨rfl, -⟩ := List.cons.inj h
                rw [hx] at hy
                cases hy
            | cons z front =>
                obtain ⟨rfl, rfl⟩ := List.cons.inj h
                exact ⟨front, y, back, rfl, fun w hw => hfront w (List.mem_cons_of_mem _ hw), hy⟩

/-- The same of a run that carries a state. -/
theorem foldlM_error {f : σ → α → Except ε σ} : ∀ {xs : List α} {s : σ},
    xs.foldlM f s = .error e ↔ ∃ front x back s', xs = front ++ x :: back
      ∧ front.foldlM f s = .ok s' ∧ f s' x = .error e
  | [], s => by
      refine iff_of_false nofun ?_
      rintro ⟨front, x, back, s', h, -, -⟩
      exact absurd h.symm (by simp)
  | x :: xs, s => by
      rw [List.foldlM_cons]
      cases hx : f s x with
      | error e' =>
          constructor
          · intro h
            cases h
            exact ⟨[], x, xs, s, rfl, rfl, hx⟩
          · rintro ⟨front, y, back, s', h, hfront, hy⟩
            cases front with
            | nil =>
                obtain ⟨rfl, -⟩ := List.cons.inj h
                cases hfront
                rw [hx] at hy
                cases hy
                rfl
            | cons z front =>
                obtain ⟨rfl, -⟩ := List.cons.inj h
                rw [List.foldlM_cons, hx] at hfront
                cases hfront
      | ok s₁ =>
          have ih : xs.foldlM f s₁ = .error e ↔ _ := foldlM_error
          refine Iff.trans ih ?_
          constructor
          · rintro ⟨front, y, back, s', rfl, hfront, hy⟩
            exact ⟨x :: front, y, back, s', rfl, by rw [List.foldlM_cons, hx]; exact hfront, hy⟩
          · rintro ⟨front, y, back, s', h, hfront, hy⟩
            cases front with
            | nil =>
                obtain ⟨rfl, -⟩ := List.cons.inj h
                cases hfront
                rw [hx] at hy
                cases hy
            | cons z front =>
                obtain ⟨rfl, rfl⟩ := List.cons.inj h
                rw [List.foldlM_cons, hx] at hfront
                exact ⟨front, y, back, s', rfl, hfront, hy⟩

/-- Where some element has the property, there is a first one. -/
theorem exists_first_iff {p : α → Bool} {xs : List α} :
    (∃ front x back, xs = front ++ x :: back ∧ (∀ y ∈ front, p y = false) ∧ p x = true)
      ↔ ∃ x ∈ xs, p x = true := by
  constructor
  · rintro ⟨front, x, back, rfl, -, hx⟩
    exact ⟨x, by simp, hx⟩
  · rintro ⟨x, hx, hpx⟩
    obtain ⟨y, hy⟩ := Option.isSome_iff_exists.mp (List.find?_isSome.mpr ⟨x, hx, hpx⟩)
    obtain ⟨hpy, front, back, rfl, hfront⟩ := List.find?_eq_some_iff_append.mp hy
    exact ⟨front, y, back, rfl, fun z hz => by simpa using hfront z hz, hpy⟩

theorem mapM_cons_ok {f : α → Except ε β} {x : α} {xs : List α} {bs : List β}
    (h : (x :: xs).mapM f = .ok bs) :
    (∃ b, f x = .ok b) ∧ ∃ rest, xs.mapM f = .ok rest := by
  rw [List.mapM_cons] at h
  cases hx : f x with
  | error e =>
      rw [hx] at h
      cases h
  | ok b =>
      cases hrest : xs.mapM f with
      | error e =>
          rw [hx, hrest] at h
          cases h
      | ok rest => exact ⟨⟨b, rfl⟩, rest, rfl⟩

end FirstFailure
