import Mathlib.Data.List.Basic

/-!
# Runs of a labelled transition system

Finite runs with the transitions they took, and the rules that carry a
fact about one transition to a whole run: invariants, absorbing
predicates, and invariants that need a condition on each transition taken.
-/

namespace Runs

variable {σ α : Type}

/-- A transition that was taken. -/
structure Taken (σ α : Type) where
  source : σ
  label : α
  target : σ

/-- Runs of `step`, with the transitions they take in order. -/
inductive Run (step : σ → α → σ → Prop) : σ → List (Taken σ α) → σ → Prop where
  | nil (s : σ) : Run step s [] s
  | cons {s t u : σ} {a : α} {trace : List (Taken σ α)} (h : step s a t) (rest : Run step t trace u) :
      Run step s (⟨s, a, t⟩ :: trace) u

variable {step : σ → α → σ → Prop} {s t u : σ} {trace trace' : List (Taken σ α)}

theorem Run.append (h : Run step s trace t) (h' : Run step t trace' u) :
    Run step s (trace ++ trace') u := by
  induction h with
  | nil s => exact h'
  | cons hstep _ ih => exact .cons hstep (ih h')

theorem Run.snoc {a : α} (h : Run step s trace t) (hstep : step t a u) :
    Run step s (trace ++ [⟨t, a, u⟩]) u :=
  h.append (.cons hstep (.nil u))

/-- To find a run, take the first step of one. -/
theorem Run.exists_cons {P : List (Taken σ α) → σ → Prop} (a : α) (h : step s a t)
    (rest : ∃ trace u, Run step t trace u ∧ P (⟨s, a, t⟩ :: trace) u) :
    ∃ trace u, Run step s trace u ∧ P trace u := by
  obtain ⟨trace, u, hrun, hP⟩ := rest
  exact ⟨_, u, .cons h hrun, hP⟩

theorem Run.exists_nil {P : List (Taken σ α) → σ → Prop} (h : P [] s) :
    ∃ trace u, Run step s trace u ∧ P trace u := ⟨[], s, .nil s, h⟩

/-- An invariant of the transitions that meet `C` holds along every run
whose transitions all do. -/
theorem Run.invariant_of {I : σ → Prop} {C : Taken σ α → Prop}
    (hstep : ∀ x : Taken σ α, I x.source → C x → step x.source x.label x.target → I x.target)
    (h : Run step s trace t) (hs : I s) (hC : ∀ x ∈ trace, C x) : I t := by
  induction h with
  | nil s => exact hs
  | cons hfirst _ ih =>
      obtain ⟨hx, hrest⟩ := List.forall_mem_cons.mp hC
      exact ih (hstep _ hs hx hfirst) hrest

/-- The same, at both ends of every transition taken. -/
theorem Run.forall_taken_of {I : σ → Prop} {C Q : Taken σ α → Prop}
    (hstep : ∀ x : Taken σ α, I x.source → C x → step x.source x.label x.target → I x.target)
    (hQ : ∀ x : Taken σ α, I x.source → C x → step x.source x.label x.target → Q x)
    (h : Run step s trace t) (hs : I s) (hC : ∀ x ∈ trace, C x) : ∀ x ∈ trace, Q x := by
  induction h with
  | nil s => exact fun _ h => nomatch h
  | cons hfirst _ ih =>
      obtain ⟨hx, hrest⟩ := List.forall_mem_cons.mp hC
      exact List.forall_mem_cons.mpr
        ⟨hQ _ hs hx hfirst, ih (hstep _ hs hx hfirst) hrest⟩

theorem Run.invariant {I : σ → Prop}
    (hstep : ∀ x : Taken σ α, I x.source → step x.source x.label x.target → I x.target)
    (h : Run step s trace t) (hs : I s) : I t :=
  h.invariant_of (C := fun _ => True) (fun x hx _ => hstep x hx) hs fun _ _ => trivial

theorem Run.forall_taken {I : σ → Prop} {Q : Taken σ α → Prop}
    (hstep : ∀ x : Taken σ α, I x.source → step x.source x.label x.target → I x.target)
    (hQ : ∀ x : Taken σ α, I x.source → step x.source x.label x.target → Q x)
    (h : Run step s trace t) (hs : I s) : ∀ x ∈ trace, Q x :=
  h.forall_taken_of (C := fun _ => True) (fun x hx _ => hstep x hx) (fun x hx _ => hQ x hx) hs
    fun _ _ => trivial

theorem Run.taken (h : Run step s trace t) : ∀ x ∈ trace, step x.source x.label x.target :=
  h.forall_taken (I := fun _ => True) (fun _ _ _ => trivial) (fun _ _ hstep => hstep) trivial

/-- What a transition makes true, and no later one makes false, is true at
the end. -/
theorem Run.kept {I : σ → Prop} {Q : α → σ → Prop}
    (hstep : ∀ x : Taken σ α, I x.source → step x.source x.label x.target → I x.target)
    (hkeep : ∀ a (x : Taken σ α), I x.source → step x.source x.label x.target → Q a x.source →
      Q a x.target)
    (h : Run step s trace t) (hs : I s) :
    ∀ x ∈ trace, Q x.label x.target → Q x.label t := by
  induction h with
  | nil s => exact fun _ hx => nomatch hx
  | @cons s u t a trace hfirst hrest ih =>
      have hu : I u := hstep ⟨s, a, u⟩ hs hfirst
      refine List.forall_mem_cons.mpr ⟨fun hQ => ?_, ih hu⟩
      exact (hrest.invariant (I := fun v => I v ∧ Q a v)
        (fun x hx hx' => ⟨hstep x hx.1 hx', hkeep a x hx.1 hx' hx.2⟩) ⟨hu, hQ⟩).2

/-- What holds at the end and not at the start is entered on the way. -/
theorem Run.exists_entry (P : σ → Prop) (h : Run step s trace t) (hs : ¬P s) (ht : P t) :
    ∃ x ∈ trace, ¬P x.source ∧ P x.target := by
  induction h with
  | nil s => exact absurd ht hs
  | @cons s u t a trace hfirst _ ih =>
      by_cases hu : P u
      · exact ⟨⟨s, a, u⟩, List.mem_cons_self .., hs, hu⟩
      · obtain ⟨x, hx, hentry⟩ := ih hu ht
        exact ⟨x, List.mem_cons_of_mem _ hx, hentry⟩

/-- An invariant of the state and of the transitions taken so far holds
before each transition of a run. -/
theorem Run.history {I : List (Taken σ α) → σ → Prop}
    (hstep : ∀ past (x : Taken σ α), I past x.source → step x.source x.label x.target →
      I (past ++ [x]) x.target)
    (h : Run step s trace t) (hs : I [] s) {past rest : List (Taken σ α)} {x : Taken σ α}
    (heq : trace = past ++ x :: rest) : I past x.source := by
  suffices ∀ before, I before s → ∀ past rest, trace = past ++ x :: rest →
      I (before ++ past) x.source from this [] hs past rest heq
  clear heq hs past rest
  induction h with
  | nil s =>
      intro before _ past rest heq
      cases past <;> cases heq
  | @cons s t u a trace hfirst _ ih =>
      intro before hbefore past rest heq
      cases past with
      | nil =>
          cases heq
          rw [List.append_nil]
          exact hbefore
      | cons y past =>
          cases heq
          have hnext := ih _ (hstep before ⟨s, a, t⟩ hbefore hfirst) past rest rfl
          rwa [List.append_assoc] at hnext

/-- The same, after the last transition of a run. -/
theorem Run.history_last {I : List (Taken σ α) → σ → Prop}
    (hstep : ∀ past (x : Taken σ α), I past x.source → step x.source x.label x.target →
      I (past ++ [x]) x.target)
    (h : Run step s trace t) (hs : I [] s) : I trace t := by
  suffices ∀ before, I before s → I (before ++ trace) t from this [] hs
  clear hs
  induction h with
  | nil s =>
      intro before hbefore
      rwa [List.append_nil]
  | @cons s t u a trace hfirst _ ih =>
      intro before hbefore
      have hnext := ih _ (hstep before ⟨s, a, t⟩ hbefore hfirst)
      rwa [List.append_assoc] at hnext

/-- The transitions of a trace that enter `P`. -/
def entries (P : σ → Prop) [DecidablePred P] (trace : List (Taken σ α)) : Nat :=
  trace.countP fun x => ¬P x.source ∧ P x.target

/-- A predicate that no transition leaves is not entered from inside it. -/
theorem Run.entries_eq_zero {P : σ → Prop} [DecidablePred P] {I : σ → Prop}
    (hstep : ∀ x : Taken σ α, I x.source → step x.source x.label x.target → I x.target)
    (habs : ∀ x : Taken σ α, I x.source → step x.source x.label x.target →
      P x.source → P x.target)
    (h : Run step s trace t) (hs : I s) (hP : P s) : entries P trace = 0 := by
  induction h with
  | nil s => rfl
  | @cons s _ _ a _ hfirst _ ih =>
      rw [entries, List.countP_cons_of_neg (by simp [hP])]
      exact ih (hstep ⟨s, a, _⟩ hs hfirst) (habs ⟨s, a, _⟩ hs hfirst hP)

/-- A predicate that no transition leaves is entered at most once. -/
theorem Run.entries_le_one {P : σ → Prop} [DecidablePred P] {I : σ → Prop}
    (hstep : ∀ x : Taken σ α, I x.source → step x.source x.label x.target → I x.target)
    (habs : ∀ x : Taken σ α, I x.source → step x.source x.label x.target →
      P x.source → P x.target)
    (h : Run step s trace t) (hs : I s) : entries P trace ≤ 1 := by
  induction h with
  | nil s => exact Nat.zero_le 1
  | @cons s t _ a trace hfirst hrest ih =>
      have ht := hstep ⟨s, a, t⟩ hs hfirst
      by_cases henter : ¬P s ∧ P t
      · have hzero := hrest.entries_eq_zero hstep habs ht henter.2
        rw [entries, List.countP_cons_of_pos (by simpa using henter)]
        exact Nat.succ_le_succ (Nat.le_of_eq hzero)
      · rw [entries, List.countP_cons_of_neg (by simpa using henter)]
        exact ih ht

/-- A counter whose increments are handed out: what a run hands out are the
consecutive numbers from the counter's first value to its last. -/
theorem Run.emitted_eq (count : σ → Int) (emit : Taken σ α → Option Int) {I : σ → Prop}
    (hstep : ∀ x : Taken σ α, I x.source → step x.source x.label x.target → I x.target)
    (hemit : ∀ x : Taken σ α, I x.source → step x.source x.label x.target →
      emit x = none ∧ count x.target = count x.source
        ∨ emit x = some (count x.source + 1) ∧ count x.target = count x.source + 1)
    (h : Run step s trace t) (hs : I s) :
    trace.filterMap emit
        = (List.range (trace.filterMap emit).length).map (fun i : Nat => count s + 1 + i)
      ∧ count t = count s + (trace.filterMap emit).length := by
  induction h with
  | nil s => exact ⟨rfl, (Int.add_zero _).symm⟩
  | @cons s t u a trace hfirst hrest ih =>
      obtain ⟨hlist, hcount⟩ := ih (hstep ⟨s, a, t⟩ hs hfirst)
      rcases hemit ⟨s, a, t⟩ hs hfirst with ⟨hnone, hsame⟩ | ⟨hsome, hnext⟩
      · rw [List.filterMap_cons_none hnone]
        have hsame' : count t = count s := hsame
        exact ⟨hsame' ▸ hlist, hsame' ▸ hcount⟩
      · have hnext' : count t = count s + 1 := hnext
        rw [List.filterMap_cons_some hsome, List.length_cons]
        refine ⟨?_, ?_⟩
        · rw [List.range_succ_eq_map, List.map_cons, List.map_map]
          refine congr (congrArg List.cons (Int.add_zero _).symm) (hlist.trans ?_)
          refine List.map_congr_left fun i _ => ?_
          simp only [Function.comp, hnext']
          omega
        · rw [hcount, hnext']
          omega

end Runs
