import Rigor.Transactions

/-!
# Transactions over the rows that they have locked

Where every transaction reads and writes the rows of its own key only, the
lock of the key makes it serial: whatever is open for other keys, the rows of
a key go through the commits of its transactions one after the other, each
as if nobody else were there (`run_atomic`).
-/

namespace Transactions

open Runs

variable {σ τ κ ρ ε α : Type}

/-! ## What a transaction does alone -/

section Alone

variable {s s' : σ} {a : α}

theorem Tx.commit_ok {b : α} (h : (Tx.commit b : Tx σ ε α).runAlone s = .ok (s', a)) :
    s' = s ∧ a = b := by
  cases h
  exact ⟨rfl, rfl⟩

theorem Tx.bind_ok {β : Type} {t : Tx σ ε α} {f : α → Tx σ ε β} {b : β}
    (h : (t >>= f).runAlone s = .ok (s', b)) :
    ∃ u c, t.runAlone s = .ok (u, c) ∧ (f c).runAlone u = .ok (s', b) := by
  rw [Tx.runAlone_bind] at h
  cases ht : t.runAlone s with
  | error e =>
      rw [ht] at h
      cases h
  | ok r =>
      rw [ht] at h
      exact ⟨r.1, r.2, rfl, h⟩

theorem Tx.read_ok {query : σ → Except ε α}
    (h : (Tx.read query).runAlone s = .ok (s', a)) : s' = s ∧ query s = .ok a := by
  rw [Tx.runAlone_read] at h
  cases hquery : query s with
  | error e =>
      rw [hquery] at h
      cases h
  | ok b =>
      rw [hquery] at h
      cases h
      exact ⟨rfl, rfl⟩

theorem Tx.execute_ok {query : σ → Except ε ((σ → σ) × α)}
    (h : (Tx.execute query).runAlone s = .ok (s', a)) :
    ∃ write, query s = .ok (write, a) ∧ s' = write s := by
  rw [Tx.runAlone_execute] at h
  cases hquery : query s with
  | error e =>
      rw [hquery] at h
      cases h
  | ok r =>
      rw [hquery] at h
      cases h
      exact ⟨r.1, rfl, rfl⟩

theorem Tx.write_ok {f : σ → σ} {u : Unit}
    (h : (Tx.write f : Tx σ ε Unit).runAlone s = .ok (s', u)) : s' = f s := by
  cases h
  rfl

theorem Tx.ofExcept_ok {x : Except ε α}
    (h : (Tx.ofExcept x : Tx σ ε α).runAlone s = .ok (s', a)) : s' = s ∧ x = .ok a := by
  cases x with
  | error e => cases h
  | ok b =>
      cases h
      exact ⟨rfl, rfl⟩

end Alone

/-! ## Part of a store -/

/-- The transaction over a part of the store. -/
def Tx.inside (get : τ → σ) (put : σ → τ → τ) : Tx σ ε α → Tx τ ε α
  | .commit a => .commit a
  | .rollback e => .rollback e
  | .statement write next =>
      .statement (fun seen s => put (write (get seen) (get s)) s)
        (fun seen => (next (get seen)).inside get put)

/-- It changes that part only. -/
theorem Tx.inside_only {get : τ → σ} {put : σ → τ → τ} (hself : ∀ s, put (get s) s = s)
    (hput : ∀ p q s, put p (put q s) = put p s) {tx : Tx σ ε α} {s s' : τ} {a : α}
    (h : (tx.inside get put).runAlone s = .ok (s', a)) : ∃ p, s' = put p s := by
  induction tx generalizing s with
  | commit b =>
      cases h
      exact ⟨_, (hself _).symm⟩
  | rollback e => cases h
  | statement write next ih =>
      obtain ⟨p, hp⟩ := ih (get s) h
      exact ⟨p, hp.trans (hput p _ s)⟩

/-! ## The rows of a key -/

variable [DecidableEq κ]

/-- The transaction over the rows of `k`. -/
def Tx.over (k : κ) : Tx σ ε α → Tx (κ → σ) ε α
  | .commit a => .commit a
  | .rollback e => .rollback e
  | .statement write next =>
      .statement (fun seen s => Function.update s k (write (seen k) (s k)))
        (fun seen => (next (seen k)).over k)

abbrev SerialState (σ κ ρ ε α : Type) : Type := State (κ → σ) κ ρ ε α

abbrev SerialTrace (σ κ ρ ε α : Type) : Type :=
  List (Taken (State (κ → σ) κ ρ ε α) (Action ρ Empty))

/-- Runs of transactions that each hold the lock of their rows. -/
abbrev SerialStep (key : ρ → κ) (program : ρ → Tx σ ε α) :
    State (κ → σ) κ ρ ε α → Action ρ Empty → State (κ → σ) κ ρ ε α → Prop :=
  Step key (fun r => (program r).over (key r)) (fun _ => True) (fun _ _ _ => False)

/-- A request that is answered, with nobody else there. -/
def Atomic (program : ρ → Tx σ ε α) (s : σ) (answered : ρ × α) (t : σ) : Prop :=
  (program answered.1).runAlone s = .ok (t, answered.2)

/-- What a transition answers a request of `k`. -/
def answered (key : ρ → κ) (k : κ) (x : Taken (State (κ → σ) κ ρ ε α) (Action ρ Empty)) :
    Option (Taken σ (ρ × α)) :=
  match x.label, x.source.holder k with
  | .commit r, some ⟨_, _, .commit a⟩ =>
      if key r = k then some ⟨x.source.store k, (r, a), x.target.store k⟩ else none
  | _, _ => none

/-- An open transaction whose rows are as it found them will end as it would
alone: `own` is what it wrote and `left` what is left of it. -/
structure Undisturbed (key : ρ → κ) (program : ρ → Tx σ ε α) (k : κ)
    (o : Open (κ → σ) ρ ε α) (rows : σ) (own : σ → σ) (left : Tx σ ε α) : Prop where
  key : key o.request = k
  writes : ∀ s, o.writes s = Function.update s k (own (s k))
  rest : o.rest = left.over k
  alone : left.runAlone (own rows) = (program o.request).runAlone rows

variable {key : ρ → κ} {program : ρ → Tx σ ε α} {k : κ} {s t : State (κ → σ) κ ρ ε α}
  {a : Action ρ Empty}

/-- All open transactions are undisturbed. -/
def Serial (key : ρ → κ) (program : ρ → Tx σ ε α) (s : State (κ → σ) κ ρ ε α) : Prop :=
  ∀ k o, s.holder k = some o → ∃ own left, Undisturbed key program k o (s.store k) own left

theorem undisturbed_begin (r : ρ) (rows : σ) :
    Undisturbed key program (key r) ⟨r, id, (program r).over (key r)⟩ rows id (program r) where
  key := rfl
  writes s := (Function.update_eq_self (key r) s).symm
  rest := rfl
  alone := rfl

/-- The holder of a lock that has changed. -/
theorem Serial.update (h : Serial key program s) (k : κ) (o : Option (Open (κ → σ) ρ ε α))
    (ho : ∀ o', o = some o' →
      ∃ own left, Undisturbed key program k o' (s.store k) own left) :
    Serial key program { s with holder := Function.update s.holder k o } := by
  intro k' o' ho'
  by_cases hk : k' = k
  · subst hk
    exact ho o' ((Function.update_self k' o s.holder).symm.trans ho')
  · exact h k' o' ((Function.update_of_ne hk o s.holder).symm.trans ho')

/-- What is left of a transaction that goes on with a statement. -/
theorem Undisturbed.statement {o : Open (κ → σ) ρ ε α} {rows : κ → σ} {own : σ → σ}
    {left : Tx σ ε α} (h : Undisturbed key program k o (rows k) own left)
    {write : (κ → σ) → (κ → σ) → κ → σ} {next : (κ → σ) → Tx (κ → σ) ε α}
    (ho : o.rest = .statement write next) :
    ∃ own' left', Undisturbed key program k
      ⟨o.request, write (o.writes rows) ∘ o.writes, next (o.writes rows)⟩ (rows k) own' left' := by
  have hseen : o.writes rows k = own (rows k) := by rw [h.writes, Function.update_self]
  have hrest := h.rest
  rw [ho] at hrest
  cases left with
  | commit a => cases hrest
  | rollback e => cases hrest
  | statement write' next' =>
      cases hrest
      refine ⟨write' (own (rows k)) ∘ own, next' (own (rows k)), h.key, ?_, ?_, h.alone⟩
      · intro s
        dsimp only [Function.comp]
        rw [hseen, h.writes, Function.update_self, Function.update_idem]
      · dsimp only
        rw [hseen]

/-- A commit answers and leaves what the request does alone. -/
theorem Serial.commit (h : Serial key program s) {r : ρ} {writes : (κ → σ) → κ → σ} {answer : α}
    (hopen : s.holder (key r) = some ⟨r, writes, .commit answer⟩) :
    Atomic program (s.store (key r)) (r, answer) (writes s.store (key r))
      ∧ ∀ k, k ≠ key r → writes s.store k = s.store k := by
  obtain ⟨own, left, hleft⟩ := h _ _ hopen
  have hwrites : writes s.store = Function.update s.store (key r) (own (s.store (key r))) :=
    hleft.writes s.store
  have hrest : Tx.commit answer = left.over (key r) := hleft.rest
  cases left with
  | rollback e => cases hrest
  | statement write next => cases hrest
  | commit b =>
      cases hrest
      refine ⟨?_, fun k hk => ?_⟩
      · rw [hwrites, Function.update_self]
        exact hleft.alone.symm
      · rw [hwrites, Function.update_of_ne hk]

theorem Serial.step (h : Serial key program s) (hstep : SerialStep key program s a t) :
    Serial key program t := by
  cases hstep with
  | begin hfree =>
      refine h.update _ _ fun o ho => ?_
      cases ho
      exact ⟨_, _, undisturbed_begin _ _⟩
  | statement hopen =>
      obtain ⟨own, left, hleft⟩ := h _ _ hopen
      refine h.update _ _ fun o ho => ?_
      cases ho
      exact hleft.statement rfl
  | rollback hopen =>
      refine h.update _ _ fun o ho => ?_
      cases ho
  | commit hopen hvalid =>
      rename_i r writes answer
      obtain ⟨-, hothers⟩ := h.commit hopen
      intro k o ho
      by_cases hk : k = key r
      · subst hk
        cases (Function.update_self (key r) none s.holder).symm.trans ho
      · obtain ⟨own, left, hleft⟩ := h k o
          ((Function.update_of_ne hk none s.holder).symm.trans ho)
        refine ⟨own, left, ?_⟩
        dsimp only
        rw [hothers k hk]
        exact hleft
  | environment henv => exact henv.elim

/-- A transition either answers a request of `k` or leaves its rows. -/
theorem Serial.answered (h : Serial key program s) (hstep : SerialStep key program s a t) (k : κ) :
    (answered key k ⟨s, a, t⟩ = none ∧ t.store k = s.store k)
      ∨ ∃ r b, answered key k ⟨s, a, t⟩ = some ⟨s.store k, (r, b), t.store k⟩ ∧ key r = k
        ∧ a = .commit r ∧ Atomic program (s.store k) (r, b) (t.store k) := by
  cases hstep with
  | begin hfree => exact .inl ⟨rfl, rfl⟩
  | statement hopen => exact .inl ⟨rfl, rfl⟩
  | rollback hopen => exact .inl ⟨rfl, rfl⟩
  | environment henv => exact henv.elim
  | commit hopen hvalid =>
      rename_i r writes b
      obtain ⟨halone, hothers⟩ := h.commit hopen
      by_cases hk : key r = k
      · subst hk
        refine .inr ⟨r, b, ?_, rfl, rfl, halone⟩
        simp only [Transactions.answered, hopen, if_true]
      · refine .inl ⟨?_, hothers k (Ne.symm hk)⟩
        unfold Transactions.answered
        dsimp only
        split
        · rename_i r' _ _ heq _
          cases heq
          exact if_neg hk
        · rfl

/-- **Serial transactions.** Whatever is interleaved with them, the requests
of one key change its rows one after the other, each as it would alone. -/
theorem run_atomic {trace : SerialTrace σ κ ρ ε α}
    (hrun : Run (SerialStep key program) s trace t) (hfree : ∀ k, s.holder k = none) (k : κ) :
    Run (Atomic program) (s.store k) (trace.filterMap (answered key k)) (t.store k) := by
  have hserial : Serial key program s := fun k o ho => by
    rw [hfree k] at ho
    cases ho
  clear hfree
  induction hrun with
  | nil s => exact .nil _
  | @cons s t u a trace hstep _ ih =>
      have hnext := ih (hserial.step hstep)
      rcases hserial.answered hstep k with ⟨hnone, hsame⟩ | ⟨r, b, hsome, -, -, halone⟩
      · rw [List.filterMap_cons_none hnone, ← hsame]
        exact hnext
      · rw [List.filterMap_cons_some hsome]
        exact .cons halone hnext

/-! ## Requests that are answered -/

/-- The store with the rows of a key replaced, and the same locks held. -/
def SerialState.leave (s : SerialState σ κ ρ ε α) (k : κ) (rows : σ) : SerialState σ κ ρ ε α :=
  ⟨Function.update s.store k rows, s.holder⟩

theorem SerialState.leave_store (s : SerialState σ κ ρ ε α) (k : κ) (rows : σ) :
    (s.leave k rows).store k = rows := by
  unfold SerialState.leave
  exact Function.update_self ..

/-- The state in which a transaction holds its lock. -/
def SerialState.holding (key : ρ → κ) (s : SerialState σ κ ρ ε α) (o : Open (κ → σ) ρ ε α) :
    SerialState σ κ ρ ε α :=
  { s with holder := Function.update s.holder (key o.request) (some o) }

theorem step_statement {r : ρ} {writes : (κ → σ) → κ → σ} {write : (κ → σ) → (κ → σ) → κ → σ}
    {next : (κ → σ) → Tx (κ → σ) ε α} :
    SerialStep key program (SerialState.holding key s ⟨r, writes, .statement write next⟩)
      (.statement r)
      (SerialState.holding key s
        ⟨r, write (writes s.store) ∘ writes, next (writes s.store)⟩) := by
  have h : SerialStep key program _ _ _ :=
    Step.statement (s := SerialState.holding key s ⟨r, writes, .statement write next⟩) (r := r)
      (Function.update_self (key r) _ s.holder)
  unfold SerialState.holding at h ⊢
  dsimp only at h ⊢
  rwa [Function.update_idem] at h

theorem step_commit {r : ρ} {writes : (κ → σ) → κ → σ} {b : α}
    (hfree : s.holder (key r) = none) :
    SerialStep key program (SerialState.holding key s ⟨r, writes, .commit b⟩) (.commit r)
      ⟨writes s.store, s.holder⟩ := by
  have h : SerialStep key program _ _ _ :=
    Step.commit (s := SerialState.holding key s ⟨r, writes, .commit b⟩) (r := r)
      (Function.update_self (key r) _ s.holder) trivial
  unfold SerialState.holding at h ⊢
  dsimp only at h ⊢
  rwa [Function.update_idem, ← hfree, Function.update_eq_self] at h

/-- An open transaction that would end alone can end. -/
theorem run_open {r : ρ} {left : Tx σ ε α} {own : σ → σ} {writes : (κ → σ) → κ → σ}
    (hfree : s.holder (key r) = none)
    (hwrites : ∀ store, writes store = Function.update store (key r) (own (store (key r))))
    {rows : σ} {b : α} (halone : left.runAlone (own (s.store (key r))) = .ok (rows, b)) :
    ∃ trace : SerialTrace σ κ ρ ε α,
      Run (SerialStep key program)
          (SerialState.holding key s ⟨r, writes, left.over (key r)⟩) trace
          (SerialState.leave s (key r) rows)
        ∧ trace.filterMap (answered key (key r)) = [⟨s.store (key r), (r, b), rows⟩] := by
  induction left generalizing own writes with
  | rollback e => cases halone
  | commit c =>
      cases halone
      have hstep : SerialStep key program (SerialState.holding key s ⟨r, writes, .commit b⟩) _ _ :=
        step_commit hfree
      rw [hwrites] at hstep
      refine ⟨_, .cons hstep (.nil _), ?_⟩
      simp [answered, Tx.over, SerialState.holding]
  | statement write next ih =>
      have hstep : SerialStep key program (SerialState.holding key s
          ⟨r, writes, (Tx.statement write next).over (key r)⟩) _ _ := step_statement
      have hseen : writes s.store (key r) = own (s.store (key r)) := by
        rw [hwrites, Function.update_self]
      rw [hseen] at hstep
      have hnext : ∀ store, ((fun rows => Function.update rows (key r)
            (write (own (s.store (key r))) (rows (key r)))) ∘ writes) store
          = Function.update store (key r)
            ((write (own (s.store (key r))) ∘ own) (store (key r))) := by
        intro store
        dsimp only [Function.comp]
        rw [hwrites, Function.update_self, Function.update_idem]
      obtain ⟨trace, hrun, hlog⟩ := ih (own (s.store (key r))) hnext halone
      exact ⟨_, .cons hstep hrun, hlog⟩

/-- What a request would do alone, a run can do. -/
theorem exists_run {r : ρ} (hfree : s.holder (key r) = none) {rows : σ} {b : α}
    (halone : Atomic program (s.store (key r)) (r, b) rows) :
    ∃ trace : SerialTrace σ κ ρ ε α,
      Run (SerialStep key program) s trace (SerialState.leave s (key r) rows)
        ∧ trace.filterMap (answered key (key r)) = [⟨s.store (key r), (r, b), rows⟩] := by
  have hid : ∀ store : κ → σ,
      id store = Function.update store (key r) (id (store (key r))) := fun store =>
    (Function.update_eq_self (key r) store).symm
  obtain ⟨trace, hrun, hlog⟩ := run_open (r := r) hfree hid halone
  exact ⟨_, .cons (.begin hfree) hrun, hlog⟩

/-- What requests of one key would do one after the other, a run can do. -/
theorem exists_run_atomic (key : ρ → κ) (k : κ) {rows rows' : σ} {log : List (Taken σ (ρ × α))}
    (h : Run (Atomic program) rows log rows') (hkey : ∀ x ∈ log, key x.label.1 = k)
    (hfree : s.holder k = none) (hrows : s.store k = rows) :
    ∃ trace : SerialTrace σ κ ρ ε α,
      Run (SerialStep key program) s trace (SerialState.leave s k rows')
        ∧ trace.filterMap (answered key k) = log := by
  induction h generalizing s with
  | nil rows =>
      refine ⟨[], ?_, rfl⟩
      have hsame : SerialState.leave s k rows = s := by
        unfold SerialState.leave
        rw [← hrows, Function.update_eq_self]
      rw [hsame]
      exact .nil s
  | @cons rows next rows' a log hfirst _ ih =>
      obtain ⟨hka, hrest⟩ := List.forall_mem_cons.mp hkey
      have hk : key a.1 = k := hka
      subst hk
      subst hrows
      obtain ⟨first, hrun, hlog⟩ := exists_run (r := a.1) (b := a.2) hfree hfirst
      obtain ⟨trace, hrun', hlog'⟩ := ih (s := SerialState.leave s (key a.1) next) hrest hfree
        (SerialState.leave_store s (key a.1) next)
      have hleave : SerialState.leave (SerialState.leave s (key a.1) next) (key a.1) rows'
          = SerialState.leave s (key a.1) rows' := by
        unfold SerialState.leave
        dsimp only
        rw [Function.update_idem]
      refine ⟨first ++ trace, hleave ▸ hrun.append hrun', ?_⟩
      rw [List.filterMap_append, hlog, hlog']
      rfl

end Transactions
