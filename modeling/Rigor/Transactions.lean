import Mathlib.Logic.Function.Basic
import Rigor.Runs

/-!
# Transactions that read what is committed

A transaction is a program of statements. Each statement sees the committed
store under the transaction's own writes and adds to them; nobody else sees
them before the commit. From its first statement to its end a transaction
holds the lock of its key, so that one transaction is open for each key,
while those of other keys and an environment change the store between its
statements.

`Guarded` says of an open transaction what it will do whatever the others
do that its `rely` allows; `run_commits` carries it to whole runs.
-/

namespace Transactions

open Runs

variable {σ κ ρ lab ε α β : Type}

/-! ## Programs -/

/-- What is left of a transaction. A statement maps what it sees to its
writes and to the statements behind it. -/
inductive Tx (σ ε α : Type) where
  | commit (a : α)
  | rollback (e : ε)
  | statement (write : σ → σ → σ) (next : σ → Tx σ ε α)

namespace Tx

def bind : Tx σ ε α → (α → Tx σ ε β) → Tx σ ε β
  | commit a, f => f a
  | rollback e, _ => rollback e
  | statement write next, f => statement write fun seen => (next seen).bind f

instance : Monad (Tx σ ε) where
  pure := commit
  bind := bind

/-- A statement that answers and writes, or raises. -/
def execute (query : σ → Except ε ((σ → σ) × α)) : Tx σ ε α :=
  statement
    (fun seen => match query seen with
      | .ok (write, _) => write
      | .error _ => id)
    (fun seen => match query seen with
      | .ok (_, a) => commit a
      | .error e => rollback e)

def read (query : σ → Except ε α) : Tx σ ε α :=
  execute fun seen => (query seen).map fun a => (id, a)

def write (f : σ → σ) : Tx σ ε Unit := execute fun _ => .ok (f, ())

/-- What is computed without a statement. -/
def ofExcept : Except ε α → Tx σ ε α
  | .ok a => commit a
  | .error e => rollback e

/-- What is raised on the way, under `f`. -/
def mapError (f : ε → ε) : Tx σ ε α → Tx σ ε α
  | commit a => commit a
  | rollback e => rollback (f e)
  | statement write next => statement write fun seen => (next seen).mapError f

/-- The transaction with nobody else around. -/
def runAlone : Tx σ ε α → σ → Except ε (σ × α)
  | commit a, s => .ok (s, a)
  | rollback e, _ => .error e
  | statement write next, s => (next s).runAlone (write s s)

@[simp] theorem pure_eq (a : α) : (pure a : Tx σ ε α) = commit a := rfl

@[simp] theorem runAlone_commit (a : α) (s : σ) :
    (commit a : Tx σ ε α).runAlone s = .ok (s, a) := rfl

@[simp] theorem runAlone_rollback (e : ε) (s : σ) :
    (rollback e : Tx σ ε α).runAlone s = .error e := rfl

@[simp] theorem runAlone_bind (t : Tx σ ε α) (f : α → Tx σ ε β) (s : σ) :
    (t >>= f).runAlone s = t.runAlone s >>= fun r => (f r.2).runAlone r.1 := by
  show (t.bind f).runAlone s = _
  induction t generalizing s with
  | commit a => rfl
  | rollback e => rfl
  | statement write next ih => exact ih s (write s s)

@[simp] theorem runAlone_execute (query : σ → Except ε ((σ → σ) × α)) (s : σ) :
    (execute query).runAlone s = (query s).map fun r => (r.1 s, r.2) := by
  unfold execute runAlone
  dsimp only
  cases query s with
  | error e => rfl
  | ok r => rfl

@[simp] theorem runAlone_read (query : σ → Except ε α) (s : σ) :
    (read query).runAlone s = (query s).map fun a => (s, a) := by
  unfold read
  rw [runAlone_execute]
  cases query s with
  | error e => rfl
  | ok a => rfl

@[simp] theorem runAlone_write (f : σ → σ) (s : σ) :
    (write f : Tx σ ε Unit).runAlone s = .ok (f s, ()) := rfl

@[simp] theorem runAlone_ofExcept (x : Except ε α) (s : σ) :
    (ofExcept x : Tx σ ε α).runAlone s = x.map fun a => (s, a) := by
  cases x with
  | error e => rfl
  | ok a => rfl

@[simp] theorem runAlone_mapError (f : ε → ε) (t : Tx σ ε α) (s : σ) :
    (t.mapError f).runAlone s = (t.runAlone s).mapError f := by
  induction t generalizing s with
  | commit a => rfl
  | rollback e => rfl
  | statement write next ih => exact ih s (write s s)

/-! ### What a program writes -/

/-- Every statement's writes are in `P`, whatever it sees. -/
def AllWrites (P : (σ → σ) → Prop) : Tx σ ε α → Prop
  | commit _ => True
  | rollback _ => True
  | statement write next => ∀ seen, P (write seen) ∧ (next seen).AllWrites P

section AllWrites

variable {P : (σ → σ) → Prop}

theorem AllWrites.bind {t : Tx σ ε α} {f : α → Tx σ ε β} (ht : t.AllWrites P)
    (hf : ∀ a, (f a).AllWrites P) : (t >>= f).AllWrites P := by
  show (t.bind f).AllWrites P
  induction t with
  | commit a => exact hf a
  | rollback e => exact trivial
  | statement write next ih => exact fun seen => ⟨(ht seen).1, ih seen (ht seen).2⟩

theorem AllWrites.mapError {t : Tx σ ε α} (ht : t.AllWrites P) (f : ε → ε) :
    (t.mapError f).AllWrites P := by
  induction t with
  | commit a => exact trivial
  | rollback e => exact trivial
  | statement write next ih => exact fun seen => ⟨(ht seen).1, ih seen (ht seen).2⟩

theorem allWrites_execute {query : σ → Except ε ((σ → σ) × α)} (hid : P id)
    (h : ∀ seen write a, query seen = .ok (write, a) → P write) : (execute query).AllWrites P := by
  intro seen
  dsimp only
  cases hquery : query seen with
  | error e => exact ⟨hid, trivial⟩
  | ok r => exact ⟨h seen r.1 r.2 hquery, trivial⟩

theorem allWrites_read (hid : P id) (query : σ → Except ε α) : (read query).AllWrites P := by
  refine allWrites_execute hid fun seen write a hquery => ?_
  cases hread : query seen with
  | error e =>
      rw [hread] at hquery
      cases hquery
  | ok b =>
      rw [hread] at hquery
      cases hquery
      exact hid

theorem allWrites_write {f : σ → σ} (hid : P id) (hf : P f) :
    (write f : Tx σ ε Unit).AllWrites P := by
  refine allWrites_execute hid fun seen write a hquery => ?_
  cases hquery
  exact hf

theorem allWrites_ofExcept (x : Except ε α) : (ofExcept x : Tx σ ε α).AllWrites P := by
  cases x with
  | error e => exact trivial
  | ok a => exact trivial

end AllWrites

end Tx

/-! ## What an open transaction will do -/

/-- Whatever the others do that `rely` allows, the transaction comes to its
end only with writes, an answer and a store that `post` allows. -/
def Ensures (rely : σ → σ → Prop) (post : (σ → σ) → α → σ → Prop) :
    (σ → σ) → Tx σ ε α → σ → Prop
  | writes, .commit a, s => ∀ t, rely s t → post writes a t
  | _, .rollback _, _ => True
  | writes, .statement write next, s =>
      ∀ t, rely s t → Ensures rely post (write (writes t) ∘ writes) (next (writes t)) t

section Ensures

variable {rely : σ → σ → Prop} {post : (σ → σ) → α → σ → Prop} {writes : σ → σ} {s t : σ}

/-- It may go on behind what the others did. -/
theorem Ensures.mono (htrans : ∀ s t u, rely s t → rely t u → rely s u) {tx : Tx σ ε α}
    (h : Ensures rely post writes tx s) (hrely : rely s t) : Ensures rely post writes tx t := by
  cases tx with
  | commit a => exact fun u hu => h u (htrans s t u hrely hu)
  | rollback e => exact trivial
  | statement write next => exact fun u hu => h u (htrans s t u hrely hu)

theorem Ensures.imp {post' : (σ → σ) → α → σ → Prop} {tx : Tx σ ε α}
    (h : Ensures rely post writes tx s) (hpost : ∀ w a t, post w a t → post' w a t) :
    Ensures rely post' writes tx s := by
  induction tx generalizing writes s with
  | commit a => exact fun t ht => hpost writes a t (h t ht)
  | rollback e => exact trivial
  | statement write next ih => exact fun t ht => ih (writes t) (h t ht)

/-- What comes behind a program goes on from a store that it may have left. -/
theorem Ensures.bind {mid : (σ → σ) → β → σ → Prop} {tx : Tx σ ε β} {f : β → Tx σ ε α}
    (hrefl : ∀ s t, rely s t → rely t t) (htrans : ∀ s t u, rely s t → rely t u → rely s u)
    (hs : rely s s) (h : Ensures rely mid writes tx s)
    (hf : ∀ w b t, rely s t → mid w b t → Ensures rely post w (f b) t) :
    Ensures rely post writes (tx >>= f) s := by
  show Ensures rely post writes (tx.bind f) s
  induction tx generalizing writes s with
  | commit b => exact hf writes b s hs (h s hs)
  | rollback e => exact trivial
  | statement write next ih =>
      intro t ht
      exact ih (writes t) (hrefl s t ht) (h t ht) fun w b u hu => hf w b u (htrans s t u ht hu)

theorem Ensures.mapError {g : ε → ε} {tx : Tx σ ε α} (h : Ensures rely post writes tx s) :
    Ensures rely post writes (tx.mapError g) s := by
  induction tx generalizing writes s with
  | commit a => exact h
  | rollback e => exact trivial
  | statement write next ih => exact fun t ht => ih (writes t) (h t ht)

theorem ensures_execute {query : σ → Except ε ((σ → σ) × α)}
    (h : ∀ t u, rely s t → rely t u → ∀ write a, query (writes t) = .ok (write, a) →
      post (write ∘ writes) a u) : Ensures rely post writes (Tx.execute query) s := by
  intro t ht
  have hnext := h t
  dsimp only
  cases hquery : query (writes t) with
  | error e => exact trivial
  | ok r => exact fun u hu => hnext u ht hu r.1 r.2 hquery

theorem ensures_read {query : σ → Except ε α}
    (h : ∀ t u, rely s t → rely t u → ∀ a, query (writes t) = .ok a → post writes a u) :
    Ensures rely post writes (Tx.read query) s := by
  refine ensures_execute fun t u ht hu write a hquery => ?_
  cases hread : query (writes t) with
  | error e =>
      rw [hread] at hquery
      cases hquery
  | ok b =>
      rw [hread] at hquery
      cases hquery
      exact h t u ht hu a hread

/-- What comes behind a read goes on with what was read on the way. -/
theorem Ensures.read_bind (hrefl : ∀ s t, rely s t → rely t t)
    (htrans : ∀ s t u, rely s t → rely t u → rely s u) (hs : rely s s) {query : σ → Except ε β}
    {f : β → Tx σ ε α}
    (hf : ∀ b t, rely s t → (∃ seen, rely seen t ∧ query (writes seen) = .ok b) →
      Ensures rely post writes (f b) t) :
    Ensures rely post writes (Tx.read query >>= f) s := by
  have hread : Ensures rely (fun w b t => w = writes
      ∧ ∃ seen, rely seen t ∧ query (w seen) = .ok b) writes (Tx.read query) s :=
    ensures_read fun seen t _ ht b hb => ⟨rfl, seen, ht, hb⟩
  refine hread.bind hrefl htrans hs ?_
  rintro w b t ht ⟨rfl, hseen⟩
  exact hf b t ht hseen

theorem ensures_write {f : σ → σ} {post : (σ → σ) → Unit → σ → Prop}
    (h : ∀ u, rely s u → post (f ∘ writes) () u)
    (htrans : ∀ s t u, rely s t → rely t u → rely s u) :
    Ensures rely post writes (Tx.write f : Tx σ ε Unit) s := by
  refine ensures_execute fun t u ht hu write a hquery => ?_
  cases hquery
  exact h u (htrans s t u ht hu)

theorem ensures_ofExcept {x : Except ε α} (h : ∀ t, rely s t → ∀ a, x = .ok a → post writes a t) :
    Ensures rely post writes (Tx.ofExcept x) s := by
  cases x with
  | error e => exact trivial
  | ok a => exact fun t ht => h t ht a rfl

/-- A program whose writes keep `Q`, which the others keep too. -/
theorem ensures_of_allWrites {P : (σ → σ) → Prop} {Q : (σ → σ) → σ → Prop}
    (hcomp : ∀ w v s, Q w s → P v → Q (v ∘ w) s)
    (hstable : ∀ w s t, rely s t → Q w s → Q w t) {tx : Tx σ ε α} (htx : tx.AllWrites P)
    (hwrites : Q writes s) : Ensures rely (fun w _ t => Q w t) writes tx s := by
  induction tx generalizing writes s with
  | commit a => exact fun t ht => hstable writes s t ht hwrites
  | rollback e => exact trivial
  | statement write next ih =>
      intro t ht
      exact ih (writes t) (htx (writes t)).2
        (hcomp writes (write (writes t)) t (hstable writes s t ht hwrites) (htx (writes t)).1)

end Ensures

/-- It commits only from a store to one that `post` allows. -/
def Guarded (rely post : σ → σ → Prop) (writes : σ → σ) (tx : Tx σ ε α) (s : σ) : Prop :=
  Ensures rely (fun w _ t => post t (w t)) writes tx s

/-! ## Runs -/

/-- A transaction that has begun: its request, its writes, and what is left. -/
structure Open (σ ρ ε α : Type) where
  request : ρ
  writes : σ → σ
  rest : Tx σ ε α

/-- The committed store, and for each key the transaction that holds its lock. -/
structure State (σ κ ρ ε α : Type) where
  store : σ
  holder : κ → Option (Open σ ρ ε α)

inductive Action (ρ lab : Type) where
  | begin (r : ρ)
  | statement (r : ρ)
  | commit (r : ρ)
  | rollback (r : ρ)
  | environment (a : lab)

section Runs

variable [DecidableEq κ] (key : ρ → κ) (program : ρ → Tx σ ε α) (valid : σ → Prop)
  (environment : σ → lab → σ → Prop)

/-- A request begins when the lock of its key is free; its transaction may be
rolled back at any time. `valid` is what the store's constraints demand of
every commit. -/
inductive Step : State σ κ ρ ε α → Action ρ lab → State σ κ ρ ε α → Prop where
  | begin {s : State σ κ ρ ε α} {r : ρ} (hfree : s.holder (key r) = none) :
      Step s (.begin r)
        { s with holder := Function.update s.holder (key r) (some ⟨r, id, program r⟩) }
  | statement {s : State σ κ ρ ε α} {r : ρ} {writes : σ → σ} {write : σ → σ → σ}
      {next : σ → Tx σ ε α} (hopen : s.holder (key r) = some ⟨r, writes, .statement write next⟩) :
      Step s (.statement r)
        { s with
          holder := Function.update s.holder (key r)
            (some ⟨r, write (writes s.store) ∘ writes, next (writes s.store)⟩) }
  | commit {s : State σ κ ρ ε α} {r : ρ} {writes : σ → σ} {a : α}
      (hopen : s.holder (key r) = some ⟨r, writes, .commit a⟩) (hvalid : valid (writes s.store)) :
      Step s (.commit r) ⟨writes s.store, Function.update s.holder (key r) none⟩
  | rollback {s : State σ κ ρ ε α} {r : ρ} {writes : σ → σ} {rest : Tx σ ε α}
      (hopen : s.holder (key r) = some ⟨r, writes, rest⟩) :
      Step s (.rollback r) { s with holder := Function.update s.holder (key r) none }
  | environment {s : State σ κ ρ ε α} {a : lab} {t : σ} (h : environment s.store a t) :
      Step s (.environment a) { s with store := t }

/-- A store and open transactions that rely and post have nothing against. -/
structure Inv (I : σ → Prop) (rely : κ → σ → σ → Prop) (post : ρ → σ → σ → Prop)
    (s : State σ κ ρ ε α) : Prop where
  store : I s.store
  guarded : ∀ k o, s.holder k = some o →
    key o.request = k ∧ Guarded (rely k) (post o.request) o.writes o.rest s.store

/-- What has to be shown of a rely and a post for each request. -/
structure Rules (I : σ → Prop) (rely : κ → σ → σ → Prop) (post : ρ → σ → σ → Prop) : Prop where
  refl : ∀ k s, I s → rely k s s
  trans : ∀ k s t u, rely k s t → rely k t u → rely k s u
  environment : ∀ s a t, I s → environment s a t → I t ∧ ∀ k, rely k s t
  program : ∀ r s, I s → Guarded (rely (key r)) (post r) id (program r) s
  commit : ∀ r s t, I s → valid t → post r s t → I t ∧ ∀ k, k ≠ key r → rely k s t

variable {key program valid environment} {I : σ → Prop} {rely : κ → σ → σ → Prop}
  {post : ρ → σ → σ → Prop} {s t : State σ κ ρ ε α} {a : Action ρ lab}

omit [DecidableEq κ] in
theorem Inv.init (hstore : I s.store) (hfree : ∀ k, s.holder k = none) :
    Inv key I rely post s := by
  refine ⟨hstore, fun k o ho => ?_⟩
  rw [hfree k] at ho
  cases ho

/-- The holder of a lock that has changed. -/
theorem Inv.update (h : Inv key I rely post s) (k : κ) (o : Option (Open σ ρ ε α))
    (ho : ∀ o', o = some o' →
      key o'.request = k ∧ Guarded (rely k) (post o'.request) o'.writes o'.rest s.store) :
    Inv key I rely post { s with holder := Function.update s.holder k o } := by
  refine ⟨h.store, fun k' o' ho' => ?_⟩
  by_cases hk : k' = k
  · subst hk
    exact ho o' ((Function.update_self k' o s.holder).symm.trans ho')
  · exact h.guarded k' o' ((Function.update_of_ne hk o s.holder).symm.trans ho')

omit [DecidableEq κ] in
/-- The transaction that commits, by what it guards. -/
theorem Inv.post_of_commit (hrules : Rules key program valid environment I rely post)
    (h : Inv key I rely post s) {r : ρ} {writes : σ → σ} {a : α}
    (hopen : s.holder (key r) = some ⟨r, writes, .commit a⟩) : post r s.store (writes s.store) :=
  (h.guarded (key r) _ hopen).2 s.store (hrules.refl (key r) s.store h.store)

theorem Inv.step (hrules : Rules key program valid environment I rely post)
    (h : Inv key I rely post s) (hstep : Step key program valid environment s a t) :
    Inv key I rely post t := by
  cases hstep with
  | begin hfree =>
      refine h.update _ _ fun o' ho' => ?_
      cases ho'
      exact ⟨rfl, hrules.program _ s.store h.store⟩
  | statement hopen =>
      refine h.update _ _ fun o' ho' => ?_
      cases ho'
      exact ⟨rfl, (h.guarded _ _ hopen).2 s.store (hrules.refl _ s.store h.store)⟩
  | rollback hopen =>
      refine h.update _ _ fun o' ho' => ?_
      cases ho'
  | commit hopen hvalid =>
      rename_i r writes a
      obtain ⟨hI, hrely⟩ := hrules.commit r s.store _ h.store hvalid (h.post_of_commit hrules hopen)
      refine ⟨hI, fun k o ho => ?_⟩
      by_cases hk : k = key r
      · subst hk
        cases (Function.update_self (key r) none s.holder).symm.trans ho
      · obtain ⟨hkey, hguarded⟩ := h.guarded k o
          ((Function.update_of_ne hk none s.holder).symm.trans ho)
        exact ⟨hkey, hguarded.mono (hrules.trans k) (hrely k hk)⟩
  | environment henv =>
      obtain ⟨hI, hrely⟩ := hrules.environment _ _ _ h.store henv
      refine ⟨hI, fun k o ho => ?_⟩
      obtain ⟨hkey, hguarded⟩ := h.guarded k o ho
      exact ⟨hkey, hguarded.mono (hrules.trans k) (hrely k)⟩

theorem Inv.commits (hrules : Rules key program valid environment I rely post)
    (h : Inv key I rely post s) (hstep : Step key program valid environment s a t) {r : ρ}
    (ha : a = .commit r) : post r s.store t.store := by
  cases hstep with
  | commit hopen hvalid =>
      cases ha
      exact h.post_of_commit hrules hopen
  | begin => cases ha
  | statement => cases ha
  | rollback => cases ha
  | environment => cases ha

/-- A transition that commits a request does what its `post` says. -/
def Commits (post : ρ → σ → σ → Prop) (x : Taken (State σ κ ρ ε α) (Action ρ lab)) : Prop :=
  ∀ r, x.label = .commit r → post r x.source.store x.target.store

/-- **Rely and guarantee.** Along every run the store keeps `I`, and what is
committed meets the `post` of its request. -/
theorem run_commits {trace : List (Taken (State σ κ ρ ε α) (Action ρ lab))}
    (hrules : Rules key program valid environment I rely post)
    (hrun : Run (Step key program valid environment) s trace t) (hs : I s.store)
    (hfree : ∀ k, s.holder k = none) : I t.store ∧ ∀ x ∈ trace, Commits post x := by
  have hinit : Inv key I rely post s := .init hs hfree
  refine ⟨(hrun.invariant (fun x hx hstep => hx.step hrules hstep) hinit).store,
    hrun.forall_taken (fun x hx hstep => hx.step hrules hstep) (fun x hx hstep => ?_) hinit⟩
  exact fun r hlabel => hx.commits hrules hstep hlabel

end Runs

end Transactions
