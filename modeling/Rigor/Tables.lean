import Mathlib.Data.List.Nodup

/-!
# Keyed tables

A table is the list of its rows; a row is found and updated by its key.
The rules say which rows an insert or an update leaves alone.
-/

namespace Tables

variable {α κ : Type} [DecidableEq κ] (key : α → κ)

/-- The first row with the key. -/
def find (k : κ) (rows : List α) : Option α := rows.find? fun r => key r = k

/-- The rows with the key, changed by `f`. -/
def update (k : κ) (f : α → α) (rows : List α) : List α :=
  rows.map fun r => if key r = k then f r else r

variable {key} {k k' : κ} {rows : List α} {r r' : α} {f : α → α}

theorem mem_of_find (h : find key k rows = some r) : r ∈ rows := List.mem_of_find?_eq_some h

theorem key_of_find (h : find key k rows = some r) : key r = k := by
  simpa using List.find?_some h

theorem find_cons_of_eq (h : key r = k) : find key k (r :: rows) = some r :=
  List.find?_cons_of_pos (by simpa using h)

theorem find_cons_of_ne (h : key r ≠ k) : find key k (r :: rows) = find key k rows :=
  List.find?_cons_of_neg (by simpa using h)

theorem find_isSome_of_mem (key : α → κ) (h : r ∈ rows) : ∃ r', find key (key r) rows = some r' :=
  Option.isSome_iff_exists.mp (List.find?_isSome.mpr ⟨r, h, by simp⟩)

/-- In a table with distinct keys a row is the one its key finds. -/
theorem find_of_mem (hkeys : (rows.map key).Nodup) (h : r ∈ rows) :
    find key (key r) rows = some r := by
  obtain ⟨r', hr'⟩ := find_isSome_of_mem key h
  rw [hr', List.inj_on_of_nodup_map hkeys (mem_of_find hr') h (key_of_find hr')]

/-- An update that keeps the key changes what a key finds. -/
theorem find_update_of (hf : ∀ r, key r = k → key (f r) = k) :
    find key k' (update key k f rows)
      = (find key k' rows).map fun r => if key r = k then f r else r := by
  rw [find, update, List.find?_map]
  refine congrArg _ (congrArg (List.find? · rows) (funext fun r => ?_))
  change decide (key (if key r = k then f r else r) = k') = _
  split_ifs with hk
  · rw [hf r hk, hk]
  · rfl

theorem find_update (hf : ∀ r, key (f r) = key r) :
    find key k' (update key k f rows)
      = (find key k' rows).map fun r => if key r = k then f r else r :=
  find_update_of fun r hr => (hf r).trans hr

/-- What an update leaves alone is found as it was. -/
theorem map_find_update {β : Type} {g : α → β} (hf : ∀ r, key (f r) = key r)
    (hg : ∀ r, g (f r) = g r) :
    (find key k' (update key k f rows)).map g = (find key k' rows).map g := by
  rw [find_update hf, Option.map_map]
  refine congrArg (Option.map · _) (funext fun r => ?_)
  change g (if key r = k then f r else r) = g r
  split_ifs
  · exact hg r
  · rfl

theorem mem_update (h : r ∈ update key k f rows) :
    (r ∈ rows ∧ key r ≠ k) ∨ ∃ r₀ ∈ rows, key r₀ = k ∧ r = f r₀ := by
  obtain ⟨r₀, hr₀, heq⟩ := List.mem_map.mp h
  by_cases hk : key r₀ = k
  · rw [if_pos hk] at heq
    exact .inr ⟨r₀, hr₀, hk, heq.symm⟩
  · rw [if_neg hk] at heq
    subst heq
    exact .inl ⟨hr₀, hk⟩

theorem mem_update_of_ne (h : r ∈ rows) (hk : key r ≠ k) : r ∈ update key k f rows :=
  List.mem_map.mpr ⟨r, h, if_neg hk⟩

theorem mem_update_of_eq (h : r ∈ rows) (hk : key r = k) : f r ∈ update key k f rows :=
  List.mem_map.mpr ⟨r, h, if_pos hk⟩

theorem map_update {β : Type} {g : α → β} (h : ∀ r ∈ rows, key r = k → g (f r) = g r) :
    (update key k f rows).map g = rows.map g := by
  rw [update, List.map_map]
  refine List.map_congr_left fun r hr => ?_
  change g (if key r = k then f r else r) = g r
  split_ifs with hk
  · exact h r hr hk
  · rfl

theorem update_update {g : α → α} (h : ∀ r, key (f r) = key r) :
    update key k g (update key k f rows) = update key k (fun r => g (f r)) rows := by
  rw [update, update, List.map_map]
  refine List.map_congr_left fun r _ => ?_
  change (if key (if key r = k then f r else r) = k then _ else _) = _
  by_cases hk : key r = k
  · rw [if_pos hk, if_pos ((h r).trans hk)]
    exact (congrArg g (if_pos hk)).trans (if_pos hk).symm
  · rw [if_neg hk, if_neg hk, if_neg hk]

end Tables
