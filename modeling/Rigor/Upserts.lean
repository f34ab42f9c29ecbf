import Mathlib.Data.List.Induction
import Rigor.Tables

/-!
# Upserts

`INSERT … ON CONFLICT (key) DO UPDATE`. A row with a new key is appended. One
whose key is there is merged into the stored row: the columns that are updated
take the new values, and the others keep those of the first insert. So the last
writer of a key decides, and to write the end of a list of rows once more
changes nothing (`puts_replay`).
-/

namespace Tables

structure Upsert (α κ : Type) where
  key : α → κ
  /-- the stored row after a conflict with the new one -/
  merge : α → α → α
  key_merge : ∀ new stored, key (merge new stored) = key stored
  merge_self : ∀ new, merge new new = new
  merge_merge : ∀ new other stored, merge new (merge other stored) = merge new stored

namespace Upsert

variable {α κ : Type} [DecidableEq κ] (u : Upsert α κ)

def put (new : α) (rows : List α) : List α :=
  if u.key new ∈ rows.map u.key then update u.key (u.key new) (u.merge new) rows
  else rows ++ [new]

def puts (news rows : List α) : List α := news.foldl (fun rows new => u.put new rows) rows

/-- What an upsert makes of one row. -/
def touch (new x : α) : α := if u.key x = u.key new then u.merge new x else x

def touches (news : List α) (x : α) : α := news.foldl (fun x new => u.touch new x) x

variable {u} {new other x z : α} {news rows : List α}

/-! ## One row -/

theorem key_touch : u.key (u.touch new x) = u.key x := by
  unfold touch
  split_ifs
  · exact u.key_merge new x
  · rfl

theorem key_touches : u.key (u.touches news x) = u.key x := by
  induction news generalizing x with
  | nil => rfl
  | cons new news ih => exact ih.trans key_touch

theorem touch_of_eq (h : u.key x = u.key new) : u.touch new x = u.merge new x := if_pos h

theorem touch_of_ne (h : u.key x ≠ u.key new) : u.touch new x = x := if_neg h

/-- A merge forgets what the others merged before it. -/
theorem merge_touches : u.merge new (u.touches news x) = u.merge new x := by
  induction news generalizing x with
  | nil => rfl
  | cons other news ih =>
      refine (ih (x := u.touch other x)).trans ?_
      unfold touch
      split_ifs
      · exact u.merge_merge new other x
      · rfl

theorem touches_append (before after : List α) :
    u.touches (before ++ after) x = u.touches after (u.touches before x) :=
  List.foldl_append ..

theorem touches_idem : u.touches news (u.touches news x) = u.touches news x := by
  induction news using List.reverseRecOn with
  | nil => rfl
  | append_singleton news new ih =>
      rw [touches_append, touches_append]
      show u.touch new (u.touches news (u.touch new (u.touches news x)))
        = u.touch new (u.touches news x)
      by_cases h : u.key x = u.key new
      · rw [touch_of_eq (key_touches.trans h),
          touch_of_eq (key_touches.trans ((u.key_merge new _).trans (key_touches.trans h))),
          merge_touches, u.merge_merge]
      · rw [touch_of_ne fun hsame => h (key_touches.symm.trans hsame), ih,
          touch_of_ne fun hsame => h (key_touches.symm.trans hsame)]

/-- A row that is inserted on the way is left as it is by another round. -/
theorem touches_inserted (before after : List α) :
    u.touches (before ++ new :: after) (u.touches after new) = u.touches after new := by
  rw [touches_append]
  show u.touches after (u.touch new (u.touches before (u.touches after new))) = _
  rw [touch_of_eq (key_touches.trans key_touches), merge_touches, merge_touches, u.merge_self]

/-! ## Tables -/

theorem put_of_mem (h : u.key new ∈ rows.map u.key) : u.put new rows = rows.map (u.touch new) :=
  if_pos h

theorem put_of_not_mem (h : u.key new ∉ rows.map u.key) : u.put new rows = rows ++ [new] :=
  if_neg h

theorem keys_map_touch : (rows.map (u.touch new)).map u.key = rows.map u.key := by
  rw [List.map_map]
  exact List.map_congr_left fun x _ => key_touch

theorem mem_keys_put {k : κ} :
    k ∈ (u.put new rows).map u.key ↔ k = u.key new ∨ k ∈ rows.map u.key := by
  by_cases h : u.key new ∈ rows.map u.key
  · rw [put_of_mem h, keys_map_touch]
    exact ⟨.inr, fun hk => hk.elim (fun heq => heq ▸ h) id⟩
  · rw [put_of_not_mem h, List.map_append, List.mem_append, List.map_singleton,
      List.mem_singleton, or_comm]

theorem mem_keys_puts {k : κ} :
    k ∈ (u.puts news rows).map u.key ↔ k ∈ news.map u.key ∨ k ∈ rows.map u.key := by
  induction news generalizing rows with
  | nil => exact (or_iff_right (List.not_mem_nil)).symm
  | cons new news ih =>
      refine (@ih (u.put new rows)).trans ?_
      rw [mem_keys_put, List.map_cons, List.mem_cons]
      tauto

/-- Rows whose keys are there only change rows. -/
theorem puts_of_mem (h : ∀ new ∈ news, u.key new ∈ rows.map u.key) :
    u.puts news rows = rows.map (u.touches news) := by
  induction news generalizing rows with
  | nil => exact (List.map_id' rows).symm
  | cons new news ih =>
      obtain ⟨hnew, hnews⟩ := List.forall_mem_cons.mp h
      show u.puts news (u.put new rows) = _
      have hkept : ∀ other ∈ news, u.key other ∈ (rows.map (u.touch new)).map u.key := by
        intro other hother
        rw [keys_map_touch]
        exact hnews other hother
      rw [put_of_mem hnew, ih hkept, List.map_map]
      rfl

theorem mem_put (h : x ∈ u.put new rows) : x = new ∨ ∃ y ∈ rows, x = u.touch new y := by
  by_cases hnew : u.key new ∈ rows.map u.key
  · rw [put_of_mem hnew] at h
    obtain ⟨y, hy, rfl⟩ := List.mem_map.mp h
    exact .inr ⟨y, hy, rfl⟩
  · rw [put_of_not_mem hnew] at h
    rcases List.mem_append.mp h with hold | hlast
    · refine .inr ⟨x, hold, (touch_of_ne fun hsame => hnew ?_).symm⟩
      exact hsame ▸ List.mem_map_of_mem hold
    · exact .inl (List.mem_singleton.mp hlast)

/-- Where a row comes from. -/
theorem mem_puts (h : x ∈ u.puts news rows) : (∃ y ∈ rows, x = u.touches news y)
    ∨ ∃ before new after, news = before ++ new :: after ∧ x = u.touches after new := by
  induction news generalizing rows with
  | nil => exact .inl ⟨x, h, rfl⟩
  | cons new news ih =>
      rcases @ih (u.put new rows) h with ⟨y, hy, rfl⟩ | ⟨before, other, after, rfl, rfl⟩
      · rcases mem_put hy with rfl | ⟨z, hz, rfl⟩
        · exact .inr ⟨[], y, news, rfl, rfl⟩
        · exact .inl ⟨z, hz, rfl⟩
      · exact .inr ⟨new :: before, other, after, rfl, rfl⟩

theorem puts_append (before after : List α) :
    u.puts (before ++ after) rows = u.puts after (u.puts before rows) :=
  List.foldl_append ..

/-- The same rows once more change nothing. -/
theorem puts_replay (news rows : List α) :
    u.puts news (u.puts news rows) = u.puts news rows := by
  have hkeys : ∀ new ∈ news, u.key new ∈ (u.puts news rows).map u.key := fun new hnew =>
    mem_keys_puts.mpr (.inl (List.mem_map_of_mem hnew))
  rw [puts_of_mem hkeys]
  refine (List.map_congr_left fun x hx => ?_).trans (List.map_id' _)
  rcases mem_puts hx with ⟨y, -, rfl⟩ | ⟨before, new, after, rfl, rfl⟩
  · exact touches_idem
  · exact touches_inserted before after

/-! ## Settled rows -/

/-- The row is stored, and nothing has overwritten it. -/
def Settled (u : Upsert α κ) (new : α) (rows : List α) : Prop :=
  u.key new ∈ rows.map u.key ∧ ∀ x ∈ rows, u.key x = u.key new → u.merge new x = x

theorem Settled.put (h : u.Settled new rows) : u.put new rows = rows := by
  rw [put_of_mem h.1]
  refine (List.map_congr_left fun x hx => ?_).trans (List.map_id' _)
  by_cases hsame : u.key x = u.key new
  · rw [touch_of_eq hsame]
    exact h.2 x hx hsame
  · exact touch_of_ne hsame

theorem settled_put (new : α) (rows : List α) : u.Settled new (u.put new rows) := by
  refine ⟨mem_keys_put.mpr (.inl rfl), fun x hx hsame => ?_⟩
  rcases mem_put hx with rfl | ⟨y, -, rfl⟩
  · exact u.merge_self x
  · rw [touch_of_eq (key_touch.symm.trans hsame), u.merge_merge]

/-- Writing under another key leaves the row alone. -/
theorem Settled.put_of_ne (h : u.Settled new rows) (hne : u.key other ≠ u.key new) :
    u.Settled new (u.put other rows) := by
  refine ⟨mem_keys_put.mpr (.inr h.1), fun x hx hsame => ?_⟩
  rcases mem_put hx with rfl | ⟨y, hy, rfl⟩
  · exact absurd hsame hne
  · have hkey : u.key y = u.key new := key_touch.symm.trans hsame
    rw [touch_of_ne fun heq => hne (heq.symm.trans hkey)]
    exact h.2 y hy hkey

theorem Settled.puts_of_ne (h : u.Settled new rows) (hne : u.key new ∉ news.map u.key) :
    u.Settled new (u.puts news rows) := by
  induction news generalizing rows with
  | nil => exact h
  | cons other news ih =>
      rw [List.map_cons, List.mem_cons, not_or] at hne
      exact ih (h.put_of_ne fun heq => hne.1 heq.symm) hne.2

/-- Rows with distinct keys are all settled once they are written. -/
theorem settled_puts (hkeys : (news.map u.key).Nodup) :
    ∀ new ∈ news, u.Settled new (u.puts news rows) := by
  induction news generalizing rows with
  | nil => exact fun new hnew => absurd hnew List.not_mem_nil
  | cons other news ih =>
      obtain ⟨hother, hrest⟩ := List.nodup_cons.mp hkeys
      exact List.forall_mem_cons.mpr ⟨(settled_put other rows).puts_of_ne hother, ih hrest⟩

end Upsert

end Tables
