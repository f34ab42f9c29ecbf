import Rigor.Matching
import Rigor.PyCompare
import Rigor.PyJsonRoundTrip
import Rigor.PyJsonScan

/-!
# Equality and canonical texts

`==` is symmetric and transitive on the values of Python, whose objects have
distinct keys (`pyEq_symm`, `pyEq_trans`), and does not see the order of keys
(`pyEq_sortKeys`). Sorting the keys keeps what `json.dumps` needs of a value,
so the sorted text determines the sorted value (`sortKeys_eq_of_encode`).
-/

namespace Py

/-- Floats compare by value, with each other and with integers. -/
structure FloatLaws (F : Type) [Runtime F] : Prop where
  symm : ∀ {x y : F}, Runtime.floatEq x y = true → Runtime.floatEq y x = true
  trans : ∀ {x y z : F}, Runtime.floatEq x y = true → Runtime.floatEq y z = true →
    Runtime.floatEq x z = true
  of_int : ∀ {x y : F} {n : Int}, Runtime.floatEqInt x n = true → Runtime.floatEqInt y n = true →
    Runtime.floatEq x y = true
  int_congr : ∀ {x y : F} {n : Int}, Runtime.floatEq x y = true → Runtime.floatEqInt x n = true →
    Runtime.floatEqInt y n = true
  int_unique : ∀ {x : F} {m n : Int}, Runtime.floatEqInt x m = true →
    Runtime.floatEqInt x n = true → m = n

namespace Json

variable {F : Type}

/-- Induction over a value: of a container, through its members. -/
theorem memberInduction {P : Json F → Prop} (null : P .null) (bool : ∀ b, P (.bool b))
    (int : ∀ n, P (.int n)) (float : ∀ x, P (.float x)) (str : ∀ s, P (.str s))
    (arr : ∀ xs, (∀ x ∈ xs, P x) → P (.arr xs))
    (obj : ∀ kvs : List (Str × Json F), (∀ k v, (k, v) ∈ kvs → P v) → P (.obj kvs)) :
    ∀ v, P v :=
  @Json.rec F P (fun xs => ∀ x ∈ xs, P x) (fun kvs => ∀ k v, (k, v) ∈ kvs → P v) (fun kv => P kv.2)
    null bool int float str arr obj
    (fun _ h => nomatch h)
    (fun _ _ hx hxs => List.forall_mem_cons.mpr ⟨hx, hxs⟩)
    (fun _ _ h => nomatch h)
    (fun _ _ hkv hkvs k v hm => by
      rcases List.mem_cons.mp hm with rfl | hm
      · exact hkv
      · exact hkvs k v hm)
    (fun _ _ hv => hv)

/-! ## Members -/

theorem mem_of_lookup {key : Str} {v : Json F} : ∀ {kvs : List (Str × Json F)},
    lookup key kvs = some v → (key, v) ∈ kvs
  | (k, w) :: kvs, h => by
      rw [lookup] at h
      split_ifs at h with hk
      · cases h
        rw [hk]
        exact List.mem_cons_self ..
      · exact List.mem_cons_of_mem _ (mem_of_lookup h)

theorem lookup_of_mem {key : Str} {v : Json F} : ∀ {kvs : List (Str × Json F)},
    (kvs.map Prod.fst).Nodup → (key, v) ∈ kvs → lookup key kvs = some v
  | (k, w) :: kvs, hnodup, h => by
      rw [List.map_cons, List.nodup_cons] at hnodup
      rw [lookup]
      rcases List.mem_cons.mp h with h | h
      · cases h
        rw [if_pos rfl]
      · have hk : k ≠ key := by
          rintro rfl
          exact hnodup.1 (List.mem_map.mpr ⟨_, h, rfl⟩)
        rw [if_neg hk, lookup_of_mem hnodup.2 h]

theorem forall_member_cons {P : Json F → Prop} {k : Str} {v : Json F}
    {kvs : List (Str × Json F)} :
    (∀ k' v', (k', v') ∈ (k, v) :: kvs → P v') ↔ P v ∧ ∀ k' v', (k', v') ∈ kvs → P v' := by
  simp only [List.mem_cons, Prod.mk.injEq]
  constructor
  · exact fun h => ⟨h k v (.inl ⟨rfl, rfl⟩), fun k' v' hm => h k' v' (.inr hm)⟩
  · rintro ⟨hv, hkvs⟩ k' v' (⟨-, rfl⟩ | h)
    · exact hv
    · exact hkvs k' v' h

theorem distinctKeysMembers_iff {kvs : List (Str × Json F)} :
    DistinctKeysMembers kvs ↔ ∀ k v, (k, v) ∈ kvs → v.DistinctKeys := by
  induction kvs with
  | nil => exact ⟨fun _ _ _ => nofun, fun _ => trivial⟩
  | cons kv kvs ih =>
      obtain ⟨k, v⟩ := kv
      rw [DistinctKeysMembers, ih, forall_member_cons]

theorem distinctKeysElements_iff {xs : List (Json F)} :
    DistinctKeysElements xs ↔ ∀ x ∈ xs, x.DistinctKeys :=
  ⟨distinctKeys_elements, distinctKeysElements_of_forall⟩

section Equality

variable [Runtime F]

attribute [local simp] pyEq pyEqElements pyEqMembers

theorem pyEqElements_iff : ∀ {xs ys : List (Json F)},
    pyEqElements xs ys = true ↔ List.Forall₂ (fun x y => pyEq x y = true) xs ys
  | [], [] => by simp [pyEqElements]
  | [], _ :: _ => by simp [pyEqElements]
  | _ :: _, [] => by simp [pyEqElements]
  | x :: xs, y :: ys => by
      rw [pyEqElements, Bool.and_eq_true, List.forall₂_cons, pyEqElements_iff]

theorem pyEqMembers_iff {a b : List (Str × Json F)} :
    pyEqMembers a b = true
      ↔ ∀ k v, (k, v) ∈ a → ∃ w, lookup k b = some w ∧ pyEq v w = true := by
  induction a with
  | nil => exact ⟨fun _ _ _ => nofun, fun _ => rfl⟩
  | cons kv a ih =>
      obtain ⟨k, v⟩ := kv
      rw [pyEqMembers, Bool.and_eq_true, ih]
      constructor
      · rintro ⟨hv, hrest⟩ k' v' hm
        rcases List.mem_cons.mp hm with hm | hm
        · cases hm
          cases hlookup : lookup k b with
          | none => rw [hlookup] at hv; cases hv
          | some w => rw [hlookup] at hv; exact ⟨w, rfl, hv⟩
        · exact hrest k' v' hm
      · intro h
        obtain ⟨w, hlookup, hw⟩ := h k v (List.mem_cons_self ..)
        rw [hlookup]
        exact ⟨hw, fun k' v' hm => h k' v' (List.mem_cons_of_mem _ hm)⟩

theorem pyEq_arr {xs : List (Json F)} {v : Json F} :
    pyEq (.arr xs) v = true
      ↔ ∃ ys, v = .arr ys ∧ List.Forall₂ (fun x y => pyEq x y = true) xs ys := by
  cases v <;> simp [pyEq, pyEqElements_iff]

theorem pyEq_obj {a : List (Str × Json F)} {v : Json F} :
    pyEq (.obj a) v = true
      ↔ ∃ b, v = .obj b ∧ a.length = b.length
        ∧ ∀ k v, (k, v) ∈ a → ∃ w, lookup k b = some w ∧ pyEq v w = true := by
  cases v <;> simp [pyEq, pyEqMembers_iff]

theorem pyEq_str {s : Str} {v : Json F} : pyEq (.str s) v = true ↔ v = .str s := by
  cases v with
  | str t => simp only [pyEq, beq_iff_eq, str.injEq]; exact eq_comm
  | null | bool | int | float | arr | obj => simp [pyEq]

theorem pyEq_null {v : Json F} : pyEq .null v = true ↔ v = .null := by
  cases v <;> simp [pyEq]

/-! ### Numbers -/

/-- A number; a `bool` is the integer it equals. -/
def number : Json F → Option (Int ⊕ F)
  | .bool b => some (.inl (if b then 1 else 0))
  | .int n => some (.inl n)
  | .float x => some (.inr x)
  | _ => none

def numberEq : Int ⊕ F → Int ⊕ F → Bool
  | .inl m, .inl n => n == m
  | .inl m, .inr y => Runtime.floatEqInt y m
  | .inr x, .inl n => Runtime.floatEqInt x n
  | .inr x, .inr y => Runtime.floatEq x y

theorem pyEq_number {v w : Json F} {m : Int ⊕ F} (hv : v.number = some m) :
    pyEq v w = true ↔ ∃ n, w.number = some n ∧ numberEq m n = true := by
  cases v with
  | null | str | arr | obj => cases hv
  | bool b => cases hv; cases w <;> simp [pyEq, eqInt, number, numberEq]
  | int a => cases hv; cases w <;> simp [pyEq, eqInt, number, numberEq]
  | float x => cases hv; cases w <;> simp [pyEq, number, numberEq]

theorem numberEq_symm (laws : FloatLaws F) {m n : Int ⊕ F} (h : numberEq m n = true) :
    numberEq n m = true := by
  cases m <;> cases n
  · simp only [numberEq, beq_iff_eq] at *
    exact h.symm
  · exact h
  · exact h
  · exact laws.symm h

theorem numberEq_trans (laws : FloatLaws F) {l m n : Int ⊕ F} (hlm : numberEq l m = true)
    (hmn : numberEq m n = true) : numberEq l n = true := by
  rcases l with a | x <;> rcases m with b | y <;> rcases n with c | z
  · simp only [numberEq, beq_iff_eq] at *
    exact hmn.trans hlm
  · simp only [numberEq, beq_iff_eq] at hlm
    exact hlm ▸ hmn
  · simp only [numberEq, beq_iff_eq]
    exact laws.int_unique hmn hlm
  · exact laws.int_congr hmn hlm
  · simp only [numberEq, beq_iff_eq] at hmn
    exact hmn ▸ hlm
  · exact laws.of_int hlm hmn
  · exact laws.int_congr (laws.symm hlm) hmn
  · exact laws.trans hlm hmn

/-! ### The laws of `==` -/

omit [Runtime F] in
/-- Two lists of distinct keys, of one length, the first within the second. -/
theorem lookup_of_keys {a b : List (Str × Json F)} (ha : (a.map Prod.fst).Nodup)
    (hlen : a.length = b.length)
    (hkeys : ∀ k v, (k, v) ∈ a → k ∈ b.map Prod.fst) {k : Str} {w : Json F} (hk : (k, w) ∈ b) :
    ∃ v, (k, v) ∈ a := by
  have hsubset : a.map Prod.fst ⊆ b.map Prod.fst := by
    intro k hk
    obtain ⟨⟨k, v⟩, hm, rfl⟩ := List.mem_map.mp hk
    exact hkeys k v hm
  have hperm : (a.map Prod.fst).Perm (b.map Prod.fst) :=
    (List.subperm_of_subset ha hsubset).perm_of_length_le (by simp [hlen])
  obtain ⟨⟨k, v⟩, hm, rfl⟩ := List.mem_map.mp (hperm.mem_iff.mpr (List.mem_map_of_mem hk))
  exact ⟨v, hm⟩

theorem pyEq_symm (laws : FloatLaws F) {v w : Json F} (hv : v.DistinctKeys) (hw : w.DistinctKeys)
    (h : pyEq v w = true) : pyEq w v = true := by
  induction v using memberInduction generalizing w with
  | null => rw [pyEq_null.mp h]; rfl
  | bool b =>
      obtain ⟨n, hn, hmn⟩ := (pyEq_number rfl).mp h
      exact (pyEq_number hn).mpr ⟨_, rfl, numberEq_symm laws hmn⟩
  | int b =>
      obtain ⟨n, hn, hmn⟩ := (pyEq_number rfl).mp h
      exact (pyEq_number hn).mpr ⟨_, rfl, numberEq_symm laws hmn⟩
  | float b =>
      obtain ⟨n, hn, hmn⟩ := (pyEq_number rfl).mp h
      exact (pyEq_number hn).mpr ⟨_, rfl, numberEq_symm laws hmn⟩
  | str s => rw [pyEq_str.mp h]; exact pyEq_str.mpr rfl
  | arr xs ih =>
      obtain ⟨ys, rfl, hrel⟩ := pyEq_arr.mp h
      refine pyEq_arr.mpr ⟨xs, rfl, ?_⟩
      rw [List.forall₂_iff_get] at hrel ⊢
      refine ⟨hrel.1.symm, fun i hy hx => ?_⟩
      exact ih _ (List.get_mem ..) (distinctKeys_elements hv _ (List.get_mem ..))
        (distinctKeys_elements hw _ (List.get_mem ..)) (hrel.2 i hx hy)
  | obj a ih =>
      obtain ⟨b, rfl, hlen, hmembers⟩ := pyEq_obj.mp h
      refine pyEq_obj.mpr ⟨a, rfl, hlen.symm, fun k w hk => ?_⟩
      obtain ⟨v, hm⟩ := lookup_of_keys hv.1 hlen (fun k v hm => by
        obtain ⟨w, hw, -⟩ := hmembers k v hm
        exact mem_keys_of_lookup hw) hk
      obtain ⟨w', hlookup, heq⟩ := hmembers k v hm
      have hsame : w' = w := by
        rw [lookup_of_mem hw.1 hk] at hlookup
        exact (Option.some.inj hlookup).symm
      subst hsame
      exact ⟨v, lookup_of_mem hv.1 hm, ih k v hm (distinctKeysMembers_iff.mp hv.2 k v hm)
        (distinctKeysMembers_iff.mp hw.2 k w' hk) heq⟩

theorem pyEq_trans (laws : FloatLaws F) {u v w : Json F} (huv : pyEq u v = true)
    (hvw : pyEq v w = true) : pyEq u w = true := by
  induction u using memberInduction generalizing v w with
  | null => rw [pyEq_null.mp huv] at hvw; exact hvw
  | bool b =>
      obtain ⟨m, hm, hlm⟩ := (pyEq_number rfl).mp huv
      obtain ⟨n, hn, hmn⟩ := (pyEq_number hm).mp hvw
      exact (pyEq_number rfl).mpr ⟨n, hn, numberEq_trans laws hlm hmn⟩
  | int b =>
      obtain ⟨m, hm, hlm⟩ := (pyEq_number rfl).mp huv
      obtain ⟨n, hn, hmn⟩ := (pyEq_number hm).mp hvw
      exact (pyEq_number rfl).mpr ⟨n, hn, numberEq_trans laws hlm hmn⟩
  | float b =>
      obtain ⟨m, hm, hlm⟩ := (pyEq_number rfl).mp huv
      obtain ⟨n, hn, hmn⟩ := (pyEq_number hm).mp hvw
      exact (pyEq_number rfl).mpr ⟨n, hn, numberEq_trans laws hlm hmn⟩
  | str s => rw [pyEq_str.mp huv] at hvw; exact hvw
  | arr xs ih =>
      obtain ⟨ys, rfl, hxy⟩ := pyEq_arr.mp huv
      obtain ⟨zs, rfl, hyz⟩ := pyEq_arr.mp hvw
      refine pyEq_arr.mpr ⟨zs, rfl, ?_⟩
      rw [List.forall₂_iff_get] at hxy hyz ⊢
      refine ⟨hxy.1.trans hyz.1, fun i hx hz => ?_⟩
      exact ih _ (List.get_mem ..) (hxy.2 i hx (hxy.1 ▸ hx)) (hyz.2 i (hxy.1 ▸ hx) hz)
  | obj a ih =>
      obtain ⟨b, rfl, hab, hmembers⟩ := pyEq_obj.mp huv
      obtain ⟨c, rfl, hbc, hmembers'⟩ := pyEq_obj.mp hvw
      refine pyEq_obj.mpr ⟨c, rfl, hab.trans hbc, fun k v hm => ?_⟩
      obtain ⟨w, hw, heq⟩ := hmembers k v hm
      obtain ⟨u, hu, heq'⟩ := hmembers' k w (mem_of_lookup hw)
      exact ⟨u, hu, ih k v hm heq heq'⟩

end Equality

/-! ## Sorted keys -/

attribute [local simp] sortKeys sortKeysElements sortKeysMembers

theorem sortKeysElements_eq : ∀ xs : List (Json F), sortKeysElements xs = xs.map sortKeys
  | [] => rfl
  | _ :: xs => congrArg _ (sortKeysElements_eq xs)

theorem sortKeysMembers_eq : ∀ kvs : List (Str × Json F),
    sortKeysMembers kvs = kvs.map fun kv => (kv.1, sortKeys kv.2)
  | [] => rfl
  | (_, _) :: kvs => congrArg _ (sortKeysMembers_eq kvs)

theorem sortKeys_obj (kvs : List (Str × Json F)) : ∃ sorted : List (Str × Json F),
    sortKeys (.obj kvs) = .obj sorted
      ∧ sorted.Perm (kvs.map fun kv => (kv.1, sortKeys kv.2)) := by
  refine ⟨_, by rw [sortKeys], ?_⟩
  rw [← sortKeysMembers_eq]
  exact List.perm_insertionSort _ _

theorem keys_sorted {sorted kvs : List (Str × Json F)}
    (h : sorted.Perm (kvs.map fun kv => (kv.1, sortKeys kv.2))) :
    (sorted.map Prod.fst).Perm (kvs.map Prod.fst) := by
  have hmap := h.map Prod.fst
  rwa [List.map_map] at hmap

theorem mem_sorted {sorted kvs : List (Str × Json F)}
    (h : sorted.Perm (kvs.map fun kv => (kv.1, sortKeys kv.2))) {k : Str} {w : Json F} :
    (k, w) ∈ sorted ↔ ∃ v, (k, v) ∈ kvs ∧ w = sortKeys v := by
  rw [h.mem_iff, List.mem_map]
  constructor
  · rintro ⟨⟨k', v⟩, hm, hw⟩
    cases hw
    exact ⟨v, hm, rfl⟩
  · rintro ⟨v, hm, rfl⟩
    exact ⟨(k, v), hm, rfl⟩

theorem distinctKeys_sortKeys {v : Json F} : v.sortKeys.DistinctKeys ↔ v.DistinctKeys := by
  induction v using memberInduction with
  | null | bool | int | float | str => exact Iff.rfl
  | arr xs ih =>
      rw [sortKeys, sortKeysElements_eq, DistinctKeys, DistinctKeys, distinctKeysElements_iff,
        distinctKeysElements_iff, List.forall_mem_map]
      exact forall_congr' fun x => forall_congr' fun hx => ih x hx
  | obj kvs ih =>
      obtain ⟨sorted, hsort, hperm⟩ := sortKeys_obj kvs
      rw [hsort, DistinctKeys, DistinctKeys, (keys_sorted hperm).nodup_iff,
        distinctKeysMembers_iff, distinctKeysMembers_iff]
      refine and_congr_right fun _ => ⟨fun h k v hv => ?_, fun h k w hw => ?_⟩
      · exact (ih k v hv).mp (h k v.sortKeys ((mem_sorted hperm).mpr ⟨v, hv, rfl⟩))
      · obtain ⟨v, hv, rfl⟩ := (mem_sorted hperm).mp hw
        exact (ih k v hv).mpr (h k v hv)

instance keyOrder_total : Std.Total fun a b : Str × Json F => a.1 ≤ b.1 :=
  ⟨fun a b => le_total a.1 b.1⟩

instance keyOrder_trans : IsTrans (Str × Json F) fun a b => a.1 ≤ b.1 :=
  ⟨fun _ _ _ => le_trans⟩

/-- Members in another order are the same object once sorted. -/
theorem sortKeys_obj_perm {kvs kvs' : List (Str × Json F)} (hnodup : (kvs.map Prod.fst).Nodup)
    (h : kvs.Perm kvs') : sortKeys (.obj kvs) = sortKeys (.obj kvs') := by
  rw [sortKeys, sortKeys, sortKeysMembers_eq, sortKeysMembers_eq]
  refine congrArg Json.obj (ListMatching.insertionSort_eq_of_perm (fun a ha b hb hab hba => ?_)
    (h.map _))
  have hkeys : ((kvs.map fun kv => (kv.1, sortKeys kv.2)).map Prod.fst).Nodup := by
    rw [List.map_map]
    exact hnodup
  exact List.inj_on_of_nodup_map hkeys ha hb (le_antisymm hab hba)

theorem sortKeys_eq_arr {xs : List (Json F)} {v : Json F} :
    sortKeys v = sortKeys (.arr xs) ↔ ∃ ys, v = .arr ys ∧ ys.map sortKeys = xs.map sortKeys := by
  rw [sortKeys.eq_def (.arr xs)]
  dsimp only
  rw [sortKeysElements_eq]
  cases v with
  | arr ys => simp [sortKeys, sortKeysElements_eq]
  | null | bool | int | float | str | obj => simp [sortKeys]

theorem sortKeys_eq_obj {kvs : List (Str × Json F)} {v : Json F}
    (h : sortKeys v = sortKeys (.obj kvs)) : ∃ kvs', v = .obj kvs'
      ∧ (kvs'.map fun kv => (kv.1, sortKeys kv.2)).Perm (kvs.map fun kv => (kv.1, sortKeys kv.2)) := by
  obtain ⟨sorted, hsort, hperm⟩ := sortKeys_obj kvs
  rw [hsort] at h
  cases v with
  | obj kvs' =>
      obtain ⟨sorted', hsort', hperm'⟩ := sortKeys_obj kvs'
      rw [hsort'] at h
      cases h
      exact ⟨kvs', rfl, hperm'.symm.trans hperm⟩
  | null | bool | int | float | str | arr => simp [sortKeys] at h

theorem lookup_map_sortKeys (k : Str) : ∀ kvs : List (Str × Json F),
    lookup k (kvs.map fun kv => (kv.1, sortKeys kv.2)) = (lookup k kvs).map sortKeys
  | [] => rfl
  | (k', v) :: kvs => by
      rw [List.map_cons, lookup, lookup, lookup_map_sortKeys k kvs]
      split_ifs <;> rfl

theorem lookup_of_get {key : Str} {v : Json F} {kvs : List (Str × Json F)} (h : get key kvs = v)
    (hv : v ≠ .null) : lookup key kvs = some v := by
  rw [get] at h
  cases hlookup : lookup key kvs with
  | none => exact absurd (by rw [hlookup] at h; exact h.symm) hv
  | some w => rw [hlookup] at h; exact congrArg some h

/-- Lookup does not see the order of distinct keys. -/
theorem lookup_perm {kvs kvs' : List (Str × Json F)} (hnodup : (kvs.map Prod.fst).Nodup)
    (h : kvs'.Perm kvs) (k : Str) : lookup k kvs' = lookup k kvs := by
  have hnodup' : (kvs'.map Prod.fst).Nodup := (h.map Prod.fst).nodup_iff.mpr hnodup
  cases hk : lookup k kvs with
  | some v => exact lookup_of_mem hnodup' (h.mem_iff.mpr (mem_of_lookup hk))
  | none =>
      cases hk' : lookup k kvs' with
      | none => rfl
      | some v =>
          rw [lookup_of_mem hnodup (h.mem_iff.mp (mem_of_lookup hk'))] at hk
          cases hk

/-- Objects that are one once sorted have the same members. -/
theorem lookup_sortKeys {kvs kvs' : List (Str × Json F)} (hnodup : (kvs.map Prod.fst).Nodup)
    (h : (kvs'.map fun kv => (kv.1, sortKeys kv.2)).Perm (kvs.map fun kv => (kv.1, sortKeys kv.2)))
    (k : Str) : (lookup k kvs').map sortKeys = (lookup k kvs).map sortKeys := by
  rw [← lookup_map_sortKeys, ← lookup_map_sortKeys]
  refine lookup_perm ?_ h k
  rw [List.map_map]
  exact hnodup

theorem get_sortKeys {kvs kvs' : List (Str × Json F)} (hnodup : (kvs.map Prod.fst).Nodup)
    (h : (kvs'.map fun kv => (kv.1, sortKeys kv.2)).Perm (kvs.map fun kv => (kv.1, sortKeys kv.2)))
    (k : Str) : (get k kvs').sortKeys = (get k kvs).sortKeys := by
  have hlookup := lookup_sortKeys hnodup h k
  unfold get
  cases hk : lookup k kvs with
  | none =>
      rw [hk, Option.map_none, Option.map_eq_none_iff] at hlookup
      rw [hlookup]
  | some v =>
      rw [hk, Option.map_some, Option.map_eq_some_iff] at hlookup
      obtain ⟨v', hk', hv⟩ := hlookup
      rw [hk']
      exact hv

/-! ### What `json.dumps` needs -/

section Printing

variable [Runtime F]

theorem digitsFitElements_iff : ∀ {xs : List (Json F)},
    DigitsFitElements xs ↔ ∀ x ∈ xs, x.DigitsFit
  | [] => ⟨fun _ => nofun, fun _ => trivial⟩
  | x :: xs => by rw [DigitsFitElements, List.forall_mem_cons, digitsFitElements_iff]

theorem digitsFitMembers_iff {kvs : List (Str × Json F)} :
    DigitsFitMembers kvs ↔ ∀ k v, (k, v) ∈ kvs → v.DigitsFit := by
  induction kvs with
  | nil => exact ⟨fun _ _ _ => nofun, fun _ => trivial⟩
  | cons kv kvs ih =>
      obtain ⟨k, v⟩ := kv
      rw [DigitsFitMembers, ih, forall_member_cons]

theorem digitsFit_sortKeys {v : Json F} (h : v.DigitsFit) : v.sortKeys.DigitsFit := by
  induction v using memberInduction with
  | null | bool | int | float | str => exact h
  | arr xs ih =>
      rw [sortKeys, sortKeysElements_eq]
      refine digitsFitElements_iff.mpr fun y hy => ?_
      obtain ⟨x, hx, rfl⟩ := List.mem_map.mp hy
      exact ih x hx (digitsFitElements_iff.mp h x hx)
  | obj kvs ih =>
      obtain ⟨sorted, hsort, hperm⟩ := sortKeys_obj kvs
      rw [hsort]
      refine digitsFitMembers_iff.mpr fun k w hw => ?_
      obtain ⟨v, hv, rfl⟩ := (mem_sorted hperm).mp hw
      exact ih k v hv (digitsFitMembers_iff.mp h k v hv)

omit [Runtime F] in
theorem depthElements_le : ∀ {xs : List (Json F)} {d : Nat},
    depthElements xs ≤ d ↔ ∀ x ∈ xs, x.depth ≤ d
  | [], _ => ⟨fun _ => nofun, fun _ => Nat.zero_le _⟩
  | x :: xs, _ => by rw [depthElements, max_le_iff, List.forall_mem_cons, depthElements_le]

omit [Runtime F] in
theorem depthMembers_le {kvs : List (Str × Json F)} {d : Nat} :
    depthMembers kvs ≤ d ↔ ∀ k v, (k, v) ∈ kvs → v.depth ≤ d := by
  induction kvs with
  | nil => exact ⟨fun _ _ _ => nofun, fun _ => Nat.zero_le _⟩
  | cons kv kvs ih =>
      obtain ⟨k, v⟩ := kv
      rw [depthMembers, max_le_iff, ih, forall_member_cons]

omit [Runtime F] in
theorem depth_sortKeys (v : Json F) : v.sortKeys.depth ≤ v.depth := by
  induction v using memberInduction with
  | null | bool | int | float | str => exact le_refl _
  | arr xs ih =>
      rw [sortKeys, sortKeysElements_eq]
      refine Nat.succ_le_succ (depthElements_le.mpr fun y hy => ?_)
      obtain ⟨x, hx, rfl⟩ := List.mem_map.mp hy
      exact (ih x hx).trans (depthElements_le.mp (le_refl _) x hx)
  | obj kvs ih =>
      obtain ⟨sorted, hsort, hperm⟩ := sortKeys_obj kvs
      rw [hsort]
      refine Nat.succ_le_succ (depthMembers_le.mpr fun k w hw => ?_)
      obtain ⟨v, hv, rfl⟩ := (mem_sorted hperm).mp hw
      exact (ih k v hv).trans (depthMembers_le.mp (le_refl _) k v hv)

theorem printable_sortKeys {v : Json F} (h : v.Printable) : v.sortKeys.Printable :=
  ⟨digitsFit_sortKeys h.1, (depth_sortKeys v).trans h.2⟩

/-- The text with sorted keys determines the value with sorted keys. -/
theorem sortKeys_eq_of_encode {v w : Json F} (hv : v.DistinctKeys) (hw : w.DistinctKeys)
    (hvp : v.Printable) (hwp : w.Printable) (h : v.sortKeys.encode = w.sortKeys.encode) :
    v.sortKeys = w.sortKeys := by
  have hread := loads_encode_of_distinct (printable_sortKeys hvp) (distinctKeys_sortKeys.mpr hv)
  rw [h, loads_encode_of_distinct (printable_sortKeys hwp) (distinctKeys_sortKeys.mpr hw)] at hread
  exact (Except.ok.inj hread).symm

/-- `==` does not see the order of keys. -/
theorem pyEq_sortKeys {v w : Json F} : pyEq v.sortKeys w = pyEq v w := by
  rw [Bool.eq_iff_iff]
  induction v using memberInduction generalizing w with
  | null | bool | int | float | str => exact Iff.rfl
  | arr xs ih =>
      rw [sortKeys, sortKeysElements_eq, pyEq_arr, pyEq_arr]
      refine exists_congr fun ys => and_congr_right fun _ => ?_
      rw [List.forall₂_map_left_iff, List.forall₂_iff_get, List.forall₂_iff_get]
      exact and_congr_right fun _ => forall_congr' fun i => forall_congr' fun hx =>
        forall_congr' fun _ => ih _ (List.get_mem ..)
  | obj kvs ih =>
      obtain ⟨sorted, hsort, hperm⟩ := sortKeys_obj kvs
      have hlen : sorted.length = kvs.length := by simpa using hperm.length_eq
      rw [hsort, pyEq_obj, pyEq_obj, hlen]
      refine exists_congr fun b => and_congr_right fun _ => and_congr_right fun _ => ?_
      constructor
      · intro h k v hm
        obtain ⟨w, hw, heq⟩ := h k v.sortKeys ((mem_sorted hperm).mpr ⟨v, hm, rfl⟩)
        exact ⟨w, hw, (ih k v hm).mp heq⟩
      · intro h k u hu
        obtain ⟨v, hm, rfl⟩ := (mem_sorted hperm).mp hu
        obtain ⟨w, hw, heq⟩ := h k v hm
        exact ⟨w, hw, (ih k v hm).mpr heq⟩

theorem pyEq_sortKeys_right {v w : Json F} (hw : w.DistinctKeys) :
    pyEq v w.sortKeys = pyEq v w := by
  rw [Bool.eq_iff_iff]
  induction v using memberInduction generalizing w with
  | null | bool | int | float | str => cases w <;> simp [pyEq, sortKeys, eqInt]
  | arr xs ih =>
      rw [pyEq_arr, pyEq_arr]
      cases w with
      | arr ys =>
          rw [sortKeys, sortKeysElements_eq]
          simp only [arr.injEq, exists_eq_left']
          rw [List.forall₂_map_right_iff, List.forall₂_iff_get, List.forall₂_iff_get]
          exact and_congr_right fun _ => forall_congr' fun i => forall_congr' fun _ =>
            forall_congr' fun _ => ih _ (List.get_mem ..)
              (distinctKeys_elements hw _ (List.get_mem ..))
      | null | bool | int | float | str | obj => simp [sortKeys]
  | obj kvs ih =>
      rw [pyEq_obj, pyEq_obj]
      cases w with
      | obj b =>
          obtain ⟨sorted, hsort, hperm⟩ := sortKeys_obj b
          have hlen : sorted.length = b.length := by simpa using hperm.length_eq
          rw [hsort]
          simp only [obj.injEq, exists_eq_left', hlen]
          refine and_congr_right fun _ => forall_congr' fun k => forall_congr' fun v =>
            forall_congr' fun hm => ?_
          rw [lookup_perm (by rw [List.map_map]; exact hw.1) hperm, lookup_map_sortKeys]
          cases hk : lookup k b with
          | none => simp
          | some u =>
              simp only [Option.map_some, Option.some.injEq, exists_eq_left']
              exact ih k v hm (distinctKeys_lookup hw.2 hk)
      | null | bool | int | float | str | arr => simp [sortKeys]

end Printing

end Json

end Py
