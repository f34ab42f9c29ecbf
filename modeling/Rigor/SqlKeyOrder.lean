import Rigor.TestAlignment
import Rigor.UnorderedCompare

/-!
# SQL verdicts and the order of keys

`load_expected_tests` followed by a SQL comparison, for an expectation whose
objects are written in another key order. An expectation without explicit
columns takes them from its first row, so its verdict follows the key order
of that row and the rows after it are read by the keys of the first
(`keyOrder_iff`).
-/

namespace Rigor

open Py

variable {F : Type}

/-- The same value, with the keys of its objects in another order. -/
def Reordered (v v' : Json F) : Prop := v'.sortKeys = v.sortKeys

/-! ## Reordered values -/

theorem Reordered.distinct {v v' : Json F} (h : Reordered v v') (hv : v.DistinctKeys) :
    v'.DistinctKeys :=
  Json.distinctKeys_sortKeys.mp (h ▸ Json.distinctKeys_sortKeys.mpr hv)

theorem forall₂_reordered {xs ys : List (Json F)} :
    List.Forall₂ Reordered xs ys ↔ ys.map Json.sortKeys = xs.map Json.sortKeys := by
  constructor
  · intro h
    induction h with
    | nil => rfl
    | cons hx _ ih => rw [List.map_cons, List.map_cons, hx, ih]
  · intro h
    have hlen : ys.length = xs.length := by simpa using congrArg List.length h
    refine List.forall₂_iff_get.mpr ⟨hlen.symm, fun i hx hy => ?_⟩
    have hi := congrArg (fun l => l[i]?) h
    simpa [Reordered, List.getElem?_eq_getElem, hx, hy] using hi

theorem Reordered.elements {xs : List (Json F)} {v : Json F} (h : Reordered (.arr xs) v) :
    ∃ ys, v = .arr ys ∧ List.Forall₂ Reordered xs ys := by
  obtain ⟨ys, rfl, hys⟩ := Json.sortKeys_eq_arr.mp h
  exact ⟨ys, rfl, forall₂_reordered.mpr hys⟩

theorem Reordered.of_elements {xs ys : List (Json F)} (h : List.Forall₂ Reordered xs ys) :
    Reordered (.arr xs) (.arr ys) :=
  Json.sortKeys_eq_arr.mpr ⟨ys, rfl, forall₂_reordered.mp h⟩

/-- A reordered object: the same keys, with reordered values. -/
theorem Reordered.members {kvs : Dict F} {v : Json F} (hkvs : (Json.obj kvs).DistinctKeys)
    (h : Reordered (.obj kvs) v) :
    ∃ kvs', v = .obj kvs' ∧ (kvs'.map Prod.fst).Perm (kvs.map Prod.fst)
      ∧ ∀ k, Reordered (Json.get k kvs) (Json.get k kvs') := by
  obtain ⟨kvs', rfl, hperm⟩ := Json.sortKeys_eq_obj h
  refine ⟨kvs', rfl, ?_, Json.get_sortKeys hkvs.1 hperm⟩
  have hkeys := hperm.map Prod.fst
  rwa [List.map_map, List.map_map] at hkeys

/-- One member of an object replaced by a reordering of its value. -/
theorem reordered_insert {key : Str} {v v' : Json F} (hv : Reordered v v') {kvs : Dict F}
    (hlookup : Json.lookup key kvs = some v) :
    Reordered (.obj kvs) (.obj (Json.insert key v' kvs)) := by
  have hmap : ∀ {kvs : Dict F}, Json.lookup key kvs = some v →
      Json.sortKeysMembers (Json.insert key v' kvs) = Json.sortKeysMembers kvs := by
    intro kvs hlookup
    induction kvs with
    | nil => cases hlookup
    | cons kv kvs ih =>
        obtain ⟨k, w⟩ := kv
        rw [Json.lookup] at hlookup
        rw [Json.insert]
        split_ifs at hlookup ⊢ with hk
        · cases hlookup
          rw [Json.sortKeysMembers, Json.sortKeysMembers, hv]
        · rw [Json.sortKeysMembers, Json.sortKeysMembers, ih hlookup]
  rw [Reordered, Json.sortKeys, Json.sortKeys, hmap hlookup]

theorem reordered_null {v v' : Json F} (h : Reordered v v') : v = .null ↔ v' = .null := by
  have hnull : ∀ {w : Json F}, w.sortKeys = .null ↔ w = .null := by
    intro w
    cases w <;> simp [Json.sortKeys]
  rw [← hnull, ← h, hnull]

/-! ### Rows -/

/-- A row `_sql_result` reads. -/
def IsRow (v : Json F) : Prop := (∃ row, v = .obj row) ∨ ∃ row, v = .arr row

theorem sqlRow_reordered {row row' : Json F} (hrow : row.DistinctKeys) (h : Reordered row row')
    (columns : List Str) :
    (sqlRow columns row').map Json.sortKeys = (sqlRow columns row).map Json.sortKeys := by
  cases row with
  | obj kvs =>
      obtain ⟨kvs', rfl, -, hget⟩ := h.members hrow
      simp only [sqlRow, Option.map_some, Json.sortKeys, Json.sortKeysElements_eq, List.map_map]
      congr 2
      exact List.map_congr_left fun k _ => hget k
  | arr xs =>
      obtain ⟨ys, rfl, -⟩ := h.elements
      exact congrArg some h
  | null | bool | int | float | str =>
      have hsorted : _ = _ := h
      cases row' <;> simp_all [Json.sortKeys, sqlRow]

theorem mapM_sqlRow_reordered {raw raw' : List (Json F)} (hraw : ∀ r ∈ raw, r.DistinctKeys)
    (h : List.Forall₂ Reordered raw raw') (columns : List Str) :
    (raw'.mapM (sqlRow columns)).map (List.map Json.sortKeys)
      = (raw.mapM (sqlRow columns)).map (List.map Json.sortKeys) := by
  induction h with
  | nil => rfl
  | @cons r r' raw raw' hr _ ih =>
      rw [List.forall_mem_cons] at hraw
      have hhead := sqlRow_reordered hraw.1 hr columns
      have htail := ih hraw.2
      rw [List.mapM_cons, List.mapM_cons]
      cases hr' : sqlRow columns r' <;> cases hr₀ : sqlRow columns r <;>
        rw [hr', hr₀] at hhead <;> simp at hhead ⊢
      cases hm' : raw'.mapM (sqlRow columns) <;> cases hm₀ : raw.mapM (sqlRow columns) <;>
        rw [hm', hm₀] at htail <;> simp at htail ⊢
      exact ⟨hhead, htail⟩

theorem isRow_of_mapM {columns : List Str} : ∀ {raw rows : List (Json F)},
    raw.mapM (sqlRow columns) = some rows → ∀ r ∈ raw, IsRow r
  | [], _, _ => nofun
  | r :: raw, rows, h => by
      simp only [List.mapM_cons, Option.bind_eq_bind, Option.bind_eq_some_iff] at h
      obtain ⟨row, hrow, rest, hrest, -⟩ := h
      refine List.forall_mem_cons.mpr ⟨?_, isRow_of_mapM hrest⟩
      cases r with
      | obj kvs => exact .inl ⟨kvs, rfl⟩
      | arr xs => exact .inr ⟨xs, rfl⟩
      | null | bool | int | float | str => cases hrow

theorem mapM_of_isRow (columns : List Str) : ∀ {raw : List (Json F)},
    (∀ r ∈ raw, IsRow r) → ∃ rows, raw.mapM (sqlRow columns) = some rows
  | [], _ => ⟨[], rfl⟩
  | r :: raw, h => by
      rw [List.forall_mem_cons] at h
      obtain ⟨rest, hrest⟩ := mapM_of_isRow columns h.2
      obtain ⟨row, hrow⟩ : ∃ row, sqlRow columns r = some row := by
        rcases h.1 with ⟨kvs, rfl⟩ | ⟨xs, rfl⟩
        · exact ⟨_, rfl⟩
        · exact ⟨_, rfl⟩
      exact ⟨row :: rest, by rw [List.mapM_cons, hrow, hrest]; rfl⟩

theorem forall₂_isRow {raw raw' : List (Json F)} (hraw : ∀ r ∈ raw, r.DistinctKeys)
    (h : List.Forall₂ Reordered raw raw') (hrow : ∀ r ∈ raw', IsRow r) : ∀ r ∈ raw, IsRow r := by
  obtain ⟨rows', hrows'⟩ := mapM_of_isRow [] hrow
  have hsorted := mapM_sqlRow_reordered hraw h []
  rw [hrows', Option.map_some] at hsorted
  obtain ⟨rows, hrows, -⟩ := Option.map_eq_some_iff.mp hsorted.symm
  exact isRow_of_mapM hrows

section

variable [FloatArith F]

/-- The keys of every expected row are among the columns it is read by, and
the columns do not come from a key order. -/
def KeysListed (expected : Json F) (columns : Option (List Str)) : Prop :=
  match expected, columns with
  | .obj result, _ => ∀ names rows, Json.get "columns" result = .arr names →
      Json.get "rows" result = .arr rows → ∀ names' : List (Json F),
        List.Forall₂ Reordered names names' → names'.map Json.pyStr = names.map Json.pyStr
  | .arr raw, some names => (∀ r ∈ raw, IsRow r) →
      ∀ row, .obj row ∈ raw → ∀ k ∈ row.map Prod.fst, k ∈ names
  | .arr (.obj first :: rest), none => (∀ r ∈ rest, IsRow r) →
      first.length ≤ 1 ∧ ∀ row, .obj row ∈ rest → ∀ k ∈ row.map Prod.fst, k ∈ first.map Prod.fst
  | _, _ => True

/-! ## One expectation -/

/-- What the comparison sees of a table. -/
def SqlTable.sorted (t : SqlTable F) : List Str × List (Json F) :=
  (t.columns, t.rows.map Json.sortKeys)

/-! ### Tables of reordered expectations -/

theorem sqlResult_obj {result : Dict F} {names rows : List (Json F)}
    (hnames : Json.get "columns" result = .arr names) (hrows : Json.get "rows" result = .arr rows)
    (columns : Option (List Str)) :
    sqlResult (.obj result) columns = some ⟨names.map Json.pyStr, rows⟩ := by
  simp only [sqlResult, hnames, hrows]

theorem sqlResult_obj_none {result : Dict F} {columns : Option (List Str)}
    (h : ¬∃ names rows, Json.get "columns" result = .arr names
      ∧ Json.get "rows" result = .arr rows) : sqlResult (.obj result) columns = none := by
  simp only [sqlResult]
  split
  · rename_i hnames hrows
    exact absurd ⟨_, _, hnames, hrows⟩ h
  · rfl

theorem sqlResult_arr_sorted (raw : List (Json F)) (columns : Option (List Str)) :
    (sqlResult (.arr raw) columns).map SqlTable.sorted
      = (rowColumns raw columns).bind fun names =>
        ((raw.mapM (sqlRow names)).map (List.map Json.sortKeys)).map (Prod.mk names) := by
  simp only [sqlResult, Option.bind_eq_bind]
  cases rowColumns raw columns with
  | none => rfl
  | some names =>
      simp only [Option.bind_some]
      cases raw.mapM (sqlRow names) <;> rfl

theorem sqlResult_arr {raw rows : List (Json F)} {columns : Option (List Str)} {names : List Str}
    (hnames : rowColumns raw columns = some names) (hrows : raw.mapM (sqlRow names) = some rows) :
    sqlResult (.arr raw) columns = some ⟨names, rows⟩ := by
  simp only [sqlResult, hnames, hrows, Option.bind_eq_bind, Option.bind_some]

/-- Reordering the rows keeps the columns, or no table is read. -/
theorem columns_reordered {raw raw' : List (Json F)} {columns : Option (List Str)}
    (hraw : ∀ r ∈ raw, r.DistinctKeys) (h : List.Forall₂ Reordered raw raw')
    (hlisted : KeysListed (.arr raw) columns) :
    rowColumns raw' columns = rowColumns raw columns ∨ ∃ r ∈ raw, ¬IsRow r := by
  cases columns with
  | some names => exact .inl rfl
  | none =>
      cases h with
      | nil => exact .inl rfl
      | @cons first first' rest rest' hfirst hrest =>
          cases first with
          | obj kvs =>
              obtain ⟨kvs', rfl, hkeys, -⟩ :=
                hfirst.members (hraw _ (List.mem_cons_self ..))
              by_cases hrows : ∀ r ∈ rest, IsRow r
              · left
                have hlen := (hlisted hrows).1
                refine congrArg some ?_
                match kvs, hlen with
                | [], _ => exact List.perm_nil.mp hkeys
                | [kv], _ => exact List.perm_singleton.mp hkeys
              · right
                obtain ⟨r, hr⟩ := not_forall.mp hrows
                obtain ⟨hmem, hr⟩ := Classical.not_imp.mp hr
                exact ⟨r, List.mem_cons_of_mem _ hmem, hr⟩
          | arr xs =>
              obtain ⟨ys, rfl, -⟩ := hfirst.elements
              exact .inl rfl
          | null | bool | int | float | str =>
              have hsorted : _ = _ := hfirst
              cases first' <;> simp_all [Json.sortKeys, rowColumns]

theorem sorted_reordered {expected expected' : Json F} {columns : Option (List Str)}
    (hexpected : expected.DistinctKeys) (h : Reordered expected expected')
    (hlisted : KeysListed expected columns) :
    (sqlResult expected' columns).map SqlTable.sorted
      = (sqlResult expected columns).map SqlTable.sorted := by
  cases expected with
  | null | bool | int | float | str =>
      have hsorted : _ = _ := h
      cases expected' <;> simp_all [Json.sortKeys, sqlResult]
  | obj result =>
      obtain ⟨result', rfl, -, hget⟩ := h.members hexpected
      by_cases htable : ∃ names rows, Json.get "columns" result = .arr names
          ∧ Json.get "rows" result = .arr rows
      · obtain ⟨names, rows, hnames, hrows⟩ := htable
        have hnames' := hget "columns"
        have hrows' := hget "rows"
        rw [hnames] at hnames'
        rw [hrows] at hrows'
        obtain ⟨names', hnames', hn⟩ := hnames'.elements
        obtain ⟨rows', hrows', hr⟩ := hrows'.elements
        rw [sqlResult_obj hnames hrows, sqlResult_obj hnames' hrows']
        refine congrArg some (Prod.ext ?_ (forall₂_reordered.mp hr))
        exact hlisted names rows hnames hrows names' hn
      · have htable' : ¬∃ names rows, Json.get "columns" result' = .arr names
            ∧ Json.get "rows" result' = .arr rows := by
          rintro ⟨names', rows', hnames', hrows'⟩
          have hnames : Reordered _ _ := (hget "columns").symm
          have hrows : Reordered _ _ := (hget "rows").symm
          rw [hnames'] at hnames
          rw [hrows'] at hrows
          obtain ⟨names, hnames, -⟩ := hnames.elements
          obtain ⟨rows, hrows, -⟩ := hrows.elements
          exact htable ⟨names, rows, hnames, hrows⟩
        rw [sqlResult_obj_none htable, sqlResult_obj_none htable']
  | arr raw =>
      obtain ⟨raw', rfl, hraw'⟩ := h.elements
      have hraw := Json.distinctKeys_elements hexpected
      rw [sqlResult_arr_sorted, sqlResult_arr_sorted]
      rcases columns_reordered hraw hraw' hlisted with hcolumns | ⟨r, hr, hrow⟩
      · rw [hcolumns]
        refine congrArg _ (funext fun names => ?_)
        rw [mapM_sqlRow_reordered hraw hraw']
      · have hnone : ∀ names, raw.mapM (sqlRow names) = none := by
          intro names
          cases hrows : raw.mapM (sqlRow names) with
          | none => rfl
          | some rows => exact absurd (isRow_of_mapM hrows r hr) hrow
        have hnone' : ∀ names, raw'.mapM (sqlRow names) = none := by
          intro names
          cases hrows : raw'.mapM (sqlRow names) with
          | none => rfl
          | some rows => exact absurd (forall₂_isRow hraw hraw' (isRow_of_mapM hrows) r hr) hrow
        simp only [hnone, hnone', Option.map_none, Option.bind_fun_none]

/-! ### Verdicts -/

theorem distinct_rows {expected : Json F} (h : expected.DistinctKeys)
    {columns : Option (List Str)} {t : SqlTable F} (ht : sqlResult expected columns = some t) :
    ∀ row ∈ t.rows, row.DistinctKeys :=
  rows_of_expectation (P := Json.DistinctKeys) Json.distinctKeys_elements
    (fun h _ => Json.distinctKeys_get h.2)
    (fun h _ => Json.distinctKeysElements_of_forall fun x hx => by
      obtain ⟨k, -, rfl⟩ := List.mem_map.mp hx
      exact Json.distinctKeys_get h.2) h ht

theorem sameTexts_sorted {a rows rows' : List (Json F)}
    (h : rows'.map Json.sortKeys = rows.map Json.sortKeys) :
    sameTexts a rows' = sameTexts a rows := by
  have hmap : ∀ xs : List (Json F), xs.map canonicalJson = (xs.map Json.sortKeys).map Json.encode :=
    fun xs => by rw [List.map_map]; rfl
  rw [sameTexts, sameTexts, hmap rows', h, ← hmap rows]

theorem pyEqElements_sorted : ∀ {a rows : List (Json F)}, (∀ row ∈ rows, row.DistinctKeys) →
    Json.pyEqElements a (rows.map Json.sortKeys) = Json.pyEqElements a rows
  | [], [], _ | [], _ :: _, _ | _ :: _, [], _ => rfl
  | x :: a, row :: rows, h => by
      rw [List.forall_mem_cons] at h
      rw [List.map_cons, Json.pyEqElements, Json.pyEqElements, Json.pyEq_sortKeys_right h.1,
        pyEqElements_sorted h.2]

/-- The verdict is on the columns and on the rows with sorted keys. -/
theorem compareSqlResult_sorted {actual expected expected' : Json F} {columns : Option (List Str)}
    {unordered : Bool} (hexpected : expected.DistinctKeys) (hexpected' : expected'.DistinctKeys)
    (h : (sqlResult expected' columns).map SqlTable.sorted
      = (sqlResult expected columns).map SqlTable.sorted) :
    compareSqlResult actual expected' columns unordered
      = compareSqlResult actual expected columns unordered := by
  rw [compareSqlResult, compareSqlResult]
  cases ht : sqlResult expected columns with
  | none =>
      rw [ht, Option.map_none, Option.map_eq_none_iff] at h
      rw [h]
  | some t =>
      rw [ht, Option.map_some, Option.map_eq_some_iff] at h
      obtain ⟨t', ht', hsorted⟩ := h
      rw [ht']
      cases sqlResult actual none with
      | none => rfl
      | some a =>
          obtain ⟨hcolumns, hrows⟩ := Prod.ext_iff.mp hsorted
          dsimp only [SqlTable.sorted] at hcolumns hrows ⊢
          rw [hcolumns, sameTexts_sorted hrows, ← pyEqElements_sorted (distinct_rows hexpected' ht'),
            hrows, pyEqElements_sorted (distinct_rows hexpected ht)]

/-- A table as the result of a candidate. -/
def SqlTable.toJson (t : SqlTable F) : Json F :=
  .obj [("columns", .arr (t.columns.map .str)), ("rows", .arr t.rows)]

theorem SqlTable.sqlResult_toJson (t : SqlTable F) : sqlResult t.toJson none = some t := by
  have h : sqlResult t.toJson none = some ⟨(t.columns.map Json.str).map Json.pyStr, t.rows⟩ := rfl
  rw [h, List.map_map]
  have hid : (Json.pyStr (F := F)) ∘ Json.str = id := rfl
  rw [hid, List.map_id]

/-- A stored expectation accepts its own table. -/
theorem compareSqlResult_own {expected : Json F} (hexpected : Stored expected)
    {columns : Option (List Str)} {t : SqlTable F} (ht : sqlResult expected columns = some t)
    (unordered : Bool) : compareSqlResult t.toJson expected columns unordered = true := by
  have hrows : Json.pyEqElements t.rows t.rows = true :=
    Json.pyEqElements_iff.mpr
      (List.forall₂_same.mpr fun row hrow => (stored_rows hexpected ht row hrow).self)
  rw [compareSqlResult, t.sqlResult_toJson, ht]
  dsimp only
  rw [if_neg (not_not.mpr rfl), hrows, sameTexts, decide_eq_true rfl, ite_self]

theorem columns_of_accepts {expected : Json F} {columns : Option (List Str)} {t a : SqlTable F}
    (ht : sqlResult expected columns = some t) (unordered : Bool)
    (h : compareSqlResult a.toJson expected columns unordered = true) : a.columns = t.columns := by
  rw [compareSqlResult, a.sqlResult_toJson, ht] at h
  dsimp only at h
  by_contra hne
  rw [if_pos hne] at h
  cases h

/-! ### What the columns must list -/

/-- Where reordering changes no verdict, the columns stay. -/
theorem columns_fixed {expected expected' : Json F} {columns : Option (List Str)}
    (hexpected : Stored expected) (unordered : Bool)
    (hsame : ∀ actual, compareSqlResult actual expected' columns unordered
      = compareSqlResult actual expected columns unordered)
    {t t' : SqlTable F} (ht : sqlResult expected columns = some t)
    (ht' : sqlResult expected' columns = some t') : t'.columns = t.columns := by
  refine (columns_of_accepts (a := t) ht' unordered ?_).symm
  rw [hsame]
  exact compareSqlResult_own hexpected ht unordered

/-- Two keys of the first row can change places, and with them the columns. -/
theorem length_of_same {first : Dict F} {rest rows : List (Json F)}
    (hexpected : Stored (.arr (.obj first :: rest))) (unordered : Bool)
    (hsame : ∀ expected', Reordered (.arr (.obj first :: rest)) expected' → ∀ actual,
      compareSqlResult actual expected' none unordered
        = compareSqlResult actual (.arr (.obj first :: rest)) none unordered)
    (hrest : ∀ r ∈ rest, IsRow r)
    (ht : sqlResult (.arr (.obj first :: rest)) none = some ⟨first.map Prod.fst, rows⟩) :
    first.length ≤ 1 := by
  by_contra hlength
  obtain ⟨a, b, more, rfl⟩ : ∃ a b more, first = a :: b :: more := by
    rcases first with - | ⟨a, - | ⟨b, more⟩⟩
    · exact absurd (Nat.zero_le 1) hlength
    · exact absurd (Nat.le_refl 1) hlength
    · exact ⟨a, b, more, rfl⟩
  have hfirst := Json.distinctKeys_elements hexpected.distinct _ (List.mem_cons_self ..)
  have hperm : (b :: a :: more).Perm (a :: b :: more) := List.Perm.swap ..
  have hswap : Reordered (.obj (a :: b :: more)) (.obj (b :: a :: more)) :=
    (Json.sortKeys_obj_perm hfirst.1 hperm.symm).symm
  have hre : Reordered (.arr (.obj (a :: b :: more) :: rest))
      (.arr (.obj (b :: a :: more) :: rest)) :=
    .of_elements (.cons hswap (List.forall₂_same.mpr fun _ _ => rfl))
  obtain ⟨rows', hrows'⟩ := mapM_of_isRow ((b :: a :: more).map Prod.fst)
    (List.forall_mem_cons.mpr ⟨.inl ⟨b :: a :: more, rfl⟩, hrest⟩)
  have hcolumns := columns_fixed hexpected unordered (hsame _ hre) ht (sqlResult_arr rfl hrows')
  have hab : b.1 = a.1 := (List.cons.inj hcolumns).1
  exact absurd (hab ▸ List.mem_cons_self ..) (List.nodup_cons.mp hfirst.1).1

theorem keysListed_of_same {expected : Json F} {columns : Option (List Str)}
    (hexpected : Stored expected) (unordered : Bool)
    (hsame : ∀ expected', Reordered expected expected' → ∀ actual,
      compareSqlResult actual expected' columns unordered
        = compareSqlResult actual expected columns unordered)
    (hkeys : ∀ raw t, expected = .arr raw → sqlResult expected columns = some t →
      ∀ row, .obj row ∈ raw → ∀ k ∈ row.map Prod.fst, k ∈ t.columns) :
    KeysListed expected columns := by
  cases expected with
  | null | bool | int | float | str => trivial
  | obj result =>
      intro names rows hnames hrows names' hnames'
      have hre := reordered_insert (Reordered.of_elements hnames')
        (Json.lookup_of_get hnames fun h => by cases h)
      have hnew : Json.get "columns" (Json.insert "columns" (.arr names') result) = .arr names' := by
        rw [Json.get, Json.lookup_insert_self]
        rfl
      have hrows' : Json.get "rows" (Json.insert "columns" (.arr names') result) = .arr rows := by
        rw [← hrows, Json.get, Json.get, Json.lookup_insert_of_ne (by decide)]
      exact columns_fixed hexpected unordered (hsame _ hre) (sqlResult_obj hnames hrows columns)
        (sqlResult_obj hnew hrows' columns)
  | arr raw =>
      cases columns with
      | some names =>
          intro hrow
          obtain ⟨rows, hrows⟩ := mapM_of_isRow names hrow
          exact hkeys raw ⟨names, rows⟩ rfl (sqlResult_arr rfl hrows)
      | none =>
          cases raw with
          | nil => trivial
          | cons row rest =>
              cases row with
              | obj first =>
                  intro hrest
                  have hrow : ∀ r ∈ Json.obj first :: rest, IsRow r :=
                    List.forall_mem_cons.mpr ⟨.inl ⟨first, rfl⟩, hrest⟩
                  obtain ⟨rows, hrows⟩ := mapM_of_isRow (first.map Prod.fst) hrow
                  have ht : sqlResult (.arr (.obj first :: rest)) none
                      = some ⟨first.map Prod.fst, rows⟩ := sqlResult_arr rfl hrows
                  refine ⟨?_, fun row hm => hkeys _ _ rfl ht row (List.mem_cons_of_mem _ hm)⟩
                  exact length_of_same hexpected unordered hsame hrest ht
              | _ => trivial

end

/-! ## Question contents -/

section Contents

/-- The same keys, with related values. -/
def MembersBy (R : Str → Json F → Json F → Prop) (kvs kvs' : Dict F) : Prop :=
  List.Forall₂ (fun kv kv' => kv'.1 = kv.1 ∧ R kv.1 kv.2 kv'.2) kvs kvs'

/-- An object with related members; any other value as it is. -/
def ObjectBy (R : Str → Json F → Json F → Prop) : Json F → Json F → Prop
  | .obj kvs, v' => ∃ kvs', v' = .obj kvs' ∧ MembersBy R kvs kvs'
  | v, v' => v' = v

/-- A test whose expected output is replaced by a related one. -/
def ItemBy (R : Json F → Json F → Prop) : Json F → Json F → Prop :=
  ObjectBy fun k v v' => if k = "expected_output" then R v v' else v' = v

def TestsBy (R : Json F → Json F → Prop) : Json F → Json F → Prop
  | .arr tests, v' => ∃ tests', v' = .arr tests' ∧ List.Forall₂ (ItemBy R) tests tests'
  | v, v' => v' = v

def ModeBy (R : Json F → Json F → Prop) : Json F → Json F → Prop :=
  ObjectBy fun k v v' =>
    if k = "expected_result" then R v v' else if k = "tests" then TestsBy R v v' else v' = v

/-- A structured content whose expected outputs and expected results are
replaced by related ones. -/
def ContentBy (R : Json F → Json F → Prop) : Json F → Json F → Prop :=
  ObjectBy fun k v v' =>
    if k = "mode_specification" ∨ k = "type_specification" then ModeBy R v v' else v' = v

variable {R : Json F → Json F → Prop}

theorem get_membersBy {S : Str → Json F → Json F → Prop} {kvs kvs' : Dict F}
    (h : MembersBy S kvs kvs') {k : Str} (hnull : S k .null .null) :
    S k (Json.get k kvs) (Json.get k kvs') := by
  induction h with
  | nil => exact hnull
  | @cons kv kv' kvs kvs' hkv _ ih =>
      obtain ⟨k₀, v⟩ := kv
      obtain ⟨k', v'⟩ := kv'
      obtain ⟨rfl, hv⟩ := hkv
      simp only [Json.get, Json.lookup] at ih ⊢
      split_ifs with hk
      · subst hk
        exact hv
      · exact ih

theorem objectBy_total {S : Str → Json F → Json F → Prop} (hS : ∀ k v, ∃ v', S k v v')
    (v : Json F) : ∃ v', ObjectBy S v v' := by
  cases v with
  | obj kvs =>
      suffices h : ∃ kvs', MembersBy S kvs kvs' by
        obtain ⟨kvs', h⟩ := h
        exact ⟨.obj kvs', kvs', rfl, h⟩
      induction kvs with
      | nil => exact ⟨[], .nil⟩
      | cons kv kvs ih =>
          obtain ⟨kvs', hkvs⟩ := ih
          obtain ⟨v', hv⟩ := hS kv.1 kv.2
          exact ⟨(kv.1, v') :: kvs', .cons ⟨rfl, hv⟩ hkvs⟩
  | null | bool | int | float | str | arr => exact ⟨_, rfl⟩

theorem itemBy_total (hR : ∀ v, ∃ v', R v v') (v : Json F) : ∃ v', ItemBy R v v' :=
  objectBy_total (fun k v => by
    split_ifs
    · exact hR v
    · exact ⟨v, rfl⟩) v

theorem testsBy_total (hR : ∀ v, ∃ v', R v v') (v : Json F) : ∃ v', TestsBy R v v' := by
  cases v with
  | arr tests =>
      suffices h : ∃ tests', List.Forall₂ (ItemBy R) tests tests' by
        obtain ⟨tests', h⟩ := h
        exact ⟨.arr tests', tests', rfl, h⟩
      induction tests with
      | nil => exact ⟨[], .nil⟩
      | cons item tests ih =>
          obtain ⟨tests', htests⟩ := ih
          obtain ⟨item', hitem⟩ := itemBy_total hR item
          exact ⟨item' :: tests', .cons hitem htests⟩
  | null | bool | int | float | str | obj => exact ⟨_, rfl⟩

theorem contentBy_total (hR : ∀ v, ∃ v', R v v') (v : Json F) : ∃ v', ContentBy R v v' := by
  refine objectBy_total (fun k v => ?_) v
  split_ifs
  · refine objectBy_total (fun k v => ?_) v
    split_ifs
    · exact hR v
    · exact testsBy_total hR v
    · exact ⟨v, rfl⟩
  · exact ⟨v, rfl⟩

theorem objectBy_mono {S T : Str → Json F → Json F → Prop} (h : ∀ k v v', S k v v' → T k v v')
    {v v' : Json F} (hv : ObjectBy S v v') : ObjectBy T v v' := by
  cases v with
  | obj kvs =>
      obtain ⟨kvs', rfl, hkvs⟩ := hv
      exact ⟨kvs', rfl, hkvs.imp fun _ _ hkv => ⟨hkv.1, h _ _ _ hkv.2⟩⟩
  | null | bool | int | float | str | arr => exact hv

theorem contentBy_mono {T : Json F → Json F → Prop} (h : ∀ v v', R v v' → T v v')
    {v v' : Json F} (hv : ContentBy R v v') : ContentBy T v v' := by
  refine objectBy_mono (fun k v v' hmember => ?_) hv
  split_ifs at hmember ⊢
  · refine objectBy_mono (fun k v v' hfield => ?_) hmember
    split_ifs at hfield ⊢
    · exact h v v' hfield
    · cases v with
      | arr tests =>
          obtain ⟨tests', rfl, htests⟩ := hfield
          refine ⟨tests', rfl, htests.imp fun item item' hitem => ?_⟩
          refine objectBy_mono (fun k v v' hvalue => ?_) hitem
          split_ifs at hvalue ⊢
          · exact h v v' hvalue
          · exact hvalue
      | null | bool | int | float | str | obj => exact hfield
    · exact hfield
  · exact hmember

/-! ### Loading related contents -/

/-- `R` relates `null` to `null` alone. -/
structure KeepsNull (R : Json F → Json F → Prop) : Prop where
  null : R .null .null
  iff : ∀ v v', R v v' → (v = .null ↔ v' = .null)

/-- A test with a related expected output. -/
def TestBy (R : Json F → Json F → Prop) (t t' : ExpectedTest F) : Prop :=
  ∃ v', R t.expectedOutput v' ∧ t' = { t with expectedOutput := v' }

theorem itemBy_members {item : Dict F} {v' : Json F} (hR : KeepsNull R)
    (h : ItemBy R (.obj item) v') :
    ∃ item', v' = .obj item' ∧ R (Json.get "expected_output" item) (Json.get "expected_output" item')
      ∧ ∀ k : Str, k ≠ "expected_output" → Json.get k item' = Json.get k item := by
  obtain ⟨item', rfl, hitem⟩ := h
  refine ⟨item', rfl, ?_, fun k hk => ?_⟩
  · have hget := get_membersBy hitem (k := "expected_output") (by rw [if_pos rfl]; exact hR.null)
    rwa [if_pos rfl] at hget
  · have hget := get_membersBy hitem (k := k) (by rw [if_neg hk])
    rwa [if_neg hk] at hget

theorem expectedOutput_by (hR : KeepsNull R) {defaults : TestDefaults F} {top' : Json F}
    (htop : R defaults.topLevelExpected top') {item item' : Dict F}
    (hitem : R (Json.get "expected_output" item) (Json.get "expected_output" item')) :
    R (expectedOutput defaults item)
      (expectedOutput { defaults with topLevelExpected := top' } item') := by
  by_cases hnull : Json.get "expected_output" item = .null
  · have hnull' := (hR.iff _ _ hitem).mp hnull
    rw [expectedOutput, expectedOutput, hnull, hnull']
    dsimp only
    split_ifs
    · exact htop
    · exact hR.null
  · have hnull' := fun h => hnull ((hR.iff _ _ hitem).mpr h)
    have hown : ∀ {d : TestDefaults F} {i : Dict F}, Json.get "expected_output" i ≠ .null →
        expectedOutput d i = Json.get "expected_output" i := by
      intro d i hi
      rw [expectedOutput]
      split
      · contradiction
      · rfl
    rwa [hown hnull, hown hnull']

theorem modeSpecification_by {content : Dict F} {v' : Json F} (h : ContentBy R (.obj content) v')
    {mode : Dict F} (hmode : modeSpecification content = some mode) :
    ∃ content' mode', v' = .obj content' ∧ modeSpecification content' = some mode'
      ∧ ModeBy R (.obj mode) (.obj mode')
      ∧ Json.get "question_type" content' = Json.get "question_type" content := by
  obtain ⟨content', rfl, hcontent⟩ := h
  have hasDict : ∀ {v v' : Json F}, ModeBy R v v' →
      (asDict v = none → asDict v' = none)
        ∧ ∀ m, asDict v = some m → ∃ m', asDict v' = some m' ∧ ModeBy R (.obj m) (.obj m') := by
    intro v v' hv
    cases v with
    | obj m =>
        obtain ⟨m', rfl, hm⟩ := hv
        exact ⟨nofun, fun n hn => by cases hn; exact ⟨m', rfl, m', rfl, hm⟩⟩
    | null | bool | int | float | str | arr => cases hv; exact ⟨fun _ => rfl, nofun⟩
  have hfirst := get_membersBy hcontent (k := "mode_specification")
    (by rw [if_pos (.inl rfl)]; exact rfl)
  have hsecond := get_membersBy hcontent (k := "type_specification")
    (by rw [if_pos (.inr rfl)]; exact rfl)
  have htype := get_membersBy hcontent (k := "question_type") (by rw [if_neg (by decide)])
  rw [if_pos (.inl rfl)] at hfirst
  rw [if_pos (.inr rfl)] at hsecond
  rw [if_neg (by decide)] at htype
  rw [modeSpecification] at hmode
  cases hdict : asDict (Json.get "mode_specification" content) with
  | some m =>
      obtain ⟨m', hm', hby⟩ := (hasDict hfirst).2 m hdict
      rw [hdict] at hmode
      cases hmode
      exact ⟨content', m', rfl, by rw [modeSpecification, hm']; rfl, hby, htype⟩
  | none =>
      rw [hdict] at hmode
      obtain ⟨m', hm', hby⟩ := (hasDict hsecond).2 mode hmode
      exact ⟨content', m', rfl, by rw [modeSpecification, (hasDict hfirst).1 hdict, hm']; rfl,
        hby, htype⟩

theorem reordered_keepsNull : KeepsNull (Reordered (F := F)) :=
  ⟨rfl, fun _ _ => reordered_null⟩

end Contents

section

variable [FloatArith F] {R : Json F → Json F → Prop}

theorem loads_by (hR : KeepsNull R) {defaults : TestDefaults F} {top' : Json F}
    (htop : R defaults.topLevelExpected top') {items : List (Dict F)} {values' : List (Json F)}
    (hitems : List.Forall₂ (ItemBy R) (items.map Json.obj) values') {index : Nat}
    {tests : List (ExpectedTest F)}
    (h : List.Forall₂ (Loads defaults) (items.zipIdx index) tests) :
    ∃ (items' : List (Dict F)) (tests' : List (ExpectedTest F)), values' = items'.map Json.obj
      ∧ List.Forall₂ (Loads { defaults with topLevelExpected := top' }) (items'.zipIdx index) tests'
      ∧ List.Forall₂ (TestBy R) tests tests' := by
  induction items generalizing values' index tests with
  | nil =>
      cases hitems
      cases h
      exact ⟨[], [], rfl, .nil, .nil⟩
  | cons item items ih =>
      rw [List.map_cons] at hitems
      rw [List.zipIdx_cons] at h
      cases hitems with
      | cons hitem hrest =>
          cases h with
          | cons hload hloads =>
              obtain ⟨item', rfl, houtput, hget⟩ := itemBy_members hR hitem
              obtain ⟨policy, hpolicy, rfl⟩ := hload
              obtain ⟨items', tests', rfl, hloads', htests⟩ := ih hrest hloads
              have hid : expectedId index item' = expectedId index item := by
                rw [expectedId, expectedId, hget "id" (by decide)]
              have hname : expectedName index item' = expectedName index item := by
                rw [expectedName, expectedName, hget "name" (by decide), hid]
              refine ⟨item' :: items', _ :: tests', rfl, .cons ⟨policy, ?_, rfl⟩ hloads',
                .cons ⟨_, expectedOutput_by hR htop houtput, ?_⟩ htests⟩
              · rw [← hpolicy, comparisonPolicy, comparisonPolicy, hget "comparison" (by decide)]
              · simp only [expectedTest, hid, hname, isPublic, hget "visibility" (by decide)]

/-- The numbered items that load, and the tests they load as. -/
theorem loadExpectedTests_items {structured : Json F} {tests : List (ExpectedTest F)}
    (h : loadExpectedTests structured = .ok tests) :
    ∃ (content mode : Dict F) (items : List (Dict F)), structured = .obj content
      ∧ modeSpecification content = some mode ∧ Json.get "tests" mode = .arr (items.map Json.obj)
      ∧ items ≠ [] ∧ items.length ≤ maxResultTests ∧ DialectOk content mode
      ∧ List.Forall₂ (Loads (.ofMode (sqlModeOf content mode) mode)) items.zipIdx tests
      ∧ (tests.map ExpectedTest.id).Nodup := by
  have hload := h
  unfold loadExpectedTests at hload
  obtain ⟨content, hcontent, hmoded⟩ := bind_eq_ok hload
  cases objectDict_eq_ok.mp (checked_eq_ok.mp hcontent)
  cases hmode : modeSpecification content with
  | none => simp only [hmode] at hmoded; cases hmoded
  | some mode =>
      simp only [hmode] at hmoded
      obtain ⟨raws, hchecked, hsized⟩ := bind_eq_ok hmoded
      have hraws := objectList_eq_ok.mp (checked_eq_ok.mp hchecked)
      split_ifs at hsized with hsize
      rw [not_or] at hsize
      obtain ⟨hlen, hdialect, hloaded⟩ :=
        (loadExpectedTests_eq_ok hmode hraws hsize.1).mp h
      obtain ⟨items, rfl, hloads, hnodup, -⟩ := expectedTests_eq_ok.mp hloaded
      exact ⟨content, mode, items, rfl, hmode, hraws, fun hnil => hsize.1 (by rw [hnil]; rfl),
        by simpa using hlen, hdialect, hloads, hnodup⟩

/-- Related contents load the same tests, with related expected outputs. -/
theorem loadExpectedTests_by (hR : KeepsNull R) {structured structured' : Json F}
    {tests : List (ExpectedTest F)} (h : loadExpectedTests structured = .ok tests)
    (hby : ContentBy R structured structured') :
    ∃ tests', loadExpectedTests structured' = .ok tests' ∧ List.Forall₂ (TestBy R) tests tests' := by
  obtain ⟨content, mode, items, rfl, hmode, htests, hne, hlen, hdialect, hloads, hnodup⟩ :=
    loadExpectedTests_items h
  obtain ⟨content', mode', rfl, hmode', ⟨_, hobj, hmembers⟩, htype⟩ :=
    modeSpecification_by hby hmode
  cases hobj
  have hother : ∀ k : Str, k ≠ "expected_result" → k ≠ "tests" →
      Json.get k mode' = Json.get k mode := by
    intro k hresult hk
    have hget := get_membersBy hmembers (k := k) (by rw [if_neg hresult, if_neg hk])
    rwa [if_neg hresult, if_neg hk] at hget
  have htop : R (Json.get "expected_result" mode) (Json.get "expected_result" mode') := by
    have hget := get_membersBy hmembers (k := "expected_result")
      (by rw [if_pos rfl]; exact hR.null)
    rwa [if_pos rfl] at hget
  have htests' : TestsBy R (Json.get "tests" mode) (Json.get "tests" mode') := by
    have hget := get_membersBy hmembers (k := "tests")
      (by rw [if_neg (by decide), if_pos rfl]; exact rfl)
    rwa [if_neg (by decide), if_pos rfl] at hget
  rw [htests] at htests'
  obtain ⟨values', hvalues', hitems⟩ := htests'
  have hdefaults : TestDefaults.ofMode (sqlModeOf content' mode') mode'
      = { TestDefaults.ofMode (sqlModeOf content mode) mode with
        topLevelExpected := Json.get "expected_result" mode' } := by
    simp only [TestDefaults.ofMode, sqlModeOf, htype, hother "dialect" (by decide) (by decide),
      hother "expected_output_columns" (by decide) (by decide)]
  obtain ⟨items', tests', rfl, hloads', hrel⟩ := loads_by hR htop hitems hloads
  have hids : tests'.map ExpectedTest.id = tests.map ExpectedTest.id := by
    clear hloads' hloads hnodup h
    induction hrel with
    | nil => rfl
    | cons ht _ ih =>
        obtain ⟨v', -, rfl⟩ := ht
        rw [List.map_cons, List.map_cons, ih]
  have hitemsLen : items'.length = items.length := by simpa using hitems.length_eq.symm
  refine ⟨tests', ?_, hrel⟩
  refine (loadExpectedTests_eq_ok hmode' hvalues' ?_).mpr ⟨?_, ?_, ?_⟩
  · intro hnil
    rw [List.map_eq_nil_iff] at hnil
    rw [hnil] at hitemsLen
    exact hne (List.length_eq_zero_iff.mp hitemsLen.symm)
  · rw [List.length_map, hitemsLen]
    exact hlen
  · rw [DialectOk, htype, hother "dialect" (by decide) (by decide)]
    exact hdialect
  · rw [hdefaults]
    exact expectedTests_eq_ok.mpr ⟨items', rfl, hloads', hids ▸ hnodup, fun _ _ => List.not_mem_nil⟩

/-! ### Verdicts of a content -/

/-- A test one of the SQL strategies compares. -/
def SqlTest (t : ExpectedTest F) : Prop :=
  Json.get "strategy" t.comparison = .str "sql_ordered"
    ∨ Json.get "strategy" t.comparison = .str "sql_unordered"

/-- The comparison of a test. -/
def ExpectedTest.verdict (t : ExpectedTest F) (actual : Json F) : Except GradingFailure Bool :=
  compareValue actual t.expectedOutput t.comparison t.expectedColumns

/-- Every reordering of the expected outputs loads the same tests, whose SQL
comparisons have the same verdicts. -/
def VerdictsKept (structured : Json F) (tests : List (ExpectedTest F)) : Prop :=
  ∀ structured', ContentBy Reordered structured structured' →
    ∃ tests', loadExpectedTests structured' = .ok tests'
      ∧ List.Forall₂ (fun t t' => t'.id = t.id ∧ (SqlTest t → ∀ actual,
        t'.verdict actual = t.verdict actual)) tests tests'

/-- Every key of an expected row is a column the row is read by. -/
def KeysRead (tests : List (ExpectedTest F)) : Prop :=
  ∀ t ∈ tests, SqlTest t → ∀ raw table, t.expectedOutput = .arr raw →
    sqlResult t.expectedOutput t.expectedColumns = some table →
      ∀ row, .obj row ∈ raw → ∀ k ∈ row.map Prod.fst, k ∈ table.columns

/-- The item names a SQL strategy. -/
def SqlItem (content mode item : Dict F) : Prop :=
  namedStrategy (defaultStrategy (sqlModeOf content mode)) item
      = some (Str.ofString "sql_ordered")
    ∨ namedStrategy (defaultStrategy (sqlModeOf content mode)) item
      = some (Str.ofString "sql_unordered")

/-- The SQL expectations of a content list the keys of their rows. -/
def ContentListed (structured : Json F) : Prop :=
  ∀ (content mode : Dict F) (items : List (Json F)) (item : Dict F),
    structured = .obj content → modeSpecification content = some mode →
      Json.get "tests" mode = .arr items → .obj item ∈ items → SqlItem content mode item →
        KeysListed
          (expectedOutput (.ofMode (sqlModeOf content mode) mode : TestDefaults F) item)
          (TestDefaults.ofMode (sqlModeOf content mode) mode).expectedColumns

/-- The verdict of a SQL test, with any expected output. -/
theorem verdict_sql {t : ExpectedTest F} (h : SqlTest t) :
    ∃ unordered, ∀ expected actual : Json F,
      ExpectedTest.verdict { t with expectedOutput := expected } actual
        = .ok (compareSqlResult actual expected t.expectedColumns unordered) := by
  rcases h with h | h
  · refine ⟨false, fun expected actual => ?_⟩
    unfold ExpectedTest.verdict compareValue
    rw [h]
    rfl
  · refine ⟨true, fun expected actual => ?_⟩
    unfold ExpectedTest.verdict compareValue
    rw [h]
    rfl

/-- What is listed of the items is listed of the tests they load as. -/
theorem contentListed_iff {structured : Json F} {tests : List (ExpectedTest F)}
    (h : loadExpectedTests structured = .ok tests) :
    ContentListed structured
      ↔ ∀ t ∈ tests, SqlTest t → KeysListed t.expectedOutput t.expectedColumns := by
  obtain ⟨content, mode, items, rfl, hmode, htests, -, -, -, hloads, -⟩ :=
    loadExpectedTests_items h
  have hsql : ∀ {item policy : Dict F},
      comparisonPolicy item (defaultStrategy (sqlModeOf content mode)) = .ok policy →
        (SqlItem content mode item ↔ Json.get "strategy" policy = .str "sql_ordered"
          ∨ Json.get "strategy" policy = .str "sql_unordered") := by
    intro item policy hpolicy
    obtain ⟨strategy, -, hnamed, hget, -⟩ := comparisonPolicy_eq_ok hpolicy
    rw [SqlItem, hnamed, hget, Option.some.injEq, Option.some.injEq, Json.str.injEq,
      Json.str.injEq]
  constructor
  · intro hlisted t ht
    obtain ⟨i, hi, rfl⟩ := List.getElem_of_mem ht
    have hload := hloads.get (hloads.length_eq ▸ hi) hi
    obtain ⟨policy, hpolicy, ht⟩ := hload
    rw [List.get_eq_getElem] at ht
    rw [ht]
    intro hstrategy
    refine hlisted content mode _ _ rfl hmode htests (List.mem_map_of_mem ?_)
      ((hsql hpolicy).mpr hstrategy)
    rw [List.get_eq_getElem, List.getElem_zipIdx]
    exact List.getElem_mem _
  · intro hlisted content' mode' items' item hobj hmode' htests' hitem hstrategy
    cases hobj
    rw [hmode] at hmode'
    cases hmode'
    rw [htests] at htests'
    cases htests'
    obtain ⟨item', hmem, hobj⟩ := List.mem_map.mp hitem
    cases hobj
    obtain ⟨i, hi, rfl⟩ := List.getElem_of_mem hmem
    have hzip : i < items.zipIdx.length := by simpa using hi
    have hload := hloads.get hzip (hloads.length_eq ▸ hzip)
    obtain ⟨policy, hpolicy, ht⟩ := hload
    rw [List.get_eq_getElem, List.get_eq_getElem, List.getElem_zipIdx] at ht
    rw [List.get_eq_getElem, List.getElem_zipIdx] at hpolicy
    have hlist := hlisted _ (List.getElem_mem (hloads.length_eq ▸ hzip))
    rw [ht] at hlist
    exact hlist ((hsql hpolicy).mp hstrategy)

/-- The expected outputs of stored contents are stored values. -/
theorem stored_expectedOutput {structured : Json F} (hstored : Stored structured)
    {tests : List (ExpectedTest F)} (h : loadExpectedTests structured = .ok tests) :
    ∀ t ∈ tests, Stored t.expectedOutput := by
  obtain ⟨content, mode, items, rfl, hmode, htests, -, -, -, hloads, -⟩ :=
    loadExpectedTests_items h
  have hdict : ∀ {v : Json F} {m : Dict F}, asDict v = some m → v = .obj m := by
    intro v m hm
    cases v with
    | obj kvs => cases hm; rfl
    | null | bool | int | float | str | arr => cases hm
  have hmodeStored : Stored (.obj mode) := by
    rw [modeSpecification, Option.orElse_eq_some] at hmode
    rcases hmode with hmode | ⟨-, hmode⟩
    · exact hdict hmode ▸ hstored.get _
    · exact hdict hmode ▸ hstored.get _
  intro t ht
  obtain ⟨i, hi, rfl⟩ := List.getElem_of_mem ht
  obtain ⟨policy, -, ht⟩ := hloads.get (hloads.length_eq ▸ hi) hi
  rw [List.get_eq_getElem] at ht
  rw [ht]
  have hitem : Stored (.obj (items.zipIdx.get ⟨i, hloads.length_eq ▸ hi⟩).1) := by
    have harr := hmodeStored.get "tests"
    rw [htests] at harr
    refine harr.element (List.mem_map_of_mem ?_)
    rw [List.get_eq_getElem, List.getElem_zipIdx]
    exact List.getElem_mem _
  change Stored (expectedOutput _ _)
  rw [expectedOutput]
  split
  · split_ifs
    · exact hmodeStored.get _
    · exact { toReadable := Readable.null, self := rfl }
  · exact hitem.get _

theorem keysListed_read {raw : List (Json F)} {columns : Option (List Str)} {table : SqlTable F}
    (hlisted : KeysListed (.arr raw) columns) (ht : sqlResult (.arr raw) columns = some table) :
    ∀ row, .obj row ∈ raw → ∀ k ∈ row.map Prod.fst, k ∈ table.columns := by
  simp only [sqlResult, Option.bind_eq_bind, Option.bind_eq_some_iff] at ht
  obtain ⟨names, hnames, rows, hrows, ht⟩ := ht
  cases ht
  have hrow := isRow_of_mapM hrows
  cases columns with
  | some names' =>
      cases hnames
      exact hlisted hrow
  | none =>
      cases raw with
      | nil => cases hnames
      | cons head rest =>
          cases head with
          | obj first =>
              cases hnames
              intro row hmem
              rcases List.mem_cons.mp hmem with hmem | hmem
              · cases hmem
                exact fun _ hk => hk
              · exact (hlisted (List.forall_mem_cons.mp hrow).2).2 row hmem
          | _ => cases hnames

open Classical in
/-- One expected output is reordered in its content. -/
theorem exists_reordered_test {structured : Json F} {tests : List (ExpectedTest F)}
    (hload : loadExpectedTests structured = .ok tests) {t : ExpectedTest F}
    (hnull : t.expectedOutput ≠ .null) {expected' : Json F}
    (hre : Reordered t.expectedOutput expected') :
    ∃ (structured' : Json F) (tests' : List (ExpectedTest F)),
      ContentBy Reordered structured structured' ∧ loadExpectedTests structured' = .ok tests'
      ∧ ∀ i : Nat, tests[i]? = some t →
        tests'[i]? = some { t with expectedOutput := expected' } := by
  let change : Json F → Json F := fun v => if v = t.expectedOutput then expected' else v
  have hkeeps : KeepsNull fun v v' => v' = change v := by
    refine ⟨(if_neg (Ne.symm hnull)).symm, fun v v' hv => ?_⟩
    subst hv
    by_cases hsame : v = t.expectedOutput
    · rw [show change v = expected' from if_pos hsame, ← reordered_null hre, hsame]
    · rw [show change v = v from if_neg hsame]
  have hmono : ∀ v v', v' = change v → Reordered v v' := by
    rintro v _ rfl
    by_cases hsame : v = t.expectedOutput
    · rw [show change v = expected' from if_pos hsame, hsame]
      exact hre
    · rw [show change v = v from if_neg hsame]
      exact rfl
  obtain ⟨structured', hby⟩ := contentBy_total
    (R := fun v v' => v' = change v) (fun v => ⟨change v, rfl⟩) structured
  obtain ⟨tests', hload', hrel⟩ := loadExpectedTests_by hkeeps hload hby
  refine ⟨structured', tests', contentBy_mono hmono hby, hload', fun i hi => ?_⟩
  obtain ⟨hlt, hget⟩ := List.getElem?_eq_some_iff.mp hi
  have hlt' : i < tests'.length := hrel.length_eq ▸ hlt
  obtain ⟨v', hv', htest⟩ := hrel.get hlt hlt'
  have hsame : tests.get ⟨i, hlt⟩ = t := hget
  rw [hsame, show change t.expectedOutput = expected' from if_pos rfl] at hv'
  rw [hsame, hv'] at htest
  exact List.getElem?_eq_some_iff.mpr ⟨hlt', htest⟩

/-- SQL verdicts do not depend on the order of keys, and no key is left
unread, if and only if the SQL expectations list their keys. -/
theorem keyOrder_iff {structured : Json F} {tests : List (ExpectedTest F)}
    (hstored : Stored structured) (hload : loadExpectedTests structured = .ok tests) :
    (VerdictsKept structured tests ∧ KeysRead tests) ↔ ContentListed structured := by
  have hexpected := stored_expectedOutput hstored hload
  rw [contentListed_iff hload]
  constructor
  · rintro ⟨hkept, hread⟩ t ht hsql
    by_cases hnull : t.expectedOutput = .null
    · rw [hnull]
      trivial
    obtain ⟨unordered, hverdict⟩ := verdict_sql hsql
    refine keysListed_of_same (hexpected t ht) unordered ?_ (hread t ht hsql)
    intro expected' hre actual
    obtain ⟨structured', tests', hby, hload', hget⟩ := exists_reordered_test hload hnull hre
    obtain ⟨tests'', hload'', hsame⟩ := hkept structured' hby
    rw [hload'] at hload''
    cases hload''
    obtain ⟨i, hi, hti⟩ := List.getElem_of_mem ht
    have hi' : i < tests'.length := hsame.length_eq ▸ hi
    have ht' := hget i (hti ▸ List.getElem?_eq_getElem hi)
    rw [List.getElem?_eq_getElem hi', Option.some.injEq] at ht'
    obtain ⟨-, hsame⟩ := hsame.get hi hi'
    rw [List.get_eq_getElem, List.get_eq_getElem, hti, ht'] at hsame
    have heq := hsame hsql actual
    rw [hverdict] at heq
    exact Except.ok.inj (heq.trans (hverdict t.expectedOutput actual))
  · intro hlisted
    constructor
    · intro structured' hby
      obtain ⟨tests', hload', hrel⟩ := loadExpectedTests_by reordered_keepsNull hload hby
      refine ⟨tests', hload', List.forall₂_iff_get.mpr ⟨hrel.length_eq, fun i hi hi' => ?_⟩⟩
      obtain ⟨v', hre, ht'⟩ := hrel.get hi hi'
      have hmem := List.get_mem tests ⟨i, hi⟩
      rw [ht']
      refine ⟨rfl, fun hsql actual => ?_⟩
      obtain ⟨unordered, hverdict⟩ := verdict_sql hsql
      have hdistinct := (hexpected _ hmem).distinct
      refine (hverdict v' actual).trans (.trans ?_ (hverdict _ actual).symm)
      exact congrArg _ (compareSqlResult_sorted hdistinct (hre.distinct hdistinct)
        (sorted_reordered hdistinct hre (hlisted _ hmem hsql)))
    · intro t ht hsql raw table hraw htable
      have hlist := hlisted t ht hsql
      rw [hraw] at hlist htable
      exact keysListed_read hlist htable

end

/-! ## A question with one row -/

/-- A SQL question that expects one row. -/
def rowContent (row : Dict NanoFloat) : Json NanoFloat :=
  .obj [("question_type", .str "sql_coding"), ("mode_specification", .obj [("tests",
    .arr [.obj [("expected_output", .arr [.obj row])]])])]

theorem rowTest_name_ne : ("test-1" : Str) ≠ [] := by decide

def rowTest (row : Dict NanoFloat) : ExpectedTest NanoFloat where
  id := "test-1"
  name := "test-1"
  name_ok := rowTest_name_ne
  isPublic := false
  expectedOutput := .arr [.obj row]
  expectedColumns := none
  comparison := [("strategy", .str "sql_ordered")]

theorem rowContent_loads (row : Dict NanoFloat) :
    loadExpectedTests (rowContent row) = .ok [rowTest row] := rfl

def rowAB : Dict NanoFloat := [("a", .int 1), ("b", .int 2)]

def rowBA : Dict NanoFloat := [("b", .int 2), ("a", .int 1)]

theorem stored_rowAB : Stored (rowContent rowAB) where
  distinct := ⟨by decide, trivial, ⟨by decide, ⟨⟨by decide, ⟨⟨by decide, trivial, trivial, trivial⟩,
    trivial⟩, trivial⟩, trivial⟩, trivial⟩, trivial⟩
  printable := ⟨⟨trivial, ⟨⟨⟨⟨⟨(by decide : digitCount 1 ≤ 4300), (by decide : digitCount 2 ≤ 4300),
    trivial⟩, trivial⟩, trivial⟩, trivial⟩, trivial⟩, trivial⟩, by decide⟩
  self := rfl

/-- The row `{"a": 1, "b": 2}`. -/
theorem keyOrder_iff_ab :
    (VerdictsKept (rowContent rowAB) [rowTest rowAB] ∧ KeysRead [rowTest rowAB])
      ↔ ContentListed (rowContent rowAB) :=
  keyOrder_iff stored_rowAB (rowContent_loads _)

theorem rowContent_reordered : ContentBy Reordered (rowContent rowAB) (rowContent rowBA) := by
  have hrow : Reordered (.obj rowAB) (.obj rowBA) :=
    Json.sortKeys_obj_perm (by decide) (List.Perm.swap ..)
  refine ⟨_, rfl, .cons ⟨rfl, rfl⟩ (.cons ⟨rfl, _, rfl, .cons ⟨rfl, ?_⟩ .nil⟩ .nil)⟩
  exact ⟨_, rfl, .cons ⟨_, rfl, .cons ⟨rfl, .of_elements (.cons hrow .nil)⟩ .nil⟩ .nil⟩

/-- The row `{"a": 1, "b": 2}`, stored as `{"b": 2, "a": 1}`, has other columns. -/
theorem keyOrder_ab : ¬∀ (structured : Json NanoFloat) (tests : List (ExpectedTest NanoFloat)),
    Stored structured → loadExpectedTests structured = .ok tests →
      VerdictsKept structured tests ∧ KeysRead tests := by
  intro h
  obtain ⟨hkept, -⟩ := h _ _ stored_rowAB (rowContent_loads _)
  obtain ⟨tests', hload', hsame⟩ := hkept _ rowContent_reordered
  rw [rowContent_loads] at hload'
  cases hload'
  cases hsame with
  | cons hsame _ =>
      have hsql : SqlTest (rowTest rowAB) := .inl rfl
      obtain ⟨unordered, hverdict⟩ := verdict_sql hsql
      have hab : sqlResult (.arr [.obj rowAB]) none
          = some ⟨["a", "b"], [.arr [.int 1, .int 2]]⟩ := rfl
      have hba : sqlResult (.arr [.obj rowBA]) none
          = some ⟨["b", "a"], [.arr [.int 2, .int 1]]⟩ := rfl
      have hcolumns := columns_fixed (stored_expectedOutput stored_rowAB (rowContent_loads _) _
        (List.mem_singleton_self _)) unordered (fun actual => by
          have heq := hsame.2 hsql actual
          exact Except.ok.inj (((hverdict (.arr [.obj rowBA]) actual).symm.trans heq).trans
            (hverdict (.arr [.obj rowAB]) actual))) hab hba
      exact absurd hcolumns (by decide)

end Rigor
