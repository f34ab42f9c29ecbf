import Rigor.Matching
import Rigor.PyEqual
import Rigor.TrustedCompare

/-!
# Unordered comparison

The strategies `unordered` and `sql_unordered` sort canonical texts where
`exact` and `sql_ordered` use `==`. Two values with one text are equal, but
equal values may be spelled differently: `1`, `1.0` and `true` are one value
with three texts. So the unordered strategies are the ordered ones up to
permutation exactly where the lists do not differ in spelling alone
(`unordered_iff_spelledAlike`).
-/

namespace Rigor

open Py
open ListMatching

variable {F : Type}

section

variable [FloatArith F]

/-- `_compare_value` accepts under a strategy. -/
def Accepts (strategy : Str) (actual expected : Json F) (expectedColumns : Option (List Str)) :
    Prop :=
  compareValue actual expected [("strategy", .str strategy)] expectedColumns = .ok true

/-- Lists that hold every value equally often, up to `==`, hold every
canonical text equally often. -/
def SpelledAlike (actual expected : List (Json F)) : Prop :=
  Balanced Json.pyEq actual expected → ∀ x ∈ actual ++ expected,
    (actual.map canonicalJson).count (canonicalJson x)
      = (expected.map canonicalJson).count (canonicalJson x)

/-- A value `json.loads` reads and `json.dumps` writes. -/
structure Readable (v : Json F) : Prop where
  distinct : v.DistinctKeys
  printable : v.Printable

/-- A value of a `jsonb` column, where no number is `NaN`. -/
structure Stored (v : Json F) : Prop extends Readable v where
  self : v.pyEq v = true

/-! ## The strategies -/

section Strategies

variable {actual expected : List (Json F)} {columns : Option (List Str)}

theorem accepts_unordered :
    Accepts "unordered" (.arr actual) (.arr expected) columns
      ↔ (actual.map canonicalJson).Perm (expected.map canonicalJson) := by
  have h : compareValue (.arr actual) (.arr expected) [("strategy", .str "unordered")] columns
      = .ok (sameTexts actual expected) := rfl
  rw [Accepts, h, Except.ok.injEq, sameTexts, decide_eq_true_iff, sortTexts, sortTexts,
    insertionSort_eq_iff]

theorem accepts_exact :
    Accepts "exact" (.arr actual) (.arr expected) columns
      ↔ List.Forall₂ (fun x y => Json.pyEq x y = true) actual expected := by
  have h : compareValue (.arr actual) (.arr expected) [("strategy", .str "exact")] columns
      = .ok (Json.pyEqElements actual expected) := rfl
  rw [Accepts, h, Except.ok.injEq, Json.pyEqElements_iff]

end Strategies

theorem accepts_sql_unordered {actual expected : Json F} {columns : Option (List Str)}
    {a e : SqlTable F} (ha : sqlResult actual none = some a)
    (he : sqlResult expected columns = some e) :
    Accepts "sql_unordered" actual expected columns
      ↔ a.columns = e.columns
        ∧ (a.rows.map canonicalJson).Perm (e.rows.map canonicalJson) := by
  have h : compareValue actual expected [("strategy", .str "sql_unordered")] columns
      = .ok (compareSqlResult actual expected columns true) := rfl
  rw [Accepts, h, compareSqlResult, ha, he]
  dsimp only
  by_cases hcolumns : a.columns = e.columns
  · rw [if_neg (not_not.mpr hcolumns), if_pos rfl, Except.ok.injEq, sameTexts,
      decide_eq_true_iff, sortTexts, sortTexts, insertionSort_eq_iff, and_iff_right hcolumns]
  · rw [if_pos hcolumns]
    simp [hcolumns]

theorem accepts_sql_ordered {actual expected : Json F} {columns : Option (List Str)}
    {a e : SqlTable F} (ha : sqlResult actual none = some a)
    (he : sqlResult expected columns = some e) :
    Accepts "sql_ordered" actual expected columns
      ↔ a.columns = e.columns
        ∧ List.Forall₂ (fun x y => Json.pyEq x y = true) a.rows e.rows := by
  have h : compareValue actual expected [("strategy", .str "sql_ordered")] columns
      = .ok (compareSqlResult actual expected columns false) := rfl
  rw [Accepts, h, compareSqlResult, ha, he]
  dsimp only
  by_cases hcolumns : a.columns = e.columns
  · rw [if_neg (not_not.mpr hcolumns), if_neg Bool.false_ne_true, Except.ok.injEq,
      Json.pyEqElements_iff, and_iff_right hcolumns]
  · rw [if_pos hcolumns]
    simp [hcolumns]

theorem not_accepts_sql {actual expected : Json F} {columns : Option (List Str)} {strategy : Str}
    (hstrategy : strategy = "sql_ordered" ∨ strategy = "sql_unordered")
    (he : sqlResult expected columns = none) : ¬Accepts strategy actual expected columns := by
  intro h
  have hfalse : ∀ unordered, compareSqlResult actual expected columns unordered = false := by
    intro unordered
    rw [compareSqlResult, he]
    cases sqlResult actual none <;> rfl
  rcases hstrategy with rfl | rfl
  · have hvalue : compareValue actual expected [("strategy", .str "sql_ordered")] columns
        = .ok (compareSqlResult actual expected columns false) := rfl
    rw [Accepts, hvalue, hfalse] at h
    cases h
  · have hvalue : compareValue actual expected [("strategy", .str "sql_unordered")] columns
        = .ok (compareSqlResult actual expected columns true) := rfl
    rw [Accepts, hvalue, hfalse] at h
    cases h

/-! ## Stored values -/

namespace Readable

theorem null : Readable (F := F) .null := ⟨trivial, trivial, Nat.zero_le _⟩

theorem element {xs : List (Json F)} (h : Readable (.arr xs)) {x : Json F} (hx : x ∈ xs) :
    Readable x where
  distinct := Json.distinctKeys_elements h.distinct x hx
  printable := ⟨Json.digitsFitElements_iff.mp h.printable.1 x hx,
    (Json.depthElements_le.mp (le_refl _) x hx).trans ((Nat.le_succ _).trans h.printable.2)⟩

theorem member {kvs : List (Str × Json F)} (h : Readable (.obj kvs)) {k : Str} {v : Json F}
    (hv : (k, v) ∈ kvs) : Readable v where
  distinct := Json.distinctKeysMembers_iff.mp h.distinct.2 k v hv
  printable := ⟨Json.digitsFitMembers_iff.mp h.printable.1 k v hv,
    (Json.depthMembers_le.mp (le_refl _) k v hv).trans ((Nat.le_succ _).trans h.printable.2)⟩

end Readable

namespace Stored

theorem element {xs : List (Json F)} (h : Stored (.arr xs)) {x : Json F} (hx : x ∈ xs) :
    Stored x where
  toReadable := h.toReadable.element hx
  self := by
    obtain ⟨ys, hys, hrel⟩ := Json.pyEq_arr.mp h.self
    cases hys
    exact List.forall₂_same.mp hrel x hx

theorem member {kvs : List (Str × Json F)} (h : Stored (.obj kvs)) {k : Str} {v : Json F}
    (hv : (k, v) ∈ kvs) : Stored v where
  toReadable := h.toReadable.member hv
  self := by
    obtain ⟨b, hb, -, hmembers⟩ := Json.pyEq_obj.mp h.self
    cases hb
    obtain ⟨w, hw, heq⟩ := hmembers k v hv
    rw [Json.lookup_of_mem h.distinct.1 hv] at hw
    cases hw
    exact heq

theorem get {kvs : List (Str × Json F)} (h : Stored (.obj kvs)) (k : Str) :
    Stored (Json.get k kvs) := by
  unfold Json.get
  cases hlookup : Json.lookup k kvs with
  | none => exact { toReadable := Readable.null, self := rfl }
  | some v => exact h.member (Json.mem_of_lookup hlookup)

/-- A row by its columns is no deeper than the object it is read from. -/
theorem cells {kvs : List (Str × Json F)} (h : Stored (.obj kvs)) (columns : List Str) :
    Stored (.arr (columns.map fun k => Json.get k kvs)) where
  distinct := Json.distinctKeysElements_of_forall fun x hx => by
    obtain ⟨k, -, rfl⟩ := List.mem_map.mp hx
    exact (h.get k).distinct
  printable := by
    refine ⟨Json.digitsFitElements_iff.mpr fun x hx => ?_, ?_⟩
    · obtain ⟨k, -, rfl⟩ := List.mem_map.mp hx
      exact (h.get k).printable.1
    · refine le_trans (Nat.succ_le_succ (Json.depthElements_le.mpr fun x hx => ?_)) h.printable.2
      obtain ⟨k, -, rfl⟩ := List.mem_map.mp hx
      unfold Json.get
      cases hlookup : Json.lookup k kvs with
      | none => exact Nat.zero_le _
      | some v => exact Json.depthMembers_le.mp (le_refl _) k v (Json.mem_of_lookup hlookup)
  self := by
    refine Json.pyEq_arr.mpr ⟨_, rfl, List.forall₂_same.mpr fun x hx => ?_⟩
    obtain ⟨k, -, rfl⟩ := List.mem_map.mp hx
    exact (h.get k).self

end Stored

theorem mem_of_mapM {α β : Type} {f : α → Option β} : ∀ {xs : List α} {ys : List β},
    xs.mapM f = some ys → ∀ {y}, y ∈ ys → ∃ x ∈ xs, f x = some y
  | [], ys, h, y, hy => by
      cases h
      cases hy
  | x :: xs, ys, h, y, hy => by
      simp only [List.mapM_cons, Option.bind_eq_bind, Option.bind_eq_some_iff] at h
      obtain ⟨z, hz, zs, hzs, h⟩ := h
      cases h
      rcases List.mem_cons.mp hy with rfl | hy
      · exact ⟨x, List.mem_cons_self .., hz⟩
      · obtain ⟨x', hx', hread⟩ := mem_of_mapM hzs hy
        exact ⟨x', List.mem_cons_of_mem _ hx', hread⟩

/-- A property of the expectation that its parts share holds of its rows. -/
theorem rows_of_expectation {P : Json F → Prop}
    (element : ∀ {xs : List (Json F)}, P (.arr xs) → ∀ x ∈ xs, P x)
    (get : ∀ {kvs : List (Str × Json F)}, P (.obj kvs) → ∀ k, P (Json.get k kvs))
    (cells : ∀ {kvs : List (Str × Json F)}, P (.obj kvs) → ∀ columns : List Str,
      P (.arr (columns.map fun k => Json.get k kvs)))
    {expected : Json F} (h : P expected) {columns : Option (List Str)}
    {e : SqlTable F} (he : sqlResult expected columns = some e) : ∀ row ∈ e.rows, P row := by
  intro row hrow
  cases expected with
  | null | bool | int | float | str => cases he
  | obj result =>
      simp only [sqlResult] at he
      split at he
      · rename_i hrows
        cases he
        have hvalue := get h "rows"
        rw [hrows] at hvalue
        exact element hvalue row hrow
      · cases he
  | arr raw =>
      simp only [sqlResult, Option.bind_eq_bind, Option.bind_eq_some_iff] at he
      obtain ⟨names, -, rows, hrows, he⟩ := he
      cases he
      obtain ⟨source, hsource, hread⟩ := mem_of_mapM hrows hrow
      have hvalue := element h source hsource
      cases source with
      | null | bool | int | float | str => cases hread
      | obj kvs => cases hread; exact cells hvalue names
      | arr xs => cases hread; exact hvalue

theorem stored_rows {expected : Json F} (h : Stored expected) {columns : Option (List Str)}
    {e : SqlTable F} (he : sqlResult expected columns = some e) : ∀ row ∈ e.rows, Stored row :=
  rows_of_expectation (fun h _ => h.element) Stored.get Stored.cells h he

/-! ## Equality and text -/

theorem pyEq_comparison (laws : FloatLaws F) :
    Comparison (Json.DistinctKeys (F := F)) Json.pyEq where
  symm hx hy := Json.pyEq_symm laws hx hy
  trans _ _ _ := Json.pyEq_trans laws

/-- Values with one canonical text are equal, `NaN` apart. -/
theorem pyEq_of_canonicalJson {x y : Json F} (hx : Readable x) (hy : Stored y)
    (h : canonicalJson x = canonicalJson y) : x.pyEq y = true := by
  have hsorted := Json.sortKeys_eq_of_encode hx.distinct hy.distinct hx.printable hy.printable h
  rw [← Json.pyEq_sortKeys, hsorted, Json.pyEq_sortKeys]
  exact hy.self

theorem texts_perm_iff (laws : FloatLaws F) {actual expected : List (Json F)}
    (hactual : ∀ x ∈ actual, Readable x) (hexpected : ∀ y ∈ expected, Stored y) :
    ((actual.map canonicalJson).Perm (expected.map canonicalJson)
        ↔ Matches Json.pyEq actual expected)
      ↔ SpelledAlike actual expected :=
  perm_map_iff_matches (pyEq_comparison laws) (fun x hx => (hactual x hx).distinct)
    (fun y hy => (hexpected y hy).distinct)
    fun x hx y hy => pyEq_of_canonicalJson (hactual x hx) (hexpected y hy)

/-! ## Up to permutation -/

/-- A SQL result with its rows replaced. -/
def withRows (result : Dict F) (rows : List (Json F)) : Json F :=
  .obj (Json.insert "rows" (.arr rows) result)

theorem sqlResult_withRows {result : Dict F} {names rows : List (Json F)}
    (hnames : Json.get "columns" result = .arr names) :
    sqlResult (withRows result rows) none = some ⟨names.map Json.pyStr, rows⟩ := by
  have hrows : Json.get "rows" (Json.insert "rows" (.arr rows) result) = .arr rows := by
    rw [Json.get, Json.lookup_insert_self]
    rfl
  have hcolumns : Json.get "columns" (Json.insert "rows" (.arr rows) result) = .arr names := by
    rw [← hnames, Json.get, Json.get, Json.lookup_insert_of_ne (by decide)]
  simp only [withRows, sqlResult, hrows, hcolumns]

theorem exists_accepts_exact {actual expected : List (Json F)} {columns : Option (List Str)} :
    (∃ actual', actual'.Perm actual
        ∧ Accepts "exact" (.arr actual') (.arr expected) columns)
      ↔ Matches Json.pyEq actual expected :=
  exists_congr fun _ => and_congr_right fun _ => accepts_exact

theorem exists_accepts_sql_ordered {result : Dict F} {names rows : List (Json F)}
    (hnames : Json.get "columns" result = .arr names) {expected : Json F}
    {columns : Option (List Str)} {e : SqlTable F} (he : sqlResult expected columns = some e) :
    (∃ rows', rows'.Perm rows ∧ Accepts "sql_ordered" (withRows result rows') expected columns)
      ↔ names.map Json.pyStr = e.columns ∧ Matches Json.pyEq rows e.rows := by
  rw [Matches, ← exists_and_left]
  exact exists_congr fun rows' => by
    rw [accepts_sql_ordered (sqlResult_withRows hnames) he, and_left_comm]

/-- The unordered strategies accept what the ordered ones accept up to
permutation if and only if the lists do not differ in spelling alone. -/
theorem unordered_iff_spelledAlike (laws : FloatLaws F) :
    (∀ (actual expected : List (Json F)) (columns : Option (List Str)),
      (∀ x ∈ actual, Readable x) → (∀ y ∈ expected, Stored y) →
        ((Accepts "unordered" (.arr actual) (.arr expected) columns
            ↔ ∃ actual', actual'.Perm actual
              ∧ Accepts "exact" (.arr actual') (.arr expected) columns)
          ↔ SpelledAlike actual expected))
      ∧ ∀ (result : Dict F) (names rows : List (Json F)) (expected : Json F)
          (columns : Option (List Str)),
        Json.get "columns" result = .arr names → (∀ x ∈ rows, Readable x) → Stored expected →
          ((Accepts "sql_unordered" (withRows result rows) expected columns
              ↔ ∃ rows', rows'.Perm rows
                ∧ Accepts "sql_ordered" (withRows result rows') expected columns)
            ↔ ∀ e, sqlResult expected columns = some e → names.map Json.pyStr = e.columns →
              SpelledAlike rows e.rows) := by
  constructor
  · intro actual expected columns hactual hexpected
    rw [accepts_unordered, exists_accepts_exact]
    exact texts_perm_iff laws hactual hexpected
  · intro result names rows expected columns hnames hrows hexpected
    cases he : sqlResult expected columns with
    | none =>
        have hright : ¬∃ rows', rows'.Perm rows
            ∧ Accepts "sql_ordered" (withRows result rows') expected columns :=
          fun ⟨rows', _, h⟩ => not_accepts_sql (.inl rfl) he h
        simp only [not_accepts_sql (.inr rfl) he, hright, reduceCtorEq, false_imp_iff,
          implies_true]
    | some e =>
        rw [accepts_sql_unordered (sqlResult_withRows hnames) he,
          exists_accepts_sql_ordered hnames he, and_congr_right_iff]
        constructor
        · intro h e' hsame hcolumns
          cases hsame
          exact (texts_perm_iff laws hrows (stored_rows hexpected he)).mp (h hcolumns)
        · intro h hcolumns
          exact (texts_perm_iff laws hrows (stored_rows hexpected he)).mpr (h e rfl hcolumns)

end

/-! ### Instances -/

theorem nanoFloat_laws : FloatLaws NanoFloat where
  symm {x y} h := by
    simp only [Runtime.floatEq, Bool.and_eq_true, bne_iff_ne, beq_iff_eq] at h ⊢
    exact ⟨h.2 ▸ h.1, h.2.symm⟩
  trans {x y z} hxy hyz := by
    simp only [Runtime.floatEq, Bool.and_eq_true, bne_iff_ne, beq_iff_eq] at hxy hyz ⊢
    exact ⟨hxy.1, hxy.2.trans hyz.2⟩
  of_int h := by cases h
  int_congr _ h := by cases h
  int_unique h := by cases h

theorem stored_true : Stored (F := NanoFloat) (.bool true) where
  distinct := trivial
  printable := ⟨trivial, Nat.zero_le _⟩
  self := rfl

theorem stored_one : Stored (F := NanoFloat) (.int 1) where
  distinct := trivial
  printable := ⟨(by decide : digitCount 1 ≤ 4300), Nat.zero_le _⟩
  self := rfl

theorem stored_table : Stored (F := NanoFloat) (.arr [.arr [.int 1]]) where
  distinct := ⟨⟨trivial, trivial⟩, trivial⟩
  printable := ⟨⟨⟨stored_one.printable.1, trivial⟩, trivial⟩, by decide⟩
  self := rfl

/-- The lists `[1, true]` and `[true, 1]`, and a table with the one cell `1`. -/
theorem unordered_iff_spelledAlike_one :
    ((Accepts (F := NanoFloat) "unordered" (.arr [.int 1, .bool true]) (.arr [.bool true, .int 1])
          none
        ↔ ∃ actual', actual'.Perm [.int 1, .bool true]
          ∧ Accepts (F := NanoFloat) "exact" (.arr actual') (.arr [.bool true, .int 1]) none)
      ↔ SpelledAlike (F := NanoFloat) [.int 1, .bool true] [.bool true, .int 1])
    ∧ ((Accepts (F := NanoFloat) "sql_unordered"
            (withRows [("columns", .arr [.str "n"])] [.arr [.int 1]]) (.arr [.arr [.int 1]])
            (some ["n"])
          ↔ ∃ rows', rows'.Perm [.arr [.int 1]]
            ∧ Accepts (F := NanoFloat) "sql_ordered"
              (withRows [("columns", .arr [.str "n"])] rows') (.arr [.arr [.int 1]]) (some ["n"]))
        ↔ ∀ e, sqlResult (F := NanoFloat) (.arr [.arr [.int 1]]) (some ["n"]) = some e →
          [Json.str (F := NanoFloat) "n"].map Json.pyStr = e.columns →
            SpelledAlike [.arr [.int 1]] e.rows) := by
  have hboth : ∀ x ∈ [Json.int (F := NanoFloat) 1, .bool true], Stored x := by
    simp only [List.forall_mem_cons]
    exact ⟨stored_one, stored_true, nofun⟩
  refine ⟨(unordered_iff_spelledAlike nanoFloat_laws).1 _ _ none
    (fun x hx => (hboth x hx).toReadable) (fun y hy => hboth y ?_), ?_⟩
  · exact (List.Perm.swap _ _ []).mem_iff.mp hy
  · exact (unordered_iff_spelledAlike nanoFloat_laws).2 [("columns", .arr [.str "n"])] [.str "n"]
      [.arr [.int 1]] (.arr [.arr [.int 1]]) (some ["n"]) rfl
      (fun x hx => stored_table.toReadable.element hx) stored_table

/-- `exact` takes `1` for `true` and `unordered` does not; nor do the SQL
strategies agree on a row of it. -/
theorem one_true_spelled : ¬(∀ actual expected : List (Json NanoFloat),
      Accepts "unordered" (.arr actual) (.arr expected) none
        ↔ ∃ actual', actual'.Perm actual ∧ Accepts "exact" (.arr actual') (.arr expected) none)
    ∧ ¬∀ (rows : List (Json NanoFloat)) (expected : Json NanoFloat),
      Accepts "sql_unordered" (withRows [("columns", .arr [.str "n"])] rows) expected none
        ↔ ∃ rows', rows'.Perm rows
          ∧ Accepts "sql_ordered" (withRows [("columns", .arr [.str "n"])] rows') expected none := by
  constructor
  · intro h
    have hunordered := (h [.int 1] [.bool true]).mpr ⟨[.int 1], .refl _, rfl⟩
    cases hunordered
  · intro h
    have hunordered := (h [.arr [.int 1]] (withRows [("columns", .arr [.str "n"])]
      [.arr [.bool true]])).mpr ⟨[.arr [.int 1]], .refl _, rfl⟩
    cases hunordered

end Rigor
