import Mathlib.Data.List.Perm.Basic
import Mathlib.Data.List.Sort
import Mathlib.Order.Lattice

/-!
# Paging

Pages of a list that is sorted anew for every page. Rows the sort key leaves
tied come in any order, another one for each page, so the pages of different
orders fit together only where no class of tied rows lies across a page
boundary (`pages_perm_iff`).

The argument is about the first `b` rows: without a tie across `b` they are
the rows with fewer than `b` rows below them (`take_eq_filter`), whatever the
order; with one, a row on each side of `b` can change places.
-/

namespace Paging

variable {α κ : Type} [LinearOrder κ]

/-- The rows in some order the key allows. -/
structure Arranges (key : α → κ) (rows arranged : List α) : Prop where
  perm : arranged.Perm rows
  sorted : arranged.Pairwise fun x y => key x ≤ key y

/-- Rows with a smaller key. -/
def below (key : α → κ) (rows : List α) (k : κ) : Nat := rows.countP fun x => key x < k

/-- Rows with a key that is not larger. -/
def upTo (key : α → κ) (rows : List α) (k : κ) : Nat := rows.countP fun x => key x ≤ k

/-- A class of tied rows has rows on both sides of the first `b`. -/
def Straddles (key : α → κ) (rows : List α) (b : Nat) : Prop :=
  ∃ x ∈ rows, below key rows (key x) < b ∧ b < upTo key rows (key x)

/-- The rows of page `n`, counted from `0`. -/
def page (size n : Nat) (arranged : List α) : List α := (arranged.drop (n * size)).take size

variable {key : α → κ} {rows : List α}

theorem upTo_le_below {k k' : κ} (h : k < k') : upTo key rows k ≤ below key rows k' := by
  refine List.countP_mono_left fun x _ hx => ?_
  rw [decide_eq_true_iff] at hx ⊢
  exact hx.trans_lt h

namespace Arranges

theorem below_eq {arranged : List α} (h : Arranges key rows arranged) (k : κ) :
    below key rows k = below key arranged k :=
  (h.perm.countP_eq _).symm

theorem upTo_eq {arranged : List α} (h : Arranges key rows arranged) (k : κ) :
    upTo key rows k = upTo key arranged k :=
  (h.perm.countP_eq _).symm

/-- A row has no more rows below it than before it. -/
theorem below_le {front back : List α} {x : α} (h : Arranges key rows (front ++ x :: back)) :
    below key rows (key x) ≤ front.length := by
  have hrest : (x :: back).countP (fun y => key y < key x) = 0 := by
    rw [List.countP_eq_zero]
    intro y hy
    rw [decide_eq_true_iff, not_lt]
    rcases List.mem_cons.mp hy with rfl | hy
    · exact le_refl _
    · exact (List.pairwise_cons.mp (List.pairwise_append.mp h.sorted).2.1).1 y hy
  rw [h.below_eq, below, List.countP_append, hrest, Nat.add_zero]
  exact List.countP_le_length

/-- The rows up to its own key are more than the rows before a row. -/
theorem lt_upTo {front back : List α} {x : α} (h : Arranges key rows (front ++ x :: back)) :
    front.length < upTo key rows (key x) := by
  have hfront : front.countP (fun y => key y ≤ key x) = front.length := by
    rw [List.countP_eq_length]
    intro y hy
    rw [decide_eq_true_iff]
    exact (List.pairwise_append.mp h.sorted).2.2 y hy x (List.mem_cons_self ..)
  have hown : 0 < (x :: back).countP (fun y => key y ≤ key x) :=
    List.countP_pos_iff.mpr ⟨x, List.mem_cons_self .., decide_eq_true (le_refl _)⟩
  rw [h.upTo_eq, upTo, List.countP_append, hfront]
  omega

/-- Without a tie across `b`, the first `b` rows are those with fewer than `b`
rows below them. -/
theorem take_eq_filter {arranged : List α} (h : Arranges key rows arranged) {b : Nat}
    (hb : ¬Straddles key rows b) :
    arranged.take b = arranged.filter fun x => below key rows (key x) < b := by
  have hsplit := List.take_append_drop b arranged
  have hfirst : (arranged.take b).filter (fun x => below key rows (key x) < b)
      = arranged.take b := by
    refine List.filter_eq_self.mpr fun x hx => decide_eq_true ?_
    obtain ⟨front, back, hxs⟩ := List.append_of_mem hx
    have harr : arranged = front ++ x :: (back ++ arranged.drop b) := by
      rw [← List.cons_append, ← List.append_assoc, ← hxs, hsplit]
    have hlen : front.length < b := by
      have := congrArg List.length hxs
      rw [List.length_take, List.length_append, List.length_cons] at this
      omega
    rw [harr] at h
    exact h.below_le.trans_lt hlen
  have hlast : (arranged.drop b).filter (fun x => below key rows (key x) < b) = [] := by
    refine List.filter_eq_nil_iff.mpr fun x hx hlt => hb ?_
    obtain ⟨front, back, hxs⟩ := List.append_of_mem hx
    have harr : arranged = (arranged.take b ++ front) ++ x :: back := by
      rw [List.append_assoc, ← hxs, hsplit]
    have hmem : x ∈ rows := h.perm.mem_iff.mp (List.mem_of_mem_drop hx)
    have hlen : b ≤ (arranged.take b ++ front).length := by
      have := congrArg List.length hxs
      rw [List.length_drop, List.length_append, List.length_cons] at this
      rw [List.length_append, List.length_take]
      omega
    rw [harr] at h
    exact ⟨x, hmem, of_decide_eq_true hlt, hlen.trans_lt h.lt_upTo⟩
  conv_rhs => rw [← hsplit, List.filter_append, hfirst, hlast, List.append_nil]

theorem take_perm {arranged arranged' : List α} (h : Arranges key rows arranged)
    (h' : Arranges key rows arranged') {b : Nat} (hb : ¬Straddles key rows b) :
    (arranged.take b).Perm (arranged'.take b) := by
  rw [h.take_eq_filter hb, h'.take_eq_filter hb]
  exact (h.perm.trans h'.perm.symm).filter _

end Arranges

/-! ## Pages -/

theorem take_succ_page (size n : Nat) (arranged : List α) :
    arranged.take ((n + 1) * size) = arranged.take (n * size) ++ page size n arranged := by
  rw [page, Nat.succ_mul, List.take_add]

theorem flatMap_page (size : Nat) (arranged : List α) : ∀ n : Nat,
    ((List.range n).flatMap fun i => page size i arranged) = arranged.take (n * size)
  | 0 => by rw [List.range_zero, List.flatMap_nil, Nat.zero_mul, List.take_zero]
  | n + 1 => by
      rw [List.range_succ, List.flatMap_append, flatMap_page size arranged n, List.flatMap_singleton,
        take_succ_page]

/-- Where no tie lies across a boundary of a page, the page has the same rows
in every order. -/
theorem page_perm {arranged arranged' : List α} (h : Arranges key rows arranged)
    (h' : Arranges key rows arranged') {size n : Nat} (hn : ¬Straddles key rows (n * size))
    (hsucc : ¬Straddles key rows ((n + 1) * size)) :
    (page size n arranged).Perm (page size n arranged') := by
  have htake := h.take_perm h' hsucc
  rw [take_succ_page, take_succ_page] at htake
  exact (List.perm_append_left_iff _).mp
    (htake.trans ((h.take_perm h' hn).symm.append_right _))

/-- Two neighbours of one class change places. -/
theorem Arranges.swap {front back : List α} {x y : α}
    (h : Arranges key rows (front ++ x :: y :: back)) (hxy : key x = key y) :
    Arranges key rows (front ++ y :: x :: back) where
  perm := ((List.Perm.swap ..).append_left front).trans h.perm
  sorted := by
    have hsorted := h.sorted
    simp only [List.pairwise_append, List.pairwise_cons, List.mem_cons] at hsorted ⊢
    obtain ⟨hfront, ⟨hx, hy, hback⟩, hcross⟩ := hsorted
    refine ⟨hfront, ⟨?_, fun z hz => hx z (.inr hz), hback⟩, ?_⟩
    · rintro z (rfl | hz)
      · exact hxy.ge
      · exact hy z hz
    · rintro a ha z (rfl | rfl | hz)
      · exact hcross a ha _ (.inr (.inl rfl))
      · exact hcross a ha _ (.inl rfl)
      · exact hcross a ha _ (.inr (.inr hz))

/-- A tie across `b` has a row on each side of it, next to each other. -/
theorem Arranges.split_of_straddles {arranged : List α} (h : Arranges key rows arranged) {b : Nat}
    (hb : Straddles key rows b) : ∃ front x y back, arranged = front ++ x :: y :: back
      ∧ front.length + 1 = b ∧ key x = key y := by
  obtain ⟨z, -, hlt, hgt⟩ := hb
  rw [h.below_eq] at hlt
  rw [h.upTo_eq] at hgt
  have hlen : b < arranged.length := hgt.trans_le List.countP_le_length
  obtain ⟨a, rfl⟩ : ∃ a, b = a + 1 := ⟨b - 1, by omega⟩
  have hsplit : arranged = arranged.take a ++ arranged[a] :: arranged[a + 1] ::
      arranged.drop (a + 2) := by
    rw [← List.drop_eq_getElem_cons hlen, ← List.drop_eq_getElem_cons (by omega),
      List.take_append_drop]
  refine ⟨_, _, _, _, hsplit, by rw [List.length_take]; omega, ?_⟩
  -- a row of the class of `z` stands at `a` and at `a + 1`
  have hclass : ∀ (i : Nat) (hi : i < arranged.length), below key arranged (key z) ≤ i →
      i < upTo key arranged (key z) → key arranged[i] = key z := by
    intro i hi hbelow hupTo
    have hat : arranged = arranged.take i ++ arranged[i] :: arranged.drop (i + 1) := by
      rw [← List.drop_eq_getElem_cons hi, List.take_append_drop]
    have hself : Arranges key arranged
        (arranged.take i ++ arranged[i] :: arranged.drop (i + 1)) := by
      rw [← hat]
      exact ⟨.refl _, h.sorted⟩
    have hlength : (arranged.take i).length = i := by
      rw [List.length_take]
      omega
    have hle := hself.below_le
    have hgt' := hself.lt_upTo
    rw [hlength] at hle hgt'
    rcases lt_trichotomy (key arranged[i]) (key z) with hlt' | heq | hlt'
    · have : upTo key arranged _ ≤ below key arranged _ := upTo_le_below hlt'
      omega
    · exact heq
    · have : upTo key arranged _ ≤ below key arranged _ := upTo_le_below hlt'
      omega
  rw [hclass a (by omega) (by omega) (by omega), hclass (a + 1) hlen (by omega) (by omega)]

/-! ## All pages -/

theorem Arranges.exists (key : α → κ) (rows : List α) : ∃ arranged, Arranges key rows arranged :=
  ⟨rows.insertionSort fun x y => key x ≤ key y, List.perm_insertionSort _ _, by
    have : IsTrans α fun x y => key x ≤ key y := ⟨fun _ _ _ => le_trans⟩
    have : Std.Total fun x y : α => key x ≤ key y := ⟨fun x y => le_total (key x) (key y)⟩
    exact List.pairwise_insertionSort _ _⟩

theorem flatMap_page_from (size start : Nat) (arranged : List α) (count : Nat) :
    ((List.range count).flatMap fun i => page size (start + i) arranged)
      = (arranged.drop (start * size)).take (count * size) := by
  rw [← flatMap_page]
  refine congrArg List.flatten (List.map_congr_left fun i _ => ?_)
  rw [page, page, List.drop_drop, Nat.add_mul]

/-- The first `last` pages, each of its own order, hold every row once
exactly where they hold all rows and no class of tied rows lies across one
of their boundaries. -/
theorem pages_perm_iff (hrows : rows.Nodup) (size last : Nat) :
    (∀ arranged : Nat → List α, (∀ n, Arranges key rows (arranged n)) →
        ((List.range last).flatMap fun n => page size n (arranged n)).Perm rows)
      ↔ rows.length ≤ last * size ∧ ∀ n < last, ¬Straddles key rows (n * size) := by
  obtain ⟨base, hbase⟩ := Arranges.exists key rows
  constructor
  · intro h
    have hall := h (fun _ => base) fun _ => hbase
    rw [flatMap_page] at hall
    have hlength := hall.length_eq
    rw [List.length_take, hbase.perm.length_eq] at hlength
    refine ⟨by omega, fun n hn hacross => ?_⟩
    obtain ⟨front, x, y, back, rfl, hfront, hxy⟩ := hbase.split_of_straddles hacross
    -- from page `n` on, the two rows at the boundary have changed places
    have htwo := h (fun i => if i < n then front ++ x :: y :: back else front ++ y :: x :: back)
      fun i => by
        split
        · exact hbase
        · exact hbase.swap hxy
    obtain ⟨rest, rfl⟩ := Nat.exists_eq_add_of_lt hn
    have hbefore : ((List.range n).flatMap fun i => page size i
        (if i < n then front ++ x :: y :: back else front ++ y :: x :: back))
          = front ++ [x] := by
      have hsame : ((List.range n).flatMap fun i => page size i
          (if i < n then front ++ x :: y :: back else front ++ y :: x :: back))
            = (List.range n).flatMap fun i => page size i (front ++ x :: y :: back) := by
        refine congrArg List.flatten (List.map_congr_left fun i hi => ?_)
        rw [if_pos (List.mem_range.mp hi)]
      rw [hsame, flatMap_page, ← hfront, List.append_cons]
      exact List.take_left' (by simp)
    have hafter : ((List.range (rest + 1)).flatMap fun i => page size (n + i)
        (if n + i < n then front ++ x :: y :: back else front ++ y :: x :: back))
          = (x :: back).take ((rest + 1) * size) := by
      have hsame : ((List.range (rest + 1)).flatMap fun i => page size (n + i)
          (if n + i < n then front ++ x :: y :: back else front ++ y :: x :: back))
            = (List.range (rest + 1)).flatMap fun i =>
                page size (n + i) (front ++ y :: x :: back) := by
        refine congrArg List.flatten (List.map_congr_left fun i _ => ?_)
        rw [if_neg (Nat.not_lt.mpr (Nat.le_add_right n i))]
      rw [hsame, flatMap_page_from, ← hfront, List.append_cons]
      exact congrArg (List.take _) (List.drop_left' (by simp))
    rw [Nat.add_assoc, List.range_add, List.flatMap_append, List.flatMap_map, hbefore,
      hafter] at htwo
    have hsize : 0 < (rest + 1) * size := by
      rcases Nat.eq_zero_or_pos size with rfl | hpos
      · rw [Nat.mul_zero] at hfront
        omega
      · exact Nat.mul_pos (Nat.succ_pos _) hpos
    obtain ⟨m, hm⟩ : ∃ m, (rest + 1) * size = m + 1 := ⟨_, (Nat.succ_pred_eq_of_pos hsize).symm⟩
    rw [hm, List.take_succ_cons] at htwo
    have hnodup := htwo.nodup_iff.mpr hrows
    exact (List.nodup_append.mp hnodup).2.2 x (by simp) x (by simp) rfl
  · rintro ⟨hlength, hnone⟩ arranged harranged
    have hpages : ((List.range last).flatMap fun n => page size n (arranged n)).Perm
        ((List.range last).flatMap fun n => page size n base) := by
      refine List.Perm.flatMap_left _ fun n hn => ?_
      have hlast : n < last := List.mem_range.mp hn
      refine page_perm (harranged n) hbase (hnone n hlast) ?_
      rcases Nat.lt_or_ge (n + 1) last with hsucc | hend
      · exact hnone _ hsucc
      · -- the end of the last page lies behind every row
        obtain rfl : last = n + 1 := by omega
        rintro ⟨x, -, -, hgt⟩
        exact absurd (hgt.trans_le List.countP_le_length) (Nat.not_lt.mpr hlength)
    rw [flatMap_page, List.take_of_length_le (by rwa [hbase.perm.length_eq])] at hpages
    exact hpages.trans hbase.perm

/-! ## Asking for one page after another -/

/-- Pages from page `n` on, up to the first that has no next. -/
inductive Crawl {P : Type} (items : P → List α) (hasNext : P → Bool) (fetch : Nat → P → Prop) :
    Nat → List α → Prop
  | last {n : Nat} {p : P} : fetch n p → hasNext p = false → Crawl items hasNext fetch n (items p)
  | next {n : Nat} {p : P} {rest : List α} : fetch n p → hasNext p = true →
      Crawl items hasNext fetch (n + 1) rest → Crawl items hasNext fetch n (items p ++ rest)

/-- The number of the last page: no earlier one reaches the end of the rows. -/
structure IsLast (size length last : Nat) : Prop where
  pos : 0 < last
  length_le : length ≤ last * size
  first : ∀ n, 0 < n → length ≤ n * size → last ≤ n

theorem IsLast.exists {size : Nat} (hsize : 0 < size) (length : Nat) :
    ∃ last, IsLast size length last := by
  classical
  have hsome : ∃ n, 0 < n ∧ length ≤ n * size :=
    ⟨length + 1, Nat.succ_pos _, by
      have := Nat.le_mul_of_pos_right (length + 1) hsize
      omega⟩
  exact ⟨Nat.find hsome, (Nat.find_spec hsome).1, (Nat.find_spec hsome).2,
    fun n hn hlength => Nat.find_min' hsome ⟨hn, hlength⟩⟩

section Crawl

variable {P : Type} {items : P → List α} {hasNext : P → Bool} {fetch : Nat → P → Prop}
  {allowed : Nat → Prop} {size last : Nat}

/-- Page `n` is answered, where it is allowed at all, from any order of the rows. -/
def Answers (key : α → κ) (rows : List α) (size : Nat) (items : P → List α) (hasNext : P → Bool)
    (allowed : Nat → Prop) (fetch : Nat → P → Prop) : Prop :=
  (∀ n p, fetch n p → allowed n ∧ hasNext p = decide (n * size < rows.length)
      ∧ ∃ arranged, Arranges key rows arranged ∧ items p = page size (n - 1) arranged)
    ∧ ∀ n, allowed n → ∀ arranged, Arranges key rows arranged →
      ∃ p, fetch n p ∧ items p = page size (n - 1) arranged

/-- The pages collected from page `n + 1` on are those of some orders, up to the last page. -/
theorem Crawl.pages (hanswers : Answers key rows size items hasNext allowed fetch)
    (hlast : IsLast size rows.length last) {m : Nat} {collected : List α}
    (h : Crawl items hasNext fetch m collected) : ∀ n, m = n + 1 → n < last →
      (∀ i, n < i → i ≤ last → allowed i) ∧ ∃ arranged : Nat → List α,
        (∀ i, Arranges key rows (arranged i))
          ∧ collected = (List.range' n (last - n)).flatMap fun i => page size i (arranged i) := by
  induction h with
  | @last m p hp hno =>
      rintro n rfl hn
      obtain ⟨hallowed, hnext, arranged, harranged, hitems⟩ := hanswers.1 _ _ hp
      rw [hno] at hnext
      have hend := hlast.first (n + 1) (Nat.succ_pos n)
        (Nat.not_lt.mp (of_decide_eq_false hnext.symm))
      obtain rfl : last = n + 1 := by omega
      refine ⟨fun i hi hi' => ?_, fun _ => arranged, fun _ => harranged, ?_⟩
      · obtain rfl : i = n + 1 := by omega
        exact hallowed
      · rw [hitems, Nat.add_sub_cancel_left]
        simp
  | @next m p rest hp hmore _ ih =>
      rintro n rfl hn
      obtain ⟨hallowed, hnext, arranged, harranged, hitems⟩ := hanswers.1 _ _ hp
      rw [hmore] at hnext
      have hbefore : (n + 1) * size < rows.length := of_decide_eq_true hnext.symm
      have hn' : n + 1 < last := by
        by_contra hge
        obtain rfl : last = n + 1 := by omega
        exact absurd hbefore (Nat.not_lt.mpr hlast.length_le)
      obtain ⟨hlater, others, hothers, hrest⟩ := ih (n + 1) rfl hn'
      refine ⟨fun i hi hi' => ?_, Function.update others n arranged, fun i => ?_, ?_⟩
      · rcases Nat.eq_or_lt_of_le hi with rfl | hi
        · exact hallowed
        · exact hlater i hi hi'
      · rcases eq_or_ne i n with rfl | hne
        · rwa [Function.update_self]
        · rw [Function.update_of_ne hne]
          exact hothers i
      · have hcount : last - n = (last - (n + 1)) + 1 := by omega
        rw [hcount, List.range'_succ, List.flatMap_cons, Function.update_self, hitems, hrest,
          Nat.add_sub_cancel]
        refine congrArg _ (congrArg List.flatten (List.map_congr_left fun i hi => ?_))
        have hne : i ≠ n := by
          have := (List.mem_range'_1.mp hi).1
          omega
        rw [Function.update_of_ne hne]

/-- Where every page up to the last is allowed, the pages of any orders can be collected. -/
theorem Crawl.of_pages (hanswers : Answers key rows size items hasNext allowed fetch)
    (hlast : IsLast size rows.length last) {arranged : Nat → List α}
    (harranged : ∀ i, Arranges key rows (arranged i)) : ∀ count n, n + count + 1 = last →
      (∀ i, n < i → i ≤ last → allowed i) → Crawl items hasNext fetch (n + 1)
        ((List.range' n (count + 1)).flatMap fun i => page size i (arranged i)) := by
  intro count
  induction count with
  | zero =>
      rintro n hn hallowed
      obtain ⟨p, hp, hitems⟩ := hanswers.2 (n + 1) (hallowed _ (by omega) (by omega)) _ (harranged n)
      rw [Nat.add_sub_cancel] at hitems
      have hno : hasNext p = false := by
        rw [(hanswers.1 _ _ hp).2.1, decide_eq_false_iff_not, Nat.not_lt]
        have := hlast.length_le
        rwa [← hn, Nat.add_zero] at this
      have hone : Crawl items hasNext fetch (n + 1) (items p) := .last hp hno
      simpa [hitems] using hone
  | succ count ih =>
      rintro n hn hallowed
      obtain ⟨p, hp, hitems⟩ := hanswers.2 (n + 1) (hallowed _ (by omega) (by omega)) _ (harranged n)
      rw [Nat.add_sub_cancel] at hitems
      have hmore : hasNext p = true := by
        rw [(hanswers.1 _ _ hp).2.1, decide_eq_true_iff]
        by_contra hge
        have := hlast.first (n + 1) (Nat.succ_pos n) (Nat.not_lt.mp hge)
        omega
      rw [List.range'_succ, List.flatMap_cons, ← hitems]
      exact .next hp hmore (ih (n + 1) (by omega) fun i hi hi' => hallowed i (by omega) hi')

/-- Collecting the pages gives every row exactly once, whatever order each page
is answered from, exactly where every page up to the last is allowed and no
class of tied rows lies across a page boundary. -/
theorem crawl_perm_iff (hrows : rows.Nodup) (hsize : 0 < size)
    (hanswers : Answers key rows size items hasNext allowed fetch) :
    ((∃ collected, Crawl items hasNext fetch 1 collected)
        ∧ ∀ collected, Crawl items hasNext fetch 1 collected → collected.Perm rows)
      ↔ (∀ n, (∀ i, 0 < i → i ≤ n → i * size < rows.length) → allowed (n + 1))
        ∧ ∀ n, ¬Straddles key rows (n * size) := by
  obtain ⟨last, hlast⟩ := IsLast.exists hsize rows.length
  have hpos := hlast.pos
  have hupTo : ∀ n, n < last ↔ ∀ i, 0 < i → i ≤ n → i * size < rows.length := by
    intro n
    constructor
    · intro hn i hi hin
      by_contra hge
      have := hlast.first i hi (Nat.not_lt.mp hge)
      omega
    · intro h
      by_contra hge
      exact absurd (h last hpos (Nat.not_lt.mp hge)) (Nat.not_lt.mpr hlast.length_le)
  have hrange : ∀ arranged : Nat → List α,
      ((List.range' 0 (last - 1 + 1)).flatMap fun i => page size i (arranged i))
        = (List.range last).flatMap fun i => page size i (arranged i) := by
    intro arranged
    rw [Nat.sub_add_cancel hpos, List.range_eq_range']
  constructor
  · rintro ⟨⟨collected, hcollected⟩, hperm⟩
    have hallowed := (hcollected.pages hanswers hlast 0 rfl hpos).1
    refine ⟨fun n hn => hallowed (n + 1) (Nat.succ_pos n) ((hupTo n).mpr hn), fun n => ?_⟩
    have hpages : ∀ arranged : Nat → List α, (∀ i, Arranges key rows (arranged i)) →
        ((List.range last).flatMap fun i => page size i (arranged i)).Perm rows := by
      intro arranged harranged
      have hcrawl := Crawl.of_pages hanswers hlast harranged (last - 1) 0 (by omega) hallowed
      rw [hrange] at hcrawl
      exact hperm _ hcrawl
    have hall := (pages_perm_iff hrows size last).mp hpages
    rcases Nat.lt_or_ge n last with hn | hn
    · exact hall.2 n hn
    · rintro ⟨x, -, -, hgt⟩
      have hend := Nat.mul_le_mul_right size hn
      have := hall.1
      have := hgt.trans_le List.countP_le_length
      omega
  · rintro ⟨hallowed, hnone⟩
    obtain ⟨base, hbase⟩ := Arranges.exists key rows
    refine ⟨⟨_, Crawl.of_pages hanswers hlast (fun _ => hbase) (last - 1) 0 (by omega) ?_⟩,
      fun collected hcollected => ?_⟩
    · intro i hi hi'
      obtain ⟨n, rfl⟩ := Nat.exists_eq_add_of_lt hi
      rw [Nat.zero_add] at hi' ⊢
      exact hallowed n ((hupTo n).mp (by omega))
    · obtain ⟨-, arranged, harranged, rfl⟩ := hcollected.pages hanswers hlast 0 rfl hpos
      rw [Nat.sub_zero, ← List.range_eq_range']
      exact (pages_perm_iff hrows size last).mpr ⟨hlast.length_le, fun n _ => hnone n⟩ arranged
        harranged

end Crawl

end Paging
