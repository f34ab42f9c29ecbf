import Mathlib.Algebra.GroupWithZero.Nat
import Mathlib.Data.List.TakeWhile

/-!
# Python text

The part of Python's `str` the protocol code relies on: code points,
white space and `strip`, `splitlines`, and the sizes of the UTF-8
encodings. A `str` is its list of code points, lone surrogates included,
so it is not Lean's `String`; a `String` literal coerces to one.

The `splitlines` facts come in two forms: a text without a line boundary
is its own single line, and every later line of a text is a piece of it
that begins right after a boundary (`splitlines_tail`).
-/

namespace Py

/-- A Python `str`: its code points, lone surrogates included. -/
abbrev Str := List Nat

/-- The code points of a literal. -/
def Str.ofString (s : String) : Str := s.toList.map Char.toNat

instance : Coe String Str := ⟨Str.ofString⟩

instance : HAppend Str String Str := ⟨fun s t => List.append s (Str.ofString t)⟩

-- stated here, so that a decided membership is the same term in every module
instance : LawfulBEq Str := inferInstance

instance : LawfulBEq (Str × Str) := inferInstance

/-! ## White space -/

/-- `str.isspace` on one code point. -/
def isSpace (c : Nat) : Bool :=
  (9 ≤ c && c ≤ 13) || (28 ≤ c && c ≤ 32) || c == 0x85 || c == 0xA0
    || c == 0x1680 || (0x2000 ≤ c && c ≤ 0x200A) || c == 0x2028
    || c == 0x2029 || c == 0x202F || c == 0x205F || c == 0x3000

/-- `str.strip()`. -/
def strip (s : Str) : Str :=
  ((s.dropWhile isSpace).reverse.dropWhile isSpace).reverse

/-- `not s.strip()`: the text is empty or white space only. -/
def isBlank (s : Str) : Bool := (strip s).isEmpty

/-! ## UTF-8 sizes -/

def isSurrogate (c : Nat) : Bool := 0xD800 ≤ c && c ≤ 0xDFFF

/-- `s.encode("utf-8")` succeeds: no lone surrogate. -/
def isEncodable (s : Str) : Bool := s.all fun c => !isSurrogate c

/-- Bytes one code point takes; `errors="replace"` writes `?` for a
surrogate. -/
def utf8Size (c : Nat) : Nat :=
  if c < 0x80 then 1 else if c < 0x800 then 2
  else if isSurrogate c then 1 else if c < 0x10000 then 3 else 4

/-- `len(s.encode("utf-8", errors="replace"))`. -/
def utf8Len (s : Str) : Nat := (s.map utf8Size).sum

theorem utf8Len_append (s t : Str) : utf8Len (s ++ t) = utf8Len s + utf8Len t := by
  simp [utf8Len]

/-! ## Lines -/

/-- The line boundaries of `str.splitlines`. -/
def isLineBreak (c : Nat) : Bool :=
  (10 ≤ c && c ≤ 13) || (28 ≤ c && c ≤ 30) || c == 0x85
    || c == 0x2028 || c == 0x2029

/-- `str.splitlines()`: `\r\n` is one boundary, and a boundary at the end
opens no further line. -/
def splitlines : Str → List Str
  | [] => []
  | 13 :: 10 :: t => [] :: splitlines t
  | c :: t =>
      if isLineBreak c then [] :: splitlines t
      else match splitlines t with
        | [] => [[c]]
        | l :: ls => (c :: l) :: ls

theorem splitlines_cons_of_not_break {c : Nat} {t : Str}
    (h : isLineBreak c = false) :
    splitlines (c :: t) = match splitlines t with
      | [] => [[c]]
      | l :: ls => (c :: l) :: ls := by
  have hc : c ≠ 13 := fun hc => by subst hc; cases h
  rw [splitlines]
  · rw [if_neg (by simp [h])]
  · intro t' h1 _; exact absurd h1 hc

/-- A text without a boundary is one line. -/
theorem splitlines_of_no_break {s : Str} (h : ∀ c ∈ s, isLineBreak c = false)
    (hne : s ≠ []) : splitlines s = [s] := by
  induction s with
  | nil => exact absurd rfl hne
  | cons c t ih =>
      rw [splitlines_cons_of_not_break (h c (List.mem_cons_self ..))]
      cases t with
      | nil => rfl
      | cons d t' =>
          rw [ih (fun x hx => h x (List.mem_cons_of_mem _ hx)) (List.cons_ne_nil _ _)]

theorem splitlines_ne_nil (c : Nat) (t : Str) : splitlines (c :: t) ≠ [] := by
  rw [splitlines.eq_def]
  split
  · rename_i heq; cases heq
  · exact List.cons_ne_nil _ _
  · split_ifs
    · exact List.cons_ne_nil _ _
    · split <;> exact List.cons_ne_nil _ _

/-- No line holds a boundary. -/
theorem splitlines_no_break : ∀ {s l : Str}, l ∈ splitlines s →
    ∀ c ∈ l, isLineBreak c = false
  | [], _, h => by cases h
  | c :: t, l, h => by
      rw [splitlines.eq_def] at h
      split at h
      · rename_i heq; cases heq
      · rename_i u heq
        obtain ⟨rfl, rfl⟩ := List.cons.inj heq
        rcases List.mem_cons.mp h with rfl | h
        · nofun
        · exact splitlines_no_break h
      · rename_i c' u _ heq
        obtain ⟨rfl, rfl⟩ := List.cons.inj heq
        split_ifs at h with hb
        · rcases List.mem_cons.mp h with rfl | h
          · nofun
          · exact splitlines_no_break h
        · have hc : isLineBreak c = false := by simpa using hb
          split at h
          · rw [List.mem_singleton.mp h]
            exact fun x hx => List.mem_singleton.mp hx ▸ hc
          · rename_i l0 ls hls
            rcases List.mem_cons.mp h with rfl | h
            · refine List.forall_mem_cons.mpr ⟨hc, splitlines_no_break (s := t) ?_⟩
              rw [hls]; exact List.mem_cons_self ..
            · exact splitlines_no_break (s := t) (by rw [hls]; exact List.mem_cons_of_mem _ h)
termination_by s => s.length

/-- Every line is a prefix of what follows a boundary, or of the text: the
head line of the text, the others of a suffix opened by a boundary. -/
theorem splitlines_pieces : ∀ {s : Str} {l : Str} {ls : List Str},
    splitlines s = l :: ls →
      l <+: s ∧ ∀ l' ∈ ls, ∃ A b B, s = A ++ b :: B ∧ isLineBreak b = true ∧ l' <+: B
  | [], _, _, h => by cases h
  | c :: t, l, ls, h => by
      -- what the boundary case leaves: the lines of a shorter text `u`
      have lines_of : ∀ {u : Str} (pre : Str) {b : Nat}, isLineBreak b = true →
          c :: t = pre ++ b :: u → splitlines u = ls → [] = l →
          (∀ {l0 : Str} {ls0 : List Str}, splitlines u = l0 :: ls0 →
            l0 <+: u ∧ ∀ l' ∈ ls0, ∃ A b B, u = A ++ b :: B
              ∧ isLineBreak b = true ∧ l' <+: B) →
          l <+: c :: t ∧ ∀ l' ∈ ls, ∃ A b B, c :: t = A ++ b :: B
            ∧ isLineBreak b = true ∧ l' <+: B := by
        intro u pre b hb hs hu hl ih
        refine ⟨hl ▸ List.nil_prefix, fun l' hl' => ?_⟩
        cases hls : splitlines u with
        | nil => rw [← hu, hls] at hl'; cases hl'
        | cons l0 ls0 =>
            obtain ⟨hpre, hrest⟩ := ih hls
            rw [← hu, hls] at hl'
            rcases List.mem_cons.mp hl' with rfl | hmem
            · exact ⟨pre, b, u, hs, hb, hpre⟩
            · obtain ⟨A, b', B, hu', hb', hp⟩ := hrest l' hmem
              exact ⟨pre ++ b :: A, b', B, by rw [hs, hu']; simp, hb', hp⟩
      rw [splitlines.eq_def] at h
      split at h
      · rename_i heq; cases heq
      · rename_i u heq
        obtain ⟨rfl, rfl⟩ := List.cons.inj heq
        obtain ⟨hl, hls⟩ := List.cons.inj h
        exact lines_of [13] (b := 10) rfl rfl hls hl splitlines_pieces
      · rename_i c' u _ heq
        obtain ⟨rfl, rfl⟩ := List.cons.inj heq
        split at h
        · rename_i hb
          obtain ⟨hl, hls⟩ := List.cons.inj h
          exact lines_of [] hb rfl hls hl splitlines_pieces
        · cases hls : splitlines t with
          | nil =>
              rw [hls] at h
              obtain ⟨rfl, rfl⟩ := List.cons.inj h
              exact ⟨⟨t, rfl⟩, fun l' hl' => by cases hl'⟩
          | cons l0 ls0 =>
              rw [hls] at h
              obtain ⟨rfl, rfl⟩ := List.cons.inj h
              obtain ⟨hpre, hrest⟩ := splitlines_pieces hls
              refine ⟨List.cons_prefix_cons.mpr ⟨rfl, hpre⟩, fun l' hl' => ?_⟩
              obtain ⟨A, b, B, ht, hb, hp⟩ := hrest l' hl'
              exact ⟨c :: A, b, B, by rw [ht]; rfl, hb, hp⟩
termination_by s => s.length

/-- A later line of a text begins right after a boundary. -/
theorem splitlines_tail {s l : Str} {l0 : Str} {ls : List Str}
    (hs : splitlines s = l0 :: ls) (hl : l ∈ ls) :
    ∃ A b B, s = A ++ b :: B ∧ isLineBreak b = true ∧ l <+: B :=
  (splitlines_pieces hs).2 l hl

/-- The first line stops at the first boundary. -/
theorem splitlines_head : ∀ {s l : Str} {ls : List Str}, splitlines s = l :: ls →
    l = s.takeWhile fun c => !isLineBreak c
  | [], _, _, h => by cases h
  | c :: t, l, ls, h => by
      by_cases hb : isLineBreak c = true
      · rw [List.takeWhile_cons_of_neg (by simp [hb])]
        rw [splitlines.eq_def] at h
        split at h
        · rename_i heq; cases heq
        · exact (List.cons.inj h).1.symm
        · rename_i heq
          obtain ⟨rfl, rfl⟩ := List.cons.inj heq
          rw [if_pos hb] at h
          exact (List.cons.inj h).1.symm
      · have hc : isLineBreak c = false := by simpa using hb
        rw [List.takeWhile_cons_of_pos (by simp [hc])]
        rw [splitlines_cons_of_not_break hc] at h
        cases hls : splitlines t with
        | nil =>
            rw [hls] at h
            obtain ⟨rfl, -⟩ := List.cons.inj h
            cases t with
            | nil => rfl
            | cons d t => exact absurd hls (splitlines_ne_nil d t)
        | cons l0 ls0 =>
            rw [hls] at h
            rw [← (List.cons.inj h).1, splitlines_head hls]

theorem splitlines_append_break {a t : Str} {b : Nat}
    (ha : ∀ c ∈ a, isLineBreak c = false) (hb : isLineBreak b = true) (hcr : b ≠ 13) :
    splitlines (a ++ b :: t) = a :: splitlines t := by
  induction a with
  | nil =>
      rw [List.nil_append, splitlines]
      · rw [if_pos hb]
      · intro t' h1 _; exact absurd h1 hcr
  | cons c a ih =>
      rw [List.cons_append,
        splitlines_cons_of_not_break (ha c (List.mem_cons_self ..)),
        ih (fun x hx => ha x (List.mem_cons_of_mem _ hx))]

end Py
