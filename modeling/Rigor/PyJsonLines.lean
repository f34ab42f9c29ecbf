import Rigor.PyJsonScan

/-!
# A JSON line behind a marker

A program prints a marker and the JSON text of an object; a reader takes
the last line that opens with the marker. The text between may hold line
boundaries that `splitlines` knows and the encoder leaves alone, and the
reader may see it cut, so that it decodes a fragment. `lastMarked_whole`
is the case without either; in the other case no string of what is decoded
was written by the program inside a literal (`loads_lastMarked`).
-/

namespace Py

/-- The last line that opens with the marker, without it. -/
def lastMarked (marker text : Str) : Option Str :=
  ((splitlines text).reverse.find? fun line => marker.isPrefixOf line).map
    (·.drop marker.length)

theorem lastMarked_spec {marker text x : Str} (h : lastMarked marker text = some x) :
    marker ++ x ∈ splitlines text := by
  rw [lastMarked, Option.map_eq_some_iff] at h
  obtain ⟨line, hfind, rfl⟩ := h
  obtain ⟨w, rfl⟩ := List.isPrefixOf_iff_prefix.mp (List.find?_some hfind)
  rw [List.drop_left]
  exact List.mem_reverse.mp (List.mem_of_find?_eq_some hfind)

/-- How a text is closed: not at all, by the newline of `print`, or by what
a cut character is replaced with. -/
inductive Closing : Str → Prop where
  | none : Closing []
  | newline : Closing [10]
  | replaced : Closing [0xFFFD]

theorem lastMarked_singleton (marker x : Str) {text : Str}
    (h : splitlines text = [marker ++ x]) : lastMarked marker text = some x := by
  have hpre : marker.isPrefixOf (marker ++ x) = true :=
    List.isPrefixOf_iff_prefix.mpr (List.prefix_append _ _)
  rw [lastMarked, h, List.reverse_singleton, List.find?_cons_of_pos hpre, Option.map_some,
    List.drop_left]

/-- A text of one line, with or without its newline. -/
theorem lastMarked_whole {marker x : Str} (hm : OneLine marker) (hx : OneLine x)
    (hne : marker ++ x ≠ []) :
    lastMarked marker (marker ++ x) = some x ∧ lastMarked marker (marker ++ x ++ [10]) = some x := by
  have hline : OneLine (marker ++ x) := oneLine_append.mpr ⟨hm, hx⟩
  exact ⟨lastMarked_singleton marker x (splitlines_of_no_break hline hne),
    lastMarked_singleton marker x (splitlines_append_break hline rfl (by decide))⟩

/-- A marked line behind a boundary in the text. -/
theorem lastMarked_later {marker u x : Str} {b : Nat} (hu : OneLine u) (hb : isLineBreak b = true)
    (hcr : b ≠ 13) (hm : OneLine (marker ++ x)) :
    lastMarked marker (u ++ b :: (marker ++ x ++ [10])) = some x := by
  have hpre : marker.isPrefixOf (marker ++ x) = true :=
    List.isPrefixOf_iff_prefix.mpr (List.prefix_append _ _)
  rw [lastMarked, splitlines_append_break hu hb hcr, splitlines_append_break hm rfl (by decide)]
  rw [show splitlines [] = [] from rfl, List.reverse_cons, List.reverse_singleton,
    List.singleton_append, List.find?_cons_of_pos hpre, Option.map_some, List.drop_left]

/-- Where one member stands in the text of an object. -/
theorem encodeMembers_append {F : Type} [Runtime F] (k : Str) (v : Json F)
    (y : Str × Json F) (after : List (Str × Json F)) :
    ∀ (x : Str × Json F) (before : List (Str × Json F)),
      Json.encodeMembers (x :: before ++ (k, v) :: y :: after)
        = (Json.encodeMembers (x :: before) ++ 44 :: (encodeString k ++ [58]))
          ++ (v.encode ++ 44 :: Json.encodeMembers (y :: after))
  | x, [] => by simp [Json.encodeMembers]
  | x, x' :: before => by
      have ih := encodeMembers_append k v y after x' before
      rw [List.cons_append] at ih
      rw [List.cons_append, List.cons_append, Json.encodeMembers, ih, Json.encodeMembers]
      simp

/-- A text that needs no escape. -/
theorem flatMap_escapeChar {s : Str} (h : ∀ c ∈ s, 32 ≤ c ∧ c ≠ 34 ∧ c ≠ 92) :
    s.flatMap escapeChar = s := by
  induction s with
  | nil => rfl
  | cons c s ih =>
      obtain ⟨⟨h32, h34, h92⟩, hs⟩ := List.forall_mem_cons.mp h
      have hc : escapeChar c = [c] := by
        rw [escapeChar, if_neg h34, if_neg h92, if_neg (by omega), if_neg (by omega),
          if_neg (by omega), if_neg (by omega), if_neg (by omega), if_neg (by omega)]
      rw [List.flatMap_cons, hc, ih hs, List.singleton_append]

/-! ## Fragments -/

/-- The text up to its first boundary. -/
def firstLine (t : Str) : Str := t.takeWhile fun c => !isLineBreak c

theorem firstLine_append {u t : Str} (hu : OneLine u) : firstLine (u ++ t) = u ++ firstLine t :=
  List.takeWhile_append_of_pos fun c hc => by rw [hu c hc]; rfl

theorem firstLine_break {c : Nat} {t : Str} (hc : isLineBreak c = true) :
    firstLine (c :: t) = [] :=
  List.takeWhile_cons_of_neg (by simp [hc])

theorem exists_first_break : ∀ {u : Str}, ¬OneLine u →
    ∃ a b w, u = a ++ b :: w ∧ OneLine a ∧ isLineBreak b = true
  | [], h => absurd nofun h
  | c :: u, h => by
      by_cases hc : isLineBreak c = true
      · exact ⟨[], c, u, rfl, nofun, hc⟩
      · have hcf : isLineBreak c = false := by simpa using hc
        obtain ⟨a, b, w, rfl, ha, hb⟩ := exists_first_break fun hu => h (oneLine_cons.mpr ⟨hcf, hu⟩)
        exact ⟨c :: a, b, w, rfl, oneLine_cons.mpr ⟨hcf, ha⟩, hb⟩

theorem Laid.snoc_replaced {m : Mode} {t : Str} (h : Laid m t) : Laid m (t ++ [0xFFFD]) := by
  obtain ⟨d, h⟩ := h
  refine ⟨d, ?_⟩
  induction t generalizing m d with
  | nil =>
      cases m with
      | between => exact ⟨.inr (by decide), trivial⟩
      | literal => exact ⟨trivial, trivial⟩
      | escaped => exact ⟨rfl, trivial⟩
  | cons c t ih => exact ⟨h.1, ih _ h.2⟩

theorem unfinished_snoc_replaced : ∀ {t : Str} {m : Mode} {d : Nat}, Unfinished m d t →
    Unfinished m d (t ++ [0xFFFD])
  | [], m, d, h => by
      cases m with
      | between => exact .inr (h.resolve_left fun h => h rfl)
      | literal => exact .inl (by decide)
      | escaped => exact .inl (by decide)
  | _ :: t, _, _, h => unfinished_snoc_replaced (t := t) h

section

variable {F : Type} [Runtime F]

/-- A first line that is cut short of the object's text does not decode. -/
theorem loads_first_line {kvs : List (Str × Json F)} {u t tail : Str}
    (henc : (Json.obj kvs).encode = u ++ t) (hne : u ≠ []) (hcut : t ≠ [] ∨ ¬OneLine u)
    (htail : Closing tail) (v : Json F) : loads (firstLine (u ++ tail)) ≠ .ok v := by
  by_cases hu : OneLine u
  · have ht := hcut.resolve_right (not_not.mpr hu)
    rw [firstLine_append hu]
    cases htail with
    | none => rw [show firstLine [] = [] from rfl, List.append_nil]; exact loads_cut henc ht v
    | newline =>
        rw [show firstLine [10] = [] from rfl, List.append_nil]; exact loads_cut henc ht v
    | replaced =>
        exact loads_unfinished (unfinished_snoc_replaced (unfinished_cut henc ht hne)) v
  · obtain ⟨a, b, w, rfl, ha, hb⟩ := exists_first_break hu
    rw [List.append_assoc, firstLine_append ha, List.cons_append, firstLine_break hb,
      List.append_nil]
    rw [List.append_assoc, List.cons_append] at henc
    exact loads_cut henc (List.cons_ne_nil _ _) v

/-- A boundary in the second of two texts, when the first has none. -/
theorem break_in_second {m u a w : Str} {c : Nat} (hm : OneLine m) (h : m ++ u = a ++ c :: w)
    (hc : isLineBreak c = true) : ∃ a', u = a' ++ c :: w := by
  rcases List.append_eq_append_iff.mp h with ⟨a', -, hu⟩ | ⟨r, hmr, hr⟩
  · exact ⟨a', hu⟩
  · cases r with
    | nil => exact ⟨[], hr.symm⟩
    | cons d r =>
        obtain ⟨rfl, -⟩ := List.cons.inj hr
        have := hm c (hmr ▸ List.mem_append_right _ (List.mem_cons_self ..))
        rw [this] at hc; cases hc

theorem Laid.of_prefix {m : Mode} {u t : Str} (h : Laid m t) (hu : u <+: t) : Laid m u := by
  obtain ⟨w, rfl⟩ := hu
  exact h.append.1

/-- Nothing follows a boundary in what closes a text. -/
theorem Closing.after_break {tail r w : Str} {c : Nat} (h : Closing tail)
    (heq : tail = r ++ c :: w) (hc : isLineBreak c = true) : w = [] := by
  cases h with
  | none => exact absurd heq.symm (by simp)
  | newline =>
      cases r with
      | nil => exact (List.cons.inj heq).2.symm
      | cons d r => exact absurd (List.cons.inj heq).2.symm (by simp)
  | replaced =>
      cases r with
      | nil => obtain ⟨rfl, -⟩ := List.cons.inj heq; cases hc
      | cons d r => exact absurd (List.cons.inj heq).2.symm (by simp)

/-- A later line opens inside a literal of the object's text, or is empty. -/
theorem laid_later_line {v : Json F} {marker u t tail a w line : Str} {c : Nat}
    (henc : v.encode = u ++ t) (hm : OneLine marker) (htail : Closing tail)
    (hs : marker ++ (u ++ tail) = a ++ c :: w) (hc : isLineBreak c = true)
    (hline : OneLine line) (hpre : line <+: w) : Laid .literal line ∨ line = [] := by
  obtain ⟨a', hu⟩ := break_in_second hm hs hc
  have closed : ∀ {r}, tail = r ++ c :: w → Laid .literal line ∨ line = [] := fun heq => by
    rw [htail.after_break heq hc] at hpre
    exact .inr (List.prefix_nil.mp hpre)
  rcases List.append_eq_append_iff.mp hu with ⟨r, -, htl⟩ | ⟨r, hur, hrw⟩
  · exact closed htl
  cases r with
  | nil => exact closed (r := []) hrw.symm
  | cons d r =>
      -- the boundary is one of the object's text
      obtain ⟨rfl, rfl⟩ := List.cons.inj hrw
      have hv := laid_encode v
      rw [henc, hur, List.append_assoc, List.cons_append] at hv
      have hrest := (hv.line_break hc).2.append.1
      cases htail with
      | none => exact .inl (hrest.of_prefix (List.append_nil r ▸ hpre))
      | newline =>
          rcases List.prefix_concat_iff.mp hpre with heq | hpre
          · have := hline 10 (heq ▸ List.mem_append_right _ (List.mem_cons_self ..))
            cases this
          · exact .inl (hrest.of_prefix hpre)
      | replaced => exact .inl (hrest.snoc_replaced.of_prefix hpre)

/-- **Fragments.** What is decoded behind a marker, when the object's text
is cut or holds a line boundary, has no string of the program's own. -/
theorem loads_lastMarked {kvs : List (Str × Json F)} {marker u t tail x : Str} {v : Json F}
    (hm : OneLine marker) (hplain : Plain marker) (hmne : marker ≠ [])
    (henc : (Json.obj kvs).encode = u ++ t) (hne : u ≠ []) (hcut : t ≠ [] ∨ ¬OneLine u)
    (htail : Closing tail) (hx : lastMarked marker (marker ++ (u ++ tail)) = some x)
    (hv : loads x = .ok v) : v.AllStrings fun s => ∀ c ∈ s, c ∈ structural := by
  have hmem := lastMarked_spec hx
  cases hls : splitlines (marker ++ (u ++ tail)) with
  | nil => rw [hls] at hmem; cases hmem
  | cons l ls =>
      have hfirst := splitlines_head hls
      have hline := splitlines_no_break hmem
      rw [hls] at hmem
      rcases List.mem_cons.mp hmem with heq | hlater
      · -- the head line: the object's text up to a cut or a boundary
        have hxeq : x = firstLine (u ++ tail) := by
          have h := heq.trans hfirst
          rw [show List.takeWhile (fun c => !isLineBreak c) = firstLine from rfl,
            firstLine_append hm] at h
          exact List.append_cancel_left h
        rw [hxeq] at hv
        exact absurd hv (loads_first_line henc hne hcut htail v)
      · obtain ⟨a, c, w, hs, hc, hpre⟩ := splitlines_tail hls hlater
        rcases laid_later_line henc hm htail hs hc hline hpre with hlaid | hnil
        · exact loads_inside (tracks_laid.out_append (d := 0) hplain hlaid) hv
        · exact absurd (List.append_eq_nil_iff.mp hnil).1 hmne

end

end Py
