import Rigor.PyJsonRoundTrip

/-!
# The canonical text of a request

`json.dumps` with its default `ensure_ascii=True`, as
`execution_request_hash` uses it on five strings: a string literal is read
back by the decoder (`scanString_asciiBody`), so that two requests with one
canonical text are one request.
-/

namespace Py

/-- `\uXXXX`. -/
def unicodeEscape (n : Nat) : Str := 92 :: 117 :: hexText 4 n

/-- One code point inside an ASCII string literal. -/
def asciiChar (c : Nat) : Str :=
  if c = 34 then [92, 34]
  else if c = 92 then [92, 92]
  else if c = 10 then [92, 110]
  else if c = 13 then [92, 114]
  else if c = 9 then [92, 116]
  else if c = 12 then [92, 102]
  else if c = 8 then [92, 98]
  else if 32 ≤ c ∧ c ≤ 126 then [c]
  else if c < 0x10000 then unicodeEscape c
  else
    unicodeEscape (0xD800 + (c - 0x10000) / 0x400 % 0x400)
      ++ unicodeEscape (0xDC00 + (c - 0x10000) % 0x400)

def asciiBody (s : Str) : Str := s.flatMap asciiChar

/-- `json.dumps(s)`. -/
def asciiString (s : Str) : Str := 34 :: (asciiBody s ++ [34])

/-- The text is made of Unicode scalar values. -/
def IsScalar (s : Str) : Prop := ∀ c ∈ s, c < 0x110000 ∧ isSurrogate c = false

instance (s : Str) : Decidable (IsScalar s) :=
  inferInstanceAs (Decidable (∀ c ∈ s, c < 0x110000 ∧ isSurrogate c = false))

/-- A literal is made of scalar values. -/
theorem isScalar_ofString (s : String) : IsScalar (Str.ofString s) := by
  intro c hc
  obtain ⟨char, -, rfl⟩ := List.mem_map.mp hc
  have hvalid : char.toNat < 0xD800 ∨ 0xDFFF < char.toNat ∧ char.toNat < 0x110000 := char.valid
  refine ⟨by omega, ?_⟩
  rw [isSurrogate, Bool.and_eq_false_iff, decide_eq_false_iff_not, decide_eq_false_iff_not]
  omega

theorem hexText_four (n : Nat) :
    hexText 4 n = [hexDigit (n / 4096 % 16), hexDigit (n / 256 % 16), hexDigit (n / 16 % 16),
      hexDigit (n % 16)] := by
  simp only [hexText, List.nil_append, List.cons_append, Nat.div_div_eq_div_mul]

theorem hex4_hexText {n : Nat} (h : n < 0x10000) :
    hex4 (hexDigit (n / 4096 % 16)) (hexDigit (n / 256 % 16)) (hexDigit (n / 16 % 16))
      (hexDigit (n % 16)) = some n := by
  have hdigit : ∀ m, hexValue (hexDigit (m % 16)) = some (m % 16) := fun m =>
    hexValue_hexDigit _ (Nat.mod_lt m (by decide))
  rw [hex4, hdigit, hdigit, hdigit, hdigit]
  change some _ = some n
  congr 1
  omega

theorem scanString_unicodeEscape {n : Nat} (h : n < 0x10000) (t : Str) :
    scanString (unicodeEscape n ++ t)
      = (scanString t).map fun (s, r) => (joinSurrogate n t s, r) := by
  rw [unicodeEscape, hexText_four]
  exact scanString_unicode (hex4_hexText h) t

theorem unicodeEscape?_unicodeEscape {n : Nat} (h : n < 0x10000) (t : Str) :
    unicodeEscape? (unicodeEscape n ++ t) = some n := by
  rw [unicodeEscape, hexText_four]
  exact hex4_hexText h

/-- A code unit that is not a high surrogate joins nothing. -/
theorem joinSurrogate_of_not_high {u : Nat} (h : u < 0xD800 ∨ 0xDBFF < u) (t s : Str) :
    joinSurrogate u t s = u :: s := by
  rw [joinSurrogate.eq_def]
  split
  · rw [if_neg (by omega)]
  · rfl

/-- A high surrogate joins the low one that follows as an escape. -/
theorem joinSurrogate_pair {u v : Nat} (hu : 0xD800 ≤ u ∧ u ≤ 0xDBFF)
    (hv : 0xDC00 ≤ v ∧ v ≤ 0xDFFF) (t s : Str) :
    joinSurrogate u (unicodeEscape v ++ t) (v :: s)
      = (0x10000 + (u - 0xD800) * 0x400 + (v - 0xDC00)) :: s := by
  rw [joinSurrogate.eq_def, unicodeEscape?_unicodeEscape (by omega)]
  exact if_pos ⟨hu.1, hu.2, hv⟩

/-- A code point is escaped by a letter, stands for itself or is written by
its code units. -/
theorem asciiChar_cases (c : Nat) :
    (∃ e, e ≠ 117 ∧ unescape e = some c ∧ asciiChar c = [92, e])
      ∨ (c ≠ 34 ∧ c ≠ 92 ∧ ¬c < 32 ∧ asciiChar c = [c])
      ∨ (c < 0x10000 ∧ asciiChar c = unicodeEscape c)
      ∨ (¬c < 0x10000 ∧ asciiChar c = unicodeEscape (0xD800 + (c - 0x10000) / 0x400 % 0x400)
          ++ unicodeEscape (0xDC00 + (c - 0x10000) % 0x400)) := by
  by_cases hletter : c = 34 ∨ c = 92 ∨ c = 10 ∨ c = 13 ∨ c = 9 ∨ c = 12 ∨ c = 8
  · refine .inl ?_
    rcases hletter with rfl | rfl | rfl | rfl | rfl | rfl | rfl <;>
      exact ⟨_, ne_of_beq_false rfl, rfl, rfl⟩
  · simp only [not_or] at hletter
    obtain ⟨h34, h92, h10, h13, h9, h12, h8⟩ := hletter
    rw [asciiChar, if_neg h34, if_neg h92, if_neg h10, if_neg h13, if_neg h9, if_neg h12, if_neg h8]
    by_cases hplain : 32 ≤ c ∧ c ≤ 126
    · rw [if_pos hplain]
      exact .inr (.inl ⟨h34, h92, Nat.not_lt.mpr hplain.1, rfl⟩)
    · rw [if_neg hplain]
      by_cases hbmp : c < 0x10000
      · rw [if_pos hbmp]
        exact .inr (.inr (.inl ⟨hbmp, rfl⟩))
      · rw [if_neg hbmp]
        exact .inr (.inr (.inr ⟨hbmp, rfl⟩))

/-- The decoder reads one character, whatever follows. -/
theorem scanString_asciiChar_ok (c : Nat) {t s r : Str} (h : scanString t = .ok (s, r)) :
    ∃ s', scanString (asciiChar c ++ t) = .ok (s', r) := by
  rcases asciiChar_cases c with ⟨e, he, hx, heq⟩ | ⟨h34, h92, h32, heq⟩ | ⟨hbmp, heq⟩ | ⟨-, heq⟩
  · exact ⟨_, by rw [heq]; exact (scanString_unescape he hx t).trans (by rw [h]; rfl)⟩
  · exact ⟨_, by rw [heq]; exact (scanString_plain h34 h92 h32 t).trans (by rw [h]; rfl)⟩
  · exact ⟨_, by rw [heq]; exact (scanString_unicodeEscape hbmp t).trans (by rw [h]; rfl)⟩
  · have hlow := scanString_unicodeEscape (n := 0xDC00 + (c - 0x10000) % 0x400) (by omega) t
    rw [h] at hlow
    rw [heq, List.append_assoc, scanString_unicodeEscape (by omega), hlow]
    exact ⟨_, rfl⟩

/-- The decoder reads a scalar value back. -/
theorem scanString_asciiChar {c : Nat} (hc : c < 0x110000) (hscalar : isSurrogate c = false)
    (t : Str) : scanString (asciiChar c ++ t) = (scanString t).map fun (s, r) => (c :: s, r) := by
  have hbmp : c < 0xD800 ∨ 0xDFFF < c := by
    simp only [isSurrogate, Bool.and_eq_false_iff, decide_eq_false_iff_not] at hscalar
    omega
  rcases asciiChar_cases c with
    ⟨e, he, hx, heq⟩ | ⟨h34, h92, h32, heq⟩ | ⟨hsmall, heq⟩ | ⟨hlarge, heq⟩
  · rw [heq]
    exact scanString_unescape he hx t
  · rw [heq]
    exact scanString_plain h34 h92 h32 t
  · rw [heq, scanString_unicodeEscape hsmall]
    cases scanString t with
    | error e => rfl
    | ok p =>
        change Except.ok (joinSurrogate c t p.1, p.2) = _
        rw [joinSurrogate_of_not_high (by omega)]
        rfl
  · generalize hu : 0xD800 + (c - 0x10000) / 0x400 % 0x400 = u at heq
    generalize hv : 0xDC00 + (c - 0x10000) % 0x400 = v at heq
    have hhigh : 0xD800 ≤ u ∧ u ≤ 0xDBFF := by omega
    have hlow : 0xDC00 ≤ v ∧ v ≤ 0xDFFF := by omega
    have hvalue : 0x10000 + (u - 0xD800) * 0x400 + (v - 0xDC00) = c := by omega
    rw [heq, List.append_assoc, scanString_unicodeEscape (by omega),
      scanString_unicodeEscape (by omega)]
    cases scanString t with
    | error e => simp only [Except.map]
    | ok p =>
        simp only [Except.map, joinSurrogate_of_not_high (.inr (by omega : 0xDBFF < v)),
          joinSurrogate_pair hhigh hlow, hvalue]

theorem scanString_asciiBody_ok : ∀ (s rest : Str),
    ∃ s', scanString (asciiBody s ++ 34 :: rest) = .ok (s', rest)
  | [], rest => ⟨[], scanString_quote rest⟩
  | c :: s, rest => by
      obtain ⟨s', hs'⟩ := scanString_asciiBody_ok s rest
      rw [asciiBody, List.flatMap_cons, List.append_assoc]
      exact scanString_asciiChar_ok c hs'

theorem scanString_asciiBody : ∀ {s : Str}, IsScalar s → ∀ rest : Str,
    scanString (asciiBody s ++ 34 :: rest) = .ok (s, rest)
  | [], _, rest => scanString_quote rest
  | c :: s, h, rest => by
      obtain ⟨⟨hc, hscalar⟩, hs⟩ := List.forall_mem_cons.mp h
      rw [asciiBody, List.flatMap_cons, List.append_assoc, scanString_asciiChar hc hscalar]
      have ih := scanString_asciiBody hs rest
      rw [asciiBody] at ih
      rw [ih]
      rfl

/-- One literal is not the start of another. -/
theorem asciiString_append_rest {s s' rest rest' : Str}
    (h : asciiString s ++ rest = asciiString s' ++ rest') : rest = rest' := by
  simp only [asciiString, List.cons_append, List.append_assoc, List.nil_append, List.cons.injEq,
    true_and] at h
  obtain ⟨a, ha⟩ := scanString_asciiBody_ok s rest
  obtain ⟨b, hb⟩ := scanString_asciiBody_ok s' rest'
  rw [h, hb] at ha
  cases ha; rfl

theorem asciiString_append_inj {s s' rest rest' : Str} (hs : IsScalar s) (hs' : IsScalar s')
    (h : asciiString s ++ rest = asciiString s' ++ rest') : s = s' ∧ rest = rest' := by
  simp only [asciiString, List.cons_append, List.append_assoc, List.nil_append, List.cons.injEq,
    true_and] at h
  have ha := scanString_asciiBody hs rest
  rw [h, scanString_asciiBody hs' rest'] at ha
  cases ha; exact ⟨rfl, rfl⟩

end Py
