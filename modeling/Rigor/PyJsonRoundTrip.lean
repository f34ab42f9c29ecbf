import Mathlib.Data.Nat.Digits.Lemmas
import Rigor.PyJson

/-!
# JSON round trip

The decoder inverts the encoder: `loads (encode v) = v` for every value
the encoder prints (`loads_encode_of_distinct`), up to repeated keys
(`loads_encode`).

The induction is over the value, with the text that follows it
generalized: a number ends where the text `Stops`, so each case is stated
for `encode v ++ rest`.
-/

namespace Py

/-! ## Digits -/

theorem natText_digits (n : Nat) : ∀ c ∈ natText n, isDigit c = true := by
  unfold natText
  split_ifs with h
  · intro c hc; rw [List.mem_singleton.mp hc]; rfl
  · intro c hc
    obtain ⟨d, hd, rfl⟩ := List.mem_map.mp (List.mem_reverse.mp hc)
    have := Nat.digits_lt_base (by decide : 1 < 10) hd
    simp only [isDigit, Bool.and_eq_true, decide_eq_true_eq]
    omega

/-- No leading zero, except for zero itself. -/
theorem natText_shape (n : Nat) :
    natText n = [48] ∨ ∃ d ds, natText n = d :: ds ∧ d ≠ 48 := by
  by_cases h : n = 0
  · left; simp [natText, h]
  · right
    cases hd : natText n with
    | nil => exact absurd hd (natText_ne_nil n)
    | cons d ds =>
        refine ⟨d, ds, rfl, fun h48 => ?_⟩
        rw [natText, if_neg h] at hd
        have hne : Nat.digits 10 n ≠ [] := Nat.digits_ne_nil_iff_ne_zero.mpr h
        have hlast := Nat.getLast_digit_ne_zero 10 h
        have hhead : ((Nat.digits 10 n).map (· + 48)).getLast? = some d := by
          rw [← List.head?_reverse, hd]; rfl
        rw [List.getLast?_map, List.getLast?_eq_getLast_of_ne_nil hne] at hhead
        simp only [Option.map_some, Option.some.injEq] at hhead
        omega

theorem natOfDigits_natText (n : Nat) : natOfDigits (natText n) = n := by
  unfold natOfDigits natText
  split_ifs with h
  · simp [h]
  · rw [List.reverse_reverse, List.map_map]
    have hid : ((· - 48) ∘ (· + 48) : Nat → Nat) = id := by funext d; simp
    rw [hid, List.map_id, Nat.ofDigits_digits]

theorem intText_cases (n : Int) :
    (intText n = natText n.natAbs ∧ 0 ≤ n)
      ∨ (intText n = 45 :: natText n.natAbs ∧ n < 0) := by
  cases n with
  | ofNat n => exact .inl ⟨rfl, Int.natCast_nonneg n⟩
  | negSucc n => exact .inr ⟨rfl, Int.negSucc_lt_zero n⟩

theorem readInt_intText (n : Int) : readInt (intText n) = n := by
  rcases intText_cases n with ⟨h, hn⟩ | ⟨h, hn⟩
  · rw [h, readInt]
    · rw [natOfDigits_natText]; omega
    · intro ds hds
      have := natText_digits n.natAbs 45 (hds ▸ List.mem_cons_self ..)
      cases this
  · rw [h, readInt, natOfDigits_natText]; omega

theorem digitCount_intText (n : Int) :
    ((intText n).filter isDigit).length = digitCount n := by
  have hall : (natText n.natAbs).filter isDigit = natText n.natAbs :=
    List.filter_eq_self.mpr (natText_digits _)
  rcases intText_cases n with ⟨h, -⟩ | ⟨h, -⟩
  · rw [h, hall]; rfl
  · rw [h, List.filter_cons_of_neg (by decide), hall]; rfl

/-! ## Numbers -/

/-- The text goes on with a separator or a closing bracket, or ends. -/
def Stops (rest : Str) : Prop := ∀ c t, rest = c :: t → c = 44 ∨ c = 93 ∨ c = 125

theorem Stops.nil : Stops [] := fun _ _ h => by cases h

theorem Stops.cons {c : Nat} {t : Str} (h : c = 44 ∨ c = 93 ∨ c = 125) : Stops (c :: t) :=
  fun _ _ heq => by obtain ⟨rfl, -⟩ := List.cons.inj heq; exact h

/-- The text does not go on with a digit. -/
def NoDigit (rest : Str) : Prop := ∀ c t, rest = c :: t → isDigit c = false

theorem Stops.noDigit {rest : Str} (h : Stops rest) : NoDigit rest := fun c t heq => by
  rcases h c t heq with rfl | rfl | rfl <;> rfl

theorem takeWhile_digits {ds rest : Str} (hd : ∀ c ∈ ds, isDigit c = true)
    (hr : NoDigit rest) :
    (ds ++ rest).takeWhile isDigit = ds ∧ (ds ++ rest).dropWhile isDigit = rest := by
  have hrest : rest.takeWhile isDigit = [] ∧ rest.dropWhile isDigit = rest := by
    cases rest with
    | nil => exact ⟨rfl, rfl⟩
    | cons c t => simp [hr c t rfl]
  rw [List.takeWhile_append_of_pos hd, List.dropWhile_append_of_pos hd, hrest.1, hrest.2]
  exact ⟨List.append_nil _, rfl⟩

/-- Digits of an integer part: `0`, or no leading zero. -/
def IntPart (ds : Str) : Prop :=
  ds = [48] ∨ ∃ d t, ds = d :: t ∧ d ≠ 48 ∧ ∀ c ∈ ds, isDigit c = true

theorem intPart_natText (n : Nat) : IntPart (natText n) := by
  rcases natText_shape n with h | ⟨d, t, h, hd⟩
  · exact .inl h
  · exact .inr ⟨d, t, h, hd, natText_digits n⟩

theorem IntPart.head {ds : Str} (h : IntPart ds) : ∃ d t, ds = d :: t ∧ isDigit d = true := by
  rcases h with rfl | ⟨d, t, rfl, -, hall⟩
  · exact ⟨48, [], rfl, rfl⟩
  · exact ⟨d, t, rfl, hall d (List.mem_cons_self ..)⟩

theorem scanUnsigned_append {ds rest : Str} (sign : Str) (hds : IntPart ds)
    (hr : NoDigit rest) : scanUnsigned sign (ds ++ rest) = some (sign ++ ds, rest) := by
  rcases hds with rfl | ⟨d, t, rfl, hd, hall⟩
  · rfl
  · obtain ⟨h1, h2⟩ := takeWhile_digits (fun c hc => hall c (List.mem_cons_of_mem _ hc)) hr
    rw [List.cons_append, scanUnsigned, if_neg hd, if_pos (hall d (List.mem_cons_self ..)),
      h1, h2]

theorem scanInt_append (neg : Bool) {ds rest : Str} (hds : IntPart ds) (hr : NoDigit rest) :
    scanInt ((if neg then [45] else []) ++ ds ++ rest)
      = some ((if neg then [45] else []) ++ ds, rest) := by
  cases neg with
  | true => exact scanUnsigned_append [45] hds hr
  | false =>
      obtain ⟨d, t, hd, hdig⟩ := hds.head
      have h45 : d ≠ 45 := fun h => by subst h; cases hdig
      have h := scanUnsigned_append [] hds hr
      rw [hd] at h ⊢
      simpa [scanInt, h45] using h

theorem scanFrac_of_head {t : Str} (h : ∀ u, t ≠ 46 :: u) : scanFrac t = ([], t) := by
  rw [scanFrac]
  intro u hu; exact absurd hu (h u)

theorem scanExp_of_stops {t : Str} (h : Stops t) : scanExp t = ([], t) := by
  cases t with
  | nil => rfl
  | cons m u =>
      have hm : ¬(m = 101 ∨ m = 69) := by rcases h m u rfl with rfl | rfl | rfl <;> decide
      rw [scanExp, if_neg hm]

theorem Stops.no_dot {t : Str} (h : Stops t) : ∀ u, t ≠ 46 :: u := fun u hu => by
  rcases h 46 u hu with h | h | h <;> cases h

theorem scanFrac_append {ds rest : Str} (hne : ds ≠ []) (hd : ∀ c ∈ ds, isDigit c = true)
    (hr : NoDigit rest) : scanFrac (46 :: ds ++ rest) = (46 :: ds, rest) := by
  obtain ⟨h1, h2⟩ := takeWhile_digits hd hr
  rw [List.cons_append, scanFrac, h1, h2, if_neg]
  simpa using hne

theorem expSign_append {s ds rest : Str} (hs : s = [] ∨ s = [43] ∨ s = [45]) (hne : ds ≠ [])
    (hd : ∀ c ∈ ds, isDigit c = true) : expSign (s ++ ds ++ rest) = (s, ds ++ rest) := by
  rcases hs with rfl | rfl | rfl
  · obtain ⟨d, t, rfl⟩ := List.exists_cons_of_ne_nil hne
    have hdig := hd d (List.mem_cons_self ..)
    have hsign : ¬(d = 43 ∨ d = 45) := by rintro (rfl | rfl) <;> cases hdig
    rw [List.nil_append, List.cons_append, expSign, if_neg hsign]
  · rfl
  · rfl

theorem scanExp_append {m : Nat} {s ds rest : Str} (hm : m = 101 ∨ m = 69)
    (hs : s = [] ∨ s = [43] ∨ s = [45]) (hne : ds ≠ [])
    (hd : ∀ c ∈ ds, isDigit c = true) (hr : NoDigit rest) :
    scanExp (m :: (s ++ ds) ++ rest) = (m :: (s ++ ds), rest) := by
  obtain ⟨h1, h2⟩ := takeWhile_digits hd hr
  rw [List.cons_append, scanExp, if_pos hm, expSign_append hs hne hd, h1, h2, if_neg]
  simpa using hne

section

variable {F : Type} [Runtime F]

theorem scanNumber_intText {n : Int} {rest : Str}
    (hn : digitCount n ≤ Runtime.maxStrDigits F) (hr : Stops rest) :
    scanNumber (F := F) (intText n ++ rest) = .ok (.int n, rest) := by
  have hi : scanInt (intText n ++ rest) = some (intText n, rest) := by
    rcases intText_cases n with ⟨h, -⟩ | ⟨h, -⟩
    · rw [h]; exact scanInt_append false (intPart_natText _) hr.noDigit
    · rw [h]; exact scanInt_append true (intPart_natText _) hr.noDigit
  rw [scanNumber, hi]
  simp only [scanFrac_of_head hr.no_dot, scanExp_of_stops hr, List.isEmpty_nil,
    Bool.and_self, if_true, digitCount_intText]
  rw [if_neg (Nat.not_lt.mpr hn), readInt_intText]

/-- What follows a part of a float literal does not extend its digits. -/
theorem FloatLit.noDigit_exp (l : FloatLit) {rest : Str} (hr : NoDigit rest) :
    NoDigit (l.exp ++ rest) := by
  rcases l.exp_ok with h | ⟨m, s, ds, h, hm, -⟩
  · rw [h]; exact hr
  · rw [h]
    intro c t heq
    obtain ⟨rfl, -⟩ := List.cons.inj heq
    rcases hm with rfl | rfl <;> rfl

theorem FloatLit.noDigit_frac (l : FloatLit) {rest : Str} (hr : NoDigit rest) :
    NoDigit (l.frac ++ (l.exp ++ rest)) := by
  rcases l.frac_ok with h | ⟨ds, h, -⟩
  · rw [h]; exact l.noDigit_exp hr
  · rw [h]
    intro c t heq
    obtain ⟨rfl, -⟩ := List.cons.inj heq
    rfl

theorem scanNumber_floatLit {l : FloatLit} {rest : Str} (hr : Stops rest) :
    scanNumber (F := F) (l.text ++ rest) = .ok (.float (Runtime.ofLiteral l.text), rest) := by
  have hi : scanInt (l.text ++ rest)
      = some ((if l.neg then [45] else []) ++ l.int, l.frac ++ (l.exp ++ rest)) := by
    have h := scanInt_append l.neg l.int_ok (l.noDigit_frac hr.noDigit)
    rw [← h, FloatLit.text]; simp
  have hf : scanFrac (l.frac ++ (l.exp ++ rest)) = (l.frac, l.exp ++ rest) := by
    rcases l.frac_ok with h | ⟨ds, h, hne, hd⟩
    · rw [h]
      refine scanFrac_of_head fun u hu => ?_
      rcases l.exp_ok with h' | ⟨m, s, ds, h', hm, -⟩
      · exact hr.no_dot u (by rw [h'] at hu; exact hu)
      · rw [h'] at hu
        obtain ⟨rfl, -⟩ := List.cons.inj hu
        rcases hm with h | h <;> cases h
    · rw [h]; exact scanFrac_append hne hd (l.noDigit_exp hr.noDigit)
  have he : scanExp (l.exp ++ rest) = (l.exp, rest) := by
    rcases l.exp_ok with h | ⟨m, s, ds, h, hm, hs, hne, hd⟩
    · rw [h]; exact scanExp_of_stops hr
    · rw [h]; exact scanExp_append hm hs hne hd hr.noDigit
  have hnot : (l.frac.isEmpty && l.exp.isEmpty) = false := by
    rcases l.isFloat with h | h <;> simp [h]
  rw [scanNumber, hi]
  simp only [hf, he, hnot, Bool.false_eq_true, if_false]
  rfl

/-! ## Words -/

theorem dropWord_append (word rest : Str) : dropWord word (word ++ rest) = some rest := by
  rw [dropWord, if_pos (by simp), List.drop_left]

/-- A word that differs from the text in its first code point is not there. -/
theorem dropWord_of_head_ne {w c : Nat} {word t : Str} (h : c ≠ w) :
    dropWord (w :: word) (c :: t) = none := by
  rw [dropWord, if_neg]
  simp [Ne.symm h]

/-- A text that opens like a number is scanned as one. -/
theorem scanScalar_number {c : Nat} {t : Str}
    (h : isDigit c = true ∨ (c = 45 ∧ ∃ d u, t = d :: u ∧ isDigit d = true)) :
    scanScalar (F := F) (c :: t) = scanNumber (c :: t) := by
  have hminus : dropWord (45 :: "Infinity") (c :: t) = none := by
    rcases h with h | ⟨rfl, d, u, rfl, hd⟩
    · refine dropWord_of_head_ne fun hc => ?_
      subst hc; cases h
    · rw [dropWord, if_neg]
      have hd73 : d ≠ 73 := fun hc => by subst hc; cases hd
      simp [Str.ofString, Ne.symm hd73]
  have hword : ∀ {w : Nat} {word : Str}, isDigit w = false → w ≠ 45 →
      dropWord (w :: word) (c :: t) = none := by
    intro w word hw hw45
    refine dropWord_of_head_ne fun hc => ?_
    rcases h with h | ⟨rfl, -⟩
    · rw [hc, hw] at h; cases h
    · exact hw45 hc.symm
  have hnull : dropWord "null" (c :: t) = none := hword (w := 110) rfl (by decide)
  have htrue : dropWord "true" (c :: t) = none := hword (w := 116) rfl (by decide)
  have hfalse : dropWord "false" (c :: t) = none := hword (w := 102) rfl (by decide)
  have hnan : dropWord "NaN" (c :: t) = none := hword (w := 78) rfl (by decide)
  have hinf : dropWord "Infinity" (c :: t) = none := hword (w := 73) rfl (by decide)
  have hneg : dropWord "-Infinity" (c :: t) = none := hminus
  rw [scanScalar, hnull, htrue, hfalse, hnan, hinf, hneg]

theorem scanScalar_null (rest : Str) :
    scanScalar (F := F) ("null" ++ rest) = .ok (.null, rest) := by
  rw [scanScalar, dropWord_append]

theorem scanScalar_true (rest : Str) :
    scanScalar (F := F) ("true" ++ rest) = .ok (.bool true, rest) := by
  have h : dropWord "null" ("true" ++ rest) = none := dropWord_of_head_ne (by decide)
  rw [scanScalar, h, dropWord_append]

theorem scanScalar_false (rest : Str) :
    scanScalar (F := F) ("false" ++ rest) = .ok (.bool false, rest) := by
  have h1 : dropWord "null" ("false" ++ rest) = none := dropWord_of_head_ne (by decide)
  have h2 : dropWord "true" ("false" ++ rest) = none := dropWord_of_head_ne (by decide)
  rw [scanScalar, h1, h2, dropWord_append]

theorem scanScalar_const (k : FloatConst) (rest : Str) :
    scanScalar (F := F) (k.text ++ rest) = .ok (.float (Runtime.ofConst k), rest) := by
  have h1 : dropWord "null" (k.text ++ rest) = none := by
    cases k <;> exact dropWord_of_head_ne (by decide)
  have h2 : dropWord "true" (k.text ++ rest) = none := by
    cases k <;> exact dropWord_of_head_ne (by decide)
  have h3 : dropWord "false" (k.text ++ rest) = none := by
    cases k <;> exact dropWord_of_head_ne (by decide)
  rw [scanScalar, h1, h2, h3]
  cases k with
  | nan => rw [FloatConst.text, dropWord_append]
  | infinity =>
      have h4 : dropWord "NaN" (FloatConst.infinity.text ++ rest) = none :=
        dropWord_of_head_ne (by decide)
      rw [h4, FloatConst.text, dropWord_append]
  | negInfinity =>
      have h4 : dropWord "NaN" (FloatConst.negInfinity.text ++ rest) = none :=
        dropWord_of_head_ne (by decide)
      have h5 : dropWord "Infinity" (FloatConst.negInfinity.text ++ rest) = none :=
        dropWord_of_head_ne (by decide)
      rw [h4, h5, FloatConst.text, dropWord_append]

/-! ## String literals -/

theorem joinSurrogate_of_lt {u : Nat} (t s : Str) (h : u < 0xD800) :
    joinSurrogate u t s = u :: s := by
  unfold joinSurrogate
  split
  · rw [if_neg]; omega
  · rfl

theorem hexValue_hexDigit : ∀ d, d < 16 → hexValue (hexDigit d) = some d := by decide

theorem scanString_escapeChar (c : Nat) (t : Str) :
    scanString (escapeChar c ++ t) = (scanString t).map fun (s, r) => (c :: s, r) := by
  unfold escapeChar
  split_ifs with h1 h2 h3 h4 h5 h6 h7 h8
  · subst h1; exact scanString_unescape (by decide) rfl t
  · subst h2; exact scanString_unescape (by decide) rfl t
  · subst h3; exact scanString_unescape (by decide) rfl t
  · subst h4; exact scanString_unescape (by decide) rfl t
  · subst h5; exact scanString_unescape (by decide) rfl t
  · subst h6; exact scanString_unescape (by decide) rfl t
  · subst h7; exact scanString_unescape (by decide) rfl t
  · have hhi := hexValue_hexDigit (c / 16) (by omega)
    have hlo := hexValue_hexDigit (c % 16) (by omega)
    have hu : hex4 48 48 (hexDigit (c / 16)) (hexDigit (c % 16)) = some c := by
      rw [hex4, hhi, hlo]
      simp [hexValue]
      omega
    refine (scanString_unicode hu t).trans ?_
    congr 1
    funext ⟨s, r⟩
    exact congrArg (·, r) (joinSurrogate_of_lt t s (by omega))
  · exact scanString_plain h1 h2 h8 t

theorem scanString_encode (s rest : Str) :
    scanString (s.flatMap escapeChar ++ 34 :: rest) = .ok (s, rest) := by
  induction s with
  | nil => exact scanString_quote rest
  | cons c s ih =>
      rw [List.flatMap_cons, List.append_assoc, scanString_escapeChar, ih]
      rfl

theorem encodeString_append (s rest : Str) :
    encodeString s ++ rest = 34 :: (s.flatMap escapeChar ++ 34 :: rest) := by
  simp [encodeString]

/-! ## Values -/

namespace Json

/-- How the text of a value opens: not with white space or a closing bracket. -/
theorem encode_head (v : Json F) :
    ∃ c t, encode v = c :: t ∧ isJsonSpace c = false ∧ c ≠ 93 := by
  cases v with
  | null => exact ⟨_, _, rfl, rfl, by decide⟩
  | bool b => cases b <;> exact ⟨_, _, rfl, rfl, by decide⟩
  | int n =>
      obtain ⟨d, t, hd, hdig⟩ := (intPart_natText n.natAbs).head
      rw [encode]
      rcases intText_cases n with ⟨h, -⟩ | ⟨h, -⟩
      · refine ⟨d, t, h.trans hd, ?_, fun hc => by subst hc; cases hdig⟩
        simp only [isDigit, Bool.and_eq_true, decide_eq_true_eq] at hdig
        simp only [isJsonSpace, Bool.or_eq_false_iff, beq_eq_false_iff_ne]
        omega
      · exact ⟨45, _, h, rfl, by decide⟩
  | float x =>
      rw [encode]
      rcases Runtime.floatText_read x with ⟨k, h, -⟩ | ⟨l, h, -⟩
      · rw [h]; cases k <;> exact ⟨_, _, rfl, rfl, by decide⟩
      · rw [h, FloatLit.text]
        obtain ⟨d, t, hd, hdig⟩ : ∃ d t, l.int = d :: t ∧ isDigit d = true :=
          IntPart.head l.int_ok
        cases l.neg with
        | true => exact ⟨45, _, rfl, rfl, by decide⟩
        | false =>
            refine ⟨d, t ++ l.frac ++ l.exp, by simp [hd], ?_, fun hc => by subst hc; cases hdig⟩
            simp only [isDigit, Bool.and_eq_true, decide_eq_true_eq] at hdig
            simp only [isJsonSpace, Bool.or_eq_false_iff, beq_eq_false_iff_ne]
            omega
  | str s => exact ⟨_, _, rfl, rfl, by decide⟩
  | arr xs => exact ⟨_, _, rfl, rfl, by decide⟩
  | obj kvs => exact ⟨_, _, rfl, rfl, by decide⟩

theorem skipSpace_encode (v : Json F) (rest : Str) :
    skipSpace (encode v ++ rest) = encode v ++ rest := by
  obtain ⟨c, t, h, hsp, -⟩ := encode_head v
  rw [h, List.cons_append, skipSpace, List.dropWhile_cons_of_neg (by simp [hsp])]

theorem encode_length_pos (v : Json F) : 0 < (encode v).length := by
  obtain ⟨c, t, h, -⟩ := encode_head v
  rw [h]; exact Nat.succ_pos _

theorem length_le_encodeElements : ∀ xs : List (Json F),
    xs.length ≤ (encodeElements xs).length
  | [] => Nat.le_refl _
  | [x] => encode_length_pos x
  | x :: y :: xs => by
      have := length_le_encodeElements (y :: xs)
      simp only [encodeElements, List.length_append, List.length_cons] at this ⊢
      omega

theorem length_le_encodeMembers : ∀ kvs : List (Str × Json F),
    kvs.length ≤ (encodeMembers kvs).length
  | [] => Nat.le_refl _
  | [(k, v)] => by simp [encodeMembers, encodeString]
  | (k, v) :: kv :: kvs => by
      have := length_le_encodeMembers (kv :: kvs)
      simp only [encodeMembers, List.length_append, List.length_cons] at this ⊢
      omega

theorem skipSpace_encodeElements (x : Json F) (xs : List (Json F)) (rest : Str) :
    skipSpace (encodeElements (x :: xs) ++ rest) = encodeElements (x :: xs) ++ rest := by
  cases xs with
  | nil => exact skipSpace_encode x rest
  | cons y ys => rw [encodeElements, List.append_assoc]; exact skipSpace_encode x _

theorem encodeMembers_head (kv : Str × Json F) (kvs : List (Str × Json F)) :
    ∃ t, encodeMembers (kv :: kvs) = 34 :: t := by
  obtain ⟨k, v⟩ := kv
  cases kvs with
  | nil => exact ⟨_, rfl⟩
  | cons kv kvs => exact ⟨_, rfl⟩

theorem skipSpace_encodeMembers (kv : Str × Json F) (kvs : List (Str × Json F)) (rest : Str) :
    skipSpace (encodeMembers (kv :: kvs) ++ rest) = encodeMembers (kv :: kvs) ++ rest := by
  obtain ⟨t, h⟩ := encodeMembers_head kv kvs
  rw [h]; rfl

mutual

theorem scanOnce_encode : ∀ (v : Json F) (d : Nat) (rest : Str),
    DigitsFit v → depth v ≤ d → Stops rest →
      scanOnce d (encode v ++ rest) = .ok (dedup v, rest)
  | .null, d, rest, _, _, _ =>
      (scanOnce_scalar (by decide) (by decide) (by decide) d _).trans (scanScalar_null rest)
  | .bool true, d, rest, _, _, _ =>
      (scanOnce_scalar (by decide) (by decide) (by decide) d _).trans (scanScalar_true rest)
  | .bool false, d, rest, _, _, _ =>
      (scanOnce_scalar (by decide) (by decide) (by decide) d _).trans (scanScalar_false rest)
  | .int n, d, rest, hwf, _, hr => by
      have hdd : dedup (F := F) (.int n) = .int n := rfl
      have hnum := scanNumber_intText (F := F) hwf hr
      obtain ⟨e, t, he, hdig⟩ := (intPart_natText n.natAbs).head
      simp only [isDigit, Bool.and_eq_true, decide_eq_true_eq] at hdig
      rw [encode, hdd]
      rcases intText_cases n with ⟨h, -⟩ | ⟨h, -⟩
      · rw [h, he, List.cons_append] at hnum ⊢
        rw [scanOnce_scalar (by omega) (by omega) (by omega),
          scanScalar_number (.inl (by simpa [isDigit] using hdig)), hnum]
      · rw [h, he, List.cons_append, List.cons_append] at hnum ⊢
        rw [scanOnce_scalar (by decide) (by decide) (by decide),
          scanScalar_number (.inr ⟨rfl, e, _, rfl, by simpa [isDigit] using hdig⟩), hnum]
  | .float x, d, rest, _, _, hr => by
      have hdd : dedup (.float x) = .float x := rfl
      rw [encode, hdd]
      rcases Runtime.floatText_read x with ⟨k, h, hx⟩ | ⟨l, h, hx⟩
      · rw [h, ← hx, ← scanScalar_const k rest]
        cases k <;> exact scanOnce_scalar (by decide) (by decide) (by decide) d _
      · have hnum := scanNumber_floatLit (F := F) (l := l) hr
        obtain ⟨e, t, he, hdig⟩ : ∃ e t, l.int = e :: t ∧ isDigit e = true :=
          IntPart.head l.int_ok
        have hdig' := hdig
        simp only [isDigit, Bool.and_eq_true, decide_eq_true_eq] at hdig'
        rw [h, ← hx, ← hnum, FloatLit.text, he]
        cases l.neg with
        | true =>
            simp only [if_true, List.cons_append, List.nil_append]
            rw [scanOnce_scalar (by decide) (by decide) (by decide),
              scanScalar_number (.inr ⟨rfl, e, _, rfl, hdig⟩)]
        | false =>
            simp only [Bool.false_eq_true, if_false, List.cons_append, List.nil_append]
            rw [scanOnce_scalar (by omega) (by omega) (by omega),
              scanScalar_number (.inl hdig)]
  | .str s, d, rest, _, _, _ => by
      rw [encode, encodeString_append, scanOnce_quote, scanString_encode]
      rfl
  | .arr xs, 0, rest, _, hd, _ => absurd hd (by simp [depth])
  | .arr xs, d + 1, rest, hwf, hd, hr => by
      rw [encode, List.cons_append, List.append_assoc, List.singleton_append, scanOnce_bracket]
      cases xs with
      | nil => rfl
      | cons x xs =>
          have hlen := length_le_encodeElements (x :: xs)
          rw [depth] at hd
          rw [DigitsFit] at hwf
          have ih := scanElements_encode (x :: xs) d
            (encodeElements (x :: xs) ++ (93 :: rest)).length rest (by simp) hwf
            (by omega) (by rw [List.length_append]; omega)
          obtain ⟨c, t, hc, -, h93⟩ := encode_head x
          have hhead : ∃ t, encodeElements (x :: xs) = c :: t := by
            cases xs with
            | nil => exact ⟨t, hc⟩
            | cons y ys => exact ⟨_, by rw [encodeElements, hc]; rfl⟩
          simp only [skipSpace_encodeElements]
          obtain ⟨t, ht⟩ := hhead
          split
          · rename_i t' heq
            rw [ht] at heq
            exact absurd (List.cons.inj heq).1 h93
          · rename_i t' _
            rw [ih]; rfl
  | .obj kvs, 0, rest, _, hd, _ => absurd hd (by simp [depth])
  | .obj kvs, d + 1, rest, hwf, hd, hr => by
      rw [encode, List.cons_append, List.append_assoc, List.singleton_append, scanOnce_brace]
      cases kvs with
      | nil => rfl
      | cons kv kvs =>
          have hlen := length_le_encodeMembers (kv :: kvs)
          rw [depth] at hd
          rw [DigitsFit] at hwf
          have ih := scanMembers_encode (kv :: kvs) d
            (encodeMembers (kv :: kvs) ++ (125 :: rest)).length rest (by simp) hwf
            (by omega) (by rw [List.length_append]; omega)
          obtain ⟨t, ht⟩ := encodeMembers_head kv kvs
          simp only [skipSpace_encodeMembers]
          split
          · rename_i t' heq
            rw [ht] at heq
            cases heq
          · rw [ih]; rfl

theorem scanElements_encode : ∀ (xs : List (Json F)) (d fuel : Nat) (rest : Str),
    xs ≠ [] → DigitsFitElements xs → depthElements xs ≤ d → xs.length ≤ fuel →
      scanElements (scanOnce d) fuel (encodeElements xs ++ 93 :: rest)
        = .ok (dedupElements xs, rest)
  | [], _, _, _, hne, _, _, _ => absurd rfl hne
  | _ :: _, _, 0, _, _, _, _, hf => absurd hf (by simp)
  | [x], d, fuel + 1, rest, _, hwf, hd, _ => by
      rw [depthElements, depthElements] at hd
      rw [encodeElements, scanElements, scanOnce_encode x d (93 :: rest) hwf.1
        (by omega) (Stops.cons (.inr (.inl rfl)))]
      rfl
  | x :: y :: xs, d, fuel + 1, rest, _, hwf, hd, hf => by
      rw [depthElements] at hd
      have ih := scanElements_encode (y :: xs) d fuel rest (by simp) hwf.2 (by omega)
        (by simpa using hf)
      have hskip : ∀ t, skipSpace (44 :: t) = 44 :: t := fun _ => rfl
      rw [encodeElements, List.append_assoc, List.cons_append, scanElements,
        scanOnce_encode x d _ hwf.1 (by omega) (Stops.cons (.inl rfl))]
      simp only [hskip, skipSpace_encodeElements, ih]
      rfl

theorem scanMembers_encode : ∀ (kvs : List (Str × Json F)) (d fuel : Nat) (rest : Str),
    kvs ≠ [] → DigitsFitMembers kvs → depthMembers kvs ≤ d → kvs.length ≤ fuel →
      scanMembers (scanOnce d) fuel (encodeMembers kvs ++ 125 :: rest)
        = .ok (dedupMembers kvs, rest)
  | [], _, _, _, hne, _, _, _ => absurd rfl hne
  | _ :: _, _, 0, _, _, _, _, hf => absurd hf (by simp)
  | [(k, v)], d, fuel + 1, rest, _, hwf, hd, _ => by
      rw [depthMembers, depthMembers] at hd
      have hskip : ∀ t, skipSpace (58 :: t) = 58 :: t := fun _ => rfl
      rw [encodeMembers, List.append_assoc, encodeString_append, List.cons_append, scanMembers]
      simp only [scanString_encode, hskip, skipSpace_encode,
        scanOnce_encode v d (125 :: rest) hwf.1 (by omega) (Stops.cons (.inr (.inr rfl)))]
      rfl
  | (k, v) :: kv :: kvs, d, fuel + 1, rest, _, hwf, hd, hf => by
      rw [depthMembers] at hd
      have ih := scanMembers_encode (kv :: kvs) d fuel rest (by simp) hwf.2 (by omega)
        (by simpa using hf)
      have hcolon : ∀ t, skipSpace (58 :: t) = 58 :: t := fun _ => rfl
      have hcomma : ∀ t, skipSpace (44 :: t) = 44 :: t := fun _ => rfl
      rw [encodeMembers, List.append_assoc, encodeString_append, List.cons_append,
        List.append_assoc, List.cons_append, scanMembers]
      simp only [scanString_encode, hcolon, skipSpace_encode,
        scanOnce_encode v d _ hwf.1 (by omega) (Stops.cons (.inl rfl)), hcomma,
        skipSpace_encodeMembers, ih]
      rfl

end

/-- An integer beyond the digit limit stops the decoder with `ValueError`,
whatever follows it. -/
theorem loads_tooLong {ds t : Str} (hds : IntPart ds) (hd : ∀ c ∈ ds, isDigit c = true)
    (hlen : Runtime.maxStrDigits F < ds.length) :
    loads (F := F) (ds ++ 34 :: t) = .error .intDigits := by
  obtain ⟨d, u, hdu, hdig⟩ := hds.head
  have hscan : scanInt (ds ++ 34 :: t) = some (ds, 34 :: t) :=
    scanInt_append false hds fun _ _ h => by rw [← (List.cons.inj h).1]; rfl
  have hfilter : ds.filter isDigit = ds := List.filter_eq_self.mpr hd
  have hnumber : scanNumber (F := F) (ds ++ 34 :: t) = .error .intDigits := by
    rw [scanNumber, hscan]
    have hexp : scanExp (34 :: t) = ([], 34 :: t) := by rw [scanExp, if_neg (by decide)]
    simp only [scanFrac_of_head (t := 34 :: t) nofun, hexp, List.isEmpty_nil, Bool.and_self,
      if_true, hfilter]
    rw [if_pos hlen]
  have hhead : 48 ≤ d ∧ d ≤ 57 := by simpa [isDigit] using hdig
  rw [hdu, List.cons_append] at hnumber ⊢
  have hskip : skipSpace (d :: (u ++ 34 :: t)) = d :: (u ++ 34 :: t) := by
    rw [skipSpace, List.dropWhile_cons_of_neg]
    simp only [isJsonSpace, Bool.or_eq_true, beq_iff_eq]
    omega
  rw [loads, hskip, scanOnce_scalar (by omega) (by omega) (by omega),
    scanScalar_number (.inl hdig), hnumber]

/-- **Round trip.** The decoder reads back what the encoder wrote. -/
theorem loads_encode {v : Json F} (h : Printable v) : loads (encode v) = .ok v.dedup := by
  have hs := scanOnce_encode v (Runtime.recursionLimit F) [] h.1 h.2 Stops.nil
  have hskip := skipSpace_encode v []
  rw [List.append_nil] at hs hskip
  rw [loads, hskip, hs]
  rfl

theorem loads_encode_of_distinct {v : Json F} (h : Printable v) (hd : DistinctKeys v) :
    loads (encode v) = .ok v := by
  rw [loads_encode h, dedup_of_distinctKeys v hd]

end Json

end

end Py
