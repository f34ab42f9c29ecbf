import Rigor.PyJsonScan

/-!
# What the decoder takes of its own text

`json.loads` takes the text of a value only where the integers of the value have
no more digits, and its containers are no deeper, than the decoder allows: the
other direction of the round trip (`loads_encode_isOk`).
-/

namespace Py

section

variable {F : Type} [Runtime F]

theorem scanNumber_tooLong {n : Int} {rest : Str}
    (hn : ¬digitCount n ≤ Runtime.maxStrDigits F) (hr : Stops rest) :
    scanNumber (F := F) (intText n ++ rest) = .error .intDigits := by
  have hi : scanInt (intText n ++ rest) = some (intText n, rest) := by
    rcases intText_cases n with ⟨h, -⟩ | ⟨h, -⟩
    · rw [h]; exact scanInt_append false (intPart_natText _) hr.noDigit
    · rw [h]; exact scanInt_append true (intPart_natText _) hr.noDigit
  rw [scanNumber, hi]
  simp only [scanFrac_of_head hr.no_dot, scanExp_of_stops hr, List.isEmpty_nil,
    Bool.and_self, if_true, digitCount_intText]
  rw [if_pos (Nat.not_le.mp hn)]

namespace Json

/-- The text of an integer is scanned as a number. -/
theorem scanOnce_intText (n : Int) (d : Nat) (rest : Str) :
    scanOnce (F := F) d (intText n ++ rest) = scanNumber (intText n ++ rest) := by
  obtain ⟨e, t, he, hdig⟩ := (intPart_natText n.natAbs).head
  simp only [isDigit, Bool.and_eq_true, decide_eq_true_eq] at hdig
  rcases intText_cases n with ⟨h, -⟩ | ⟨h, -⟩
  · rw [h, he, List.cons_append,
      scanOnce_scalar (by omega) (by omega) (by omega),
      scanScalar_number (.inl (by simpa [isDigit] using hdig))]
  · rw [h, he, List.cons_append, List.cons_append,
      scanOnce_scalar (by decide) (by decide) (by decide),
      scanScalar_number (.inr ⟨rfl, e, _, rfl, by simpa [isDigit] using hdig⟩)]

mutual

theorem fits_of_scanOnce : ∀ (v : Json F) (d : Nat) (rest : Str) {x : Json F × Str},
    Stops rest → scanOnce d (encode v ++ rest) = .ok x → DigitsFit v ∧ depth v ≤ d
  | .null, _, _, _, _, _ => ⟨trivial, Nat.zero_le _⟩
  | .bool _, _, _, _, _, _ => ⟨trivial, Nat.zero_le _⟩
  | .int n, d, rest, _, hr, h => by
      by_cases hn : digitCount n ≤ Runtime.maxStrDigits F
      · exact ⟨hn, Nat.zero_le _⟩
      · rw [encode, scanOnce_intText, scanNumber_tooLong hn hr] at h
        cases h
  | .float _, _, _, _, _, _ => ⟨trivial, Nat.zero_le _⟩
  | .str _, _, _, _, _, _ => ⟨trivial, Nat.zero_le _⟩
  | .arr xs, 0, rest, _, _, h => by
      rw [encode, List.cons_append, scanOnce.eq_def] at h
      cases h
  | .arr [], d + 1, _, _, _, _ => ⟨trivial, by rw [depth, depthElements]; omega⟩
  | .arr (x :: xs), d + 1, rest, _, hr, h => by
      rw [encode, List.cons_append, List.append_assoc, List.singleton_append,
        scanOnce_bracket] at h
      obtain ⟨c, t, hc, -, h93⟩ := encode_head x
      have hhead : ∃ t, encodeElements (x :: xs) = c :: t := by
        cases xs with
        | nil => exact ⟨t, hc⟩
        | cons y ys => exact ⟨_, by rw [encodeElements, hc]; rfl⟩
      obtain ⟨t', ht'⟩ := hhead
      simp only [skipSpace_encodeElements] at h
      split at h
      · rename_i heq
        rw [ht'] at heq
        exact absurd (List.cons.inj heq).1 h93
      · obtain ⟨y, hy, -⟩ := map_eq_ok h
        obtain ⟨hfit, hdepth⟩ := fits_of_scanElements (x :: xs) d _ rest (by simp) hy
        exact ⟨hfit, by rw [depth]; omega⟩
  | .obj kvs, 0, rest, _, _, h => by
      rw [encode, List.cons_append, scanOnce.eq_def] at h
      cases h
  | .obj [], d + 1, _, _, _, _ => ⟨trivial, by rw [depth, depthMembers]; omega⟩
  | .obj (kv :: kvs), d + 1, rest, _, hr, h => by
      rw [encode, List.cons_append, List.append_assoc, List.singleton_append,
        scanOnce_brace] at h
      obtain ⟨t, ht⟩ := encodeMembers_head kv kvs
      simp only [skipSpace_encodeMembers] at h
      split at h
      · rename_i heq
        rw [ht] at heq
        cases heq
      · obtain ⟨y, hy, -⟩ := map_eq_ok h
        obtain ⟨hfit, hdepth⟩ := fits_of_scanMembers (kv :: kvs) d _ rest (by simp) hy
        exact ⟨hfit, by rw [depth]; omega⟩

theorem fits_of_scanElements : ∀ (xs : List (Json F)) (d fuel : Nat) (rest : Str)
    {y : List (Json F) × Str}, xs ≠ [] →
      scanElements (scanOnce d) fuel (encodeElements xs ++ 93 :: rest) = .ok y →
        DigitsFitElements xs ∧ depthElements xs ≤ d
  | [], _, _, _, _, hne, _ => absurd rfl hne
  | _ :: _, _, 0, _, _, _, h => by cases h
  | [x], d, fuel + 1, rest, _, _, h => by
      rw [encodeElements, scanElements] at h
      cases hx : scanOnce (F := F) d (encode x ++ 93 :: rest) with
      | error e =>
          rw [hx] at h
          cases h
      | ok z =>
          obtain ⟨hfit, hdepth⟩ := fits_of_scanOnce x d _ (Stops.cons (.inr (.inl rfl))) hx
          exact ⟨⟨hfit, trivial⟩, by rw [depthElements, depthElements]; omega⟩
  | x :: y :: xs, d, fuel + 1, rest, _, _, h => by
      have hskip : ∀ t, skipSpace (44 :: t) = 44 :: t := fun _ => rfl
      rw [encodeElements, List.append_assoc, List.cons_append, scanElements] at h
      cases hx : scanOnce (F := F) d
          (encode x ++ 44 :: (encodeElements (y :: xs) ++ 93 :: rest)) with
      | error e =>
          rw [hx] at h
          cases h
      | ok z =>
          obtain ⟨hfit, hdepth⟩ := fits_of_scanOnce x d _ (Stops.cons (.inl rfl)) hx
          rw [scanOnce_encode x d _ hfit hdepth (Stops.cons (.inl rfl))] at h
          simp only [hskip, skipSpace_encodeElements] at h
          obtain ⟨w, hw, -⟩ := map_eq_ok h
          obtain ⟨hrest, hdepth'⟩ := fits_of_scanElements (y :: xs) d fuel rest (by simp) hw
          exact ⟨⟨hfit, hrest⟩, by rw [depthElements]; omega⟩

theorem fits_of_scanMembers : ∀ (kvs : List (Str × Json F)) (d fuel : Nat) (rest : Str)
    {y : List (Str × Json F) × Str}, kvs ≠ [] →
      scanMembers (scanOnce d) fuel (encodeMembers kvs ++ 125 :: rest) = .ok y →
        DigitsFitMembers kvs ∧ depthMembers kvs ≤ d
  | [], _, _, _, _, hne, _ => absurd rfl hne
  | _ :: _, _, 0, _, _, _, h => by cases h
  | [(k, v)], d, fuel + 1, rest, _, _, h => by
      have hskip : ∀ t, skipSpace (58 :: t) = 58 :: t := fun _ => rfl
      rw [encodeMembers, List.append_assoc, encodeString_append, List.cons_append,
        scanMembers] at h
      simp only [scanString_encode, hskip, skipSpace_encode] at h
      cases hv : scanOnce (F := F) d (encode v ++ 125 :: rest) with
      | error e =>
          rw [hv] at h
          cases h
      | ok z =>
          obtain ⟨hfit, hdepth⟩ := fits_of_scanOnce v d _ (Stops.cons (.inr (.inr rfl))) hv
          exact ⟨⟨hfit, trivial⟩, by rw [depthMembers, depthMembers]; omega⟩
  | (k, v) :: kv :: kvs, d, fuel + 1, rest, _, _, h => by
      have hcolon : ∀ t, skipSpace (58 :: t) = 58 :: t := fun _ => rfl
      have hcomma : ∀ t, skipSpace (44 :: t) = 44 :: t := fun _ => rfl
      rw [encodeMembers, List.append_assoc, encodeString_append, List.cons_append,
        List.append_assoc, List.cons_append, scanMembers] at h
      simp only [scanString_encode, hcolon, skipSpace_encode] at h
      cases hv : scanOnce (F := F) d
          (encode v ++ 44 :: (encodeMembers (kv :: kvs) ++ 125 :: rest)) with
      | error e =>
          rw [hv] at h
          cases h
      | ok z =>
          obtain ⟨hfit, hdepth⟩ := fits_of_scanOnce v d _ (Stops.cons (.inl rfl)) hv
          rw [scanOnce_encode v d _ hfit hdepth (Stops.cons (.inl rfl))] at h
          simp only [hcomma, skipSpace_encodeMembers] at h
          obtain ⟨w, hw, -⟩ := map_eq_ok h
          obtain ⟨hrest, hdepth'⟩ := fits_of_scanMembers (kv :: kvs) d fuel rest (by simp) hw
          exact ⟨⟨hfit, hrest⟩, by rw [depthMembers]; omega⟩

end

/-- The text of a value decodes exactly where the value is within the limits. -/
theorem loads_encode_isOk {v : Json F} :
    (∃ w : Json F, loads (encode v) = .ok w) ↔ Printable v := by
  constructor
  · rintro ⟨w, h⟩
    have hskip := skipSpace_encode v []
    rw [List.append_nil] at hskip
    rw [loads, hskip] at h
    cases hscan : scanOnce (F := F) (Runtime.recursionLimit F) (encode v) with
    | error e =>
        rw [hscan] at h
        cases h
    | ok x =>
        refine fits_of_scanOnce v _ [] Stops.nil (x := x) ?_
        rw [List.append_nil, hscan]
  · exact fun h => ⟨_, loads_encode h⟩

end Json

end

end Py
