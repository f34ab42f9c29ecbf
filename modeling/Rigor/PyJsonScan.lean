import Rigor.PyJsonRoundTrip

/-!
# Where the decoder stands in a text

The decoder is between tokens, at some depth of open brackets, or inside a
string literal. `Tracks` names predicates on the remaining text, for each
depth one for either place, that every move of the decoder preserves; a
successful scan then leaves the text where it began, and every string it
read satisfies what is known of literal text (`Tracks.loads`).

Two instances are used. `Unfinished`: the text ends inside a literal or a
bracket, so no value spans it (`loads_unfinished`). `Laid`: the text is a
piece of the encoder's output; read from the middle of a literal the two
places are exchanged, and all that the decoder can take for a string is
what the encoder wrote between two literals (`loads_inside`).
-/

namespace Py

/-! ## What a scan consumes -/

/-- No quote, no backslash, no bracket: the place of the decoder stays. -/
def isPlain (c : Nat) : Bool :=
  c != 34 && c != 92 && c != 91 && c != 93 && c != 123 && c != 125

def Plain (u : Str) : Prop := ∀ c ∈ u, isPlain c = true

instance : DecidablePred Plain := fun u =>
  inferInstanceAs (Decidable (∀ c ∈ u, isPlain c = true))

theorem Plain.append {u w : Str} (hu : Plain u) (hw : Plain w) : Plain (u ++ w) :=
  fun c hc => (List.mem_append.mp hc).elim (hu c) (hw c)

theorem Plain.cons {c : Nat} {u : Str} (hc : isPlain c = true) (hu : Plain u) :
    Plain (c :: u) :=
  fun x hx => (List.mem_cons.mp hx).elim (fun h => h ▸ hc) (hu x)

theorem isPlain_of_isDigit {c : Nat} (h : isDigit c = true) : isPlain c = true := by
  simp only [isDigit, Bool.and_eq_true, decide_eq_true_eq] at h
  simp only [isPlain, Bool.and_eq_true, bne_iff_ne]
  omega

theorem isPlain_of_isJsonSpace {c : Nat} (h : isJsonSpace c = true) : isPlain c = true := by
  simp only [isJsonSpace, Bool.or_eq_true, beq_iff_eq] at h
  simp only [isPlain, Bool.and_eq_true, bne_iff_ne]
  omega

theorem plain_takeWhile_digits (t : Str) : Plain (t.takeWhile isDigit) :=
  fun _ hc => isPlain_of_isDigit (List.mem_takeWhile_imp hc)

theorem scanUnsigned_spec {sign t i r : Str} (h : scanUnsigned sign t = some (i, r)) :
    ∃ ds, i = sign ++ ds ∧ t = ds ++ r ∧ Plain ds := by
  cases t with
  | nil => cases h
  | cons c u =>
      rw [scanUnsigned] at h
      split_ifs at h with h48 hdig
      · cases h
        exact ⟨[48], rfl, by rw [h48]; rfl, by decide⟩
      · cases h
        refine ⟨c :: u.takeWhile isDigit, rfl, ?_,
          .cons (isPlain_of_isDigit hdig) (plain_takeWhile_digits u)⟩
        rw [List.cons_append, List.takeWhile_append_dropWhile]

theorem scanInt_spec {t i r : Str} (h : scanInt t = some (i, r)) : t = i ++ r ∧ Plain i := by
  cases t with
  | nil => cases h
  | cons c u =>
      rw [scanInt] at h
      split_ifs at h with h45
      · obtain ⟨ds, rfl, rfl, hp⟩ := scanUnsigned_spec h
        exact ⟨by rw [h45]; rfl, .cons (by decide) hp⟩
      · obtain ⟨ds, rfl, hu, hp⟩ := scanUnsigned_spec h
        exact ⟨hu, hp⟩

theorem scanFrac_spec (t : Str) :
    t = (scanFrac t).1 ++ (scanFrac t).2 ∧ Plain (scanFrac t).1 := by
  unfold scanFrac
  split
  · rename_i u
    split_ifs
    · exact ⟨rfl, fun c hc => by cases hc⟩
    · refine ⟨?_, .cons (by decide) (plain_takeWhile_digits u)⟩
      rw [List.cons_append, List.takeWhile_append_dropWhile]
  · exact ⟨rfl, fun c hc => by cases hc⟩

theorem expSign_spec (t : Str) : t = (expSign t).1 ++ (expSign t).2 ∧ Plain (expSign t).1 := by
  cases t with
  | nil => exact ⟨rfl, fun c hc => by cases hc⟩
  | cons c w =>
      rw [expSign]
      split_ifs with h
      · refine ⟨rfl, .cons ?_ fun c hc => by cases hc⟩
        rcases h with rfl | rfl <;> decide
      · exact ⟨rfl, fun c hc => by cases hc⟩

theorem scanExp_spec (t : Str) : t = (scanExp t).1 ++ (scanExp t).2 ∧ Plain (scanExp t).1 := by
  cases t with
  | nil => exact ⟨rfl, fun c hc => by cases hc⟩
  | cons m u =>
      rw [scanExp]
      split_ifs with hm
      · exact ⟨rfl, fun c hc => by cases hc⟩
      · obtain ⟨hu, hp⟩ := expSign_spec u
        refine ⟨?_, .cons ?_ (hp.append (plain_takeWhile_digits _))⟩
        · rw [List.cons_append, List.append_assoc, List.takeWhile_append_dropWhile, ← hu]
        · rcases hm with rfl | rfl <;> decide
      · exact ⟨rfl, fun c hc => by cases hc⟩

theorem dropWord_spec {word t r : Str} (h : dropWord word t = some r) : t = word ++ r := by
  rw [dropWord] at h
  split_ifs at h with hp
  obtain ⟨u, hu⟩ := List.isPrefixOf_iff_prefix.mp hp
  cases h
  rw [← hu, List.drop_left]

/-! ## Tracked scans -/

/-- Predicates on the remaining text between tokens (`Out d`) and inside a
literal (`In d`), `d` brackets being open, closed under the moves of the
decoder; `K` is what `In` knows of a character of the literal. -/
structure Tracks (Out In : Nat → Str → Prop) (K : Nat → Prop) : Prop where
  out_char : ∀ {d c t}, Out d (c :: t) → isPlain c = true → Out d t
  out_open : ∀ {d c t}, Out d (c :: t) → c = 91 ∨ c = 123 → Out (d + 1) t
  out_close : ∀ {d c t}, Out (d + 1) (c :: t) → c = 93 ∨ c = 125 → Out d t
  out_quote : ∀ {d t}, Out d (34 :: t) → In d t
  in_char : ∀ {d c t}, In d (c :: t) → c ≠ 34 → c ≠ 92 → In d t ∧ K c
  in_escape : ∀ {d e t}, In d (92 :: e :: t) → In d t ∧ ∀ c, K c
  in_quote : ∀ {d t}, In d (34 :: t) → Out d t

theorem hexValue_plain {c n : Nat} (h : hexValue c = some n) : c ≠ 34 ∧ c ≠ 92 := by
  constructor <;> rintro rfl <;> cases h

theorem hex4_plain {a b c d n : Nat} (h : hex4 a b c d = some n) :
    (a ≠ 34 ∧ a ≠ 92) ∧ (b ≠ 34 ∧ b ≠ 92) ∧ (c ≠ 34 ∧ c ≠ 92) ∧ d ≠ 34 ∧ d ≠ 92 := by
  simp only [hex4, Option.bind_eq_bind, Option.bind_eq_some_iff] at h
  obtain ⟨_, ha, _, hb, _, hc, _, hd, -⟩ := h
  exact ⟨hexValue_plain ha, hexValue_plain hb, hexValue_plain hc, hexValue_plain hd⟩

/-- How a string literal is read: `StringScan t s r` reads `s` off `t` and
leaves `r`. -/
inductive StringScan : Str → Str → Str → Prop where
  | quote (t : Str) : StringScan (34 :: t) [] t
  | plain {c : Nat} {t s r : Str} (h34 : c ≠ 34) (h92 : c ≠ 92) :
      StringScan t s r → StringScan (c :: t) (c :: s) r
  | escape {e x : Nat} {t s r : Str} : StringScan t s r → StringScan (92 :: e :: t) (x :: s) r
  | unicode {a b c d u : Nat} {t s r : Str} (hu : hex4 a b c d = some u) :
      StringScan t s r →
        StringScan (92 :: 117 :: a :: b :: c :: d :: t) (joinSurrogate u t s) r

theorem map_eq_ok {ε α β : Type} {f : α → β} {x : Except ε α} {b : β}
    (h : x.map f = .ok b) : ∃ a, x = .ok a ∧ f a = b := by
  cases x with
  | error e => cases h
  | ok a => exact ⟨a, rfl, Except.ok.inj h⟩

theorem stringScan_of_ok : ∀ {t s r : Str}, scanString t = .ok (s, r) → StringScan t s r := by
  intro t
  fun_induction scanString t with
  | case1 => intro s r h; cases h
  | case2 t => intro s r h; cases h; exact .quote t
  | case3 | case5 | case6 | case8 | case9 => intro s r h; cases h
  | case4 a b c d t u hu _ ih =>
      intro s r h
      obtain ⟨⟨s', r'⟩, hs, hp⟩ := map_eq_ok h
      cases hp
      exact .unicode hu (ih hs)
  | case7 _ e t he x hx ih =>
      intro s r h
      obtain ⟨⟨s', r'⟩, hs, hp⟩ := map_eq_ok h
      cases hp
      exact .escape (ih hs)
  | case10 c t h34 h92 h32 ih =>
      intro s r h
      obtain ⟨⟨s', r'⟩, hs, hp⟩ := map_eq_ok h
      cases hp
      exact .plain h34 h92 (ih hs)

theorem allStringsMembers_keys {P : Str → Prop} {F : Type} : ∀ {kvs : List (Str × Json F)},
    Json.AllStringsMembers P kvs → ∀ k ∈ kvs.map Prod.fst, P k
  | [], _ => nofun
  | _ :: _, h => List.forall_mem_cons.mpr ⟨h.1, allStringsMembers_keys h.2.2⟩

theorem allStringsMembers_insert {P : Str → Prop} {F : Type} {k : Str} {v : Json F} (hk : P k)
    (hv : Json.AllStrings P v) : ∀ {kvs : List (Str × Json F)},
      Json.AllStringsMembers P kvs → Json.AllStringsMembers P (Json.insert k v kvs)
  | [], _ => ⟨hk, hv, trivial⟩
  | (k', v') :: kvs, ⟨hk', hv', h⟩ => by
      rw [Json.insert]
      split_ifs
      · exact ⟨hk', hv, h⟩
      · exact ⟨hk', hv', allStringsMembers_insert hk hv h⟩

theorem allStringsMembers_ofPairs {P : Str → Prop} {F : Type} {kvs : List (Str × Json F)}
    (h : Json.AllStringsMembers P kvs) : Json.AllStringsMembers P (Json.ofPairs kvs) := by
  have go : ∀ (rest acc : List (Str × Json F)), Json.AllStringsMembers P acc →
      Json.AllStringsMembers P rest →
        Json.AllStringsMembers P (rest.foldl (fun d kv => Json.insert kv.1 kv.2 d) acc) := by
    intro rest
    induction rest with
    | nil => exact fun acc hacc _ => hacc
    | cons kv rest ih =>
        exact fun acc hacc ⟨hk, hv, hrest⟩ => ih _ (allStringsMembers_insert hk hv hacc) hrest
  exact go kvs [] trivial h

namespace Tracks

variable {Out In : Nat → Str → Prop} {K : Nat → Prop}

/-- Plain text leaves the decoder between tokens. -/
theorem out_append (T : Tracks Out In K) {d : Nat} :
    ∀ {u t : Str}, Plain u → Out d (u ++ t) → Out d t
  | [], _, _, h => h
  | c :: u, _, hu, h =>
      T.out_append (u := u) (fun x hx => hu x (List.mem_cons_of_mem _ hx))
        (T.out_char h (hu c (List.mem_cons_self ..)))

theorem skipSpace (T : Tracks Out In K) {d : Nat} {t : Str} (h : Out d t) :
    Out d (skipSpace t) := by
  rw [← List.takeWhile_append_dropWhile (p := isJsonSpace) (l := t)] at h
  exact T.out_append (fun c hc => isPlain_of_isJsonSpace (List.mem_takeWhile_imp hc)) h

theorem scanString (T : Tracks Out In K) {d : Nat} {t s r : Str} (h : StringScan t s r)
    (hin : In d t) : Out d r ∧ ∀ c ∈ s, K c := by
  induction h with
  | quote t => exact ⟨T.in_quote hin, fun c hc => by cases hc⟩
  | @plain c t s r h34 h92 _ ih =>
      obtain ⟨hin', hKc⟩ := T.in_char hin h34 h92
      obtain ⟨hout, hall⟩ := ih hin'
      refine ⟨hout, fun x hx => ?_⟩
      rcases List.mem_cons.mp hx with rfl | hx
      · exact hKc
      · exact hall x hx
  | escape _ ih =>
      obtain ⟨hin', hK⟩ := T.in_escape hin
      exact ⟨(ih hin').1, fun c _ => hK c⟩
  | unicode hu _ ih =>
      -- the four digits are plain literal text
      obtain ⟨ha, hb, hc, hd⟩ := hex4_plain hu
      obtain ⟨h0, hK⟩ := T.in_escape hin
      have h1 := (T.in_char h0 ha.1 ha.2).1
      have h2 := (T.in_char h1 hb.1 hb.2).1
      have h3 := (T.in_char h2 hc.1 hc.2).1
      have h4 := (T.in_char h3 hd.1 hd.2).1
      exact ⟨(ih h4).1, fun c _ => hK c⟩

/-- A scalar other than a string is plain text. -/
theorem scanScalar (T : Tracks Out In K) {F : Type} [Runtime F] {d : Nat} {t r : Str}
    {v : Json F} (hout : Out d t) (h : Py.scanScalar t = .ok (v, r)) :
    Out d r ∧ Json.AllStrings (fun s => ∀ c ∈ s, K c) v := by
  have word : ∀ {w : Str}, Plain w → t = w ++ r → Out d r :=
    fun hw ht => T.out_append hw (ht ▸ hout)
  rw [Py.scanScalar] at h
  split at h
  · rename_i hw; cases h; exact ⟨word (by decide) (dropWord_spec hw), trivial⟩
  split at h
  · rename_i hw; cases h; exact ⟨word (by decide) (dropWord_spec hw), trivial⟩
  split at h
  · rename_i hw; cases h; exact ⟨word (by decide) (dropWord_spec hw), trivial⟩
  split at h
  · rename_i hw; cases h; exact ⟨word (by decide) (dropWord_spec hw), trivial⟩
  split at h
  · rename_i hw; cases h; exact ⟨word (by decide) (dropWord_spec hw), trivial⟩
  split at h
  · rename_i hw; cases h; exact ⟨word (by decide) (dropWord_spec hw), trivial⟩
  rw [scanNumber] at h
  split at h
  · cases h
  · rename_i i u hi
    obtain ⟨ht, hpi⟩ := scanInt_spec hi
    obtain ⟨hf, hpf⟩ := scanFrac_spec u
    obtain ⟨he, hpe⟩ := scanExp_spec (scanFrac u).2
    have hall : t = (i ++ ((scanFrac u).1 ++ (scanExp (scanFrac u).2).1))
        ++ (scanExp (scanFrac u).2).2 := by
      rw [List.append_assoc, List.append_assoc, ← he, ← hf, ← ht]
    simp only at h
    split_ifs at h <;> cases h <;>
      exact ⟨word (hpi.append (hpf.append hpe)) hall, trivial⟩

/-- The loops keep what one value keeps, and leave the bracket. -/
theorem scanElements (T : Tracks Out In K) {F : Type} {d : Nat}
    {value : Str → Except LoadError (Json F × Str)}
    (hvalue : ∀ {t v r}, Out (d + 1) t → value t = .ok (v, r) →
      Out (d + 1) r ∧ Json.AllStrings (fun s => ∀ c ∈ s, K c) v) :
    ∀ {fuel : Nat} {t r : Str} {vs : List (Json F)}, Out (d + 1) t →
      Py.scanElements value fuel t = .ok (vs, r) →
        Out d r ∧ Json.AllStringsElements (fun s => ∀ c ∈ s, K c) vs
  | 0, _, _, _, _, h => by cases h
  | fuel + 1, t, r, vs, hout, h => by
      rw [Py.scanElements] at h
      split at h
      · cases h
      · rename_i v u hv
        obtain ⟨hu, hall⟩ := hvalue hout hv
        have hsk := T.skipSpace hu
        split at h
        · rename_i w hw
          cases h
          rw [hw] at hsk
          exact ⟨T.out_close hsk (.inl rfl), hall, trivial⟩
        · rename_i w hw
          rw [hw] at hsk
          obtain ⟨⟨vs', r'⟩, hs, hp⟩ := map_eq_ok h
          cases hp
          obtain ⟨hr, hrest⟩ := T.scanElements hvalue (T.skipSpace (T.out_char hsk rfl)) hs
          exact ⟨hr, hall, hrest⟩
        · cases h

theorem scanMembers (T : Tracks Out In K) {F : Type} {d : Nat}
    {value : Str → Except LoadError (Json F × Str)}
    (hvalue : ∀ {t v r}, Out (d + 1) t → value t = .ok (v, r) →
      Out (d + 1) r ∧ Json.AllStrings (fun s => ∀ c ∈ s, K c) v) :
    ∀ {fuel : Nat} {t r : Str} {kvs : List (Str × Json F)}, Out (d + 1) t →
      Py.scanMembers value fuel t = .ok (kvs, r) →
        Out d r ∧ Json.AllStringsMembers (fun s => ∀ c ∈ s, K c) kvs
  | 0, _, _, _, _, h => by cases h
  | fuel + 1, t, r, kvs, hout, h => by
      rw [Py.scanMembers.eq_def] at h
      simp only at h
      split at h
      · split at h
        · cases h
        · rename_i k u hk
          obtain ⟨hu, hkey⟩ := T.scanString (stringScan_of_ok hk) (T.out_quote hout)
          have hsk := T.skipSpace hu
          split at h
          · rename_i w hw
            rw [hw] at hsk
            have hcolon := T.skipSpace (T.out_char hsk rfl)
            split at h
            · cases h
            · rename_i v x hv
              obtain ⟨hx, hall⟩ := hvalue hcolon hv
              have hsk' := T.skipSpace hx
              split at h
              · rename_i y hy
                cases h
                rw [hy] at hsk'
                exact ⟨T.out_close hsk' (.inr rfl), hkey, hall, trivial⟩
              · rename_i y hy
                rw [hy] at hsk'
                obtain ⟨⟨kvs', r'⟩, hs, hp⟩ := map_eq_ok h
                cases hp
                obtain ⟨hr, hrest⟩ :=
                  T.scanMembers hvalue (T.skipSpace (T.out_char hsk' rfl)) hs
                exact ⟨hr, hkey, hall, hrest⟩
              · cases h
          · cases h
      · cases h

/-- A value is read from between tokens to between tokens, at one depth,
and its strings are what `In` allows. -/
theorem scanOnce (T : Tracks Out In K) {F : Type} [Runtime F] :
    ∀ {fuel d : Nat} {t r : Str} {v : Json F}, Out d t → Py.scanOnce fuel t = .ok (v, r) →
      Out d r ∧ Json.AllStrings (fun s => ∀ c ∈ s, K c) v := by
  intro fuel
  induction fuel with
  | zero =>
      intro d t r v hout h
      cases t with
      | nil => cases h
      | cons c t =>
          by_cases h34 : c = 34
          · subst h34
            rw [scanOnce_quote] at h
            obtain ⟨⟨s, r'⟩, hs, hp⟩ := map_eq_ok h
            cases hp
            exact T.scanString (stringScan_of_ok hs) (T.out_quote hout)
          by_cases h91 : c = 91
          · subst h91; rw [Py.scanOnce.eq_def] at h; cases h
          by_cases h123 : c = 123
          · subst h123; rw [Py.scanOnce.eq_def] at h; cases h
          · rw [scanOnce_scalar h34 h91 h123] at h
            exact T.scanScalar hout h
  | succ fuel ih =>
      intro d t r v hout h
      cases t with
      | nil => cases h
      | cons c t =>
          by_cases h34 : c = 34
          · subst h34
            rw [scanOnce_quote] at h
            obtain ⟨⟨s, r'⟩, hs, hp⟩ := map_eq_ok h
            cases hp
            exact T.scanString (stringScan_of_ok hs) (T.out_quote hout)
          by_cases h91 : c = 91
          · subst h91
            have hin := T.skipSpace (T.out_open hout (.inl rfl))
            rw [scanOnce_bracket] at h
            split at h
            · rename_i u hu
              cases h
              rw [hu] at hin
              exact ⟨T.out_close hin (.inl rfl), trivial⟩
            · obtain ⟨⟨vs, r'⟩, hs, hp⟩ := map_eq_ok h
              cases hp
              exact T.scanElements ih hin hs
          by_cases h123 : c = 123
          · subst h123
            have hin := T.skipSpace (T.out_open hout (.inr rfl))
            rw [scanOnce_brace] at h
            split at h
            · rename_i u hu
              cases h
              rw [hu] at hin
              exact ⟨T.out_close hin (.inr rfl), trivial⟩
            · obtain ⟨⟨kvs, r'⟩, hs, hp⟩ := map_eq_ok h
              cases hp
              obtain ⟨hr, hall⟩ := T.scanMembers ih hin hs
              exact ⟨hr, allStringsMembers_ofPairs hall⟩
          · rw [scanOnce_scalar h34 h91 h123] at h
            exact T.scanScalar hout h

/-- **A whole text.** What is left after the value is white space, so the
text ends between tokens, no bracket open. -/
theorem loads (T : Tracks Out In K) {F : Type} [Runtime F] {t : Str} {v : Json F}
    (hout : Out 0 t) (h : Py.loads t = .ok v) :
    Out 0 [] ∧ Json.AllStrings (fun s => ∀ c ∈ s, K c) v := by
  rw [Py.loads] at h
  split at h
  · cases h
  · rename_i w r hs
    split_ifs at h with hr
    cases h
    obtain ⟨hr', hall⟩ := T.scanOnce (T.skipSpace hout) hs
    have hend := T.skipSpace hr'
    rw [List.isEmpty_iff.mp hr] at hend
    exact ⟨hend, hall⟩

end Tracks

/-! ## What the decoder builds -/

section

variable {F : Type}

theorem scanElements_forall {value : Str → Except LoadError (Json F × Str)} {P : Json F → Prop}
    (hvalue : ∀ {t v r}, value t = .ok (v, r) → P v) :
    ∀ {fuel : Nat} {t r : Str} {vs : List (Json F)},
      Py.scanElements value fuel t = .ok (vs, r) → ∀ v ∈ vs, P v
  | 0, _, _, _, h => by cases h
  | fuel + 1, t, r, vs, h => by
      rw [scanElements] at h
      split at h
      · cases h
      · rename_i v u hv
        split at h
        · cases h
          exact fun x hx => List.mem_singleton.mp hx ▸ hvalue hv
        · obtain ⟨⟨vs', r'⟩, hs, hp⟩ := map_eq_ok h
          cases hp
          exact List.forall_mem_cons.mpr ⟨hvalue hv, scanElements_forall hvalue hs⟩
        · cases h

theorem scanMembers_forall {value : Str → Except LoadError (Json F × Str)} {P : Json F → Prop}
    (hvalue : ∀ {t v r}, value t = .ok (v, r) → P v) :
    ∀ {fuel : Nat} {t r : Str} {kvs : List (Str × Json F)},
      Py.scanMembers value fuel t = .ok (kvs, r) → ∀ kv ∈ kvs, P kv.2
  | 0, _, _, _, h => by cases h
  | fuel + 1, t, r, kvs, h => by
      rw [scanMembers.eq_def] at h
      simp only at h
      split at h
      · split at h
        · cases h
        · split at h
          · split at h
            · cases h
            · rename_i v x hv
              split at h
              · cases h
                exact fun kv hkv => List.mem_singleton.mp hkv ▸ hvalue hv
              · obtain ⟨⟨kvs', r'⟩, hs, hp⟩ := map_eq_ok h
                cases hp
                exact List.forall_mem_cons.mpr ⟨hvalue hv, scanMembers_forall hvalue hs⟩
              · cases h
          · cases h
      · cases h

namespace Json

theorem distinctKeysElements_of_forall : ∀ {xs : List (Json F)},
    (∀ v ∈ xs, DistinctKeys v) → DistinctKeysElements xs
  | [], _ => trivial
  | x :: _, h =>
      ⟨h x (List.mem_cons_self ..),
        distinctKeysElements_of_forall fun v hv => h v (List.mem_cons_of_mem _ hv)⟩

theorem distinctKeysMembers_insert {k : Str} {v : Json F} (hv : DistinctKeys v) :
    ∀ {kvs : List (Str × Json F)}, DistinctKeysMembers kvs →
      DistinctKeysMembers (insert k v kvs) := by
  intro kvs h
  induction kvs with
  | nil => exact ⟨hv, trivial⟩
  | cons entry kvs ih =>
      rw [insert]
      split_ifs
      · exact ⟨hv, h.2⟩
      · exact ⟨h.1, ih h.2⟩

theorem nodup_insert {k : Str} {v : Json F} : ∀ {kvs : List (Str × Json F)},
    (kvs.map Prod.fst).Nodup → ((insert k v kvs).map Prod.fst).Nodup
  | [], _ => List.nodup_singleton k
  | (k', v') :: kvs, h => by
      rw [List.map_cons, List.nodup_cons] at h
      rw [insert]
      split_ifs with hk
      · exact List.nodup_cons.mpr h
      · refine List.nodup_cons.mpr ⟨fun hm => ?_, nodup_insert h.2⟩
        exact (keys_insert hm).elim hk h.1

/-- The `dict` of pairs has distinct keys. -/
theorem distinctKeys_ofPairs {kvs : List (Str × Json F)}
    (h : ∀ kv ∈ kvs, DistinctKeys kv.2) : DistinctKeys (.obj (ofPairs kvs)) := by
  have go : ∀ (rest acc : List (Str × Json F)), DistinctKeys (.obj acc) →
      (∀ kv ∈ rest, DistinctKeys kv.2) →
        DistinctKeys (.obj (rest.foldl (fun d kv => insert kv.1 kv.2 d) acc)) := by
    intro rest
    induction rest with
    | nil => exact fun acc hacc _ => hacc
    | cons kv rest ih =>
        intro acc hacc hrest
        obtain ⟨hkv, hrest⟩ := List.forall_mem_cons.mp hrest
        exact ih _ ⟨nodup_insert hacc.1, distinctKeysMembers_insert hkv hacc.2⟩ hrest
  exact go kvs [] ⟨List.nodup_nil, trivial⟩ h

variable [Runtime F]

theorem scanScalar_distinctKeys {t r : Str} {v : Json F} (h : scanScalar t = .ok (v, r)) :
    DistinctKeys v := by
  rw [scanScalar] at h
  split at h
  · cases h; trivial
  split at h
  · cases h; trivial
  split at h
  · cases h; trivial
  split at h
  · cases h; trivial
  split at h
  · cases h; trivial
  split at h
  · cases h; trivial
  rw [scanNumber] at h
  split at h
  · cases h
  · simp only at h
    split_ifs at h <;> cases h <;> trivial

theorem scanOnce_distinctKeys : ∀ {d : Nat} {t r : Str} {v : Json F},
    scanOnce d t = .ok (v, r) → DistinctKeys v := by
  intro d
  induction d with
  | zero =>
      intro t r v h
      rw [scanOnce.eq_def] at h
      cases t with
      | nil => cases h
      | cons c t =>
          simp only at h
          split_ifs at h
          · obtain ⟨⟨s, r'⟩, -, hp⟩ := map_eq_ok h
            cases hp; trivial
          · exact scanScalar_distinctKeys h
  | succ d ih =>
      intro t r v h
      rw [scanOnce.eq_def] at h
      cases t with
      | nil => cases h
      | cons c t =>
          simp only at h
          split_ifs at h
          · obtain ⟨⟨s, r'⟩, -, hp⟩ := map_eq_ok h
            cases hp; trivial
          · split at h
            · cases h; trivial
            · obtain ⟨⟨vs, r'⟩, hs, hp⟩ := map_eq_ok h
              cases hp
              exact distinctKeysElements_of_forall (scanElements_forall ih hs)
          · split at h
            · cases h; exact ⟨List.nodup_nil, trivial⟩
            · obtain ⟨⟨kvs, r'⟩, hs, hp⟩ := map_eq_ok h
              cases hp
              exact distinctKeys_ofPairs (scanMembers_forall ih hs)
          · exact scanScalar_distinctKeys h

/-- A decoded value has distinct keys throughout. -/
theorem loads_distinctKeys {t : Str} {v : Json F} (h : loads t = .ok v) : DistinctKeys v := by
  rw [loads] at h
  split at h
  · cases h
  · rename_i w r hs
    split_ifs at h
    cases h
    exact scanOnce_distinctKeys hs

end Json

end

/-! ## Between tokens, inside a literal, after a backslash -/

inductive Mode where
  | between | literal | escaped
  deriving DecidableEq

def Mode.next : Mode → Nat → Mode
  | .between, c => if c = 34 then .literal else .between
  | .literal, c => if c = 34 then .between else if c = 92 then .escaped else .literal
  | .escaped, _ => .literal

/-- Where a text leaves a reader of string literals. -/
def Mode.run : Mode → Str → Mode
  | m, [] => m
  | m, c :: t => (m.next c).run t

@[simp] theorem Mode.next_between {c : Nat} (h : c ≠ 34) : Mode.between.next c = .between :=
  if_neg h

@[simp] theorem Mode.next_literal {c : Nat} (h34 : c ≠ 34) (h92 : c ≠ 92) :
    Mode.literal.next c = .literal := by
  rw [Mode.next, if_neg h34, if_neg h92]

/-- The number of open brackets after `c`. -/
def Mode.depth : Mode → Nat → Nat → Nat
  | .between, c, d =>
      if c = 91 ∨ c = 123 then d + 1 else if c = 93 ∨ c = 125 then d - 1 else d
  | _, _, d => d

/-- The text, read at depth `d`, ends inside a literal or a bracket. -/
def Unfinished : Mode → Nat → Str → Prop
  | m, d, [] => m ≠ .between ∨ 0 < d
  | m, d, c :: t => Unfinished (m.next c) (m.depth c d) t

theorem isPlain_ne {c : Nat} (h : isPlain c = true) :
    c ≠ 34 ∧ c ≠ 92 ∧ ¬(c = 91 ∨ c = 123) ∧ ¬(c = 93 ∨ c = 125) := by
  simp only [isPlain, Bool.and_eq_true, bne_iff_ne] at h
  omega

theorem tracks_unfinished :
    Tracks (Unfinished .between) (Unfinished .literal) (fun _ => True) where
  out_char h hc := by
    obtain ⟨h34, -, ho, hcl⟩ := isPlain_ne hc
    rwa [Unfinished, Mode.next_between h34, Mode.depth, if_neg ho, if_neg hcl] at h
  out_open h hc := by
    rwa [Unfinished, Mode.next_between (by omega), Mode.depth, if_pos hc] at h
  out_close h hc := by
    rwa [Unfinished, Mode.next_between (by omega), Mode.depth, if_neg (by omega),
      if_pos hc] at h
  out_quote h := h
  in_char h h34 h92 := ⟨by rwa [Unfinished, Mode.next_literal h34 h92] at h, trivial⟩
  in_escape h := ⟨h, fun _ => trivial⟩
  in_quote h := h

/-- No value spans a text that ends inside a literal or a bracket. -/
theorem loads_unfinished {F : Type} [Runtime F] {t : Str} (h : Unfinished .between 0 t)
    (v : Json F) : loads t ≠ .ok v := fun hv => by
  rcases (tracks_unfinished.loads h hv).1 with h | h
  · exact h rfl
  · exact absurd h (Nat.lt_irrefl 0)

/-! ## The encoder's output, read character by character -/

/-- The characters of numbers, words and separators. -/
def scalarChars : Str := "+-.0123456789:,EINaefilnrstuy"

/-- What the encoder writes between two literals, and the replacement
character that a decoder of bytes puts where a text is cut. -/
def structural : Str := scalarChars ++ (Str.ofString "[]{}" ++ [0xFFFD])

theorem scalarChars_plain :
    ∀ c ∈ scalarChars, c ∈ structural ∧ isPlain c = true := by decide

theorem structural_ne : ∀ c ∈ structural, c ≠ 34 ∧ c ≠ 92 := by decide

theorem structural_no_break : ∀ c ∈ structural, isLineBreak c = false := by decide

/-- Every character of the text is `W` of the place it stands at. -/
def Along (W : Mode → Nat → Nat → Prop) : Mode → Nat → Str → Prop
  | _, _, [] => True
  | m, d, c :: t => W m d c ∧ Along W (m.next c) (m.depth c d) t

/-- What `W` has to allow for the encoder's output at depth `low` or more. -/
structure Admits (W : Mode → Nat → Nat → Prop) (low : Nat) : Prop where
  inner : ∀ {c d}, c ∈ structural → ¬(c = 93 ∨ c = 125) → low ≤ d → W .between d c
  close : ∀ {c d}, c = 93 ∨ c = 125 → low ≤ d → W .between (d + 1) c
  quote : ∀ {d}, low ≤ d → W .between d 34
  literal : ∀ {c d}, low ≤ d → W .literal d c
  escaped : ∀ {c d}, isLineBreak c = false → low ≤ d → W .escaped d c

theorem along_append {W : Mode → Nat → Nat → Prop} {u t : Str} {m : Mode} {d : Nat}
    (h : Along W m d (u ++ t)) : Along W m d u ∧ ∃ d', Along W (m.run u) d' t := by
  induction u generalizing m d with
  | nil => exact ⟨trivial, d, h⟩
  | cons c u ih =>
      obtain ⟨hu, ht⟩ := ih h.2
      exact ⟨⟨h.1, hu⟩, ht⟩

theorem isDigit_scalarChars {c : Nat} (h : isDigit c = true) : c ∈ scalarChars := by
  have hall : ∀ d, d < 58 → isDigit d = true → d ∈ scalarChars := by decide
  refine hall c ?_ h
  simp only [isDigit, Bool.and_eq_true, decide_eq_true_eq] at h
  omega

theorem intText_scalarChars (n : Int) : ∀ c ∈ intText n, c ∈ scalarChars := by
  have hnat : ∀ c ∈ natText n.natAbs, c ∈ scalarChars :=
    fun c hc => isDigit_scalarChars (natText_digits _ c hc)
  rcases intText_cases n with ⟨h, -⟩ | ⟨h, -⟩
  · rw [h]; exact hnat
  · rw [h]
    intro c hc
    rcases List.mem_cons.mp hc with rfl | hc
    · decide
    · exact hnat c hc

theorem FloatLit.scalarChars (l : FloatLit) : ∀ c ∈ l.text, c ∈ scalarChars := by
  have hint : ∀ c ∈ l.int, c ∈ Py.scalarChars := by
    rcases l.int_ok with h | ⟨_, _, _, _, h⟩
    · rw [h]; decide
    · exact fun c hc => isDigit_scalarChars (h c hc)
  have hfrac : ∀ c ∈ l.frac, c ∈ Py.scalarChars := by
    rcases l.frac_ok with h | ⟨ds, h, -, hd⟩
    · rw [h]; decide
    · rw [h]
      intro c hc
      rcases List.mem_cons.mp hc with rfl | hc
      · decide
      · exact isDigit_scalarChars (hd c hc)
  have hexp : ∀ c ∈ l.exp, c ∈ Py.scalarChars := by
    rcases l.exp_ok with h | ⟨m, s, ds, h, hm, hs, -, hd⟩
    · rw [h]; decide
    · rw [h]
      intro c hc
      rcases List.mem_cons.mp hc with rfl | hc
      · rcases hm with rfl | rfl <;> decide
      · rcases List.mem_append.mp hc with hc | hc
        · have hsign : ∀ s : Str, s = [] ∨ s = [43] ∨ s = [45] → ∀ c ∈ s, c ∈ Py.scalarChars := by
            rintro s (rfl | rfl | rfl) <;> decide
          exact hsign s hs c hc
        · exact isDigit_scalarChars (hd c hc)
  intro c hc
  rw [FloatLit.text, List.mem_append, List.mem_append, List.mem_append] at hc
  rcases hc with ((hc | hc) | hc) | hc
  · cases hneg : l.neg with
    | true => rw [hneg] at hc; revert c; decide
    | false => rw [hneg] at hc; cases hc
  · exact hint c hc
  · exact hfrac c hc
  · exact hexp c hc

section

variable {F : Type} [Runtime F]

theorem floatText_scalarChars (x : F) : ∀ c ∈ Runtime.floatText x, c ∈ scalarChars := by
  rcases Runtime.floatText_read x with ⟨k, h, -⟩ | ⟨l, h, -⟩
  · rw [h]; cases k <;> decide
  · rw [h]; exact l.scalarChars

section

variable {W : Mode → Nat → Nat → Prop} {low d : Nat}

theorem along_bracket (A : Admits W low) (hd : low ≤ d) {c : Nat} {t : Str}
    (hc : c = 91 ∨ c = 123) (ht : Along W .between (d + 1) t) :
    Along W .between d (c :: t) := by
  have hs : c ∈ structural := by rcases hc with rfl | rfl <;> decide
  rw [Along, Mode.next_between (by omega), Mode.depth, if_pos hc]
  exact ⟨A.inner hs (by omega) hd, ht⟩

theorem along_close (A : Admits W low) (hd : low ≤ d) {c : Nat} {t : Str}
    (hc : c = 93 ∨ c = 125) (ht : Along W .between d t) :
    Along W .between (d + 1) (c :: t) := by
  rw [Along, Mode.next_between (by omega), Mode.depth, if_neg (by omega), if_pos hc]
  exact ⟨A.close hc hd, ht⟩

theorem along_scalars (A : Admits W low) (hd : low ≤ d) {u t : Str}
    (hu : ∀ c ∈ u, c ∈ scalarChars) (ht : Along W .between d t) :
    Along W .between d (u ++ t) := by
  induction u with
  | nil => exact ht
  | cons c u ih =>
      obtain ⟨hs, hp⟩ := scalarChars_plain c (hu c (List.mem_cons_self ..))
      obtain ⟨h34, -, ho, hcl⟩ := isPlain_ne hp
      rw [List.cons_append, Along, Mode.next_between h34, Mode.depth, if_neg ho, if_neg hcl]
      exact ⟨A.inner hs hcl hd, ih fun x hx => hu x (List.mem_cons_of_mem _ hx)⟩

theorem along_separator (A : Admits W low) (hd : low ≤ d) {c : Nat} {t : Str}
    (hc : c = 44 ∨ c = 58) (ht : Along W .between d t) : Along W .between d (c :: t) := by
  have hs : ∀ x ∈ [c], x ∈ scalarChars := by
    rcases hc with rfl | rfl <;> decide
  exact along_scalars A hd hs ht

theorem along_escapeChar (A : Admits W low) (hd : low ≤ d) {c : Nat} {t : Str}
    (ht : Along W .literal d t) : Along W .literal d (escapeChar c ++ t) := by
  have short : ∀ {e : Nat}, isLineBreak e = false → Along W .literal d (92 :: e :: t) :=
    fun he => ⟨A.literal hd, A.escaped he hd, ht⟩
  unfold escapeChar
  split_ifs with h1 h2 h3 h4 h5 h6 h7 h8
  · exact short rfl
  · exact short rfl
  · exact short rfl
  · exact short rfl
  · exact short rfl
  · exact short rfl
  · exact short rfl
  · -- the two hexadecimal digits are literal text
    have hplain : ∀ d, d < 16 → hexDigit d ≠ 34 ∧ hexDigit d ≠ 92 := by decide
    have hhi := hplain (c / 16) (by omega)
    have hlo := hplain (c % 16) (by omega)
    have hdigits : Along W .literal d (hexDigit (c / 16) :: hexDigit (c % 16) :: t) := by
      rw [Along, Mode.next_literal hhi.1 hhi.2, Along, Mode.next_literal hlo.1 hlo.2]
      exact ⟨A.literal hd, A.literal hd, ht⟩
    exact ⟨A.literal hd, A.escaped rfl hd, A.literal hd, A.literal hd, hdigits⟩
  · rw [List.cons_append, Along, Mode.next_literal h1 h2]
    exact ⟨A.literal hd, ht⟩

theorem along_encodeString (A : Admits W low) (hd : low ≤ d) {s t : Str}
    (ht : Along W .between d t) : Along W .between d (encodeString s ++ t) := by
  have go : Along W .literal d (s.flatMap escapeChar ++ 34 :: t) := by
    induction s with
    | nil => exact ⟨A.literal hd, ht⟩
    | cons c s ih =>
        rw [List.flatMap_cons, List.append_assoc]
        exact along_escapeChar A hd ih
  rw [encodeString_append]
  exact ⟨A.quote hd, go⟩

namespace Json

mutual

/-- The encoder's output keeps what `W` asks of its characters. -/
theorem along_encode (A : Admits W low) : ∀ (v : Json F) {d : Nat} {t : Str}, low ≤ d →
    Along W .between d t → Along W .between d (encode v ++ t)
  | .null, _, _, hd, ht =>
      along_scalars A hd (by decide : ∀ c ∈ Str.ofString "null", c ∈ scalarChars) ht
  | .bool true, _, _, hd, ht =>
      along_scalars A hd (by decide : ∀ c ∈ Str.ofString "true", c ∈ scalarChars) ht
  | .bool false, _, _, hd, ht =>
      along_scalars A hd (by decide : ∀ c ∈ Str.ofString "false", c ∈ scalarChars) ht
  | .int n, _, _, hd, ht => along_scalars A hd (intText_scalarChars n) ht
  | .float x, _, _, hd, ht => along_scalars A hd (floatText_scalarChars x) ht
  | .str s, _, _, hd, ht => along_encodeString A hd ht
  | .arr xs, d, t, hd, ht => by
      rw [encode, List.cons_append, List.append_assoc]
      exact along_bracket A hd (.inl rfl)
        (along_encodeElements A xs (by omega) (along_close A hd (.inl rfl) ht))
  | .obj kvs, d, t, hd, ht => by
      rw [encode, List.cons_append, List.append_assoc]
      exact along_bracket A hd (.inr rfl)
        (along_encodeMembers A kvs (by omega) (along_close A hd (.inr rfl) ht))

theorem along_encodeElements (A : Admits W low) : ∀ (xs : List (Json F)) {d : Nat} {t : Str},
    low ≤ d → Along W .between d t → Along W .between d (encodeElements xs ++ t)
  | [], _, _, _, ht => ht
  | [x], _, _, hd, ht => along_encode A x hd ht
  | x :: y :: xs, d, t, hd, ht => by
      rw [encodeElements, List.append_assoc]
      exact along_encode A x hd (along_separator A hd (.inl rfl)
        (along_encodeElements A (y :: xs) hd ht))

theorem along_encodeMembers (A : Admits W low) : ∀ (kvs : List (Str × Json F)) {d : Nat}
    {t : Str}, low ≤ d → Along W .between d t → Along W .between d (encodeMembers kvs ++ t)
  | [], _, _, _, ht => ht
  | [(k, v)], d, t, hd, ht => by
      rw [encodeMembers, List.append_assoc]
      exact along_encodeString A hd (along_separator A hd (.inr rfl)
        (along_encode A v hd ht))
  | (k, v) :: kv :: kvs, d, t, hd, ht => by
      rw [encodeMembers, List.append_assoc, List.cons_append, List.append_assoc]
      exact along_encodeString A hd (along_separator A hd (.inr rfl)
        (along_encode A v hd (along_separator A hd (.inl rfl)
          (along_encodeMembers A (kv :: kvs) hd ht))))

end

end Json

end

end

/-! ## A piece of the encoder's output -/

/-- What the encoder writes at each place: a line boundary stands only
inside a literal, and never right after a backslash. -/
def Written : Mode → Nat → Nat → Prop
  | .between, _, c => c = 34 ∨ c ∈ structural
  | .literal, _, _ => True
  | .escaped, _, c => isLineBreak c = false

theorem admits_written : Admits Written 0 where
  inner hc _ _ := .inr hc
  close hc _ := by rcases hc with rfl | rfl <;> exact .inr (by decide)
  quote _ := .inl rfl
  literal _ := trivial
  escaped he _ := he

/-- A piece of the encoder's output, at some depth. -/
def Laid (m : Mode) (t : Str) : Prop := ∃ d, Along Written m d t

theorem laid_encode {F : Type} [Runtime F] (v : Json F) : Laid .between (v.encode) := by
  have h := Json.along_encode (d := 0) (t := []) admits_written v (Nat.le_refl 0) trivial
  rw [List.append_nil] at h
  exact ⟨0, h⟩

theorem Laid.append {u t : Str} {m : Mode} (h : Laid m (u ++ t)) :
    Laid m u ∧ Laid (m.run u) t := by
  obtain ⟨d, h⟩ := h
  obtain ⟨hu, ht⟩ := along_append h
  exact ⟨⟨d, hu⟩, ht⟩

theorem Laid.literal_char {c : Nat} {t : Str} (h34 : c ≠ 34) (h92 : c ≠ 92)
    (h : Laid .literal (c :: t)) : Laid .literal t := by
  obtain ⟨d, -, ht⟩ := h
  rw [Mode.next_literal h34 h92] at ht
  exact ⟨_, ht⟩

/-- Read from the middle of a literal, the places are exchanged. -/
theorem tracks_laid :
    Tracks (fun _ => Laid .literal) (fun _ => Laid .between) (fun c => c ∈ structural) where
  out_char h hc := h.literal_char (isPlain_ne hc).1 (isPlain_ne hc).2.1
  out_open h hc := h.literal_char (by omega) (by omega)
  out_close h hc := h.literal_char (by omega) (by omega)
  out_quote h := by obtain ⟨d, -, ht⟩ := h; exact ⟨_, ht⟩
  in_char h h34 _ := by
    obtain ⟨d, hc, ht⟩ := h
    rw [Mode.next_between h34] at ht
    exact ⟨⟨_, ht⟩, hc.resolve_left h34⟩
  in_escape h := by
    obtain ⟨d, hc, -⟩ := h
    rcases hc with hc | hc
    · cases hc
    · exact absurd rfl (structural_ne _ hc).2
  in_quote h := by obtain ⟨d, -, ht⟩ := h; exact ⟨_, ht⟩

/-- What the decoder takes for strings in a text that opens inside a
literal was written between two literals. -/
theorem loads_inside {F : Type} [Runtime F] {t : Str} {v : Json F} (ht : Laid .literal t)
    (hv : loads t = .ok v) : Json.AllStrings (fun s => ∀ c ∈ s, c ∈ structural) v :=
  (tracks_laid.loads ht hv).2

/-- At a line boundary the encoder's output stands inside a literal. -/
theorem Laid.line_break {u t : Str} {m : Mode} {b : Nat} (hb : isLineBreak b = true)
    (h : Laid m (u ++ b :: t)) : m.run u = .literal ∧ Laid .literal t := by
  obtain ⟨-, d, hw, ht⟩ := h.append
  cases hm : m.run u with
  | between =>
      rw [hm] at hw
      rcases hw with rfl | hw
      · cases hb
      · rw [structural_no_break _ hw] at hb; cases hb
  | literal =>
      rw [hm, Mode.next_literal (by rintro rfl; cases hb) (by rintro rfl; cases hb)] at ht
      exact ⟨rfl, _, ht⟩
  | escaped =>
      rw [hm] at hw
      rw [show isLineBreak b = false from hw] at hb
      cases hb

/-! ## Line boundaries in the encoder's output -/

/-- The line boundaries `ensure_ascii=False` leaves as they are: NEL and the
two Unicode separators. -/
def isRawBreak (c : Nat) : Bool := c == 0x85 || c == 0x2028 || c == 0x2029

/-- `splitlines` finds no boundary in the text. -/
def OneLine (t : Str) : Prop := ∀ c ∈ t, isLineBreak c = false

/-- No character of the text is left as a raw boundary. -/
def NoRawBreak (s : Str) : Prop := ∀ c ∈ s, isRawBreak c = false

instance : DecidablePred OneLine := fun t =>
  inferInstanceAs (Decidable (∀ c ∈ t, isLineBreak c = false))

theorem oneLine_append {u t : Str} : OneLine (u ++ t) ↔ OneLine u ∧ OneLine t :=
  List.forall_mem_append

theorem oneLine_cons {c : Nat} {t : Str} :
    OneLine (c :: t) ↔ isLineBreak c = false ∧ OneLine t :=
  List.forall_mem_cons

theorem oneLine_of_scalars {u : Str} (h : ∀ c ∈ u, c ∈ scalarChars) : OneLine u := fun c hc =>
  structural_no_break c (scalarChars_plain c (h c hc)).1

theorem oneLine_escapeChar (c : Nat) : OneLine (escapeChar c) ↔ isRawBreak c = false := by
  have hraw : ¬(0x85 = c ∨ 0x2028 = c ∨ 0x2029 = c) → isRawBreak c = false := fun h => by
    simp only [isRawBreak, Bool.or_eq_false_iff, beq_eq_false_iff_ne]
    omega
  unfold escapeChar
  split_ifs with h1 h2 h3 h4 h5 h6 h7 h8
  · subst h1; decide
  · subst h2; decide
  · subst h3; decide
  · subst h4; decide
  · subst h5; decide
  · subst h6; decide
  · subst h7; decide
  · have hdigit : ∀ d, d < 16 → isLineBreak (hexDigit d) = false := by decide
    refine ⟨fun _ => hraw (by omega), fun _ => ?_⟩
    simp only [oneLine_cons]
    exact ⟨rfl, rfl, rfl, rfl, hdigit _ (by omega), hdigit _ (by omega), nofun⟩
  · simp only [oneLine_cons, isLineBreak, isRawBreak, Bool.or_eq_false_iff,
      beq_eq_false_iff_ne, Bool.and_eq_false_iff, decide_eq_false_iff_not]
    constructor
    · rintro ⟨h, -⟩
      omega
    · exact fun h => ⟨by omega, nofun⟩

theorem oneLine_encodeString (s : Str) : OneLine (encodeString s) ↔ NoRawBreak s := by
  have go : OneLine (s.flatMap escapeChar) ↔ NoRawBreak s := by
    induction s with
    | nil => exact ⟨fun _ => nofun, fun _ => nofun⟩
    | cons c s ih =>
        rw [List.flatMap_cons, oneLine_append, oneLine_escapeChar, ih, NoRawBreak,
          NoRawBreak, List.forall_mem_cons]
  rw [encodeString, oneLine_cons, oneLine_append, go]
  exact ⟨fun h => h.2.1, fun h => ⟨rfl, h, by decide⟩⟩

namespace Json

variable {F : Type} [Runtime F]

mutual

/-- The text of a value is one line exactly when its strings hold no raw
boundary. -/
theorem oneLine_encode : ∀ v : Json F, OneLine (encode v) ↔ AllStrings NoRawBreak v
  | .null => ⟨fun _ => trivial, fun _ => (by decide : OneLine "null")⟩
  | .bool true => ⟨fun _ => trivial, fun _ => (by decide : OneLine "true")⟩
  | .bool false => ⟨fun _ => trivial, fun _ => (by decide : OneLine "false")⟩
  | .int n => ⟨fun _ => trivial, fun _ => oneLine_of_scalars (intText_scalarChars n)⟩
  | .float x => ⟨fun _ => trivial, fun _ => oneLine_of_scalars (floatText_scalarChars x)⟩
  | .str s => oneLine_encodeString s
  | .arr xs => by
      rw [encode, oneLine_cons, oneLine_append, oneLine_encodeElements xs]
      exact ⟨fun h => h.2.1, fun h => ⟨rfl, h, by decide⟩⟩
  | .obj kvs => by
      rw [encode, oneLine_cons, oneLine_append, oneLine_encodeMembers kvs]
      exact ⟨fun h => h.2.1, fun h => ⟨rfl, h, by decide⟩⟩

theorem oneLine_encodeElements : ∀ xs : List (Json F),
    OneLine (encodeElements xs) ↔ AllStringsElements NoRawBreak xs
  | [] => ⟨fun _ => trivial, fun _ => nofun⟩
  | [x] => by
      rw [encodeElements, oneLine_encode x]
      exact ⟨fun h => ⟨h, trivial⟩, fun h => h.1⟩
  | x :: y :: xs => by
      rw [encodeElements, oneLine_append, oneLine_cons, oneLine_encode x,
        oneLine_encodeElements (y :: xs)]
      exact ⟨fun h => ⟨h.1, h.2.2⟩, fun h => ⟨h.1, rfl, h.2⟩⟩

theorem oneLine_encodeMembers : ∀ kvs : List (Str × Json F),
    OneLine (encodeMembers kvs) ↔ AllStringsMembers NoRawBreak kvs
  | [] => ⟨fun _ => trivial, fun _ => nofun⟩
  | [(k, v)] => by
      rw [encodeMembers, oneLine_append, oneLine_cons, oneLine_encodeString, oneLine_encode v]
      exact ⟨fun h => ⟨h.1, h.2.2, trivial⟩, fun h => ⟨h.1, rfl, h.2.1⟩⟩
  | (k, v) :: kv :: kvs => by
      rw [encodeMembers, oneLine_append, oneLine_cons, oneLine_append, oneLine_cons,
        oneLine_encodeString, oneLine_encode v, oneLine_encodeMembers (kv :: kvs)]
      exact ⟨fun h => ⟨h.1, h.2.2.1, h.2.2.2.2⟩, fun h => ⟨h.1, rfl, h.2.1, rfl, h.2.2⟩⟩

end

end Json

/-! ## A cut object -/

/-- The decoder is not back between tokens with no bracket open. -/
def Inside (m : Mode) (d c : Nat) : Prop := m.next c ≠ .between ∨ 0 < m.depth c d

theorem admits_inside : Admits Inside 1 where
  inner hc hcl hd := by
    refine .inr ?_
    rw [Mode.depth]
    split_ifs <;> omega
  close hc hd := by
    refine .inr ?_
    rw [Mode.depth]
    split_ifs <;> omega
  quote hd := .inr hd
  literal hd := .inr hd
  escaped _ hd := .inr hd

theorem unfinished_of_along : ∀ {u : Str} {m : Mode} {d : Nat}, Along Inside m d u → u ≠ [] →
    Unfinished m d u
  | [], _, _, _, hne => absurd rfl hne
  | [_], _, _, h, _ => h.1
  | _ :: e :: u, _, _, h, _ => unfinished_of_along (u := e :: u) h.2 (List.cons_ne_nil _ _)

theorem loads_nil {F : Type} [Runtime F] : loads (F := F) [] = .error .decode := by
  have h : ∀ d, scanOnce (F := F) d [] = .error .decode := fun d => by cases d <;> rfl
  rw [loads, show skipSpace [] = [] from rfl, h]

theorem unfinished_cut {F : Type} [Runtime F] {kvs : List (Str × Json F)} {u t : Str}
    (h : (Json.obj kvs).encode = u ++ t) (ht : t ≠ []) (hu : u ≠ []) :
    Unfinished .between 0 u := by
  cases u with
  | nil => exact absurd rfl hu
  | cons c u =>
      refine unfinished_of_along ?_ (List.cons_ne_nil _ _)
      rw [Json.encode] at h
      obtain ⟨rfl, hrest⟩ := List.cons.inj h
      have hm := Json.along_encodeMembers (d := 1) (t := []) admits_inside kvs (Nat.le_refl 1)
        trivial
      rw [List.append_nil] at hm
      -- what is cut off holds at least the closing brace
      obtain ⟨w, hw⟩ : ∃ w, Json.encodeMembers kvs = u ++ w := by
        have hlast := congrArg List.dropLast hrest
        rw [List.dropLast_concat] at hlast
        exact ⟨_, hlast.trans (List.dropLast_append_of_ne_nil ht)⟩
      rw [hw] at hm
      exact ⟨.inr Nat.one_pos, (along_append hm).1⟩

/-- No proper part of an object's text is read as a value. -/
theorem loads_cut {F : Type} [Runtime F] {kvs : List (Str × Json F)} {u t : Str}
    (h : (Json.obj kvs).encode = u ++ t) (ht : t ≠ []) (v : Json F) : loads u ≠ .ok v := by
  by_cases hu : u = []
  · rw [hu, loads_nil]; nofun
  · exact loads_unfinished (unfinished_cut h ht hu) v

end Py
