import Rigor.WebhookVerification

/-!
# The texts of objects

Behind a dot within the text of an object no text of an object begins
(`no_object_behind_dot`): between two tokens of it at least one bracket is
open that the rest of the text closes, and within a literal what the outer
text reads as literals is what the inner one reads between them. The same
holds of the bytes of such texts, in whatever encoding `json.loads` finds.
-/

namespace Rigor

open Py

/-! ## The text of an object -/

/-- What a decoder can still read at depth `d` until the last bracket closes,
with only white space behind it. -/
def Closes : Mode → Nat → Str → Prop
  | _, 0, t => ∀ c ∈ t, isJsonSpace c = true
  | _, _ + 1, [] => False
  | m, d + 1, c :: t =>
      (m = .between → c ≠ 92) ∧ c ≠ 0 ∧ Closes (m.next c) (m.depth c (d + 1)) t

theorem closes_zero {m : Mode} {t : Str} :
    Closes m 0 t ↔ ∀ c ∈ t, isJsonSpace c = true := by
  cases t <;> rw [Closes]

theorem Closes.space {m n : Mode} {c : Nat} {t : Str} (h : Closes m 0 (c :: t)) :
    isJsonSpace c = true ∧ Closes n 0 t :=
  ⟨closes_zero.mp h c (List.mem_cons_self ..),
    closes_zero.mpr fun x hx => closes_zero.mp h x (List.mem_cons_of_mem _ hx)⟩

/-- One depth fits a text. -/
theorem Closes.depth_unique : ∀ {t : Str} {m : Mode} {d e : Nat},
    (d = 0 ∨ e = 0 → m = .between) → Closes m d t → Closes m e t → d = e
  | [], _, 0, 0, _, _, _ => rfl
  | [], _, 0, _ + 1, _, _, h => h.elim
  | [], _, _ + 1, _, _, h, _ => h.elim
  | _ :: _, _, 0, 0, _, _, _ => rfl
  | c :: t, m, 0, e + 1, hm, h, h' => by
      obtain rfl := hm (.inl rfl)
      obtain ⟨hc, hspace⟩ := h.space (n := .between)
      have hplain := isPlain_ne (isPlain_of_isJsonSpace hc)
      have hrest := h'.2.2
      rw [Mode.next_between hplain.1, Mode.depth, if_neg hplain.2.2.1, if_neg hplain.2.2.2] at hrest
      exact Closes.depth_unique (fun _ => rfl) hspace hrest
  | c :: t, m, d + 1, 0, hm, h, h' => by
      obtain rfl := hm (.inr rfl)
      obtain ⟨hc, hspace⟩ := h'.space (n := .between)
      have hplain := isPlain_ne (isPlain_of_isJsonSpace hc)
      have hrest := h.2.2
      rw [Mode.next_between hplain.1, Mode.depth, if_neg hplain.2.2.1, if_neg hplain.2.2.2] at hrest
      exact Closes.depth_unique (fun _ => rfl) hrest hspace
  | c :: t, m, d + 1, e + 1, _, h, h' => by
      have hnext : m.depth c (d + 1) = 0 ∨ m.depth c (e + 1) = 0 → m.next c = .between := by
        cases m with
        | between =>
            rw [Mode.depth, Mode.depth]
            intro hzero
            refine Mode.next_between ?_
            rintro rfl
            rcases hzero with hzero | hzero <;> cases hzero
        | literal => rintro (hzero | hzero) <;> cases hzero
        | escaped => rintro (hzero | hzero) <;> cases hzero
      have hdepth := Closes.depth_unique hnext h.2.2 h'.2.2
      cases m with
      | between =>
          simp only [Mode.depth] at hdepth
          split_ifs at hdepth <;> omega
      | literal => exact hdepth
      | escaped => exact hdepth

/-- Read between tokens and within a literal at once, a text does not close. -/
theorem Closes.not_literal : ∀ {t : Str} {d e : Nat}, 0 < e → Closes .between d t →
    ¬Closes .literal e t
  | [], _, e + 1, _, _, h' => h'
  | c :: t, 0, e + 1, he, h, h' => by
      obtain ⟨hc, hspace⟩ := h.space (n := .between)
      have hplain := isPlain_ne (isPlain_of_isJsonSpace hc)
      have hrest := h'.2.2
      rw [Mode.next_literal hplain.1 hplain.2.1] at hrest
      exact Closes.not_literal he hspace hrest
  | c :: t, d + 1, e + 1, he, h, h' => by
      have hbackslash := h.1 rfl
      have hout := h.2.2
      have hin := h'.2.2
      by_cases hquote : c = 34
      · -- a quote exchanges the two
        subst hquote
        exact Closes.not_literal (Nat.succ_pos d) hin hout
      · rw [Mode.next_between hquote] at hout
        rw [Mode.next_literal hquote hbackslash] at hin
        exact Closes.not_literal he hout hin

/-! ## What the decoder reads closes -/

theorem Closes.plain {d c : Nat} {t : Str} (hplain : isPlain c = true) (hc : c ≠ 0)
    (h : Closes .between (d + 1) t) : Closes .between (d + 1) (c :: t) := by
  obtain ⟨hquote, hbackslash, hopen, hclose⟩ := isPlain_ne hplain
  refine ⟨fun _ => hbackslash, hc, ?_⟩
  rwa [Mode.next_between hquote, Mode.depth, if_neg hopen, if_neg hclose]

theorem Closes.plains {d : Nat} {r : Str} (h : Closes .between (d + 1) r) :
    ∀ {u : Str}, (∀ c ∈ u, isPlain c = true ∧ c ≠ 0) → Closes .between (d + 1) (u ++ r)
  | [], _ => h
  | c :: u, hu => by
      obtain ⟨hc, hrest⟩ := List.forall_mem_cons.mp hu
      exact (h.plains hrest).plain hc.1 hc.2

theorem Closes.of_skipSpace {d : Nat} {t : Str} (h : Closes .between (d + 1) (skipSpace t)) :
    Closes .between (d + 1) t := by
  rw [← List.takeWhile_append_dropWhile (p := isJsonSpace) (l := t)]
  refine Closes.plains h fun c hc => ?_
  have hspace := List.mem_takeWhile_imp hc
  refine ⟨isPlain_of_isJsonSpace hspace, ?_⟩
  rintro rfl
  cases hspace

theorem Closes.close {d c : Nat} {t : Str} (hc : c = 93 ∨ c = 125) (h : Closes .between d t) :
    Closes .between (d + 1) (c :: t) := by
  refine ⟨fun _ => by omega, by omega, ?_⟩
  rwa [Mode.next_between (by omega), Mode.depth, if_neg (by omega), if_pos hc]

theorem Closes.open {d c : Nat} {t : Str} (hc : c = 91 ∨ c = 123)
    (h : Closes .between (d + 2) t) : Closes .between (d + 1) (c :: t) := by
  refine ⟨fun _ => by omega, by omega, ?_⟩
  rwa [Mode.next_between (by omega), Mode.depth, if_pos hc]

theorem Closes.quote {d : Nat} {t : Str} (h : Closes .literal (d + 1) t) :
    Closes .between (d + 1) (34 :: t) :=
  ⟨fun _ => by decide, by decide, h⟩

theorem Closes.literal {d c : Nat} {t : Str} (h34 : c ≠ 34) (h92 : c ≠ 92) (h0 : c ≠ 0)
    (h : Closes .literal (d + 1) t) : Closes .literal (d + 1) (c :: t) := by
  refine ⟨nofun, h0, ?_⟩
  rwa [Mode.next_literal h34 h92]

theorem hexValue_ne_zero {c n : Nat} (h : hexValue c = some n) : c ≠ 0 := by
  rintro rfl
  cases h

theorem literal_ne {p : Prop} (h : Mode.literal = .between) : p := by cases h

theorem escaped_ne {p : Prop} (h : Mode.escaped = .between) : p := by cases h

theorem closes_scanString : ∀ {d : Nat} {t s r : Str}, scanString t = .ok (s, r) →
    Closes .between (d + 1) r → Closes .literal (d + 1) t := by
  intro d t
  fun_induction scanString t with
  | case1 => intro s r h; cases h
  | case2 t =>
      intro s r h hr
      cases h
      exact ⟨literal_ne, by decide, hr⟩
  | case3 | case5 | case6 | case8 | case9 => intro s r h; cases h
  | case4 a b c d t u hu _ ih =>
      intro s r h hr
      obtain ⟨⟨s', r'⟩, hs, hp⟩ := map_eq_ok h
      cases hp
      obtain ⟨ha, hb, hc, hd⟩ := hex4_plain hu
      simp only [hex4, Option.bind_eq_bind, Option.bind_eq_some_iff] at hu
      obtain ⟨_, ha0, _, hb0, _, hc0, _, hd0, -⟩ := hu
      exact ⟨literal_ne, by decide, escaped_ne, by decide,
        .literal ha.1 ha.2 (hexValue_ne_zero ha0) (.literal hb.1 hb.2 (hexValue_ne_zero hb0)
          (.literal hc.1 hc.2 (hexValue_ne_zero hc0) (.literal hd.1 hd.2 (hexValue_ne_zero hd0)
            (ih hs hr))))⟩
  | case7 e t he x hx _ ih =>
      intro s r h hr
      obtain ⟨⟨s', r'⟩, hs, hp⟩ := map_eq_ok h
      cases hp
      refine ⟨literal_ne, by decide, escaped_ne, ?_, ih hs hr⟩
      rintro rfl
      cases hx
  | case10 c t h34 h92 h32 ih =>
      intro s r h hr
      obtain ⟨⟨s', r'⟩, hs, hp⟩ := map_eq_ok h
      cases hp
      exact .literal h34 h92 (by omega) (ih hs hr)

/-- The characters of a number. -/
def isNumberChar (c : Nat) : Bool := isDigit c || c ∈ ([43, 45, 46, 69, 101] : List Nat)

theorem isNumberChar_plain {c : Nat} (h : isNumberChar c = true) : isPlain c = true ∧ c ≠ 0 := by
  simp only [isNumberChar, isDigit, Bool.or_eq_true, Bool.and_eq_true, decide_eq_true_eq,
    List.mem_cons, List.not_mem_nil, or_false] at h
  simp only [isPlain, Bool.and_eq_true, bne_iff_ne]
  omega

theorem takeWhile_digits (t : Str) : ∀ c ∈ t.takeWhile isDigit, isNumberChar c = true := by
  intro c hc
  rw [isNumberChar, List.mem_takeWhile_imp hc]
  rfl

theorem scanUnsigned_chars {sign t i r : Str} (h : scanUnsigned sign t = some (i, r))
    (hsign : ∀ c ∈ sign, isNumberChar c = true) : ∀ c ∈ i, isNumberChar c = true := by
  cases t with
  | nil => cases h
  | cons c u =>
      rw [scanUnsigned] at h
      split_ifs at h with h48 hdigit
      · cases h
        exact List.forall_mem_append.mpr ⟨hsign, by decide⟩
      · cases h
        refine List.forall_mem_append.mpr ⟨hsign, List.forall_mem_cons.mpr ⟨?_, takeWhile_digits u⟩⟩
        rw [isNumberChar, hdigit]
        rfl

theorem scanInt_chars {t i r : Str} (h : scanInt t = some (i, r)) :
    ∀ c ∈ i, isNumberChar c = true := by
  cases t with
  | nil => cases h
  | cons c u =>
      rw [scanInt] at h
      split_ifs at h with h45
      · exact scanUnsigned_chars h (by decide)
      · exact scanUnsigned_chars h (List.forall_mem_nil _)

theorem scanFrac_chars (t : Str) : ∀ c ∈ (scanFrac t).1, isNumberChar c = true := by
  unfold scanFrac
  split
  · rename_i u
    split_ifs
    · nofun
    · exact List.forall_mem_cons.mpr ⟨by decide, takeWhile_digits u⟩
  · nofun

theorem expSign_chars (t : Str) : ∀ c ∈ (expSign t).1, isNumberChar c = true := by
  cases t with
  | nil => exact List.forall_mem_nil _
  | cons c w =>
      rw [expSign]
      split_ifs with h
      · refine List.forall_mem_singleton.mpr ?_
        rcases h with rfl | rfl <;> decide
      · exact List.forall_mem_nil _

theorem scanExp_chars (t : Str) : ∀ c ∈ (scanExp t).1, isNumberChar c = true := by
  cases t with
  | nil => exact List.forall_mem_nil _
  | cons m u =>
      rw [scanExp]
      split_ifs with hm
      · exact List.forall_mem_nil _
      · refine List.forall_mem_cons.mpr
          ⟨?_, List.forall_mem_append.mpr ⟨expSign_chars u, takeWhile_digits _⟩⟩
        rcases hm with rfl | rfl <;> decide
      · exact List.forall_mem_nil _

section Scan

variable {F : Type} [Runtime F]

theorem closes_scanScalar {d : Nat} {t r : Str} {v : Json F} (h : scanScalar t = .ok (v, r))
    (hr : Closes .between (d + 1) r) : Closes .between (d + 1) t := by
  have word : ∀ {w : Str}, (∀ c ∈ w, isPlain c = true ∧ c ≠ 0) → t = w ++ r →
      Closes .between (d + 1) t := fun hw ht => ht ▸ hr.plains hw
  rw [scanScalar] at h
  split at h
  · rename_i hw; cases h; exact word (by decide) (dropWord_spec hw)
  split at h
  · rename_i hw; cases h; exact word (by decide) (dropWord_spec hw)
  split at h
  · rename_i hw; cases h; exact word (by decide) (dropWord_spec hw)
  split at h
  · rename_i hw; cases h; exact word (by decide) (dropWord_spec hw)
  split at h
  · rename_i hw; cases h; exact word (by decide) (dropWord_spec hw)
  split at h
  · rename_i hw; cases h; exact word (by decide) (dropWord_spec hw)
  rw [scanNumber] at h
  split at h
  · cases h
  · rename_i i u hi
    have hchars : ∀ c ∈ i ++ ((scanFrac u).1 ++ (scanExp (scanFrac u).2).1),
        isPlain c = true ∧ c ≠ 0 := by
      intro c hc
      refine isNumberChar_plain ?_
      rcases List.mem_append.mp hc with hc | hc
      · exact scanInt_chars hi c hc
      · rcases List.mem_append.mp hc with hc | hc
        · exact scanFrac_chars u c hc
        · exact scanExp_chars _ c hc
    have hall : t = (i ++ ((scanFrac u).1 ++ (scanExp (scanFrac u).2).1))
        ++ (scanExp (scanFrac u).2).2 := by
      rw [List.append_assoc, List.append_assoc, ← (scanExp_spec (scanFrac u).2).1,
        ← (scanFrac_spec u).1, ← (scanInt_spec hi).1]
    simp only at h
    split_ifs at h <;> cases h <;> exact word hchars hall

theorem scanScalar_not_obj {t r : Str} {members : List (Str × Json F)} :
    scanScalar t ≠ .ok (.obj members, r) := by
  intro h
  rw [scanScalar] at h
  repeat (split at h; · cases h)
  rw [scanNumber] at h
  split at h
  · cases h
  · simp only at h
    split_ifs at h <;> cases h

/-- What a value reader keeps of every depth. -/
def KeepsClosing (value : Str → Except LoadError (Json F × Str)) : Prop :=
  ∀ {d : Nat} {t r : Str} {v : Json F}, value t = .ok (v, r) → Closes .between (d + 1) r →
    Closes .between (d + 1) t

omit [Runtime F] in
theorem closes_scanElements {value : Str → Except LoadError (Json F × Str)}
    (hvalue : KeepsClosing value) : ∀ {fuel d : Nat} {t r : Str} {vs : List (Json F)},
    scanElements value fuel t = .ok (vs, r) → Closes .between d r → Closes .between (d + 1) t
  | 0, _, _, _, _, h, _ => by cases h
  | fuel + 1, d, t, r, vs, h, hr => by
      rw [scanElements] at h
      split at h
      · cases h
      · rename_i v u hv
        refine hvalue hv (Closes.of_skipSpace ?_)
        split at h
        · rename_i w hw
          cases h
          exact hw ▸ .close (.inl rfl) hr
        · rename_i w hw
          obtain ⟨⟨vs', r'⟩, hs, hp⟩ := map_eq_ok h
          cases hp
          exact hw ▸ .plain rfl (by decide) (.of_skipSpace (closes_scanElements hvalue hs hr))
        · cases h

omit [Runtime F] in
theorem closes_scanMembers {value : Str → Except LoadError (Json F × Str)}
    (hvalue : KeepsClosing value) : ∀ {fuel d : Nat} {t r : Str} {kvs : List (Str × Json F)},
    scanMembers value fuel t = .ok (kvs, r) → Closes .between d r → Closes .between (d + 1) t
  | 0, _, _, _, _, h, _ => by cases h
  | fuel + 1, d, t, r, kvs, h, hr => by
      rw [scanMembers.eq_def] at h
      simp only at h
      split at h
      · split at h
        · cases h
        · rename_i k u hk
          refine .quote (closes_scanString hk (.of_skipSpace ?_))
          split at h
          · rename_i w hw
            refine hw ▸ .plain rfl (by decide) (.of_skipSpace ?_)
            split at h
            · cases h
            · rename_i v x hv
              refine hvalue hv (.of_skipSpace ?_)
              split at h
              · rename_i y hy
                cases h
                exact hy ▸ .close (.inr rfl) hr
              · rename_i y hy
                obtain ⟨⟨kvs', r'⟩, hs, hp⟩ := map_eq_ok h
                cases hp
                exact hy ▸ .plain rfl (by decide) (.of_skipSpace (closes_scanMembers hvalue hs hr))
              · cases h
          · cases h
      · cases h

theorem closes_scanOnce : ∀ fuel : Nat, KeepsClosing (scanOnce (F := F) fuel) := by
  intro fuel
  induction fuel with
  | zero =>
      intro d t r v h hr
      cases t with
      | nil => cases h
      | cons c t =>
          by_cases h34 : c = 34
          · subst h34
            rw [scanOnce_quote] at h
            obtain ⟨⟨s, r'⟩, hs, hp⟩ := map_eq_ok h
            cases hp
            exact .quote (closes_scanString hs hr)
          by_cases h91 : c = 91
          · subst h91; rw [scanOnce.eq_def] at h; cases h
          by_cases h123 : c = 123
          · subst h123; rw [scanOnce.eq_def] at h; cases h
          · rw [scanOnce_scalar h34 h91 h123] at h
            exact closes_scanScalar h hr
  | succ fuel ih =>
      intro d t r v h hr
      cases t with
      | nil => cases h
      | cons c t =>
          by_cases h34 : c = 34
          · subst h34
            rw [scanOnce_quote] at h
            obtain ⟨⟨s, r'⟩, hs, hp⟩ := map_eq_ok h
            cases hp
            exact .quote (closes_scanString hs hr)
          by_cases h91 : c = 91
          · subst h91
            refine .open (.inl rfl) (.of_skipSpace ?_)
            rw [scanOnce_bracket] at h
            split at h
            · rename_i u hu
              cases h
              exact hu ▸ .close (.inl rfl) hr
            · obtain ⟨⟨vs, r'⟩, hs, hp⟩ := map_eq_ok h
              cases hp
              exact closes_scanElements ih hs hr
          by_cases h123 : c = 123
          · subst h123
            refine .open (.inr rfl) (.of_skipSpace ?_)
            rw [scanOnce_brace] at h
            split at h
            · rename_i u hu
              cases h
              exact hu ▸ .close (.inr rfl) hr
            · obtain ⟨⟨kvs, r'⟩, hs, hp⟩ := map_eq_ok h
              cases hp
              exact closes_scanMembers ih hs hr
          · rw [scanOnce_scalar h34 h91 h123] at h
            exact closes_scanScalar h hr

/-- The text of an object: white space, a bracket, and what closes it. -/
def ObjectText (t : Str) : Prop :=
  ∃ space inner, t = space ++ 123 :: inner ∧ (∀ c ∈ space, isJsonSpace c = true)
    ∧ Closes .between 1 inner

theorem objectText_of_loads {t : Str} {members : List (Str × Json F)}
    (h : loads t = .ok (.obj members)) : ObjectText t := by
  rw [loads] at h
  split at h
  · cases h
  rename_i v r hscan
  split_ifs at h with hend
  cases h
  have hclosed : Closes .between 0 r := by
    refine closes_zero.mpr fun c hc => ?_
    rw [← List.takeWhile_append_dropWhile (p := isJsonSpace) (l := r)] at hc
    rw [show r.dropWhile isJsonSpace = [] from List.isEmpty_iff.mp hend, List.append_nil] at hc
    exact List.mem_takeWhile_imp hc
  have hsplit : t = t.takeWhile isJsonSpace ++ skipSpace t :=
    List.takeWhile_append_dropWhile.symm
  have hspace : ∀ c ∈ t.takeWhile isJsonSpace, isJsonSpace c = true :=
    fun c hc => List.mem_takeWhile_imp hc
  generalize skipSpace t = body at hscan hsplit
  cases body with
  | nil =>
      rw [scanOnce.eq_def] at hscan
      cases hscan
  | cons c inner =>
      by_cases h34 : c = 34
      · subst h34
        rw [scanOnce_quote] at hscan
        obtain ⟨⟨s, r'⟩, hs, hp⟩ := map_eq_ok hscan
        cases hp
      by_cases h91 : c = 91
      · subst h91
        cases hlimit : Runtime.recursionLimit F with
        | zero =>
            rw [hlimit, scanOnce.eq_def] at hscan
            cases hscan
        | succ fuel =>
            rw [hlimit, scanOnce_bracket] at hscan
            split at hscan
            · cases hscan
            · obtain ⟨⟨vs, r'⟩, hs, hp⟩ := map_eq_ok hscan
              cases hp
      by_cases h123 : c = 123
      · subst h123
        refine ⟨_, inner, hsplit, hspace, .of_skipSpace ?_⟩
        cases hlimit : Runtime.recursionLimit F with
        | zero =>
            rw [hlimit, scanOnce.eq_def] at hscan
            cases hscan
        | succ fuel =>
            rw [hlimit, scanOnce_brace] at hscan
            split at hscan
            · rename_i u hu
              cases hscan
              exact hu ▸ .close (.inr rfl) hclosed
            · obtain ⟨⟨kvs, r'⟩, hs, hp⟩ := map_eq_ok hscan
              cases hp
              exact closes_scanMembers (closes_scanOnce fuel) hs hclosed
      · rw [scanOnce_scalar h34 h91 h123] at hscan
        exact absurd hscan scanScalar_not_obj

end Scan

/-! ## Behind a dot -/

theorem Closes.skip {m : Mode} (hm : m ≠ .escaped) {d c : Nat} {t : Str} (hc : isPlain c = true)
    (h : Closes m (d + 1) (c :: t)) : Closes m (d + 1) t := by
  obtain ⟨hquote, hbackslash, hopen, hclose⟩ := isPlain_ne hc
  have hrest := h.2.2
  cases m with
  | between => rwa [Mode.next_between hquote, Mode.depth, if_neg hopen, if_neg hclose] at hrest
  | literal => rwa [Mode.next_literal hquote hbackslash] at hrest
  | escaped => exact absurd rfl hm

theorem Closes.skips {m : Mode} (hm : m ≠ .escaped) {d : Nat} {t : Str} : ∀ {u : Str}, Plain u →
    Closes m (d + 1) (u ++ t) → Closes m (d + 1) t
  | [], _, h => h
  | _ :: _, hu, h =>
      Closes.skips hm (fun x hx => hu x (List.mem_cons_of_mem _ hx))
        (h.skip hm (hu _ (List.mem_cons_self ..)))

/-- Every later part of a text closes at the place the decoder has come to. -/
theorem Closes.suffix {t : Str} : ∀ {u : Str} {m : Mode} {d : Nat}, (d = 0 → m = .between) →
    Closes m d (u ++ t) → ∃ n e, (e = 0 → n = .between) ∧ Closes n e t := by
  intro u
  induction u with
  | nil => exact fun hm h => ⟨_, _, hm, h⟩
  | cons c u ih =>
      intro m d hm h
      cases d with
      | zero => exact ih (fun _ => rfl) (h.space (n := .between)).2
      | succ d =>
          refine ih (m := m.next c) (d := m.depth c (d + 1)) ?_ h.2.2
          intro hzero
          cases m with
          | between =>
              rw [Mode.depth] at hzero
              refine Mode.next_between ?_
              rintro rfl
              cases hzero
          | literal => cases hzero
          | escaped => cases hzero

/-- Behind a dot in the text of an object, and plain text behind the dot, no
text of an object begins. -/
theorem no_object_behind_dot {u v s : Str} (hv : Plain v)
    (h : ObjectText (u ++ 46 :: (v ++ s))) : ¬ObjectText s := by
  rintro ⟨space', inner', rfl, hspace', hclosed'⟩
  obtain ⟨space, inner, htext, hspace, hclosed⟩ := h
  have hinner : ∃ front, inner = front ++ 46 :: (v ++ (space' ++ 123 :: inner')) := by
    rcases List.append_eq_append_iff.mp htext with ⟨front, hfront, hrest⟩ | ⟨front, hfront, hrest⟩
    · -- the dot would be white space, or the bracket
      cases front with
      | nil => cases hrest
      | cons c front =>
          obtain ⟨rfl, -⟩ := List.cons.inj hrest
          have := hspace 46 (hfront ▸ List.mem_append_right _ (List.mem_cons_self ..))
          cases this
    · cases front with
      | nil => cases hrest
      | cons c front => exact ⟨front, (List.cons.inj hrest).2⟩
  obtain ⟨front, rfl⟩ := hinner
  obtain ⟨m, d, hm, hrest⟩ := Closes.suffix (fun hzero => absurd hzero Nat.one_ne_zero) hclosed
  cases d with
  | zero => cases hrest.space (n := .between).1
  | succ d =>
      have hplain : Plain (v ++ space') :=
        hv.append fun c hc => isPlain_of_isJsonSpace (hspace' c hc)
      have hdot := hrest.2.2
      have hliteral : Closes .literal (d + 1) (v ++ (space' ++ 123 :: inner')) → False := by
        intro hin
        rw [← List.append_assoc] at hin
        have hopen := (Closes.skips (m := .literal) (by decide) hplain hin).2.2
        exact Closes.not_literal (Nat.succ_pos d) hclosed' hopen
      cases m with
      | between =>
          rw [show Mode.between.depth 46 (d + 1) = d + 1 from rfl, ← List.append_assoc] at hdot
          have hopen := (Closes.skips (m := .between) (by decide) hplain hdot).2.2
          have := Closes.depth_unique (fun _ => rfl) hopen hclosed'
          rw [show Mode.between.depth 123 (d + 1) = d + 2 from rfl] at this
          omega
      | literal => exact hliteral hdot
      | escaped => exact hliteral hdot

theorem Closes.ne_zero : ∀ {t : Str} {m : Mode} {d : Nat}, Closes m d t → ∀ c ∈ t, c ≠ 0
  | [], _, _, _ => nofun
  | c :: t, m, 0, h => by
      intro x hx
      have := closes_zero.mp h x hx
      rintro rfl
      cases this
  | c :: t, m, d + 1, h => List.forall_mem_cons.mpr ⟨h.2.1, Closes.ne_zero h.2.2⟩

theorem isJsonSpace_lt {c : Nat} (h : isJsonSpace c = true) : c < 256 := by
  simp only [isJsonSpace, Bool.or_eq_true, beq_iff_eq] at h
  omega

/-- The last character is a bracket or white space. -/
theorem Closes.last : ∀ {t : Str} {m : Mode} {d : Nat}, Closes m (d + 1) t →
    ∃ front c, t = front ++ [c] ∧ c < 256
  | c :: t, m, d, h => by
      have hrest := h.2.2
      cases hdepth : m.depth c (d + 1) with
      | succ e =>
          rw [hdepth] at hrest
          obtain ⟨front, x, rfl, hx⟩ := Closes.last hrest
          exact ⟨c :: front, x, rfl, hx⟩
      | zero =>
          rw [hdepth] at hrest
          rcases List.eq_nil_or_concat t with rfl | ⟨front, x, rfl⟩
          · refine ⟨[], c, rfl, ?_⟩
            cases m with
            | between =>
                rw [Mode.depth] at hdepth
                split_ifs at hdepth
                omega
            | literal => cases hdepth
            | escaped => cases hdepth
          · rw [List.concat_eq_append] at hrest ⊢
            exact ⟨c :: front, x, rfl, isJsonSpace_lt (closes_zero.mp hrest x (by simp))⟩

theorem ObjectText.ne_zero {t : Str} (h : ObjectText t) : ∀ c ∈ t, c ≠ 0 := by
  obtain ⟨space, inner, rfl, hspace, hclosed⟩ := h
  refine List.forall_mem_append.mpr ⟨fun c hc => ?_, List.forall_mem_cons.mpr
    ⟨by decide, hclosed.ne_zero⟩⟩
  have := hspace c hc
  rintro rfl
  cases this

theorem ObjectText.last {t : Str} (h : ObjectText t) :
    ∃ front c, t = front ++ [c] ∧ front ≠ [] ∧ c < 256 := by
  obtain ⟨space, inner, rfl, -, hclosed⟩ := h
  obtain ⟨front, c, rfl, hc⟩ := hclosed.last
  exact ⟨space ++ 123 :: front, c, by simp, by simp, hc⟩

/-! ## Bytes -/

/-- How bytes are read as UTF-8, one code point after another. -/
inductive Utf8Reads : ByteText → Str → Prop where
  | nil : Utf8Reads [] []
  | cons {x rest : ByteText} {c : Nat} {t : Str}
      (hbytes : x = [c] ∧ c < 128 ∨ x ≠ [] ∧ ∀ b ∈ x, 128 ≤ b ∧ b < 0xF5)
      (hdecode : decodeUtf8 rest = some t) (hrest : Utf8Reads rest t) :
      Utf8Reads (x ++ rest) (c :: t)

theorem utf8Reads_of_decode {x : ByteText} {t : Str} (h : decodeUtf8 x = some t) :
    Utf8Reads x t := by
  fun_induction decodeUtf8 x generalizing t with
  | case1 => cases h; exact .nil
  | case3 | case4 | case6 | case7 | case8 | case10 | case11 => cases h
  | case2 b rest hb ih =>
      obtain ⟨t', ht', rfl⟩ := Option.map_eq_some_iff.mp h
      exact .cons (x := [b]) (.inl ⟨rfl, hb⟩) ht' (ih ht')
  | case5 b hb b₁ rest htail hrange ih =>
      obtain ⟨t', ht', rfl⟩ := Option.map_eq_some_iff.mp h
      simp only [isTail, Bool.and_eq_false_iff, decide_eq_false_iff_not, not_or, not_not] at htail
      refine .cons (x := [b, b₁]) (.inr ⟨List.cons_ne_nil _ _, ?_⟩) ht' (ih ht')
      intro y hy
      simp only [List.mem_cons, List.not_mem_nil, or_false] at hy
      omega
  | case9 b hb b₁ htail hshort b₂ rest htail₂ hrange c hc =>
      rename_i ih
      obtain ⟨t', ht', rfl⟩ := Option.map_eq_some_iff.mp h
      simp only [isTail, Bool.and_eq_false_iff, decide_eq_false_iff_not, not_or, not_not]
        at htail htail₂
      refine .cons (x := [b, b₁, b₂]) (.inr ⟨List.cons_ne_nil _ _, ?_⟩) ht' (ih ht')
      intro y hy
      simp only [List.mem_cons, List.not_mem_nil, or_false] at hy
      omega
  | case12 b hb b₁ htail hshort b₂ htail₂ hlong b₃ rest c hc =>
      rename_i ih
      obtain ⟨t', ht', rfl⟩ := Option.map_eq_some_iff.mp h
      simp only [isTail, Bool.and_eq_false_iff, decide_eq_false_iff_not, not_or, not_not]
        at htail htail₂ hc
      refine .cons (x := [b, b₁, b₂, b₃]) (.inr ⟨List.cons_ne_nil _ _, ?_⟩) ht' (ih ht')
      intro y hy
      simp only [List.mem_cons, List.not_mem_nil, or_false] at hy
      omega

/-- A dot among the bytes of a text is a dot of the text. -/
theorem Utf8Reads.dot {b : ByteText} {x : ByteText} {t : Str} (h : Utf8Reads x t) :
    ∀ {w : ByteText}, x = w ++ 46 :: b → ∃ u s, t = u ++ 46 :: s ∧ decodeUtf8 b = some s := by
  induction h with
  | nil =>
      intro w hx
      cases w <;> cases hx
  | @cons bytes rest c t hbytes hdecode _ ih =>
      intro w hx
      rcases List.append_eq_append_iff.mp hx with ⟨w', rfl, hrest⟩ | ⟨tail, rfl, hrest⟩
      · obtain ⟨u, s, rfl, hs⟩ := ih hrest
        exact ⟨c :: u, s, rfl, hs⟩
      · cases tail with
        | nil =>
            obtain ⟨u, s, rfl, hs⟩ := ih (w := []) hrest.symm
            exact ⟨c :: u, s, rfl, hs⟩
        | cons first tail =>
            obtain ⟨rfl, rfl⟩ := List.cons.inj hrest
            rcases hbytes with ⟨hone, -⟩ | ⟨-, hhigh⟩
            · cases w with
              | nil =>
                  obtain ⟨rfl, rfl⟩ := List.cons.inj hone
                  exact ⟨[], t, rfl, hdecode⟩
              | cons y w => cases w <;> cases hone
            · have := (hhigh 46 (List.mem_append_right _ (List.mem_cons_self ..))).1
              omega

/-- The bytes of a text without the character zero. -/
theorem Utf8Reads.bytes {x : ByteText} {t : Str} (h : Utf8Reads x t) (ht : ∀ c ∈ t, c ≠ 0) :
    ∀ b ∈ x, b ≠ 0 ∧ b < 0xF5 := by
  induction h with
  | nil => nofun
  | @cons bytes rest c t hbytes _ _ ih =>
      obtain ⟨hc, hrest⟩ := List.forall_mem_cons.mp ht
      refine List.forall_mem_append.mpr ⟨fun b hb => ?_, ih hrest⟩
      rcases hbytes with ⟨rfl, hlt⟩ | ⟨-, hhigh⟩
      · obtain rfl := List.mem_singleton.mp hb
        exact ⟨hc, by omega⟩
      · have := hhigh b hb
        omega

theorem Utf8Reads.length_le {x : ByteText} {t : Str} (h : Utf8Reads x t) :
    t.length ≤ x.length := by
  induction h with
  | nil => exact Nat.le_refl _
  | @cons bytes rest c t hbytes _ _ ih =>
      have hpos : 0 < bytes.length := by
        rcases hbytes with ⟨rfl, -⟩ | ⟨hne, -⟩
        · exact Nat.one_pos
        · exact List.length_pos_iff.mpr hne
      rw [List.length_cons, List.length_append]
      omega

theorem units_last {order : ByteOrder} {p q : Nat} (hp : p ≠ 0) (hq : q ≠ 0) :
    ∀ {x : ByteText} {us : List Nat}, units order (x ++ [p, q]) = some us →
      ∃ front u, us = front ++ [u] ∧ 256 ≤ u
  | [], us, h => by
      cases h
      refine ⟨[], _, rfl, ?_⟩
      cases order <;> simp only [ByteOrder.pair] <;> omega
  | [a], us, h => by cases h
  | a :: b :: x, us, h => by
      obtain ⟨us', hus', rfl⟩ := Option.map_eq_some_iff.mp h
      obtain ⟨front, u, rfl, hu⟩ := units_last hp hq hus'
      exact ⟨order.pair a b :: front, u, rfl, hu⟩

theorem joinUnits_last : ∀ {us front : List Nat} {u : Nat}, us = front ++ [u] → 256 ≤ u →
    ∃ text c, joinUnits us = text ++ [c] ∧ 256 ≤ c := by
  intro us
  fun_induction joinUnits us with
  | case1 high low rest hpair ih =>
      intro front u hus hu
      rcases List.eq_nil_or_concat rest with rfl | ⟨rest', x, rfl⟩
      · exact ⟨[], _, rfl, by omega⟩
      · rw [List.concat_eq_append] at hus ih ⊢
        have hx : x = u := by
          have := congrArg List.getLast? hus
          rw [List.getLast?_concat, ← List.cons_append, ← List.cons_append, List.getLast?_concat]
            at this
          exact Option.some.inj this
        obtain ⟨text, c, htext, hc⟩ := ih rfl (hx ▸ hu)
        exact ⟨_ :: text, c, by rw [htext]; rfl, hc⟩
  | case2 high low rest hpair ih =>
      intro front u hus hu
      cases front with
      | nil => cases hus
      | cons first front =>
          obtain ⟨text, c, htext, hc⟩ := ih (List.cons.inj hus).2 hu
          exact ⟨high :: text, c, by rw [htext]; rfl, hc⟩
  | case3 unit =>
      intro front u hus hu
      cases front with
      | nil =>
          obtain ⟨rfl, -⟩ := List.cons.inj hus
          exact ⟨[], unit, rfl, hu⟩
      | cons first front => cases front <;> cases hus
  | case4 =>
      intro front u hus
      cases front <;> cases hus

theorem decodeUtf32_last {order : ByteOrder} {p q : Nat} (hp : p ≠ 0) (hq : q ≠ 0) :
    ∀ {x : ByteText} {t : Str}, decodeUtf32 order (x ++ [p, q]) = some t →
      ∃ text c, t = text ++ [c] ∧ 256 ≤ c
  | [], t, h => by cases h
  | [a], t, h => by cases h
  | [a, b], t, h => by
      simp only [List.cons_append, List.nil_append, decodeUtf32] at h
      split_ifs at h
      cases h
      refine ⟨[], _, rfl, ?_⟩
      cases order <;> simp only [ByteOrder.quad] <;> omega
  | [a, b, c], t, h => by
      simp only [List.cons_append, List.nil_append, decodeUtf32] at h
      split_ifs at h
      cases h
  | a :: b :: c :: d :: x, t, h => by
      simp only [List.cons_append, decodeUtf32] at h
      split_ifs at h
      obtain ⟨t', ht', rfl⟩ := Option.map_eq_some_iff.mp h
      obtain ⟨text, e, rfl, he⟩ := decodeUtf32_last hp hq ht'
      exact ⟨_ :: text, e, rfl, he⟩

/-! ## The bodies behind a dot -/

theorem prefix_dot {bom w b : ByteText} (hmark : bom.isPrefixOf (w ++ 46 :: b) = true)
    (hbom : 46 ∉ bom) : ∃ w', (w ++ 46 :: b).drop bom.length = w' ++ 46 :: b := by
  obtain ⟨r, hr⟩ := List.isPrefixOf_iff_prefix.mp hmark
  have hdrop : (w ++ 46 :: b).drop bom.length = r := by rw [← hr, List.drop_left]
  rcases List.append_eq_append_iff.mp hr with ⟨w', rfl, hrest⟩ | ⟨tail, rfl, hrest⟩
  · exact ⟨w', hdrop.trans hrest⟩
  · cases tail with
    | nil => exact ⟨[], hdrop.trans hrest.symm⟩
    | cons c tail =>
        obtain ⟨rfl, -⟩ := List.cons.inj hrest
        exact absurd (List.mem_append_right _ (List.mem_cons_self ..)) hbom

/-- The encodings without a mark, and the mark of the others. -/
theorem detectEncoding_cases (b : ByteText) :
    (detectEncoding b = .utf8 ∨ ∃ order, detectEncoding b = .utf16 order
        ∨ detectEncoding b = .utf32 order)
      ∨ ∃ bom, bom.isPrefixOf b = true ∧ 46 ∉ bom
        ∧ (detectEncoding b = .utf8Sig ∧ bom = [0xEF, 0xBB, 0xBF]
          ∨ ∃ order, detectEncoding b = .utf16Bom order ∧ bom.length = 2
            ∨ detectEncoding b = .utf32Bom order ∧ bom.length = 4) := by
  -- the value once, so that each test of the scan is split once
  generalize hencoding : detectEncoding b = encoding
  unfold detectEncoding at hencoding
  split_ifs at hencoding with h₁ h₂ h₃ h₄ h₅
  · exact .inr ⟨_, h₁, by decide, .inr ⟨.big, .inr ⟨hencoding.symm, rfl⟩⟩⟩
  · exact .inr ⟨_, h₂, by decide, .inr ⟨.little, .inr ⟨hencoding.symm, rfl⟩⟩⟩
  · exact .inr ⟨_, h₃, by decide, .inr ⟨.big, .inl ⟨hencoding.symm, rfl⟩⟩⟩
  · exact .inr ⟨_, h₄, by decide, .inr ⟨.little, .inl ⟨hencoding.symm, rfl⟩⟩⟩
  · exact .inr ⟨_, h₅, by decide, .inl ⟨hencoding.symm, rfl⟩⟩
  · left
    split at hencoding
    · split_ifs at hencoding
      · exact .inr ⟨.big, .inl hencoding.symm⟩
      · exact .inr ⟨.big, .inr hencoding.symm⟩
      · exact .inr ⟨.little, .inl hencoding.symm⟩
      · exact .inr ⟨.little, .inr hencoding.symm⟩
      · exact .inl hencoding.symm
    · split_ifs at hencoding
      · exact .inr ⟨.big, .inl hencoding.symm⟩
      · exact .inr ⟨.little, .inl hencoding.symm⟩
      · exact .inl hencoding.symm
    · exact .inl hencoding.symm

/-- Bytes of UTF-8 without a zero are taken for UTF-8. -/
theorem detectEncoding_utf8 {b : ByteText} (h : ∀ x ∈ b, x ≠ 0 ∧ x < 0xF5) :
    detectEncoding b = .utf8
      ∨ detectEncoding b = .utf8Sig ∧ [0xEF, 0xBB, 0xBF].isPrefixOf b = true := by
  have hbom : ∀ bom : ByteText, bom.isPrefixOf b = true → ∀ x ∈ bom, x ≠ 0 ∧ x < 0xF5 :=
    fun bom hmark x hx => h x ((List.isPrefixOf_iff_prefix.mp hmark).subset hx)
  unfold detectEncoding
  split_ifs with h₁ h₂ h₃ h₄ h₅
  · exact absurd rfl (hbom _ h₁ 0 (by decide)).1
  · exact absurd rfl (hbom _ h₂ 0 (by decide)).1
  · exact absurd (hbom _ h₃ 0xFE (by decide)).2 (by decide)
  · exact absurd (hbom _ h₄ 0xFE (by decide)).2 (by decide)
  · exact .inr ⟨rfl, h₅⟩
  · left
    split
    · rename_i a b c d _
      have ha := (h a (by simp)).1
      have hb := (h b (by simp)).1
      rw [if_neg ha, if_neg hb]
    · rename_i a b
      have ha := (h a (by simp)).1
      have hb := (h b (by simp)).1
      rw [if_neg ha, if_neg hb]
    · rfl

section Bodies

variable {F : Type} [Runtime F]

theorem loadsBytes_object {b : ByteText} {members : Dict F}
    (h : loadsBytes b = .ok (.obj members)) :
    ∃ t, (detectEncoding b).decode b = some t ∧ ObjectText t := by
  unfold loadsBytes at h
  split at h
  · cases h
  · rename_i t ht
    cases hload : loads (F := F) t with
    | error e =>
        rw [hload] at h
        cases h
    | ok v =>
        rw [hload] at h
        cases h
        exact ⟨t, ht, objectText_of_loads hload⟩

/-- The body of a delivery: the UTF-8 text of a JSON object. -/
structure JsonBody (b : ByteText) : Prop where
  encoding : detectEncoding b = .utf8
  object : ∃ t, decodeUtf8 b = some t ∧ ObjectText t

theorem JsonBody.bytes {b : ByteText} (h : JsonBody b) : ∀ x ∈ b, x ≠ 0 ∧ x < 0xF5 := by
  obtain ⟨t, ht, hobject⟩ := h.object
  exact (utf8Reads_of_decode ht).bytes hobject.ne_zero

theorem JsonBody.ends {b : ByteText} (h : JsonBody b) :
    ∃ front p q, b = front ++ [p, q] ∧ p ≠ 0 ∧ q ≠ 0 := by
  have hbytes := h.bytes
  obtain ⟨t, ht, hobject⟩ := h.object
  obtain ⟨before, c, rfl, hne, -⟩ := hobject.last
  have hlength := (utf8Reads_of_decode ht).length_le
  rw [List.length_append, List.length_singleton] at hlength
  have hpos := List.length_pos_iff.mpr hne
  rcases List.eq_nil_or_concat b with rfl | ⟨b', q, rfl⟩
  · simp at hlength
  rw [List.concat_eq_append] at hbytes hlength ⊢
  rcases List.eq_nil_or_concat b' with rfl | ⟨front, p, rfl⟩
  · rw [List.nil_append, List.length_singleton] at hlength
    omega
  rw [List.concat_eq_append] at hbytes ⊢
  exact ⟨front, p, q, by simp, (hbytes p (by simp)).1, (hbytes q (by simp)).1⟩

/-- No accepted body stands behind a dot in the body of a delivery. -/
theorem JsonBody.no_suffix {w b : ByteText} (h : JsonBody (w ++ 46 :: b)) (members : Dict F) :
    loadsBytes b ≠ .ok (.obj members) := by
  intro hload
  obtain ⟨t, ht, hobject⟩ := h.object
  obtain ⟨u, s, rfl, hs⟩ := (utf8Reads_of_decode ht).dot rfl
  obtain ⟨t', ht', hobject'⟩ := loadsBytes_object hload
  have hbytes : ∀ x ∈ b, x ≠ 0 ∧ x < 0xF5 := fun x hx =>
    h.bytes x (List.mem_append_right _ (List.mem_cons_of_mem _ hx))
  rcases detectEncoding_utf8 hbytes with henc | ⟨henc, hmark⟩
  · rw [henc] at ht'
    obtain rfl := Option.some.inj (hs.symm.trans ht')
    exact no_object_behind_dot (v := []) nofun hobject hobject'
  · rw [henc] at ht'
    obtain ⟨r, rfl⟩ := List.isPrefixOf_iff_prefix.mp hmark
    have hbom : decodeUtf8 ([0xEF, 0xBB, 0xBF] ++ r) = (decodeUtf8 r).map (0xFEFF :: ·) := by
      rw [List.cons_append, List.cons_append, List.cons_append, List.nil_append,
        decodeUtf8.eq_def]
      simp [isTail]
    have hrest : decodeUtf8 r = some t' := ht'
    rw [hbom, hrest] at hs
    cases hs
    exact no_object_behind_dot (v := [0xFEFF]) (by decide) hobject hobject'

/-- The body of a delivery stands behind no dot of an accepted body. -/
theorem JsonBody.no_extension {w b : ByteText} (h : JsonBody b) (members : Dict F) :
    loadsBytes (w ++ 46 :: b) ≠ .ok (.obj members) := by
  intro hload
  obtain ⟨t, ht, hobject⟩ := h.object
  obtain ⟨t', ht', hobject'⟩ := loadsBytes_object hload
  obtain ⟨front, p, q, hends, hp, hq⟩ := h.ends
  have hutf8 : ∀ {x : ByteText}, decodeUtf8 (x ++ 46 :: b) ≠ some t' := by
    intro x hx
    obtain ⟨u, s, rfl, hs⟩ := (utf8Reads_of_decode hx).dot rfl
    obtain rfl := Option.some.inj (hs.symm.trans ht)
    exact no_object_behind_dot (v := []) nofun hobject' hobject
  -- in the wider encodings the last two bytes make one character
  have hlast : ∀ {text : Str} {c : Nat}, t' = text ++ [c] → ¬256 ≤ c := by
    intro text c htext
    obtain ⟨text', c', htext', -, hlt⟩ := hobject'.last
    have := congrArg List.getLast? (htext.symm.trans htext')
    rw [List.getLast?_concat, List.getLast?_concat, Option.some.injEq] at this
    omega
  have hutf16 : ∀ {x : ByteText} {order : ByteOrder},
      decodeUtf16 order (x ++ 46 :: b) ≠ some t' := by
    intro x order hx
    obtain ⟨us, hus, rfl⟩ := Option.map_eq_some_iff.mp hx
    rw [hends, ← List.cons_append, ← List.append_assoc] at hus
    obtain ⟨before, u, rfl, hu⟩ := units_last hp hq hus
    obtain ⟨text, c, htext, hc⟩ := joinUnits_last rfl hu
    exact hlast htext hc
  have hutf32 : ∀ {x : ByteText} {order : ByteOrder},
      decodeUtf32 order (x ++ 46 :: b) ≠ some t' := by
    intro x order hx
    rw [hends, ← List.cons_append, ← List.append_assoc] at hx
    obtain ⟨text, c, htext, hc⟩ := decodeUtf32_last hp hq hx
    exact hlast htext hc
  rcases detectEncoding_cases (w ++ 46 :: b) with
    (henc | ⟨order, henc | henc⟩) | ⟨bom, hmark, hbom, hmarked⟩
  · rw [henc] at ht'
    exact hutf8 ht'
  · rw [henc] at ht'
    exact hutf16 ht'
  · rw [henc] at ht'
    exact hutf32 ht'
  · obtain ⟨w', hw'⟩ := prefix_dot hmark hbom
    rcases hmarked with ⟨henc, rfl⟩ | ⟨order, ⟨henc, hlength⟩ | ⟨henc, hlength⟩⟩
    · rw [henc] at ht'
      have hrest : decodeUtf8 (w' ++ 46 :: b) = some t' := hw' ▸ ht'
      exact hutf8 hrest
    · rw [henc] at ht'
      rw [hlength] at hw'
      have hrest : decodeUtf16 order ((w ++ 46 :: b).drop 2) = some t' := ht'
      rw [hw'] at hrest
      exact hutf16 hrest
    · rw [henc] at ht'
      rw [hlength] at hw'
      have hrest : decodeUtf32 order ((w ++ 46 :: b).drop 4) = some t' := ht'
      rw [hw'] at hrest
      exact hutf32 hrest

end Bodies

end Rigor
