import Rigor.ObjectText

/-!
# Replayed webhooks

The signed text is the id, the timestamp and the body with dots between them,
and a dot can stand in an id and in a body. That no other reading of the text
is accepted rests on two facts: a timestamp that `int` takes has no dot
(`pyInt_no_dot`), and no body that is accepted stands behind a dot of another
(`JsonBody.no_suffix`, `JsonBody.no_extension`). A delivery with a dot in its
timestamp can be read twice.
-/

namespace Rigor

open Py

/-! ## Timestamps -/

/-- A character of a group of digits is a digit or an underscore. -/
theorem digitGroups_chars {s : Str} {ds : List Nat} (h : digitGroups s = some ds) :
    ∀ c ∈ s, c = 95 ∨ (decimalDigit c).isSome := by
  fun_induction digitGroups s generalizing ds with
  | case1 => cases h
  | case2 c =>
      obtain ⟨d, hd, -⟩ := Option.map_eq_some_iff.mp h
      exact List.forall_mem_singleton.mpr (.inr (by rw [hd]; rfl))
  | case3 c rest ih =>
      obtain ⟨d, hd, h⟩ := Option.bind_eq_some_iff.mp h
      obtain ⟨ds', hds, -⟩ := Option.bind_eq_some_iff.mp h
      exact List.forall_mem_cons.mpr ⟨.inr (by rw [hd]; rfl),
        List.forall_mem_cons.mpr ⟨.inl rfl, ih hds⟩⟩
  | case4 c rest _ _ ih =>
      obtain ⟨d, hd, h⟩ := Option.bind_eq_some_iff.mp h
      obtain ⟨ds', hds, -⟩ := Option.bind_eq_some_iff.mp h
      exact List.forall_mem_cons.mpr ⟨.inr (by rw [hd]; rfl), ih hds⟩

theorem digitGroups_no_dot {s : Str} {ds : List Nat} (h : digitGroups s = some ds) : 46 ∉ s := by
  intro hmem
  rcases digitGroups_chars h 46 hmem with hdot | hdot
  · cases hdot
  · exact absurd hdot (by decide)

theorem pyInt_no_dot {maxDigits : Nat} {s : Str} {t : Int} (h : pyInt maxDigits s = some t) :
    46 ∉ s := by
  intro hmem
  have hstrip := mem_strip (by decide) hmem
  unfold pyInt at h
  dsimp only at h
  split at h
  all_goals
    obtain ⟨n, hn, -⟩ := Option.map_eq_some_iff.mp h
    obtain ⟨m, hm, -⟩ := Option.bind_eq_some_iff.mp hn
    obtain ⟨ds, hds, -⟩ := Option.bind_eq_some_iff.mp hm
    have hdigits := digitGroups_no_dot hds
  · rename_i u heq
    rw [heq] at hstrip
    exact hdigits ((List.mem_cons.mp hstrip).resolve_left (by decide))
  · rename_i u heq
    rw [heq] at hstrip
    exact hdigits ((List.mem_cons.mp hstrip).resolve_left (by decide))
  · exact hdigits hstrip

/-! ## The signed text -/

theorem utf8Bytes_append_inj {c c' : Nat} {r r' : ByteText}
    (h : utf8Bytes c ++ r = utf8Bytes c' ++ r') : c = c' ∧ r = r' := by
  have hc : c = c' := by
    unfold utf8Bytes at h
    split_ifs at h <;>
      simp only [List.cons_append, List.nil_append, List.cons.injEq] at h <;> omega
  subst hc
  exact ⟨rfl, List.append_cancel_left h⟩

theorem flatMap_utf8Bytes_inj : ∀ {s s' : Str}, s.flatMap utf8Bytes = s'.flatMap utf8Bytes → s = s'
  | [], [], _ => rfl
  | [], c :: s, h => by
      have hne : utf8Bytes c ≠ [] := by unfold utf8Bytes; split_ifs <;> nofun
      exact absurd (List.append_eq_nil_iff.mp h.symm).1 hne
  | c :: s, [], h => by
      have hne : utf8Bytes c ≠ [] := by unfold utf8Bytes; split_ifs <;> nofun
      exact absurd (List.append_eq_nil_iff.mp h).1 hne
  | c :: s, c' :: s', h => by
      rw [List.flatMap_cons, List.flatMap_cons] at h
      obtain ⟨rfl, hrest⟩ := utf8Bytes_append_inj h
      rw [flatMap_utf8Bytes_inj hrest]

/-- The last dot of a text splits it in one way. -/
theorem last_dot_inj {a a' b b' : Str} (h : a ++ 46 :: b = a' ++ 46 :: b') (hb : 46 ∉ b)
    (hb' : 46 ∉ b') : a = a' ∧ b = b' := by
  rcases List.append_eq_append_iff.mp h with ⟨w, rfl, hrest⟩ | ⟨w, rfl, hrest⟩
  · cases w with
    | nil => exact ⟨(List.append_nil a).symm, (List.cons.inj hrest).2⟩
    | cons c w =>
        obtain ⟨-, rfl⟩ := List.cons.inj hrest
        exact absurd (List.mem_append_right _ (List.mem_cons_self ..)) hb
  · cases w with
    | nil => exact ⟨List.append_nil a', (List.cons.inj hrest).2.symm⟩
    | cons c w =>
        obtain ⟨-, rfl⟩ := List.cons.inj hrest
        exact absurd (List.mem_append_right _ (List.mem_cons_self ..)) hb'

section Replay

variable {F : Type} [Runtime F]

/-- The text of a signature splits in one way into an id, a timestamp without a
dot and the body of an object. -/
theorem signed_text_inj {id id' ts ts' : Str} {head head' body body' : ByteText} {members : Dict F}
    (hhead : encodeUtf8 (id ++ 46 :: ts ++ [46]) = some head)
    (hhead' : encodeUtf8 (id' ++ 46 :: ts' ++ [46]) = some head')
    (hts : 46 ∉ ts) (hts' : 46 ∉ ts') (hbody : JsonBody body)
    (hbody' : loadsBytes body' = .ok (.obj members)) (h : head ++ body = head' ++ body') :
    id = id' ∧ ts = ts' ∧ body = body' := by
  have hends : ∀ {t : Str} {x : ByteText}, encodeUtf8 (t ++ [46]) = some x →
      x = t.flatMap utf8Bytes ++ [46] := by
    intro t x hx
    unfold encodeUtf8 at hx
    split_ifs at hx
    rw [← Option.some.inj hx, List.flatMap_append]
    rfl
  rw [hends hhead, hends hhead', List.append_assoc, List.append_assoc, List.singleton_append,
    List.singleton_append] at h
  have hsplit : (id ++ 46 :: ts).flatMap utf8Bytes = (id' ++ 46 :: ts').flatMap utf8Bytes
      ∧ body = body' := by
    rcases List.append_eq_append_iff.mp h with ⟨w, hw, hrest⟩ | ⟨w, hw, hrest⟩
    · cases w with
      | nil => exact ⟨by rw [hw, List.append_nil], (List.cons.inj hrest).2⟩
      | cons c w =>
          obtain ⟨-, rfl⟩ := List.cons.inj hrest
          exact absurd hbody' (hbody.no_suffix members)
    · cases w with
      | nil => exact ⟨by rw [hw, List.append_nil], (List.cons.inj hrest).2.symm⟩
      | cons c w =>
          obtain ⟨-, rfl⟩ := List.cons.inj hrest
          exact absurd hbody' (hbody.no_extension members)
  obtain ⟨hid, heq⟩ := last_dot_inj (flatMap_utf8Bytes_inj hsplit.1) hts hts'
  exact ⟨hid, heq, hsplit.2⟩

/-! ## Replays -/

/-- What the provider signs. -/
structure Delivery where
  messageId : Str
  timestamp : Str
  body : ByteText
  deriving DecidableEq

/-- The signature of an id, a timestamp and a body. -/
def svixSignature (crypto : Crypto) (key : ByteText) (messageId timestamp : Str) (body : ByteText) :
    Option Str :=
  (encodeUtf8 (messageId ++ 46 :: timestamp ++ [46])).map fun head =>
    crypto.signature key (head ++ body)

variable (F) in
/-- The body of the delivery is the text of an object, and the request is
accepted with the signature of the delivery. -/
structure Replays (crypto : Crypto) (secret : Str) (current tolerance : Int) (d : Delivery)
    (r : SvixRequest) : Prop where
  utf8 : detectEncoding d.body = .utf8
  object : ∃ members : Dict F, loadsBytes d.body = .ok (.obj members)
  accepted : ∃ payload : Dict F, verifySvixWebhook crypto secret current tolerance r = .ok payload
  signature : ∃ messageId timestamp signatures key value,
    Fresh F crypto secret current tolerance r messageId timestamp signatures key
      ∧ svixSignature crypto key messageId timestamp r.body = some value
      ∧ svixSignature crypto key d.messageId d.timestamp d.body = some value
      ∧ value ∈ candidates signatures

end Replay

section Identity

variable {F : Type} [FloatArith F]

/-- The request is the delivery, and a database that has the event of the
delivery takes it for a duplicate. -/
def IsDelivery (F : Type) [FloatArith F] (crypto : Crypto) (secret : Str)
    (current tolerance : Int) (d : Delivery) (r : SvixRequest) : Prop :=
  (r.messageId = some d.messageId ∧ r.timestamp = some d.timestamp ∧ r.body = d.body)
    ∧ ∀ (messageId : Str) (payload : Dict F) (newId : Uuid) (clock : Clock) (db : IdentityDb)
      (result : IdentityDb × Str),
      r.messageId = some messageId →
        verifySvixWebhook crypto secret current tolerance r = .ok payload →
        (∃ e ∈ db.events, e.externalEventId = d.messageId) →
        processClerkEvent messageId payload newId clock db = .ok result →
        result = (db, .ofString "duplicate")

theorem processClerkEvent_again {id status : Str} {payload : Dict F} {newId : Uuid} {clock : Clock}
    {db db' : IdentityDb} (hevent : ∃ e ∈ db.events, e.externalEventId = id)
    (h : processClerkEvent id payload newId clock db = .ok (db', status)) :
    db' = db ∧ status = .ofString "duplicate" := by
  have hany : (db.events.any fun e => e.externalEventId = id) = true := by
    obtain ⟨e, he, hid⟩ := hevent
    exact List.any_eq_true.mpr ⟨e, he, decide_eq_true hid⟩
  unfold processClerkEvent at h
  split at h
  · rw [if_pos hany] at h
    cases h
    exact ⟨rfl, rfl⟩
  · cases h

end Identity

/-! ## A timestamp with a dot -/

/-- The bytes in unary: a signature without collisions. -/
def tally (m : ByteText) : Str := m.flatMap fun b => List.replicate b 49 ++ [48]

theorem tally_inj : ∀ {m m' : ByteText}, tally m = tally m' → m = m'
  | [], [], _ => rfl
  | [], b :: m, h => by simp [tally] at h
  | b :: m, [], h => by simp [tally] at h
  | b :: m, b' :: m', h => by
      have hones : ∀ (n : Nat) (t : Str), (List.replicate n 49 ++ 48 :: t).takeWhile (· = 49)
          = List.replicate n 49 := fun n t => by
        induction n with
        | zero => rfl
        | succ n ih =>
            rw [List.replicate_succ, List.cons_append, List.takeWhile_cons_of_pos rfl, ih]
      have hcons : ∀ (n : Nat) (x : ByteText), tally (n :: x)
          = List.replicate n 49 ++ 48 :: tally x := fun n x => by
        rw [tally, List.flatMap_cons, List.append_assoc]
        rfl
      rw [hcons, hcons] at h
      have hb : b = b' := by
        have := congrArg (fun t : Str => (t.takeWhile (· = 49)).length) h
        simpa only [hones, List.length_replicate] using this
      subst hb
      rw [tally_inj (List.cons.inj (List.append_cancel_left h)).2]

/-- A signer whose signatures are the tallies. -/
def tallyCrypto : Crypto where
  b64decode _ := some []
  signature _ m := tally m
  signature_ascii _ m c hc := by
    obtain ⟨b, -, hb⟩ := List.mem_flatMap.mp hc
    rcases List.mem_append.mp hb with hone | hzero
    · rw [List.eq_of_mem_replicate hone]
      decide
    · rw [List.mem_singleton.mp hzero]
      decide

/-- A request with the signature of the delivery. -/
def Delivery.requestAs (d : Delivery) (messageId timestamp : Str) : SvixRequest where
  body := d.body
  messageId := some messageId
  timestamp := some timestamp
  signatures := (svixSignature tallyCrypto [] d.messageId d.timestamp d.body).map
    fun value => "v1," ++ value

theorem Delivery.requestAs_replays {d : Delivery} {id ts value : Str} {current tolerance : Int}
    (hutf8 : detectEncoding d.body = .utf8)
    (hobject : ∃ members : Dict NanoFloat, loadsBytes d.body = .ok (.obj members))
    (hdelivery : svixSignature tallyCrypto [] d.messageId d.timestamp d.body = some value)
    (hrequest : svixSignature tallyCrypto [] id ts d.body = some value)
    (haccepted : (verifySvixWebhook (F := NanoFloat) tallyCrypto [] current tolerance
      (d.requestAs id ts)).isOk = true) :
    Replays NanoFloat tallyCrypto [] current tolerance d (d.requestAs id ts) := by
  have hok : ∃ payload : Dict NanoFloat,
      verifySvixWebhook tallyCrypto [] current tolerance (d.requestAs id ts) = .ok payload := by
    cases h : verifySvixWebhook (F := NanoFloat) tallyCrypto [] current tolerance
        (d.requestAs id ts) with
    | error e =>
        rw [h] at haccepted
        cases haccepted
    | ok payload => exact ⟨payload, rfl⟩
  refine ⟨hutf8, hobject, hok, ?_⟩
  obtain ⟨payload, hpayload⟩ := hok
  rcases verify_cases (F := NanoFloat) tallyCrypto [] current tolerance (d.requestAs id ts) with
    ⟨⟨message, herror⟩, -⟩ | ⟨id', ts', sigs, key, hfresh, hsigned⟩
  · rw [herror] at hpayload
    cases hpayload
  rw [hsigned] at hpayload
  obtain ⟨⟨head, hhead, hmem⟩, -⟩ := verifySigned_ok hpayload
  have hid : id' = id :=
    Option.some.inj ((Option.filter_eq_some_iff.mp hfresh.messageId_eq).1.symm)
  have hts : ts' = ts :=
    Option.some.inj ((Option.filter_eq_some_iff.mp hfresh.timestamp_eq).1.symm)
  have hkey : key = [] := Option.some.inj hfresh.secret_eq.symm
  subst hid hts hkey
  have hvalue : tally (head ++ d.body) = value := by
    have := hrequest
    rw [svixSignature, hhead] at this
    exact Option.some.inj this
  exact ⟨id', ts', sigs, [], value, hfresh, hrequest, hdelivery, hvalue ▸ hmem⟩

def emptyDelivery : Delivery := ⟨"a", "0", [123, 125]⟩

/-- A timestamp of two parts. -/
def dottedDelivery : Delivery := ⟨"a", "1.5", [123, 125]⟩

end Rigor
