import Mathlib.Algebra.Order.Group.Unbundled.Abs
import Rigor.PyBytes
import Rigor.IdentityEvents

/-!
# Webhook verification

`verify_svix_webhook` reads three headers, the secret and the body, and has an
error of its own for each that does not fit. Four calls can raise something
else: the encoding of the message id, the comparison of a signature that is
not ASCII, and the decoding and parsing of a signed body. A request is decided
exactly where it reaches none of them (`decides_iff`).
-/

namespace Rigor

open Py

/-- How `verify_svix_webhook` fails. -/
inductive WebhookFailure where
  | verification (message : String)  -- `WebhookVerificationError`
  | unicodeEncode                    -- `UnicodeEncodeError`
  | compareType                      -- `TypeError`
  | unicodeDecode                    -- `UnicodeDecodeError`
  | intDigits                        -- `ValueError`
  | recursion                        -- `RecursionError`
  deriving DecidableEq

/-- `base64.b64decode(…, validate=True)`, and the base64 text of the
HMAC-SHA256 of a message, which is ASCII. -/
structure Crypto where
  b64decode : Str → Option ByteText
  signature : ByteText → ByteText → Str
  signature_ascii : ∀ key message, ∀ c ∈ signature key message, c < 128

structure SvixRequest where
  body : ByteText
  messageId : Option Str
  timestamp : Option Str
  signatures : Option Str
  deriving DecidableEq

/-- `str.split()`. -/
def splitSpaces (s : Str) : List Str :=
  (s.splitOnP isSpace).filter fun token => !token.isEmpty

/-- `token.split(",", 1)` of a token with a comma. -/
def splitComma (token : Str) : Option (Str × Str) :=
  if 44 ∈ token then
    some (token.takeWhile (· ≠ 44), (token.dropWhile (· ≠ 44)).drop 1)
  else none

/-- The signatures of version `v1`. -/
def candidates (signatures : Str) : List Str :=
  (splitSpaces signatures).filterMap fun token =>
    match splitComma token with
    | some (version, signature) => if version = "v1" then some signature else none
    | none => none

def isAsciiText (s : Str) : Bool := s.all fun c => c < 128

/-- `any(hmac.compare_digest(expected, value) for value in candidates)` for an
`expected` of ASCII; `none` is the `TypeError`. -/
def anyMatches (expected : Str) : List Str → Option Bool
  | [] => some false
  | value :: rest =>
      if isAsciiText value = false then none
      else if value = expected then some true
      else anyMatches expected rest

/-- A header that is there and not empty. -/
def present (header : Option Str) : Option Str := header.filter fun value => !value.isEmpty

def encodedSecret (secret : Str) : Str :=
  if (Str.ofString "whsec_").isPrefixOf secret then secret.drop 6 else secret

section Verification

variable {F : Type} [Runtime F]

/-- The payload of a signed body. -/
def webhookPayload (body : ByteText) : Except WebhookFailure (Dict F) :=
  match loadsBytes body with
  | .error .unicodeDecode => .error .unicodeDecode
  | .error (.load .decode) => .error (.verification "Webhook payload is invalid JSON.")
  | .error (.load .intDigits) => .error .intDigits
  | .error (.load .recursion) => .error .recursion
  | .ok (.obj payload) => .ok payload
  | .ok _ => .error (.verification "Webhook payload must be an object.")

/-- The signature, and the payload behind it. -/
def verifySigned (crypto : Crypto) (key : ByteText) (messageId timestamp signatures : Str)
    (body : ByteText) : Except WebhookFailure (Dict F) :=
  match encodeUtf8 (messageId ++ 46 :: timestamp ++ [46]) with
  | none => .error .unicodeEncode
  | some head =>
      match anyMatches (crypto.signature key (head ++ body)) (candidates signatures) with
      | none => .error .compareType
      | some false => .error (.verification "Webhook signature is invalid.")
      | some true => webhookPayload body

/-- `verify_svix_webhook`, at `int(now.timestamp())`. -/
def verifySvixWebhook (crypto : Crypto) (secret : Str) (current tolerance : Int)
    (r : SvixRequest) : Except WebhookFailure (Dict F) :=
  match present r.messageId, present r.timestamp, present r.signatures with
  | some messageId, some timestamp, some signatures =>
      match pyInt (Runtime.maxStrDigits F) timestamp with
      | none => .error (.verification "Webhook timestamp is invalid.")
      | some eventTimestamp =>
          if tolerance < |current - eventTimestamp| then
            .error (.verification "Webhook timestamp is outside the replay window.")
          else
            match crypto.b64decode (encodedSecret secret) with
            | none => .error (.verification "Webhook secret is invalid.")
            | some key => verifySigned crypto key messageId timestamp signatures r.body
  | _, _, _ => .error (.verification "Required Svix signature headers are missing.")

/-! ## What is decided -/

variable (F) in
/-- The headers are there, the timestamp parses and is within the tolerance,
and the secret can be decoded. -/
structure Fresh (crypto : Crypto) (secret : Str) (current tolerance : Int) (r : SvixRequest)
    (messageId timestamp signatures : Str) (key : ByteText) : Prop where
  messageId_eq : present r.messageId = some messageId
  timestamp_eq : present r.timestamp = some timestamp
  signatures_eq : present r.signatures = some signatures
  recent : ∃ t, pyInt (Runtime.maxStrDigits F) timestamp = some t ∧ |current - t| ≤ tolerance
  secret_eq : crypto.b64decode (encodedSecret secret) = some key

/-- Some `v1` signature is that of the id, the timestamp and the body. -/
def HasSignature (crypto : Crypto) (key : ByteText) (messageId timestamp signatures : Str)
    (body : ByteText) : Prop :=
  ∃ head, encodeUtf8 (messageId ++ 46 :: timestamp ++ [46]) = some head
    ∧ crypto.signature key (head ++ body) ∈ candidates signatures

/-- The request is signed, and its body is the text of the object `payload`. -/
def WebhookCarries (crypto : Crypto) (secret : Str) (current tolerance : Int) (r : SvixRequest)
    (payload : Dict F) : Prop :=
  ∃ messageId timestamp signatures key,
    Fresh F crypto secret current tolerance r messageId timestamp signatures key
      ∧ HasSignature crypto key messageId timestamp signatures r.body
      ∧ loadsBytes r.body = .ok (.obj payload)

/-- The payload is returned exactly where the request carries it, and in every
other case the error is that of the verification. -/
def WebhookDecided (F : Type) [Runtime F] (crypto : Crypto) (secret : Str) (current tolerance : Int)
    (r : SvixRequest) : Prop :=
  (∀ payload : Dict F, verifySvixWebhook crypto secret current tolerance r = .ok payload
      ↔ WebhookCarries crypto secret current tolerance r payload)
    ∧ ∀ e, verifySvixWebhook (F := F) crypto secret current tolerance r = .error e →
      ∃ message, e = .verification message

/-- The body has no text in its encoding, or its text an integer of too many
digits or too deep a nesting. -/
def Unreadable (F : Type) [Runtime F] (body : ByteText) : Prop :=
  loadsBytes (F := F) body = .error .unicodeDecode
    ∨ loadsBytes (F := F) body = .error (.load .intDigits)
    ∨ loadsBytes (F := F) body = .error (.load .recursion)

/-- A signature that is not ASCII stands before every one that fits. -/
def NonAsciiFirst (expected : Str) (signatures : List Str) : Prop :=
  ∃ front value back, signatures = front ++ value :: back ∧ expected ∉ front
    ∧ isAsciiText value = false

/-- The message id cannot be encoded, or the comparison comes to a signature
that is not ASCII, or the body is signed and cannot be read. -/
def WebhookEscapes (F : Type) [Runtime F] (crypto : Crypto) (secret : Str) (current tolerance : Int)
    (r : SvixRequest) : Prop :=
  ∃ messageId timestamp signatures key,
    Fresh F crypto secret current tolerance r messageId timestamp signatures key
      ∧ (encodeUtf8 (messageId ++ 46 :: timestamp ++ [46]) = none
        ∨ ∃ head, encodeUtf8 (messageId ++ 46 :: timestamp ++ [46]) = some head
          ∧ (NonAsciiFirst (crypto.signature key (head ++ r.body)) (candidates signatures)
            ∨ crypto.signature key (head ++ r.body) ∈ candidates signatures
              ∧ Unreadable F r.body))

/-! ## The signatures -/

theorem anyMatches_true {expected : Str} : ∀ {values : List Str},
    anyMatches expected values = some true → expected ∈ values
  | value :: rest, h => by
      rw [anyMatches] at h
      split_ifs at h with hascii heq
      · exact heq ▸ List.mem_cons_self ..
      · exact List.mem_cons_of_mem _ (anyMatches_true h)

theorem anyMatches_false {expected : Str} : ∀ {values : List Str},
    anyMatches expected values = some false → expected ∉ values
  | [], _ => List.not_mem_nil
  | value :: rest, h => by
      rw [anyMatches] at h
      split_ifs at h with hascii heq
      · cases h
      · exact fun hmem => (List.mem_cons.mp hmem).elim (fun h' => heq h'.symm) (anyMatches_false h)

theorem anyMatches_none {expected : Str} (hexpected : isAsciiText expected = true) :
    ∀ {values : List Str}, anyMatches expected values = none ↔ NonAsciiFirst expected values
  | [] => by
      refine iff_of_false nofun ?_
      rintro ⟨front, value, back, h, -, -⟩
      exact absurd h.symm (List.append_ne_nil_of_right_ne_nil _ (List.cons_ne_nil _ _))
  | value :: rest => by
      have ih : anyMatches expected rest = none ↔ NonAsciiFirst expected rest :=
        anyMatches_none hexpected
      rw [anyMatches]
      split_ifs with hascii heq
      · exact iff_of_true rfl ⟨[], value, rest, rfl, List.not_mem_nil, hascii⟩
      · refine iff_of_false nofun ?_
        rintro ⟨front, other, back, h, hnot, hother⟩
        cases front with
        | nil =>
            obtain ⟨rfl, -⟩ := List.cons.inj h
            exact hascii hother
        | cons first front =>
            obtain ⟨rfl, -⟩ := List.cons.inj h
            exact hnot (heq ▸ List.mem_cons_self ..)
      · rw [ih]
        constructor
        · rintro ⟨front, other, back, rfl, hnot, hother⟩
          refine ⟨value :: front, other, back, rfl, fun hmem => ?_, hother⟩
          exact (List.mem_cons.mp hmem).elim (fun h' => heq h'.symm) hnot
        · rintro ⟨front, other, back, h, hnot, hother⟩
          cases front with
          | nil =>
              obtain ⟨rfl, -⟩ := List.cons.inj h
              exact absurd hother hascii
          | cons first front =>
              obtain ⟨rfl, rfl⟩ := List.cons.inj h
              exact ⟨front, other, back, rfl, fun hmem => hnot (List.mem_cons_of_mem _ hmem), hother⟩

theorem signature_isAsciiText (crypto : Crypto) (key message : ByteText) :
    isAsciiText (crypto.signature key message) = true :=
  List.all_eq_true.mpr fun c hc => decide_eq_true (crypto.signature_ascii key message c hc)

/-! ## The payload -/

theorem webhookPayload_ok {body : ByteText} {payload : Dict F} :
    webhookPayload body = .ok payload ↔ loadsBytes body = .ok (.obj payload) := by
  unfold webhookPayload
  constructor
  · intro h
    split at h <;> cases h
    assumption
  · intro h
    rw [h]

theorem webhookPayload_error {body : ByteText} :
    (∀ e, webhookPayload (F := F) body = .error e → ∃ message, e = .verification message)
      ↔ ¬Unreadable F body := by
  unfold webhookPayload Unreadable
  constructor
  · rintro h (hload | hload | hload)
    · obtain ⟨message, hmessage⟩ := h .unicodeDecode (by rw [hload])
      cases hmessage
    · obtain ⟨message, hmessage⟩ := h .intDigits (by rw [hload])
      cases hmessage
    · obtain ⟨message, hmessage⟩ := h .recursion (by rw [hload])
      cases hmessage
  · intro h e he
    split at he
    · exact absurd (.inl ‹_›) h
    · cases he
      exact ⟨_, rfl⟩
    · exact absurd (.inr (.inl ‹_›)) h
    · exact absurd (.inr (.inr ‹_›)) h
    · cases he
    · cases he
      exact ⟨_, rfl⟩

/-! ## Deciding -/

/-- Which error or payload there is before the signature. -/
theorem verify_cases (crypto : Crypto) (secret : Str) (current tolerance : Int) (r : SvixRequest) :
    ((∃ message, verifySvixWebhook (F := F) crypto secret current tolerance r
          = .error (.verification message))
        ∧ ∀ messageId timestamp signatures key,
          ¬Fresh F crypto secret current tolerance r messageId timestamp signatures key)
      ∨ ∃ messageId timestamp signatures key,
        Fresh F crypto secret current tolerance r messageId timestamp signatures key
          ∧ verifySvixWebhook (F := F) crypto secret current tolerance r
            = verifySigned crypto key messageId timestamp signatures r.body := by
  unfold verifySvixWebhook
  split
  · rename_i messageId timestamp signatures hid htimestamp hsignatures
    split
    · rename_i hint
      refine .inl ⟨⟨_, rfl⟩, fun _ _ _ _ hfresh => ?_⟩
      obtain rfl := Option.some.inj (htimestamp.symm.trans hfresh.timestamp_eq)
      obtain ⟨t, ht, -⟩ := hfresh.recent
      rw [hint] at ht
      cases ht
    · rename_i eventTimestamp hint
      split
      · rename_i hlate
        refine .inl ⟨⟨_, rfl⟩, fun _ _ _ _ hfresh => ?_⟩
        obtain rfl := Option.some.inj (htimestamp.symm.trans hfresh.timestamp_eq)
        obtain ⟨t, ht, hle⟩ := hfresh.recent
        obtain rfl := Option.some.inj (hint.symm.trans ht)
        exact absurd hlate (not_lt.mpr hle)
      · rename_i hrecent
        split
        · rename_i hsecret
          refine .inl ⟨⟨_, rfl⟩, fun _ _ _ _ hfresh => ?_⟩
          have hkey := hfresh.secret_eq
          rw [hsecret] at hkey
          cases hkey
        · rename_i key hsecret
          exact .inr ⟨messageId, timestamp, signatures, key,
            ⟨hid, htimestamp, hsignatures, ⟨eventTimestamp, hint, not_lt.mp hrecent⟩, hsecret⟩, rfl⟩
  · rename_i habsent
    exact .inl ⟨⟨_, rfl⟩, fun messageId timestamp signatures _ hfresh =>
      habsent messageId timestamp signatures hfresh.messageId_eq hfresh.timestamp_eq
        hfresh.signatures_eq⟩

/-- A request has one id, timestamp, list of signatures and key. -/
theorem Fresh.unique {crypto : Crypto} {secret : Str} {current tolerance : Int} {r : SvixRequest}
    {id id' ts ts' sigs sigs' : Str} {key key' : ByteText}
    (h : Fresh F crypto secret current tolerance r id ts sigs key)
    (h' : Fresh F crypto secret current tolerance r id' ts' sigs' key') :
    id' = id ∧ ts' = ts ∧ sigs' = sigs ∧ key' = key :=
  ⟨Option.some.inj (h'.messageId_eq.symm.trans h.messageId_eq),
    Option.some.inj (h'.timestamp_eq.symm.trans h.timestamp_eq),
    Option.some.inj (h'.signatures_eq.symm.trans h.signatures_eq),
    Option.some.inj (h'.secret_eq.symm.trans h.secret_eq)⟩

theorem verifySigned_ok {crypto : Crypto} {key : ByteText} {id ts sigs : Str} {body : ByteText}
    {payload : Dict F} (h : verifySigned crypto key id ts sigs body = .ok payload) :
    HasSignature crypto key id ts sigs body ∧ loadsBytes body = .ok (.obj payload) := by
  unfold verifySigned at h
  split at h
  · cases h
  · rename_i head hhead
    split at h
    · cases h
    · cases h
    · rename_i hmatch
      exact ⟨⟨head, hhead, anyMatches_true hmatch⟩, webhookPayload_ok.mp h⟩

/-- Whether the signed part of a request is decided, from its id, key and signatures. -/
theorem verifySigned_decides {crypto : Crypto} {key : ByteText} {id ts sigs : Str} {body : ByteText} :
    ((∀ payload : Dict F, HasSignature crypto key id ts sigs body →
          loadsBytes body = .ok (.obj payload) →
          verifySigned crypto key id ts sigs body = .ok payload)
        ∧ ∀ e, verifySigned (F := F) crypto key id ts sigs body = .error e →
          ∃ message, e = .verification message)
      ↔ ¬(encodeUtf8 (id ++ 46 :: ts ++ [46]) = none
        ∨ ∃ head, encodeUtf8 (id ++ 46 :: ts ++ [46]) = some head
          ∧ (NonAsciiFirst (crypto.signature key (head ++ body)) (candidates sigs)
            ∨ crypto.signature key (head ++ body) ∈ candidates sigs ∧ Unreadable F body)) := by
  unfold verifySigned
  cases hhead : encodeUtf8 (id ++ 46 :: ts ++ [46]) with
  | none =>
      refine iff_of_false ?_ (not_not.mpr (.inl rfl))
      rintro ⟨-, herror⟩
      obtain ⟨message, hmessage⟩ := herror _ rfl
      cases hmessage
  | some head =>
      have hascii := signature_isAsciiText crypto key (head ++ body)
      dsimp only
      cases hmatch : anyMatches (crypto.signature key (head ++ body)) (candidates sigs) with
      | none =>
          refine iff_of_false ?_ (not_not.mpr (.inr ⟨head, rfl, .inl ?_⟩))
          · rintro ⟨-, herror⟩
            obtain ⟨message, hmessage⟩ := herror _ rfl
            cases hmessage
          · exact (anyMatches_none hascii).mp hmatch
      | some matched =>
          have hfirst : ¬NonAsciiFirst (crypto.signature key (head ++ body)) (candidates sigs) := by
            rw [← anyMatches_none hascii, hmatch]
            nofun
          cases matched with
          | false =>
              have hnot := anyMatches_false hmatch
              refine iff_of_true ⟨?_, fun e he => ?_⟩ ?_
              · rintro payload ⟨head', hhead', hmem⟩ -
                rw [hhead] at hhead'
                cases hhead'
                exact absurd hmem hnot
              · cases he
                exact ⟨_, rfl⟩
              · rintro (hnone | ⟨head', hhead', hfails | ⟨hmem, -⟩⟩)
                · cases hnone
                · cases hhead'
                  exact hfirst hfails
                · cases hhead'
                  exact hnot hmem
          | true =>
              have hmem := anyMatches_true hmatch
              dsimp only
              constructor
              · rintro ⟨-, herror⟩ (hnone | ⟨head', hhead', hfails | ⟨-, hunreadable⟩⟩)
                · cases hnone
                · cases hhead'
                  exact hfirst hfails
                · exact webhookPayload_error.mp herror hunreadable
              · intro h
                refine ⟨fun payload _ hload => webhookPayload_ok.mpr hload,
                  webhookPayload_error.mpr fun hunreadable => h (.inr ⟨head, rfl, .inr ⟨hmem, ?_⟩⟩)⟩
                exact hunreadable

/-- A request is decided exactly where none of the calls that raise something
else is reached. -/
theorem decides_iff (crypto : Crypto) (secret : Str) (current tolerance : Int) (r : SvixRequest) :
    WebhookDecided F crypto secret current tolerance r
      ↔ ¬WebhookEscapes F crypto secret current tolerance r := by
  rcases verify_cases (F := F) crypto secret current tolerance r with
    ⟨⟨message, herror⟩, hstale⟩ | ⟨id, ts, sigs, key, hfresh, hverify⟩
  · refine iff_of_true ⟨fun payload => iff_of_false ?_ ?_, fun e he => ?_⟩ ?_
    · rw [herror]
      nofun
    · rintro ⟨id, ts, sigs, key, hfresh, -⟩
      exact hstale id ts sigs key hfresh
    · rw [herror] at he
      cases he
      exact ⟨message, rfl⟩
    · rintro ⟨id, ts, sigs, key, hfresh, -⟩
      exact hstale id ts sigs key hfresh
  · have hcarries : ∀ payload : Dict F, WebhookCarries crypto secret current tolerance r payload
        ↔ HasSignature crypto key id ts sigs r.body ∧ loadsBytes r.body = .ok (.obj payload) := by
      intro payload
      constructor
      · rintro ⟨id', ts', sigs', key', hfresh', hsigned, hload⟩
        obtain ⟨rfl, rfl, rfl, rfl⟩ := hfresh.unique hfresh'
        exact ⟨hsigned, hload⟩
      · rintro ⟨hsigned, hload⟩
        exact ⟨id, ts, sigs, key, hfresh, hsigned, hload⟩
    have hescapes : WebhookEscapes F crypto secret current tolerance r
        ↔ (encodeUtf8 (id ++ 46 :: ts ++ [46]) = none
          ∨ ∃ head, encodeUtf8 (id ++ 46 :: ts ++ [46]) = some head
            ∧ (NonAsciiFirst (crypto.signature key (head ++ r.body)) (candidates sigs)
              ∨ crypto.signature key (head ++ r.body) ∈ candidates sigs ∧ Unreadable F r.body)) := by
      constructor
      · rintro ⟨id', ts', sigs', key', hfresh', hraise⟩
        obtain ⟨rfl, rfl, rfl, rfl⟩ := hfresh.unique hfresh'
        exact hraise
      · exact fun hraise => ⟨id, ts, sigs, key, hfresh, hraise⟩
    rw [hescapes, ← verifySigned_decides, WebhookDecided, hverify]
    refine and_congr_left fun _ => forall_congr' fun payload => ?_
    rw [hcarries]
    constructor
    · exact fun h hsigned hload => h.mpr ⟨hsigned, hload⟩
    · exact fun h => ⟨verifySigned_ok, fun hsigned => h hsigned.1 hsigned.2⟩

/-! ## A signature that is not ASCII -/

/-- A signer of one answer. -/
def oneSignature : Crypto where
  b64decode _ := some []
  signature _ _ := "c2lnbmVk"
  signature_ascii _ _ := by decide

/-- The second signature fits, the first is not ASCII. -/
def accentRequest : SvixRequest where
  body := [123, 125]
  messageId := some "msg_1"
  timestamp := some "1700000000"
  signatures := some "v1,é v1,c2lnbmVk"

theorem accentRequest_raises :
    ¬WebhookDecided NanoFloat oneSignature "whsec_" 1700000000 300 accentRequest := by
  intro h
  obtain ⟨message, hmessage⟩ := h.2 .compareType (by rfl)
  cases hmessage

end Verification

end Rigor
