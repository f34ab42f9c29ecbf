import Mathlib.Logic.Equiv.List
import Rigor.IdentityEvents

/-!
# The local identity provider

`LocalOIDCProvider` and the requests that its tokens authenticate. A browser
is sent to `authorize` with a challenge, takes the code to `token` with the
verifier, and its requests carry a token. Over any interleaving of browsers,
whoever is let in has gone through all three steps in order and in time
(`request_was_authorized`).
-/

namespace Rigor

open Py Runs

namespace LocalOidc

/-! ## Identities -/

structure LocalIdentity where
  subjectId : Str
  email : Str
  displayName : Str
  roles : List Role

/-- `LOCAL_IDENTITIES`. -/
def localIdentities : List (Str × LocalIdentity) :=
  [("candidate", ⟨"local-candidate", "candidate@rigor.test", "Casey Candidate", [.candidate]⟩),
    ("author", ⟨"local-author", "author@rigor.test", "Avery Author", [.contentAuthor]⟩),
    ("technical-reviewer", ⟨"local-technical-reviewer", "technical-reviewer@rigor.test",
      "Terry Technical", [.technicalReviewer]⟩),
    ("editorial-reviewer", ⟨"local-editorial-reviewer", "editorial-reviewer@rigor.test",
      "Emery Editorial", [.editorialReviewer]⟩),
    ("platform-administrator", ⟨"local-platform-administrator",
      "platform-administrator@rigor.test", "Parker Platform", [.platformAdministrator]⟩)]

def localIdentity (key : Str) : Option LocalIdentity :=
  (localIdentities.find? fun kv => kv.1 = key).map Prod.snd

/-- `Role(value)`. -/
def roleOf (value : Str) : Option Role :=
  [Role.candidate, .contentAuthor, .technicalReviewer, .editorialReviewer,
    .platformAdministrator].find? fun role => role.value = value

/-! ## Codes -/

structure AuthorizationCode where
  identity : LocalIdentity
  clientId : Str
  redirectUri : Str
  codeChallenge : Str
  nonce : Option Str
  expiresAt : Time

inductive AuthFailure where
  /-- `AuthenticationError` -/
  | authentication (code message : Str)
  /-- `UnicodeEncodeError` -/
  | unicodeEncode

/-- The claims that the provider signs. -/
structure Claims where
  iss : Str
  aud : Str
  sub : Str
  email : Str
  emailVerified : Bool
  name : Str
  roles : List Str
  iat : Int
  exp : Int
  authProvider : Str
  jti : Str
  tokenUse : Str
  nonce : Option Str
  deriving DecidableEq

/-- The settings, the digest of a verifier as `_base64url` writes it, and
`jwt` with the provider's key: `decode` is the payload of a token whose
signature is right. -/
structure Provider where
  issuer : Str
  audience : Str
  redirectUris : List Str
  s256 : Str → Str
  encode : Claims → Str
  decode : Str → Option Claims
  decode_encode : ∀ c, decode (encode c) = some c

structure AuthorizationRequest where
  identityKey : Str
  clientId : Str
  redirectUri : Str
  responseType : Str
  codeChallenge : Str
  codeChallengeMethod : Str
  nonce : Option Str

structure TokenRequest where
  grantType : Str
  code : Str
  clientId : Str
  redirectUri : Str
  codeVerifier : Str

structure Tokens where
  accessToken : Str
  idToken : Str
  expiresIn : Int

def isAlphanumeric (c : Nat) : Bool :=
  isDigit c || (65 ≤ c && c ≤ 90) || (97 ≤ c && c ≤ 122)

/-- `[A-Za-z0-9_-]{43,128}`. -/
def isChallenge (s : Str) : Bool :=
  43 ≤ s.length && s.length ≤ 128 && s.all fun c => isAlphanumeric c || c == 95 || c == 45

/-- `[A-Za-z0-9._~-]{43,128}`. -/
def isVerifier (s : Str) : Bool :=
  43 ≤ s.length && s.length ≤ 128
    && s.all fun c => isAlphanumeric c || c == 46 || c == 95 || c == 126 || c == 45

/-- `_codes`. -/
abbrev Codes := Str → Option AuthorizationCode

def codeLifetime : Time := 120000000

def createAuthorizationCode (p : Provider) (r : AuthorizationRequest) (code : Str) (now : Time)
    (codes : Codes) : Except AuthFailure Codes :=
  if r.responseType ≠ "code" ∨ r.clientId ≠ p.audience then
    .error (.authentication "invalid_authorization_request" "Unsupported OIDC request")
  else if r.redirectUri ∉ p.redirectUris then
    .error (.authentication "invalid_redirect_uri" "The redirect URI is not registered")
  else if r.codeChallengeMethod ≠ "S256" ∨ isChallenge r.codeChallenge = false then
    .error (.authentication "invalid_pkce_challenge" "A valid S256 PKCE challenge is required")
  else
    match localIdentity r.identityKey with
    | none =>
        .error (.authentication "unknown_local_identity" "The local identity is not registered")
    | some identity =>
        .ok (Function.update codes code (some ⟨identity, r.clientId, r.redirectUri,
          r.codeChallenge, r.nonce, now + codeLifetime⟩))

/-! ## Tokens -/

/-- `int(datetime.timestamp())`. -/
def timestamp (t : Time) : Int := Int.tdiv t 1000000

/-- The claims of both tokens. -/
def baseClaims (p : Provider) (identity : LocalIdentity) (expiresIn : Int) (jti : Str)
    (now : Time) : Claims where
  iss := p.issuer
  aud := p.audience
  sub := identity.subjectId
  email := identity.email
  emailVerified := true
  name := identity.displayName
  roles := identity.roles.map Role.value
  iat := timestamp now
  exp := timestamp (now + 1000000 * expiresIn)
  authProvider := localOidc
  jti := jti
  tokenUse := "access"
  nonce := none

/-- `_issue_tokens`. An empty nonce is left out. -/
def issueTokens (p : Provider) (identity : LocalIdentity) (nonce : Option Str) (expiresIn : Int)
    (jti : Str) (now : Time) : Tokens :=
  let base := baseClaims p identity expiresIn jti now
  ⟨p.encode base, p.encode { base with tokenUse := "id", nonce := nonce.filter (· ≠ []) },
    expiresIn⟩

def tokenLifetime : Int := 900

/-- `exchange_code`. The code is gone whatever comes of it. -/
def exchangeCode (p : Provider) (r : TokenRequest) (jti : Str) (now : Time) (codes : Codes) :
    Except AuthFailure Tokens × Codes :=
  if r.grantType ≠ "authorization_code" then
    (.error (.authentication "unsupported_grant_type" "Only authorization_code is supported"),
      codes)
  else
    (match codes r.code with
      | none => .error (.authentication "invalid_authorization_code"
          "The authorization code is invalid or expired")
      | some authorization =>
          if authorization.expiresAt ≤ now then
            .error (.authentication "invalid_authorization_code"
              "The authorization code is invalid or expired")
          else if r.clientId ≠ authorization.clientId
              ∨ r.redirectUri ≠ authorization.redirectUri then
            .error (.authentication "authorization_code_mismatch"
              "The authorization request does not match")
          else if ¬r.codeVerifier.all (· < 128) then .error .unicodeEncode
          else if isVerifier r.codeVerifier = false
              ∨ p.s256 r.codeVerifier ≠ authorization.codeChallenge then
            .error (.authentication "invalid_pkce_verifier" "PKCE verification failed")
          else
            .ok (issueTokens p authorization.identity authorization.nonce tokenLifetime jti now),
      Function.update codes r.code none)

/-! ## Requests -/

def tokenInvalid : AuthFailure := .authentication "token_invalid" "The bearer token is invalid"

/-- `TokenValidator.validate`, of a local provider. -/
def validate (p : Provider) (token : Str) (now : Time) : Except AuthFailure Claims :=
  match p.decode token with
  | none => .error tokenInvalid
  | some claims =>
      if now < 1000000 * claims.iat then .error tokenInvalid
      else if 1000000 * claims.exp ≤ now then
        .error (.authentication "token_expired" "The bearer token has expired")
      else if claims.iss ≠ p.issuer ∨ claims.aud ≠ p.audience then .error tokenInvalid
      else .ok claims

def claimsInvalid : AuthFailure :=
  .authentication "principal_claims_invalid" "Required local principal claims are invalid"

/-- `_local_principal`. The claims name no organization. -/
def localPrincipal (claims : Claims) : Except AuthFailure AuthenticatedPrincipal :=
  match claims.roles.mapM roleOf with
  | none => .error claimsInvalid
  | some roles =>
      if roles = [] ∨ claims.email = [] ∨ claims.sub = [] then .error claimsInvalid
      else
        .ok ⟨claims.sub, claims.email, if claims.name = [] then claims.email else claims.name, none,
          roles, permissionsOf roles,
          if claims.authProvider = [] then (if claims.iss = [] then "local" else claims.iss)
          else claims.authProvider⟩

/-- `database_authoritative_principal`, with a local provider. -/
def authenticate (p : Provider) (token : Str) (now : Time) :
    Except AuthFailure AuthenticatedPrincipal := do
  let claims ← validate p token now
  localPrincipal claims

/-! ## The system -/

structure State where
  codes : Codes
  issued : List Str
  now : Time

/-- A call and its answer. -/
inductive Call where
  | authorize (r : AuthorizationRequest) (code : Str) (answer : Except AuthFailure Unit)
  | exchange (r : TokenRequest) (jti : Str) (answer : Except AuthFailure Tokens)
  | request (token : Str) (answer : Except AuthFailure AuthenticatedPrincipal)

structure Event where
  time : Time
  call : Call

/-- One call. The clock does not go back. -/
inductive Step (p : Provider) : State → Event → State → Prop where
  | authorized {s : State} {r : AuthorizationRequest} {code : Str} {now : Time} {codes : Codes}
      (clock : s.now ≤ now) (h : createAuthorizationCode p r code now s.codes = .ok codes) :
      Step p s ⟨now, .authorize r code (.ok ())⟩ { s with codes := codes, now := now }
  | refused {s : State} {r : AuthorizationRequest} {code : Str} {now : Time}
      {failure : AuthFailure} (clock : s.now ≤ now)
      (h : createAuthorizationCode p r code now s.codes = .error failure) :
      Step p s ⟨now, .authorize r code (.error failure)⟩ { s with now := now }
  | exchanged {s : State} {r : TokenRequest} {jti : Str} {now : Time} {tokens : Tokens}
      {codes : Codes} (clock : s.now ≤ now)
      (h : exchangeCode p r jti now s.codes = (.ok tokens, codes)) :
      Step p s ⟨now, .exchange r jti (.ok tokens)⟩
        { codes := codes, issued := tokens.accessToken :: tokens.idToken :: s.issued, now := now }
  | notExchanged {s : State} {r : TokenRequest} {jti : Str} {now : Time} {failure : AuthFailure}
      {codes : Codes} (clock : s.now ≤ now)
      (h : exchangeCode p r jti now s.codes = (.error failure, codes)) :
      Step p s ⟨now, .exchange r jti (.error failure)⟩ { s with codes := codes, now := now }
  | request {s : State} {token : Str} {now : Time} (clock : s.now ≤ now) :
      Step p s ⟨now, .request token (authenticate p token now)⟩ { s with now := now }

/-- Nobody but the provider signs with its key. -/
def Unforged (p : Provider) (x : Taken State Event) : Prop :=
  ∀ token answer, x.label.call = .request token answer → p.decode token ≠ none →
    token ∈ x.source.issued

/-! ## Where codes and tokens come from -/

/-- The call spends the code. -/
def Spends (code : Str) (x : Taken State Event) : Prop :=
  ∃ r jti answer, x.label.call = .exchange r jti answer ∧ r.grantType = "authorization_code"
    ∧ r.code = code

/-- `y` handed the code out for the authorization. -/
structure Authorized (p : Provider) (code : Str) (authorization : AuthorizationCode)
    (r : AuthorizationRequest) (y : Taken State Event) : Prop where
  call : y.label.call = .authorize r code (.ok ())
  identity : localIdentity r.identityKey = some authorization.identity
  client : r.clientId = p.audience ∧ authorization.clientId = r.clientId
  redirectUri : r.redirectUri ∈ p.redirectUris ∧ authorization.redirectUri = r.redirectUri
  challenge : isChallenge r.codeChallenge = true ∧ authorization.codeChallenge = r.codeChallenge
  nonce : authorization.nonce = r.nonce
  expiresAt : authorization.expiresAt = y.label.time + codeLifetime

/-- The code was handed out, and nobody has spent it since. -/
def Unspent (p : Provider) (code : Str) (authorization : AuthorizationCode)
    (past : List (Taken State Event)) : Prop :=
  ∃ before y between r, past = before ++ y :: between ∧ Authorized p code authorization r y
    ∧ ∀ z ∈ between, ¬Spends code z

/-- The exchange was allowed by the authorization. -/
structure Exchanged (p : Provider) (authorization : AuthorizationCode) (r : TokenRequest)
    (jti : Str) (tokens : Tokens) (x : Taken State Event) : Prop where
  call : x.label.call = .exchange r jti (.ok tokens)
  grantType : r.grantType = "authorization_code"
  inTime : x.label.time < authorization.expiresAt
  client : r.clientId = authorization.clientId
  redirectUri : r.redirectUri = authorization.redirectUri
  verifier : isVerifier r.codeVerifier = true ∧ p.s256 r.codeVerifier = authorization.codeChallenge
  tokens : tokens = issueTokens p authorization.identity authorization.nonce tokenLifetime jti
    x.label.time

/-- The token was handed out in exchange for a code. -/
def Issued (p : Provider) (token : Str) (past : List (Taken State Event)) : Prop :=
  ∃ before x after authorization r jti tokens, past = before ++ x :: after
    ∧ Unspent p r.code authorization before ∧ Exchanged p authorization r jti tokens x
    ∧ (token = tokens.accessToken ∨ token = tokens.idToken)

theorem Unspent.snoc {p : Provider} {code : Str} {authorization : AuthorizationCode}
    {past : List (Taken State Event)} (h : Unspent p code authorization past)
    {x : Taken State Event} (hx : ¬Spends code x) : Unspent p code authorization (past ++ [x]) := by
  obtain ⟨before, y, between, r, rfl, hy, hbetween⟩ := h
  refine ⟨before, y, between ++ [x], r, by rw [List.append_assoc, List.cons_append], hy, ?_⟩
  intro z hz
  rcases List.mem_append.mp hz with hz | hz
  · exact hbetween z hz
  · exact List.mem_singleton.mp hz ▸ hx

theorem Issued.snoc {p : Provider} {token : Str} {past : List (Taken State Event)}
    (h : Issued p token past) (x : Taken State Event) : Issued p token (past ++ [x]) := by
  obtain ⟨before, y, after, authorization, r, jti, tokens, rfl, hrest⟩ := h
  exact ⟨before, y, after ++ [x], authorization, r, jti, tokens,
    by rw [List.append_assoc, List.cons_append], hrest⟩

/-! ## Calls -/

section

variable {p : Provider} {now : Time} {codes codes' : Codes}

theorem createAuthorizationCode_ok {r : AuthorizationRequest} {code : Str}
    (h : createAuthorizationCode p r code now codes = .ok codes') :
    ∃ identity, localIdentity r.identityKey = some identity ∧ r.clientId = p.audience
      ∧ r.redirectUri ∈ p.redirectUris ∧ isChallenge r.codeChallenge = true
      ∧ codes' = Function.update codes code (some ⟨identity, r.clientId, r.redirectUri,
        r.codeChallenge, r.nonce, now + codeLifetime⟩) := by
  unfold createAuthorizationCode at h
  split_ifs at h with hrequest hredirect hchallenge
  cases hidentity : localIdentity r.identityKey with
  | none => rw [hidentity] at h; cases h
  | some identity =>
      rw [hidentity] at h
      cases h
      exact ⟨identity, rfl, by simpa using (not_or.mp hrequest).2, by simpa using hredirect,
        by simpa using (not_or.mp hchallenge).2, rfl⟩

theorem exchangeCode_codes (r : TokenRequest) (jti : Str) :
    (exchangeCode p r jti now codes).2
      = if r.grantType = "authorization_code" then Function.update codes r.code none
        else codes := by
  unfold exchangeCode
  by_cases hgrant : r.grantType = "authorization_code"
  · rw [if_neg (not_not_intro hgrant), if_pos hgrant]
  · rw [if_pos hgrant, if_neg hgrant]

theorem exchangeCode_ok {r : TokenRequest} {jti : Str} {tokens : Tokens}
    (h : exchangeCode p r jti now codes = (.ok tokens, codes')) :
    r.grantType = "authorization_code" ∧ ∃ authorization, codes r.code = some authorization
      ∧ now < authorization.expiresAt ∧ r.clientId = authorization.clientId
      ∧ r.redirectUri = authorization.redirectUri ∧ isVerifier r.codeVerifier = true
      ∧ p.s256 r.codeVerifier = authorization.codeChallenge
      ∧ tokens
        = issueTokens p authorization.identity authorization.nonce tokenLifetime jti now := by
  unfold exchangeCode at h
  by_cases hgrant : r.grantType ≠ "authorization_code"
  · rw [if_pos hgrant] at h
    cases congrArg Prod.fst h
  · rw [if_neg hgrant] at h
    have hanswer := congrArg Prod.fst h
    dsimp only at hanswer
    cases hcode : codes r.code with
    | none => rw [hcode] at hanswer; cases hanswer
    | some authorization =>
        rw [hcode] at hanswer
        dsimp only at hanswer
        split_ifs at hanswer with hexpired hmismatch hascii hverifier
        obtain ⟨hclient, hredirect⟩ := not_or.mp hmismatch
        obtain ⟨hform, hdigest⟩ := not_or.mp hverifier
        cases hanswer
        exact ⟨not_not.mp hgrant, authorization, rfl, lt_of_not_ge hexpired, not_not.mp hclient,
          not_not.mp hredirect, by simpa using hform, not_not.mp hdigest, rfl⟩

/-- What a token of the provider is good for. -/
theorem authenticate_encode (claims : Claims) :
    authenticate p (p.encode claims) now
      = if now < 1000000 * claims.iat then .error tokenInvalid
        else if 1000000 * claims.exp ≤ now then
          .error (.authentication "token_expired" "The bearer token has expired")
        else if claims.iss ≠ p.issuer ∨ claims.aud ≠ p.audience then .error tokenInvalid
        else localPrincipal claims := by
  unfold authenticate validate
  rw [p.decode_encode]
  dsimp only
  split_ifs
  · rfl
  · rfl
  · rfl
  · rfl

theorem authenticate_encode_ok {claims : Claims} {principal : AuthenticatedPrincipal}
    (h : authenticate p (p.encode claims) now = .ok principal) :
    now < 1000000 * claims.exp ∧ localPrincipal claims = .ok principal := by
  rw [authenticate_encode] at h
  split_ifs at h with hissued hexpired hissuer
  exact ⟨lt_of_not_ge hexpired, h⟩

end

/-- The principal of an identity. -/
def LocalIdentity.principal (identity : LocalIdentity) : AuthenticatedPrincipal :=
  ⟨identity.subjectId, identity.email, identity.displayName, none, identity.roles,
    permissionsOf identity.roles, localOidc⟩

theorem localIdentity_complete {key : Str} {identity : LocalIdentity}
    (h : localIdentity key = some identity) :
    identity.subjectId ≠ [] ∧ identity.email ≠ [] ∧ identity.displayName ≠ []
      ∧ identity.roles ≠ [] := by
  obtain ⟨kv, hkv, rfl⟩ := Option.map_eq_some_iff.mp h
  have hall : ∀ kv ∈ localIdentities, kv.2.subjectId ≠ [] ∧ kv.2.email ≠ []
      ∧ kv.2.displayName ≠ [] ∧ kv.2.roles ≠ [] := by decide
  exact hall kv (List.mem_of_find?_eq_some hkv)

theorem mapM_roleOf (roles : List Role) : (roles.map Role.value).mapM roleOf = some roles := by
  have hrole : ∀ role : Role, roleOf role.value = some role := by
    intro role
    cases role <;> decide
  induction roles with
  | nil => rfl
  | cons role roles ih =>
      rw [List.map_cons, List.mapM_cons, hrole, ih]
      rfl

/-- The claims of both tokens name the identity. -/
theorem localPrincipal_base {key : Str} {identity : LocalIdentity}
    (h : localIdentity key = some identity) (p : Provider) (expiresIn : Int)
    (jti tokenUse : Str) (nonce : Option Str) (now : Time) :
    localPrincipal { baseClaims p identity expiresIn jti now with
      tokenUse := tokenUse, nonce := nonce } = .ok identity.principal := by
  obtain ⟨hsubject, hemail, hname, hroles⟩ := localIdentity_complete h
  have hprovider : localOidc ≠ [] := by decide
  unfold localPrincipal baseClaims
  dsimp only
  rw [mapM_roleOf]
  dsimp only
  rw [if_neg (not_or.mpr ⟨hroles, not_or.mpr ⟨hemail, hsubject⟩⟩), if_neg hname, if_neg hprovider]
  rfl

/-! ## What holds in every run -/

/-- The provider has just been built, in or after 1970. -/
structure Initial (s : State) : Prop where
  codes : s.codes = fun _ => none
  issued : s.issued = []
  now : 0 ≤ s.now

structure Inv (p : Provider) (past : List (Taken State Event)) (s : State) : Prop where
  codes : ∀ code authorization, s.codes code = some authorization →
    Unspent p code authorization past
  issued : ∀ token ∈ s.issued, Issued p token past
  times : ∀ y ∈ past, 0 ≤ y.label.time ∧ y.label.time ≤ s.now
  now : 0 ≤ s.now

theorem Initial.inv {p : Provider} {s : State} (h : Initial s) : Inv p [] s where
  codes code authorization hcode := by rw [h.codes] at hcode; cases hcode
  issued token htoken := by rw [h.issued] at htoken; exact absurd htoken List.not_mem_nil
  times y hy := absurd hy List.not_mem_nil
  now := h.now

/-- A call whose time is the new one, and which spends no code but with an
exchange. -/
theorem Inv.called {p : Provider} {past : List (Taken State Event)} {x : Taken State Event}
    (h : Inv p past x.source) (hclock : x.source.now ≤ x.label.time)
    (hnow : x.target.now = x.label.time)
    (hcodes : ∀ code authorization, x.target.codes code = some authorization →
      (x.source.codes code = some authorization ∧ ¬Spends code x)
        ∨ ∃ r, Authorized p code authorization r x)
    (hissued : ∀ token ∈ x.target.issued, token ∈ x.source.issued
      ∨ Issued p token (past ++ [x])) : Inv p (past ++ [x]) x.target where
  codes code authorization hcode := by
    rcases hcodes code authorization hcode with ⟨hold, hspends⟩ | ⟨r, hauthorized⟩
    · exact (h.codes code authorization hold).snoc hspends
    · exact ⟨past, x, [], r, rfl, hauthorized, fun z hz => absurd hz List.not_mem_nil⟩
  issued token htoken := (hissued token htoken).elim (fun hold => (h.issued token hold).snoc x) id
  times y hy := by
    rw [hnow]
    rcases List.mem_append.mp hy with hy | hy
    · exact ⟨(h.times y hy).1, le_trans (h.times y hy).2 hclock⟩
    · obtain rfl := List.mem_singleton.mp hy
      exact ⟨le_trans h.now hclock, le_refl _⟩
  now := hnow ▸ le_trans h.now hclock

theorem not_spends {code : Str} {x : Taken State Event}
    (h : ∀ r jti answer, x.label.call ≠ .exchange r jti answer) : ¬Spends code x := by
  rintro ⟨r, jti, answer, hcall, -⟩
  exact h r jti answer hcall

/-- An exchange leaves the codes that it does not spend. -/
theorem exchanged_codes {p : Provider} {r : TokenRequest} {jti : Str} {x : Taken State Event}
    {answer : Except AuthFailure Tokens} {now : Time} {codes : Codes}
    (hcall : x.label.call = .exchange r jti answer)
    (h : exchangeCode p r jti now x.source.codes = (answer, codes)) {code : Str}
    {authorization : AuthorizationCode} (hcode : codes code = some authorization) :
    x.source.codes code = some authorization ∧ ¬Spends code x := by
  have hcodes : codes = if r.grantType = "authorization_code" then
      Function.update x.source.codes r.code none else x.source.codes := by
    have hspent : (exchangeCode p r jti now x.source.codes).2 = _ := exchangeCode_codes r jti
    rw [← hspent, h]
  rw [hcodes] at hcode
  split_ifs at hcode with hgrant
  · by_cases hsame : code = r.code
    · rw [hsame, Function.update_self] at hcode
      cases hcode
    · rw [Function.update_of_ne hsame] at hcode
      refine ⟨hcode, ?_⟩
      rintro ⟨r', jti', answer', hcall', -, hspent⟩
      rw [hcall] at hcall'
      cases hcall'
      exact hsame hspent.symm
  · refine ⟨hcode, ?_⟩
    rintro ⟨r', jti', answer', hcall', hgrant', -⟩
    rw [hcall] at hcall'
    cases hcall'
    exact hgrant hgrant'

theorem Step.inv {p : Provider} {past : List (Taken State Event)} {x : Taken State Event}
    (h : Inv p past x.source) (hstep : Step p x.source x.label x.target) :
    Inv p (past ++ [x]) x.target := by
  obtain ⟨s, event, s'⟩ := x
  dsimp only at h hstep
  cases hstep with
  | @authorized r code now codes clock hcreate =>
      obtain ⟨identity, hidentity, hclient, hredirect, hchallenge, rfl⟩ :=
        createAuthorizationCode_ok hcreate
      refine h.called clock rfl (fun code' authorization hcode => ?_)
        fun token htoken => .inl htoken
      dsimp only at hcode
      by_cases hsame : code' = code
      · subst hsame
        rw [Function.update_self] at hcode
        cases hcode
        exact .inr ⟨r, rfl, hidentity, ⟨hclient, rfl⟩, ⟨hredirect, rfl⟩, ⟨hchallenge, rfl⟩, rfl,
          rfl⟩
      · rw [Function.update_of_ne hsame] at hcode
        exact .inl ⟨hcode, not_spends fun _ _ _ heq => by cases heq⟩
  | refused clock hcreate =>
      exact h.called clock rfl
        (fun _ _ hcode => .inl ⟨hcode, not_spends fun _ _ _ heq => by cases heq⟩)
        fun token htoken => .inl htoken
  | @exchanged r jti now tokens codes clock hexchange =>
      obtain ⟨hgrant, authorization, hcode, htime, hclient, hredirect, hform, hdigest, htokens⟩ :=
        exchangeCode_ok hexchange
      refine h.called clock rfl (fun _ _ hcode => .inl (exchanged_codes rfl hexchange hcode))
        fun token htoken => ?_
      have hissued : token = tokens.accessToken ∨ token = tokens.idToken → Issued p token
          (past ++ [⟨s, ⟨now, .exchange r jti (.ok tokens)⟩,
            ⟨codes, tokens.accessToken :: tokens.idToken :: s.issued, now⟩⟩]) := fun htoken =>
        ⟨past, _, [], authorization, r, jti, tokens, rfl, h.codes _ _ hcode,
          ⟨rfl, hgrant, htime, hclient, hredirect, ⟨hform, hdigest⟩, htokens⟩, htoken⟩
      rcases List.mem_cons.mp htoken with haccess | htoken
      · exact .inr (hissued (.inl haccess))
      · rcases List.mem_cons.mp htoken with hid | hold
        · exact .inr (hissued (.inr hid))
        · exact .inl hold
  | notExchanged clock hexchange =>
      exact h.called clock rfl (fun _ _ hcode => .inl (exchanged_codes rfl hexchange hcode))
        fun token htoken => .inl htoken
  | request clock =>
      exact h.called clock rfl
        (fun _ _ hcode => .inl ⟨hcode, not_spends fun _ _ _ heq => by cases heq⟩)
        fun token htoken => .inl htoken

/-- Whoever is let in presents a token that was handed out less than fifteen
minutes ago in exchange for a code, which in turn was handed out less than two
minutes before that for one of the listed identities, and which no other
exchange spent in between. The exchange came with the client and redirect URI
of the authorization and with the verifier of its challenge, and the principal
is that identity with the permissions of its roles. -/
theorem request_was_authorized {p : Provider} {s₀ s : State}
    {trace past rest : List (Taken State Event)} {x : Taken State Event} {token : Str}
    {principal : AuthenticatedPrincipal} (h₀ : Initial s₀)
    (hrun : Run (Step p) s₀ trace s) (hunforged : ∀ x ∈ trace, Unforged p x)
    (heq : trace = past ++ x :: rest)
    (hcall : x.label.call = .request token (.ok principal)) :
    ∃ before y after authorization r jti tokens, past = before ++ y :: after
      ∧ Unspent p r.code authorization before ∧ Exchanged p authorization r jti tokens y
      ∧ y.label.time ≤ x.label.time ∧ x.label.time < y.label.time + 1000000 * tokenLifetime
      ∧ principal = authorization.identity.principal := by
  have hinv : Inv p past x.source := hrun.history (fun _ _ h hstep => hstep.inv h) h₀.inv heq
  have hx : x ∈ trace := heq ▸ List.mem_append_right _ (List.mem_cons_self ..)
  obtain ⟨source, ⟨time, call⟩, target⟩ := x
  dsimp only at hcall
  subst hcall
  have hstep : Step p source ⟨time, .request token (.ok principal)⟩ target := hrun.taken _ hx
  obtain ⟨hclock, hanswer⟩ : source.now ≤ time
      ∧ authenticate p token time = .ok principal := by
    generalize hans : (Except.ok principal : Except AuthFailure AuthenticatedPrincipal) = answer
      at hstep
    cases hstep with
    | request clock => exact ⟨clock, rfl⟩
  have hdecoded : p.decode token ≠ none := by
    intro hnone
    unfold authenticate at hanswer
    obtain ⟨claims, hvalid, -⟩ := bind_eq_ok hanswer
    unfold validate at hvalid
    rw [hnone] at hvalid
    cases hvalid
  obtain ⟨before, y, after, authorization, r, jti, tokens, rfl, hunspent, hexchanged, htoken⟩ :=
    hinv.issued token (hunforged _ hx token _ rfl hdecoded)
  have htimes := hinv.times y (List.mem_append_right _ (List.mem_cons_self ..))
  have hidentity : ∃ key, localIdentity key = some authorization.identity := by
    obtain ⟨_, _, _, request, -, hauthorized, -⟩ := hunspent
    exact ⟨request.identityKey, hauthorized.identity⟩
  obtain ⟨key, hidentity⟩ := hidentity
  have htruncate : 1000000 * timestamp (y.label.time + 1000000 * tokenLifetime)
      ≤ y.label.time + 1000000 * tokenLifetime := by
    have hpositive : 0 ≤ y.label.time + 1000000 * tokenLifetime :=
      Int.add_nonneg htimes.1 (by decide)
    unfold timestamp
    rw [Int.tdiv_eq_ediv_of_nonneg hpositive]
    exact Int.mul_ediv_self_le (by decide)
  have hlet : time < y.label.time + 1000000 * tokenLifetime
      ∧ principal = authorization.identity.principal := by
    have htokens := hexchanged.tokens
    rcases htoken with rfl | rfl
    · rw [htokens] at hanswer
      obtain ⟨hexpires, hprincipal⟩ := authenticate_encode_ok hanswer
      refine ⟨lt_of_lt_of_le hexpires htruncate, ?_⟩
      exact Except.ok.inj (hprincipal.symm.trans
        (localPrincipal_base hidentity p tokenLifetime jti "access" none y.label.time))
    · rw [htokens] at hanswer
      obtain ⟨hexpires, hprincipal⟩ := authenticate_encode_ok hanswer
      refine ⟨lt_of_lt_of_le hexpires htruncate, ?_⟩
      exact Except.ok.inj (hprincipal.symm.trans
        (localPrincipal_base hidentity p tokenLifetime jti "id" _ y.label.time))
  exact ⟨before, y, after, authorization, r, jti, tokens, rfl, hunspent, hexchanged,
    le_trans htimes.2 hclock, hlet⟩

/-! ## A login -/

def Claims.tuple (c : Claims) : Str × Str × Str × Str × Bool × Str × List Str × Int × Int × Str
    × Str × Str × Option Str :=
  (c.iss, c.aud, c.sub, c.email, c.emailVerified, c.name, c.roles, c.iat, c.exp, c.authProvider,
    c.jti, c.tokenUse, c.nonce)

def Claims.ofTuple (t : Str × Str × Str × Str × Bool × Str × List Str × Int × Int × Str
    × Str × Str × Option Str) : Claims :=
  ⟨t.1, t.2.1, t.2.2.1, t.2.2.2.1, t.2.2.2.2.1, t.2.2.2.2.2.1, t.2.2.2.2.2.2.1,
    t.2.2.2.2.2.2.2.1, t.2.2.2.2.2.2.2.2.1, t.2.2.2.2.2.2.2.2.2.1, t.2.2.2.2.2.2.2.2.2.2.1,
    t.2.2.2.2.2.2.2.2.2.2.2.1, t.2.2.2.2.2.2.2.2.2.2.2.2⟩

def sampleVerifier : Str := List.replicate 43 97

/-- A provider whose signed tokens are numbers. -/
def sampleProvider : Provider where
  issuer := "http://localhost:8002/local-oidc"
  audience := "rigor-web"
  redirectUris := ["http://localhost:3001/auth/callback"]
  s256 verifier :=
    if verifier = sampleVerifier then "ZtNPunH49FD35FWYhT5Tv8I7vRKQJ8uxMaL0_9eHjNA" else []
  encode c := [Encodable.encode c.tuple]
  decode token := token.head?.bind fun n => (Encodable.decode n).map Claims.ofTuple
  decode_encode c := by
    rw [List.head?_cons, Option.bind_some, Encodable.encodek]
    rfl

def sampleIdentity : LocalIdentity :=
  ⟨"local-candidate", "candidate@rigor.test", "Casey Candidate", [.candidate]⟩

def sampleAuthorization : AuthorizationRequest where
  identityKey := "candidate"
  clientId := "rigor-web"
  redirectUri := "http://localhost:3001/auth/callback"
  responseType := "code"
  codeChallenge := "ZtNPunH49FD35FWYhT5Tv8I7vRKQJ8uxMaL0_9eHjNA"
  codeChallengeMethod := "S256"
  nonce := none

def sampleExchange : TokenRequest where
  grantType := "authorization_code"
  code := "code-1"
  clientId := "rigor-web"
  redirectUri := "http://localhost:3001/auth/callback"
  codeVerifier := sampleVerifier

def sampleTokens : Tokens := issueTokens sampleProvider sampleIdentity none tokenLifetime "jti-1" 60

def sampleStart : State := ⟨fun _ => none, [], 0⟩

def sampleAuthorized : State where
  codes := Function.update sampleStart.codes "code-1" (some ⟨sampleIdentity, "rigor-web",
    "http://localhost:3001/auth/callback", "ZtNPunH49FD35FWYhT5Tv8I7vRKQJ8uxMaL0_9eHjNA", none,
    30 + codeLifetime⟩)
  issued := []
  now := 30

def sampleIssued : State where
  codes := Function.update sampleAuthorized.codes "code-1" none
  issued := [sampleTokens.accessToken, sampleTokens.idToken]
  now := 60

def samplePast : List (Taken State Event) :=
  [⟨sampleStart, ⟨30, .authorize sampleAuthorization "code-1" (.ok ())⟩, sampleAuthorized⟩,
    ⟨sampleAuthorized, ⟨60, .exchange sampleExchange "jti-1" (.ok sampleTokens)⟩, sampleIssued⟩]

/-- The candidate's request, after their login. -/
def sampleRequest : Taken State Event :=
  ⟨sampleIssued, ⟨90, .request sampleTokens.accessToken (.ok sampleIdentity.principal)⟩,
    { sampleIssued with now := 90 }⟩

theorem request_was_authorized_sample :
    ∃ before y after authorization r jti tokens, samplePast = before ++ y :: after
      ∧ Unspent sampleProvider r.code authorization before
      ∧ Exchanged sampleProvider authorization r jti tokens y
      ∧ y.label.time ≤ sampleRequest.label.time
      ∧ sampleRequest.label.time < y.label.time + 1000000 * tokenLifetime
      ∧ sampleIdentity.principal = authorization.identity.principal := by
  have hidentity : localIdentity "candidate" = some sampleIdentity := rfl
  have hanswer : authenticate sampleProvider sampleTokens.accessToken 90
      = .ok sampleIdentity.principal := by
    refine (authenticate_encode _).trans ?_
    rw [if_neg (by decide), if_neg (by decide), if_neg (by decide)]
    exact localPrincipal_base hidentity sampleProvider tokenLifetime "jti-1" "access" none 60
  have hauthorized : Step sampleProvider sampleStart
      ⟨30, .authorize sampleAuthorization "code-1" (.ok ())⟩ sampleAuthorized :=
    .authorized (by decide) rfl
  have hexchanged : Step sampleProvider sampleAuthorized
      ⟨60, .exchange sampleExchange "jti-1" (.ok sampleTokens)⟩ sampleIssued :=
    .exchanged (by decide) rfl
  have hrequest : Step sampleProvider sampleIssued sampleRequest.label sampleRequest.target := by
    have hstep : Step sampleProvider sampleIssued ⟨90, .request sampleTokens.accessToken
        (authenticate sampleProvider sampleTokens.accessToken 90)⟩
        { sampleIssued with now := 90 } :=
      .request (by decide)
    rw [hanswer] at hstep
    exact hstep
  have hrun : Run (Step sampleProvider) sampleStart (samplePast ++ [sampleRequest])
      sampleRequest.target :=
    .cons hauthorized (.cons hexchanged (.cons hrequest (.nil _)))
  have hunforged : ∀ x ∈ samplePast ++ [sampleRequest], Unforged sampleProvider x := by
    intro x hx token answer hcall _
    rcases List.mem_cons.mp hx with rfl | hx
    · cases hcall
    rcases List.mem_cons.mp hx with rfl | hx
    · cases hcall
    · rw [List.mem_singleton.mp hx] at hcall ⊢
      obtain ⟨rfl, -⟩ := Call.request.inj hcall
      exact List.mem_cons_self ..
  exact request_was_authorized ⟨rfl, rfl, by decide⟩ hrun hunforged rfl rfl

end LocalOidc

end Rigor
