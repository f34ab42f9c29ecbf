import Mathlib.Logic.Function.Basic
import Rigor.ExecutionDomain
import Rigor.PyJson
import Rigor.SandboxOwnership

/-!
# Creating a sandbox

A sandbox is a Secret with the request and a Job that mounts it, both named
after the execution. The two creates take the answer that the object exists
for success, so what an earlier attempt left under the names is what runs. A
handle stands for the request exactly when nothing was left but what the
same request had created, and a failure leaves nothing behind exactly when
the deletes of the clean-up are carried out (`sandbox_runs_request`).
-/

namespace Rigor.SandboxCreation

open Py

variable {F : Type}

/-! ## Profiles and images -/

inductive SandboxRuntime where
  | python | sql
  deriving DecidableEq

structure SandboxProfile where
  name : Str
  runtime : SandboxRuntime
  cpuRequest : Str
  cpuLimit : Str
  memoryRequest : Str
  memoryLimit : Str
  ephemeralStorageLimit : Str
  executionTimeoutSeconds : Nat
  jobDeadlineSeconds : Nat

/-- `SANDBOX_PROFILES`. -/
def sandboxProfiles : List SandboxProfile :=
  [⟨"python-small", .python, "100m", "1000m", "128Mi", "512Mi", "32Mi", 10, 20⟩,
    ⟨"python-large", .python, "250m", "2000m", "256Mi", "1024Mi", "64Mi", 15, 30⟩,
    ⟨"sql-small", .sql, "250m", "1000m", "256Mi", "768Mi", "128Mi", 10, 30⟩,
    ⟨"sql-large", .sql, "500m", "2000m", "512Mi", "1536Mi", "256Mi", 20, 45⟩]

inductive SandboxError where
  | configuration (message : Str)
  | dumps
  | encode
  | kubernetes (status : Option Nat)

def sandboxProfile (name : Str) : Except SandboxError SandboxProfile :=
  match sandboxProfiles.find? fun p => p.name = name with
  | some p => .ok p
  | none => .error (.configuration "Unknown server-controlled sandbox profile.")

/-- The text behind the last slash. -/
def lastSegment (s : Str) : Str := (s.reverse.takeWhile (· ≠ 47)).reverse

/-- `validate_immutable_image_reference`. -/
def validateImmutableImageReference (casefold : Str → Str) (image : Str) :
    Except SandboxError Unit :=
  let normalized := casefold (strip image)
  if normalized = [] ∨ (":latest" : Str) <:+ normalized ∨ (":production" : Str) <:+ normalized then
    .error (.configuration "Sandbox image must use an immutable version or digest.")
  else if ¬("@sha256:" : Str) <:+: normalized ∧ 58 ∉ lastSegment normalized then
    .error (.configuration "Sandbox image must include a version tag or digest.")
  else .ok ()

/-! ## The two objects -/

/-- What the Job manifest takes from its arguments. -/
structure JobManifest where
  name : Str
  kubernetesNamespace : Str
  executionId : Uuid
  profile : SandboxProfile
  inputSecretName : Str
  runnerImage : Str
  postgresImage : Option Str

structure SecretManifest where
  name : Str
  kubernetesNamespace : Str
  executionId : Uuid
  requestJson : Str
  /-- `owner-password` and `candidate-password` -/
  passwords : Option (Str × Str)

structure SandboxHandle where
  executionId : Uuid
  kubernetesNamespace : Str
  jobName : Str
  inputSecretName : Str

structure KubernetesApiConfig where
  kubernetesNamespace : Str
  runnerImage : Str
  sqlRunnerImage : Str
  sqlPostgresImage : Str

def buildPythonJob (casefold : Str → Str) (executionId : Uuid)
    (kubernetesNamespace inputSecretName runnerImage profileName : Str) :
    Except SandboxError JobManifest := do
  validateImmutableImageReference casefold runnerImage
  let profile ← sandboxProfile profileName
  if profile.runtime ≠ .python then
    .error (.configuration "Python execution requires a Python sandbox profile.")
  else
    .ok ⟨sandboxJobName executionId, kubernetesNamespace, executionId, profile, inputSecretName,
      runnerImage, none⟩

def buildSqlJob (casefold : Str → Str) (executionId : Uuid)
    (kubernetesNamespace inputSecretName runnerImage postgresImage profileName : Str) :
    Except SandboxError JobManifest := do
  validateImmutableImageReference casefold runnerImage
  validateImmutableImageReference casefold postgresImage
  let profile ← sandboxProfile profileName
  if profile.runtime ≠ .sql then
    .error (.configuration "SQL execution requires a SQL sandbox profile.")
  else
    .ok ⟨sandboxJobName executionId, kubernetesNamespace, executionId, profile, inputSecretName,
      runnerImage, some postgresImage⟩

/-- `_execution_handle`. -/
def KubernetesApiConfig.executionHandle (config : KubernetesApiConfig) (executionId : Uuid) :
    SandboxHandle :=
  ⟨executionId, config.kubernetesNamespace, sandboxJobName executionId,
    ("input-" : Str) ++ sandboxJobName executionId⟩

/-! ## The cluster -/

/-- A namespace and a name. -/
abbrev ObjectKey := Str × Str

def SandboxHandle.jobKey (handle : SandboxHandle) : ObjectKey :=
  (handle.kubernetesNamespace, handle.jobName)

def SandboxHandle.secretKey (handle : SandboxHandle) : ObjectKey :=
  (handle.kubernetesNamespace, handle.inputSecretName)

/-- A Job, and the request that it was created for. -/
structure StoredJob (F : Type) where
  manifest : JobManifest
  createdFor : Json F

structure KubernetesCluster (F : Type) where
  secrets : ObjectKey → Option SecretManifest
  jobs : ObjectKey → Option (StoredJob F)

/-- What becomes of a call: the API carries it out and answers, it answers
another status, or the transport fails, after the call was carried out or
before. -/
inductive Fate where
  | answered
  | refused (status : Nat)
  | lost (applied : Bool)
  deriving DecidableEq

/-- The API carries the call out. -/
def Fate.applies : Fate → Bool
  | .answered => true
  | .refused _ => false
  | .lost applied => applied

/-- What `_request` raises. -/
def Fate.raised : Fate → Except SandboxError Unit
  | .answered => .ok ()
  | .refused status => .error (.kubernetes (some status))
  | .lost _ => .error (.kubernetes none)

/-- The fates of the calls of one creation, in order. -/
structure Fates where
  postSecret : Fate
  postJob : Fate
  deleteJob : Fate
  deleteSecret : Fate

/-- A create that is carried out: an object of that name stays as it is, and
the answer is then 409. -/
def created {α : Type} (key : ObjectKey) (value : α) (objects : ObjectKey → Option α) :
    ObjectKey → Option α :=
  Function.update objects key ((objects key).or (some value))

def deleted {α : Type} (key : ObjectKey) (objects : ObjectKey → Option α) : ObjectKey → Option α :=
  Function.update objects key none

def KubernetesCluster.putSecret (fate : Fate) (key : ObjectKey) (secret : SecretManifest)
    (s : KubernetesCluster F) : KubernetesCluster F :=
  if fate.applies then { s with secrets := created key secret s.secrets } else s

def KubernetesCluster.putJob (fate : Fate) (key : ObjectKey) (job : StoredJob F)
    (s : KubernetesCluster F) : KubernetesCluster F :=
  if fate.applies then { s with jobs := created key job s.jobs } else s

/-- `cleanup`: what a delete raises is passed over. -/
def cleanup (fates : Fates) (handle : SandboxHandle) (s : KubernetesCluster F) :
    KubernetesCluster F where
  jobs := if fates.deleteJob.applies then deleted handle.jobKey s.jobs else s.jobs
  secrets := if fates.deleteSecret.applies then deleted handle.secretKey s.secrets else s.secrets

/-! ## The executor -/

/-- `_create_resources`. The body of the Secret is encoded before its call. -/
def createResources (fates : Fates) (handle : SandboxHandle) (secret : SecretManifest)
    (job : StoredJob F) (s : KubernetesCluster F) :
    Except SandboxError SandboxHandle × KubernetesCluster F :=
  if isEncodable secret.requestJson = false then (.error .encode, cleanup fates handle s)
  else
    let t := s.putSecret fates.postSecret handle.secretKey secret
    match fates.postSecret.raised with
    | .error e => (.error e, cleanup fates handle t)
    | .ok () =>
        let u := t.putJob fates.postJob handle.jobKey job
        match fates.postJob.raised with
        | .error e => (.error e, cleanup fates handle u)
        | .ok () => (.ok handle, u)

mutual

def decidableDigitsFit [Runtime F] : (v : Json F) → Decidable v.DigitsFit
  | .null => .isTrue trivial
  | .bool _ => .isTrue trivial
  | .int n => inferInstanceAs (Decidable (digitCount n ≤ Runtime.maxStrDigits F))
  | .float _ => .isTrue trivial
  | .str _ => .isTrue trivial
  | .arr xs => decidableDigitsFitElements xs
  | .obj kvs => decidableDigitsFitMembers kvs

def decidableDigitsFitElements [Runtime F] :
    (xs : List (Json F)) → Decidable (Json.DigitsFitElements xs)
  | [] => .isTrue trivial
  | x :: xs => @instDecidableAnd _ _ (decidableDigitsFit x) (decidableDigitsFitElements xs)

def decidableDigitsFitMembers [Runtime F] :
    (kvs : List (Str × Json F)) → Decidable (Json.DigitsFitMembers kvs)
  | [] => .isTrue trivial
  | (_, v) :: kvs => @instDecidableAnd _ _ (decidableDigitsFit v) (decidableDigitsFitMembers kvs)

end

instance [Runtime F] (v : Json F) : Decidable v.Printable :=
  @instDecidableAnd _ _ (decidableDigitsFit v) inferInstance

/-- `json.dumps`. -/
def dumps [Runtime F] (payload : Dict F) : Except SandboxError Str :=
  if (Json.obj payload).Printable then .ok (Json.obj payload).encode else .error .dumps

/-- The two objects of a Python execution. -/
def pythonResources [Runtime F] (casefold : Str → Str) (config : KubernetesApiConfig)
    (executionId : Uuid) (payload : Dict F) (profileName : Str) :
    Except SandboxError (SecretManifest × JobManifest) := do
  let handle := config.executionHandle executionId
  let requestJson ← dumps payload
  let job ← buildPythonJob casefold executionId config.kubernetesNamespace handle.inputSecretName
    config.runnerImage profileName
  .ok (⟨handle.inputSecretName, config.kubernetesNamespace, executionId, requestJson, none⟩, job)

/-- The two objects of an SQL execution, with its two generated passwords. -/
def sqlResources [Runtime F] (casefold : Str → Str) (passwords : Str × Str)
    (config : KubernetesApiConfig) (executionId : Uuid) (payload : Dict F) (profileName : Str) :
    Except SandboxError (SecretManifest × JobManifest) := do
  let handle := config.executionHandle executionId
  let requestJson ← dumps payload
  let job ← buildSqlJob casefold executionId config.kubernetesNamespace handle.inputSecretName
    config.sqlRunnerImage config.sqlPostgresImage profileName
  .ok (⟨handle.inputSecretName, config.kubernetesNamespace, executionId, requestJson,
    some passwords⟩, job)

/-- What both creations do with the objects they built. -/
def createExecution (fates : Fates) (handle : SandboxHandle) (payload : Dict F)
    (resources : Except SandboxError (SecretManifest × JobManifest)) (s : KubernetesCluster F) :
    Except SandboxError SandboxHandle × KubernetesCluster F :=
  match resources with
  | .error e => (.error e, s)
  | .ok (secret, job) => createResources fates handle secret ⟨job, .obj payload⟩ s

def createPythonExecution [Runtime F] (casefold : Str → Str) (config : KubernetesApiConfig)
    (fates : Fates) (executionId : Uuid) (payload : Dict F) (profileName : Str)
    (s : KubernetesCluster F) : Except SandboxError SandboxHandle × KubernetesCluster F :=
  createExecution fates (config.executionHandle executionId) payload
    (pythonResources casefold config executionId payload profileName) s

def createSqlExecution [Runtime F] (casefold : Str → Str) (passwords : Str × Str)
    (config : KubernetesApiConfig) (fates : Fates) (executionId : Uuid) (payload : Dict F)
    (profileName : Str) (s : KubernetesCluster F) :
    Except SandboxError SandboxHandle × KubernetesCluster F :=
  createExecution fates (config.executionHandle executionId) payload
    (sqlResources casefold passwords config executionId payload profileName) s

/-! ## What a creation promises -/

section

variable {fates : Fates} {handle : SandboxHandle} {payload : Dict F} {secret : SecretManifest}
  {job : StoredJob F} {s t : KubernetesCluster F}

/-- The Secret holds the request, and the Job was created for it. -/
structure RunsRequest (handle : SandboxHandle) (payload : Dict F) [Runtime F]
    (s : KubernetesCluster F) : Prop where
  secret : ∃ secret, s.secrets handle.secretKey = some secret
    ∧ secret.requestJson = (Json.obj payload).encode
  job : ∃ job, s.jobs handle.jobKey = some job ∧ job.createdFor = .obj payload

/-- Every object is one that was there before. -/
structure NothingNew (s t : KubernetesCluster F) : Prop where
  secrets : ∀ key secret, t.secrets key = some secret → s.secrets key = some secret
  jobs : ∀ key job, t.jobs key = some job → s.jobs key = some job

/-- The handle stands for the request, or nothing new is left. -/
def Creates [Runtime F] (payload : Dict F) (s : KubernetesCluster F) :
    Except SandboxError SandboxHandle × KubernetesCluster F → Prop
  | (.ok handle, t) => RunsRequest handle payload t
  | (.error _, t) => NothingNew s t

/-- What is left under the names was created for the same request. -/
structure LeftoversMatch (handle : SandboxHandle) (payload : Dict F) [Runtime F]
    (s : KubernetesCluster F) : Prop where
  secret : ∀ secret, s.secrets handle.secretKey = some secret →
    secret.requestJson = (Json.obj payload).encode
  job : ∀ job, s.jobs handle.jobKey = some job → job.createdFor = .obj payload

/-- The deletes of the clean-up reach what the creates put there. -/
structure CleansUp (fates : Fates) (handle : SandboxHandle) (s : KubernetesCluster F) : Prop where
  secret : fates.postSecret.applies → s.secrets handle.secretKey = none →
    fates.deleteSecret.applies
  job : fates.postSecret = .answered → fates.postJob.applies → s.jobs handle.jobKey = none →
    fates.deleteJob.applies

/-- The answers and the leftovers under which a creation does what it
promises, once its objects are built. -/
def Fates.Sound (fates : Fates) (handle : SandboxHandle) (payload : Dict F) [Runtime F]
    (s : KubernetesCluster F) : Prop :=
  if fates.postSecret = .answered ∧ fates.postJob = .answered then LeftoversMatch handle payload s
  else CleansUp fates handle s

/-! ## Creating and deleting -/

theorem created_self {α : Type} (key : ObjectKey) (value : α) (objects : ObjectKey → Option α) :
    created key value objects key = (objects key).or (some value) := Function.update_self ..

/-- A create and a delete of one name leave nothing new exactly when the
delete is carried out, if the create put its object there. -/
theorem nothing_new_iff {α : Type} (put del : Bool) (key : ObjectKey) (value : α)
    (objects : ObjectKey → Option α) :
    (∀ k x, (if del then deleted key (if put then created key value objects else objects)
        else if put then created key value objects else objects) k = some x → objects k = some x)
      ↔ (put = true → objects key = none → del = true) := by
  constructor
  · intro h hput hnone
    by_contra hdel
    rw [if_neg hdel, if_pos hput] at h
    have hnew := h key value (by rw [created_self, hnone]; rfl)
    rw [hnone] at hnew
    cases hnew
  · intro h k x hx
    by_cases hk : k = key
    · subst hk
      cases hold : objects k with
      | none =>
          cases hput : put with
          | false => cases del <;> simp [hput, deleted, hold] at hx
          | true =>
              rw [h hput hold] at hx
              simp [deleted] at hx
      | some y => cases del <;> cases put <;> simp_all [deleted, created]
    · cases del <;> cases put <;> simp_all [deleted, created]

/-- The cluster after the creates that were carried out. -/
def afterCreates (put put' : Bool) (handle : SandboxHandle) (secret : SecretManifest)
    (job : StoredJob F) (s : KubernetesCluster F) : KubernetesCluster F where
  secrets := if put then created handle.secretKey secret s.secrets else s.secrets
  jobs := if put' then created handle.jobKey job s.jobs else s.jobs

theorem putSecret_eq (job : StoredJob F) (fate : Fate) :
    s.putSecret fate handle.secretKey secret = afterCreates fate.applies false handle secret job s := by
  unfold KubernetesCluster.putSecret afterCreates
  cases fate.applies <;> rfl

theorem putJob_eq (fate fate' : Fate) :
    (s.putSecret fate handle.secretKey secret).putJob fate' handle.jobKey job
      = afterCreates fate.applies fate'.applies handle secret job s := by
  unfold KubernetesCluster.putSecret KubernetesCluster.putJob afterCreates
  cases fate.applies <;> cases fate'.applies <;> rfl

theorem nothingNew_cleanup (secret : SecretManifest) (job : StoredJob F) (put put' : Bool) :
    NothingNew s (cleanup fates handle (afterCreates put put' handle secret job s))
      ↔ (put = true → s.secrets handle.secretKey = none → fates.deleteSecret.applies = true)
        ∧ (put' = true → s.jobs handle.jobKey = none → fates.deleteJob.applies = true) := by
  have hsecrets := nothing_new_iff put fates.deleteSecret.applies handle.secretKey secret s.secrets
  have hjobs := nothing_new_iff put' fates.deleteJob.applies handle.jobKey job s.jobs
  exact ⟨fun h => ⟨hsecrets.mp h.secrets, hjobs.mp h.jobs⟩,
    fun h => ⟨hsecrets.mpr h.1, hjobs.mpr h.2⟩⟩

theorem creates_unencodable [Runtime F] (hencode : isEncodable secret.requestJson = false) :
    Creates payload s (createResources fates handle secret job s) := by
  unfold createResources
  rw [if_pos hencode]
  exact (nothingNew_cleanup secret job false false).mpr ⟨nofun, nofun⟩

/-- What runs after the two creates were answered. -/
theorem runsRequest_iff [Runtime F] (hsecret : secret.requestJson = (Json.obj payload).encode)
    (hjob : job.createdFor = .obj payload) :
    RunsRequest handle payload (afterCreates true true handle secret job s)
      ↔ LeftoversMatch handle payload s := by
  have hs : (afterCreates true true handle secret job s).secrets handle.secretKey
      = (s.secrets handle.secretKey).or (some secret) := created_self ..
  have hj : (afterCreates true true handle secret job s).jobs handle.jobKey
      = (s.jobs handle.jobKey).or (some job) := created_self ..
  constructor
  · rintro ⟨⟨secret', hsecret', htext⟩, job', hjob', hfor⟩
    rw [hs] at hsecret'
    rw [hj] at hjob'
    refine ⟨fun old hold => ?_, fun old hold => ?_⟩
    · rw [hold] at hsecret'
      cases hsecret'
      exact htext
    · rw [hold] at hjob'
      cases hjob'
      exact hfor
  · rintro ⟨hold, hold'⟩
    refine ⟨?_, ?_⟩
    · rw [hs]
      cases hleft : s.secrets handle.secretKey with
      | none => exact ⟨secret, rfl, hsecret⟩
      | some old => exact ⟨old, rfl, hold old hleft⟩
    · rw [hj]
      cases hleft : s.jobs handle.jobKey with
      | none => exact ⟨job, rfl, hjob⟩
      | some old => exact ⟨old, rfl, hold' old hleft⟩

/-- A failed creation leaves nothing new exactly when its clean-up reaches
what it had put there. -/
theorem nothingNew_iff_cleansUp {put : Bool} (put' : Bool) (hput : put = fates.postSecret.applies)
    (hput' : put' = true ↔ fates.postSecret = .answered ∧ fates.postJob.applies = true) :
    NothingNew s (cleanup fates handle (afterCreates put put' handle secret job s))
      ↔ CleansUp fates handle s := by
  rw [nothingNew_cleanup, hput]
  exact ⟨fun h => ⟨h.1, fun hs hj => h.2 (hput'.mpr ⟨hs, hj⟩)⟩,
    fun h => ⟨h.secret, fun hj => h.job (hput'.mp hj).1 (hput'.mp hj).2⟩⟩

theorem creates_iff [Runtime F] (hencode : isEncodable secret.requestJson = true)
    (hsecret : secret.requestJson = (Json.obj payload).encode)
    (hjob : job.createdFor = .obj payload) :
    Creates payload s (createResources fates handle secret job s)
      ↔ fates.Sound handle payload s := by
  unfold createResources Fates.Sound
  rw [if_neg (by rw [hencode]; decide)]
  dsimp only
  rw [putJob_eq, putSecret_eq job]
  cases hps : fates.postSecret with
  | answered =>
      cases hpj : fates.postJob with
      | answered =>
          rw [if_pos ⟨rfl, rfl⟩]
          exact runsRequest_iff hsecret hjob
      | refused status =>
          rw [if_neg (by rintro ⟨-, h⟩; cases h)]
          exact nothingNew_iff_cleansUp false (hps ▸ rfl)
            ⟨nofun, fun h => Bool.noConfusion (hpj ▸ h.2 : (Fate.refused status).applies = true)⟩
      | lost applied =>
          rw [if_neg (by rintro ⟨-, h⟩; cases h)]
          exact nothingNew_iff_cleansUp applied (hps ▸ rfl)
            ⟨fun h => ⟨hps, hpj ▸ h⟩, fun h => (hpj ▸ h.2 :)⟩
  | refused status =>
      rw [if_neg (by rintro ⟨h, -⟩; cases h)]
      exact nothingNew_iff_cleansUp false (hps ▸ rfl)
        ⟨nofun, fun h => nomatch hps.symm.trans h.1⟩
  | lost applied =>
      rw [if_neg (by rintro ⟨h, -⟩; cases h)]
      exact nothingNew_iff_cleansUp false (hps ▸ rfl)
        ⟨nofun, fun h => nomatch hps.symm.trans h.1⟩

theorem createExecution_iff [Runtime F]
    (resources : Except SandboxError (SecretManifest × JobManifest))
    (hresources : ∀ secret job, resources = .ok (secret, job) →
      secret.requestJson = (Json.obj payload).encode) :
    Creates payload s (createExecution fates handle payload resources s)
      ↔ ((∃ r, resources = .ok r) → isEncodable (Json.obj payload).encode = true →
        fates.Sound handle payload s) := by
  cases resources with
  | error e =>
      refine ⟨fun _ => nofun, fun _ => ?_⟩
      exact ⟨fun _ _ h => h, fun _ _ h => h⟩
  | ok r =>
      obtain ⟨secret, job⟩ := r
      have htext := hresources secret job rfl
      unfold createExecution
      cases hencode : isEncodable (Json.obj payload).encode with
      | false =>
          exact ⟨fun _ _ h => (nomatch h), fun _ => creates_unencodable (htext ▸ hencode)⟩
      | true =>
          refine (creates_iff (htext ▸ hencode) htext rfl).trans ?_
          exact ⟨fun h _ _ => h, fun h => h ⟨_, rfl⟩ rfl⟩

theorem dumps_ok [Runtime F] {text : Str} (h : dumps payload = .ok text) :
    text = (Json.obj payload).encode := by
  unfold dumps at h
  split_ifs at h
  cases h
  rfl

theorem pythonResources_text [Runtime F] {casefold : Str → Str} {config : KubernetesApiConfig}
    {executionId : Uuid} {profileName : Str} {job : JobManifest}
    (h : pythonResources casefold config executionId payload profileName = .ok (secret, job)) :
    secret.requestJson = (Json.obj payload).encode := by
  obtain ⟨text, htext, h⟩ := bind_eq_ok h
  obtain ⟨job', -, h⟩ := bind_eq_ok h
  cases h
  exact dumps_ok htext

theorem sqlResources_text [Runtime F] {casefold : Str → Str} {passwords : Str × Str}
    {config : KubernetesApiConfig} {executionId : Uuid} {profileName : Str} {job : JobManifest}
    (h : sqlResources casefold passwords config executionId payload profileName
      = .ok (secret, job)) :
    secret.requestJson = (Json.obj payload).encode := by
  obtain ⟨text, htext, h⟩ := bind_eq_ok h
  obtain ⟨job', -, h⟩ := bind_eq_ok h
  cases h
  exact dumps_ok htext

end

/-- A creation does what it promises exactly when, once its objects are built
and its request can be encoded, nothing is left under its names but what the
same request had created, or the clean-up of a failed call reaches what was
put there. -/
theorem sandbox_runs_request [Runtime F] (casefold : Str → Str) (config : KubernetesApiConfig)
    (fates : Fates) (executionId : Uuid) (payload : Dict F) (passwords : Str × Str)
    (profileName : Str) (s : KubernetesCluster F) :
    (Creates payload s
        (createPythonExecution casefold config fates executionId payload profileName s)
      ↔ ((∃ r, pythonResources casefold config executionId payload profileName = .ok r) →
        isEncodable (Json.obj payload).encode = true →
        fates.Sound (config.executionHandle executionId) payload s))
    ∧ (Creates payload s
        (createSqlExecution casefold passwords config fates executionId payload profileName s)
      ↔ ((∃ r, sqlResources casefold passwords config executionId payload profileName = .ok r) →
        isEncodable (Json.obj payload).encode = true →
        fates.Sound (config.executionHandle executionId) payload s)) :=
  ⟨createExecution_iff _ fun _ _ h => pythonResources_text h,
    createExecution_iff _ fun _ _ h => sqlResources_text h⟩

/-! ## A Secret of the attempt before -/

section

def leftoverConfig : KubernetesApiConfig where
  kubernetesNamespace := "rigor-execution"
  runnerImage := "runner:1"
  sqlRunnerImage := "sql-runner:1"
  sqlPostgresImage := "postgres:17"

def attemptPayload (attempt : Int) : Dict FloatConst := [("attempt", .int attempt)]

/-- The Job of the first attempt is gone, its Secret is not. -/
def leftoverCluster : KubernetesCluster FloatConst where
  secrets key :=
    if key = (leftoverConfig.executionHandle "e").secretKey then
      some ⟨"input-execution-e", "rigor-execution", "e", (Json.obj (attemptPayload 1)).encode, none⟩
    else none
  jobs _ := none

def allAnswered : Fates := ⟨.answered, .answered, .answered, .answered⟩

/-- The second attempt runs the request of the first. -/
theorem second_attempt_runs_first :
    ∃ handle t, createPythonExecution id leftoverConfig allAnswered "e" (attemptPayload 2)
        "python-small" leftoverCluster = (.ok handle, t)
      ∧ (t.secrets handle.secretKey).map SecretManifest.requestJson
        = some (Json.obj (attemptPayload 1)).encode
      ∧ ¬Creates (attemptPayload 2) leftoverCluster
        (createPythonExecution id leftoverConfig allAnswered "e" (attemptPayload 2)
          "python-small" leftoverCluster) := by
  refine ⟨_, _, rfl, rfl, ?_⟩
  rintro ⟨⟨secret, hsecret, htext⟩, -⟩
  cases hsecret
  revert htext
  decide

end

end Rigor.SandboxCreation
