import Rigor.CandidateTransactions
import Rigor.QueueIdempotency
import Rigor.TestAlignment

/-!
# The execution capability of a question

`execution_capability.py` tells a candidate whether a published question runs,
and `execution_api.py` decides it again, in its own words, when the candidate
runs it. The two agree but for the settings that only the second one reads
(`queue_iff_capability`).
-/

namespace Rigor

open Py

variable {F : Type} [Runtime F]

/-! ## `_capability` -/

inductive Availability where
  | runnable | hosted
  deriving DecidableEq

structure ExecutionCapability where
  questionVersionId : Uuid
  availability : Availability
  runtime : Option SubmissionRuntime
  starterSource : Str
  publicTestCount : Nat
  hiddenTestCount : Nat
  reason : Option Str

/-- `test.get("visibility") == "hidden"`. -/
def isHidden (test : Dict F) : Bool := (Json.get "visibility" test).eqStr "hidden"

def schemaSql (structured : Json F) : Json F :=
  (Json.lookup "schema_sql" (questionMode structured)).getD
    (Json.get "ddl" (questionMode structured))

/-- `_capability`. -/
def capability (functionNames : FunctionNames) (question : PublishedQuestion F) :
    Except Failure ExecutionCapability :=
  let tests := questionTests question.structuredContent false
  let publicTestCount := tests.countP isPublic
  let hiddenTestCount := tests.countP isHidden
  match questionRuntime question.structuredContent with
  | .error (.practiceTransition message) =>
      .ok ⟨question.questionVersionId, .hosted, none, [], publicTestCount, hiddenTestCount,
        some message⟩
  | .error failure => .error failure
  | .ok runtime =>
      let publicStarter := starterSource question.structuredContent runtime
      let hosted (reason : Str) : ExecutionCapability :=
        ⟨question.questionVersionId, .hosted, some runtime, publicStarter, publicTestCount,
          hiddenTestCount, some reason⟩
      let runnable : ExecutionCapability :=
        ⟨question.questionVersionId, .runnable, some runtime, publicStarter, publicTestCount,
          hiddenTestCount, none⟩
      if tests = [] then
        .ok ⟨question.questionVersionId, .hosted, some runtime, publicStarter, 0, 0,
          some "No deterministic execution tests are published for this question version."⟩
      else
        match runtime with
        | .postgresql =>
            match schemaSql question.structuredContent with
            | .str schema =>
                if isBlank schema then .ok (hosted
                  "The published SQL question does not define an isolated fixture schema.")
                else .ok runnable
            | _ => .ok (hosted
                "The published SQL question does not define an isolated fixture schema.")
        | .python =>
            match entrypoint functionNames question.structuredContent with
            | .ok _ => .ok runnable
            | .error (.http _ detail) => .ok (hosted detail)
            | .error failure => .error failure

/-- `get_execution_capability`. -/
def getExecutionCapability (env : Environment) (slug : Str) (db : Db F) :
    Except Failure ExecutionCapability :=
  match publishedQuestionPayload slug db with
  | .error .sessionNotFound => .error (.http 404 "Published question not found")
  | .error failure => .error failure
  | .ok question => capability env.functionNames question

/-! ## What both read -/

/-- There is code to run the candidate's with. -/
def Executable (functionNames : FunctionNames) (structured : Json F) : SubmissionRuntime → Prop
  | .python => ∃ name, entrypoint functionNames structured = .ok name
  | .postgresql => ∃ schema, schemaSql structured = .str schema ∧ isBlank schema = false

/-- The settings that `_capability` leaves alone. -/
def SettingsValid (structured : Json F) : SubmissionRuntime → Prop
  | .python => strOr (Json.get "invocation_mode" (questionMode structured)) "auto" ∈ invocationModes
  | .postgresql =>
      (∃ seed, (Json.lookup "seed_sql" (questionMode structured)).getD
        ((Json.lookup "seed_data" (questionMode structured)).getD (.str [])) = .str seed)
      ∧ ∃ timeout, (Json.lookup "statement_timeout_ms" (questionMode structured)).getD (.int 5000)
          = .int timeout ∧ 100 ≤ timeout ∧ timeout ≤ 30000

omit [Runtime F] in
theorem questionTests_public (structured : Json F) :
    questionTests structured true = (questionTests structured false).filter isPublic := by
  unfold questionTests
  split
  · rfl
  · rfl

omit [Runtime F] in
theorem public_ne_nil {structured : Json F} :
    questionTests structured true ≠ [] ↔ 0 < (questionTests structured false).countP isPublic := by
  rw [questionTests_public, List.countP_eq_length_filter, List.length_pos_iff]

theorem candidateTests_succeeds {structured : Json F} {publicOnly : Bool} :
    (∃ sent, candidateTests structured publicOnly = .ok sent)
      ↔ questionTests structured publicOnly ≠ [] := by
  unfold candidateTests
  dsimp only
  constructor
  · rintro ⟨sent, h⟩ hempty
    rw [hempty, List.mapIdx_nil, if_pos rfl] at h
    cases h
  · intro hne
    refine ⟨_, if_neg fun hnil => hne ?_⟩
    have hlength := congrArg List.length hnil
    rw [List.length_mapIdx] at hlength
    exact List.length_eq_zero_iff.mp hlength

theorem bind_succeeds {ε α β : Type} {x : Except ε α} {f : α → Except ε β} :
    (∃ b, (x >>= f) = .ok b) ↔ ∃ a, x = .ok a ∧ ∃ b, f a = .ok b := by
  constructor
  · rintro ⟨b, h⟩
    obtain ⟨a, hx, hf⟩ := bind_eq_ok h
    exact ⟨a, hx, b, hf⟩
  · rintro ⟨a, hx, b, hf⟩
    exact ⟨b, by rw [hx]; exact hf⟩

theorem pure_succeeds {ε α : Type} (a : α) : ∃ b, (.ok a : Except ε α) = .ok b := ⟨a, rfl⟩

theorem invocationMode_succeeds {structured : Json F} :
    (∃ mode, invocationMode structured = .ok mode) ↔ SettingsValid structured .python := by
  unfold invocationMode SettingsValid
  dsimp only
  by_cases hmode : strOr (Json.get "invocation_mode" (questionMode structured)) "auto"
      ∈ invocationModes
  · rw [if_pos hmode]
    exact iff_of_true (pure_succeeds _) hmode
  · rw [if_neg hmode]
    refine iff_of_false ?_ hmode
    rintro ⟨_, h⟩
    cases h

theorem pythonConfig_succeeds {functionNames : FunctionNames} {structured : Json F}
    {publicOnly : Bool} :
    (∃ payload, runtimeExecutionConfig functionNames structured .python publicOnly = .ok payload)
      ↔ Executable functionNames structured .python ∧ SettingsValid structured .python
        ∧ questionTests structured publicOnly ≠ [] := by
  unfold runtimeExecutionConfig
  dsimp only
  rw [bind_succeeds, ← invocationMode_succeeds, ← candidateTests_succeeds]
  constructor
  · rintro ⟨name, hname, h⟩
    obtain ⟨mode, hmode, h⟩ := bind_succeeds.mp h
    obtain ⟨sent, hsent, -⟩ := bind_succeeds.mp h
    exact ⟨⟨name, hname⟩, ⟨mode, hmode⟩, ⟨sent, hsent⟩⟩
  · rintro ⟨⟨name, hname⟩, ⟨mode, hmode⟩, ⟨sent, hsent⟩⟩
    exact ⟨name, hname, bind_succeeds.mpr ⟨mode, hmode, bind_succeeds.mpr
      ⟨sent, hsent, pure_succeeds _⟩⟩⟩

theorem sqlConfig_succeeds {functionNames : FunctionNames} {structured : Json F}
    {publicOnly : Bool} :
    (∃ payload, runtimeExecutionConfig functionNames structured .postgresql publicOnly
      = .ok payload)
      ↔ Executable functionNames structured .postgresql ∧ SettingsValid structured .postgresql
        ∧ questionTests structured publicOnly ≠ [] := by
  unfold runtimeExecutionConfig sqlInputPayload Executable SettingsValid schemaSql
  dsimp only
  rw [← candidateTests_succeeds]
  constructor
  · rintro ⟨payload, h⟩
    split at h
    · rename_i schema hschema
      split_ifs at h with hblank
      split at h
      · rename_i seed hseed
        split at h
        · rename_i timeout htimeout
          split_ifs at h with hrange
          obtain ⟨sent, hsent, -⟩ := bind_eq_ok h
          exact ⟨⟨schema, hschema, by simpa using hblank⟩,
            ⟨⟨seed, hseed⟩, timeout, htimeout, by omega⟩, ⟨sent, hsent⟩⟩
        · cases h
      · cases h
    · cases h
  · rintro ⟨⟨schema, hschema, hblank⟩, ⟨⟨seed, hseed⟩, timeout, htimeout, hrange⟩, ⟨sent, hsent⟩⟩
    have hinside : ¬(timeout < 100 ∨ timeout > 30000) := by omega
    rw [hschema]
    dsimp only
    rw [hblank, if_neg Bool.false_ne_true, hseed]
    dsimp only
    rw [htimeout]
    dsimp only
    rw [if_neg hinside]
    exact bind_succeeds.mpr ⟨sent, hsent, pure_succeeds _⟩

/-- What the dispatcher asks of a question. -/
theorem config_succeeds {functionNames : FunctionNames} {structured : Json F}
    {runtime : SubmissionRuntime} {publicOnly : Bool} :
    (∃ payload, runtimeExecutionConfig functionNames structured runtime publicOnly = .ok payload)
      ↔ Executable functionNames structured runtime ∧ SettingsValid structured runtime
        ∧ questionTests structured publicOnly ≠ [] := by
  cases runtime with
  | python => exact pythonConfig_succeeds
  | postgresql => exact sqlConfig_succeeds

/-! ## What the gate asks -/

/-- The capability is `runnable`, for the runtime and, if asked, with public
tests. -/
structure ExecutionCapability.Offers (cap : ExecutionCapability) (runtime : SubmissionRuntime)
    (publicOnly : Bool) : Prop where
  availability : cap.availability = .runnable
  runtime : cap.runtime = some runtime
  tests : publicOnly = true → 0 < cap.publicTestCount

theorem capability_offers_python {functionNames : FunctionNames} {question : PublishedQuestion F}
    {runtime : SubmissionRuntime} {publicOnly : Bool}
    (hruntime : questionRuntime question.structuredContent = .ok .python)
    (htests : questionTests question.structuredContent false ≠ []) :
    (∃ cap, capability functionNames question = .ok cap ∧ cap.Offers runtime publicOnly)
      ↔ runtime = .python ∧ Executable functionNames question.structuredContent .python
        ∧ (publicOnly = true →
          0 < (questionTests question.structuredContent false).countP isPublic) := by
  unfold capability Executable
  dsimp only
  rw [hruntime]
  dsimp only
  rw [if_neg htests]
  constructor
  · rintro ⟨cap, h, hoffers⟩
    split at h
    · rename_i name hname
      cases h
      exact ⟨(Option.some.inj hoffers.runtime).symm, ⟨name, hname⟩, hoffers.tests⟩
    · cases h
      cases hoffers.availability
    · cases h
  · rintro ⟨rfl, ⟨name, hname⟩, hpublic⟩
    rw [hname]
    exact ⟨_, rfl, rfl, rfl, hpublic⟩

theorem capability_offers_postgresql {functionNames : FunctionNames}
    {question : PublishedQuestion F} {runtime : SubmissionRuntime} {publicOnly : Bool}
    (hruntime : questionRuntime question.structuredContent = .ok .postgresql)
    (htests : questionTests question.structuredContent false ≠ []) :
    (∃ cap, capability functionNames question = .ok cap ∧ cap.Offers runtime publicOnly)
      ↔ runtime = .postgresql ∧ Executable functionNames question.structuredContent .postgresql
        ∧ (publicOnly = true →
          0 < (questionTests question.structuredContent false).countP isPublic) := by
  unfold capability Executable
  dsimp only
  rw [hruntime]
  dsimp only
  rw [if_neg htests]
  constructor
  · rintro ⟨cap, h, hoffers⟩
    split at h
    · rename_i schema hschema
      split_ifs at h with hblank
      · cases h
        cases hoffers.availability
      · cases h
        exact ⟨(Option.some.inj hoffers.runtime).symm, ⟨schema, hschema, by simpa using hblank⟩,
          hoffers.tests⟩
    · cases h
      cases hoffers.availability
  · rintro ⟨rfl, ⟨schema, hschema, hblank⟩, hpublic⟩
    rw [hschema]
    dsimp only
    rw [hblank, if_neg Bool.false_ne_true]
    exact ⟨_, rfl, rfl, rfl, hpublic⟩

/-- A capability without tests offers nothing. -/
theorem capability_without_tests {functionNames : FunctionNames} {question : PublishedQuestion F}
    {cap : ExecutionCapability} (h : capability functionNames question = .ok cap)
    (htests : questionTests question.structuredContent false = []) :
    cap.availability = .hosted := by
  unfold capability at h
  dsimp only at h
  split at h
  · cases h
    rfl
  · cases h
  · rw [if_pos htests] at h
    cases h
    rfl

/-- The gate and the dispatcher, on a question whose runtime is known. -/
theorem config_iff_offers {functionNames : FunctionNames} {question : PublishedQuestion F}
    {runtime : SubmissionRuntime} {publicOnly : Bool}
    (hruntime : questionRuntime question.structuredContent = .ok runtime) :
    (∃ payload, runtimeExecutionConfig functionNames question.structuredContent runtime publicOnly
        = .ok payload)
      ↔ (∃ cap, capability functionNames question = .ok cap ∧ cap.Offers runtime publicOnly)
        ∧ SettingsValid question.structuredContent runtime := by
  have hpublic : questionTests question.structuredContent publicOnly ≠ []
      ↔ questionTests question.structuredContent false ≠ [] ∧ (publicOnly = true →
        0 < (questionTests question.structuredContent false).countP isPublic) := by
    cases publicOnly with
    | false => exact ⟨fun h => ⟨h, fun h' => absurd h' Bool.false_ne_true⟩, fun h => h.1⟩
    | true =>
        rw [public_ne_nil]
        refine ⟨fun h => ⟨?_, fun _ => h⟩, fun h => h.2 rfl⟩
        intro hnil
        rw [hnil] at h
        exact absurd h (lt_irrefl 0)
  rw [config_succeeds, hpublic]
  by_cases htests : questionTests question.structuredContent false = []
  · constructor
    · rintro ⟨-, -, hne, -⟩
      exact absurd htests hne
    · rintro ⟨⟨cap, hcap, hoffers⟩, -⟩
      have hhosted := capability_without_tests hcap htests
      rw [hoffers.availability] at hhosted
      cases hhosted
  · cases runtime with
    | python => rw [capability_offers_python hruntime htests]; tauto
    | postgresql => rw [capability_offers_postgresql hruntime htests]; tauto

/-! ## A call of the queue -/

def QueueCall.executionKey (type : ExecutionType) (c : QueueCall) : Str :=
  match type with
  | .run => "run:" ++ c.idempotencyKey
  | .submit => "submit:" ++ c.idempotencyKey

/-- `queue_run` or `queue_submit`. -/
def QueueCall.queue (env : Environment) (type : ExecutionType) (c : QueueCall) (db : Db F) :
    Except Failure (Db F × ExecutionAccepted) :=
  match type with
  | .run => queueRun env c.principal c.request c.idempotencyKey c.slug c.ids id c.clock db
  | .submit => queueSubmit env c.principal c.request c.idempotencyKey c.slug c.ids id id c.clock db

/-- The tables have room for one more submission of the call. -/
structure QueueCall.Submittable (c : QueueCall) (db : Db F) : Prop where
  id : db.submission c.ids.submissionId = none
  key : ∀ s ∈ db.submissions,
    ¬(s.candidateId = c.principal.userId ∧ s.idempotencyKey = c.idempotencyKey)
  session : ∃ session, getSession c.principal c.request.sessionId db = .ok session
    ∧ session.state ∈ [PracticeSessionState.created, .inProgress, .paused]

/-- What the queue asks of a call, apart from the question. -/
structure QueueCall.Admitted (type : ExecutionType) (c : QueueCall) (db : Db F) : Prop where
  key : findByIdempotency c.principal (c.executionKey type) db = none
  room : activeCount c.principal type db < maxActive type
  id : db.execution c.ids.executionId = none
  submission : type = .submit → c.Submittable db

section

variable {env : Environment} {principal : Principal} {q : QueueRequest} {db : Db F}

omit [Runtime F] in
theorem enforceBackpressure_succeeds {type : ExecutionType} :
    (∃ u, enforceBackpressure principal type db = .ok u)
      ↔ activeCount principal type db < maxActive type := by
  unfold enforceBackpressure
  by_cases hcount : activeCount principal type db ≥ maxActive type
  · rw [if_pos hcount]
    exact iff_of_false error_not_ok (Nat.not_lt.mpr hcount)
  · rw [if_neg hcount]
    exact iff_of_true (pure_succeeds _) (Nat.not_le.mp hcount)

omit [Runtime F] in
theorem createQueued_succeeds {inputPayload : Dict F} {executionId : Uuid} {clock : Clock}
    (hkey : findByIdempotency principal q.idempotencyKey db = none) :
    (∃ r, createQueued env principal q inputPayload executionId clock db = .ok r)
      ↔ db.execution executionId = none := by
  unfold createQueued
  rw [hkey]
  dsimp only
  by_cases hid : (db.execution executionId).isSome
  · rw [if_pos hid]
    refine iff_of_false error_not_ok fun hnone => ?_
    rw [hnone] at hid
    cases hid
  · rw [if_neg hid]
    exact iff_of_true (pure_succeeds _) (by simpa using hid)

theorem queueExecution_succeeds {content : Json F} {executionId : Uuid} {clock : Clock}
    (hkey : findByIdempotency principal q.idempotencyKey db = none) :
    (∃ r, queueExecution env principal q content executionId clock db = .ok r)
      ↔ activeCount principal q.executionType db < maxActive q.executionType
        ∧ (∃ payload, runtimeExecutionConfig env.functionNames content q.runtime
          (decide (q.executionType = .run)) = .ok payload)
        ∧ db.execution executionId = none := by
  unfold queueExecution
  rw [bind_succeeds]
  constructor
  · rintro ⟨u, hroom, h⟩
    obtain ⟨payload, hconfig, h⟩ := bind_succeeds.mp h
    exact ⟨enforceBackpressure_succeeds.mp ⟨u, hroom⟩, ⟨payload, hconfig⟩,
      (createQueued_succeeds hkey).mp h⟩
  · rintro ⟨hroom, ⟨payload, hconfig⟩, hid⟩
    obtain ⟨u, hu⟩ := enforceBackpressure_succeeds.mpr hroom
    exact ⟨u, hu, bind_succeeds.mpr ⟨payload, hconfig, (createQueued_succeeds hkey).mpr hid⟩⟩

omit [Runtime F] in
theorem insertSubmission_ok_iff {row : Submission F} {db' : Db F} :
    insertSubmission row db = .ok db'
      ↔ db.submission row.id = none
        ∧ (∀ s ∈ db.submissions,
          ¬(s.candidateId = row.candidateId ∧ s.idempotencyKey = row.idempotencyKey))
        ∧ db' = { db with submissions := db.submissions ++ [row] } := by
  unfold insertSubmission
  split_ifs with hid hkey
  · refine iff_of_false (fun h => by cases h) fun h => ?_
    rw [h.1] at hid
    cases hid
  · refine iff_of_false (fun h => by cases h) fun h => ?_
    obtain ⟨s, hs, hsame⟩ := List.any_eq_true.mp hkey
    exact h.2.1 s hs (of_decide_eq_true hsame)
  · constructor
    · intro h
      cases h
      refine ⟨by simpa using hid, fun s hs hsame => hkey ?_, rfl⟩
      exact List.any_eq_true.mpr ⟨s, hs, decide_eq_true hsame⟩
    · rintro ⟨-, -, rfl⟩
      rfl

omit [Runtime F] in
theorem transitionSession_succeeds {sessionId : Uuid} {target : PracticeSessionState}
    {allowed : List PracticeSessionState} {clock : Clock} :
    (∃ db', transitionSession principal sessionId target allowed id clock db = .ok db')
      ↔ ∃ session, getSession principal sessionId db = .ok session ∧ session.state ∈ allowed := by
  unfold transitionSession
  rw [bind_succeeds]
  refine exists_congr fun session => and_congr_right fun _ => ?_
  rw [id_eq]
  by_cases hstate : session.state ∈ allowed
  · rw [if_neg (not_not_intro hstate)]
    exact iff_of_true (pure_succeeds _) hstate
  · rw [if_pos hstate]
    exact iff_of_false error_not_ok hstate

theorem mapError_succeeds {ε ε' α : Type} {f : ε → ε'} {x : Except ε α} {a : α} :
    x.mapError f = .ok a ↔ x = .ok a :=
  ⟨mapError_eq_ok, fun h => by rw [h]; rfl⟩

omit [Runtime F] in
theorem existingExecution_none {key hash : Str}
    (h : findByIdempotency principal key db = none) :
    existingExecution principal key hash db = .ok none := by
  unfold existingExecution
  rw [h]

omit [Runtime F] in
/-- Whatever is found under the key, nothing new is queued. -/
theorem existingExecution_duplicate {key hash : Str} {found : Option ExecutionAccepted}
    {f : Except Failure (Db F × ExecutionAccepted)} {db' : Db F} {accepted : ExecutionAccepted}
    (hfound : existingExecution principal key hash db = .ok found)
    (h : (match found with
      | some a => Except.ok (db, a)
      | none => f) = .ok (db', accepted)) (hnew : accepted.duplicate = false) :
    findByIdempotency principal key db = none ∧ f = .ok (db', accepted) := by
  unfold existingExecution at hfound
  cases hkey : findByIdempotency principal key db with
  | none =>
      rw [hkey] at hfound
      cases hfound
      exact ⟨rfl, h⟩
  | some e =>
      rw [hkey] at hfound
      dsimp only at hfound
      split_ifs at hfound
      cases hfound
      cases h
      cases hnew

theorem queueNewRun_succeeds {request : PracticeRunRequest} {content : Json F} {ids : NewIds}
    {clock : Clock} (hkey : findByIdempotency principal q.idempotencyKey db = none) :
    (∃ db' accepted, queueNewRun env principal request q content ids clock db = .ok (db', accepted)
        ∧ accepted.duplicate = false)
      ↔ ∃ r, queueExecution env principal q content ids.executionId clock db = .ok r := by
  unfold queueNewRun
  constructor
  · rintro ⟨db', accepted, h, -⟩
    obtain ⟨r, hr, -⟩ := bind_eq_ok h
    exact ⟨r, hr⟩
  · rintro ⟨⟨queued, accepted⟩, hr⟩
    obtain ⟨-, -, -, -, -, -, haccepted⟩ := queueExecution_ok hkey hr
    exact ⟨_, accepted, by rw [hr]; rfl, by rw [haccepted]⟩

/-- The submission that is inserted first changes nothing that queueing reads,
and queueing nothing that the session's transition reads. -/
theorem queueNewSubmit_succeeds {request : PracticeRunRequest} {idempotencyKey : Str}
    {content : Json F} {ids : NewIds} {clock : Clock} (htype : q.executionType = .submit)
    (hkey : findByIdempotency principal q.idempotencyKey db = none) :
    (∃ db' accepted, queueNewSubmit env principal request idempotencyKey q content ids id clock db
        = .ok (db', accepted) ∧ accepted.duplicate = false)
      ↔ (db.submission ids.submissionId = none
          ∧ ∀ s ∈ db.submissions,
            ¬(s.candidateId = principal.userId ∧ s.idempotencyKey = idempotencyKey))
        ∧ (∃ r, queueExecution env principal q content ids.executionId clock db = .ok r)
        ∧ ∃ session, getSession principal request.sessionId db = .ok session
          ∧ session.state ∈ [PracticeSessionState.created, .inProgress, .paused] := by
  have hkeep : ∀ inserted : Db F, inserted.executions = db.executions →
      findByIdempotency principal q.idempotencyKey inserted = none := by
    intro inserted hsame
    unfold findByIdempotency
    rw [hsame]
    exact hkey
  have hexecution : ∀ inserted : Db F, inserted.executions = db.executions →
      ((∃ r, queueExecution env principal q content ids.executionId clock inserted = .ok r)
        ↔ ∃ r, queueExecution env principal q content ids.executionId clock db = .ok r) := by
    intro inserted hsame
    rw [queueExecution_succeeds hkey, queueExecution_succeeds (hkeep inserted hsame)]
    unfold activeCount Db.execution
    rw [hsame]
  unfold queueNewSubmit
  constructor
  · rintro ⟨db', accepted, h, -⟩
    obtain ⟨-, -, h⟩ := bind_eq_ok h
    obtain ⟨inserted, hinserted, h⟩ := bind_eq_ok h
    obtain ⟨⟨queued, answer⟩, hqueued, h⟩ := bind_eq_ok h
    obtain ⟨moved, hmoved, -⟩ := bind_eq_ok h
    obtain ⟨hid, hnew, rfl⟩ := insertSubmission_ok_iff.mp hinserted
    obtain ⟨-, -, -, -, -, hsessions, -⟩ := queueExecution_ok (hkeep _ (by rfl)) hqueued
    refine ⟨⟨hid, hnew⟩, (hexecution _ (by rfl)).mp ⟨_, hqueued⟩, ?_⟩
    have hsession := transitionSession_succeeds.mp ⟨moved, hmoved⟩
    unfold getSession Db.session at hsession ⊢
    rw [hsessions] at hsession
    exact hsession
  · rintro ⟨⟨hid, hnew⟩, hqueue, hsession⟩
    have hroom := ((queueExecution_succeeds hkey).mp hqueue).1
    rw [htype] at hroom
    obtain ⟨u, hu⟩ := enforceBackpressure_succeeds.mpr hroom
    obtain ⟨inserted, hinserted, hexecutions, hkept⟩ : ∃ inserted,
        insertSubmission (queuedSubmissionRow principal q idempotencyKey ids.submissionId) db
          = .ok inserted
        ∧ inserted.executions = db.executions ∧ inserted.sessions = db.sessions :=
      ⟨_, insertSubmission_ok_iff.mpr ⟨hid, hnew, rfl⟩, rfl, rfl⟩
    obtain ⟨⟨queued, accepted⟩, hqueued⟩ := (hexecution inserted hexecutions).mpr hqueue
    obtain ⟨-, -, -, -, -, hsessions, haccepted⟩ :=
      queueExecution_ok (hkeep inserted hexecutions) hqueued
    have hsession' : ∃ session, getSession principal request.sessionId queued = .ok session
        ∧ session.state ∈ [PracticeSessionState.created, .inProgress, .paused] := by
      unfold getSession Db.session at hsession ⊢
      rw [hsessions, hkept]
      exact hsession
    obtain ⟨moved, hmoved⟩ := transitionSession_succeeds.mpr hsession'
    refine ⟨moved.updateSession request.sessionId (PracticeSession.recordSubmission
      request.sourceCode accepted.executionId ids.submissionId q.runtime), accepted, ?_,
      by rw [haccepted]⟩
    rw [hu, ok_bind, hinserted, ok_bind, hqueued, ok_bind]
    dsimp only
    rw [hmoved, ok_bind]

end

variable {env : Environment} {c : QueueCall} {type : ExecutionType} {db : Db F}

theorem queueRun_new :
    (∃ db' accepted, c.queue env .run db = .ok (db', accepted) ∧ accepted.duplicate = false)
      ↔ ∃ question runtime,
        sessionQuestion c.principal c.request.sessionId c.slug id db = .ok (question, runtime)
          ∧ findByIdempotency c.principal (c.executionKey .run) db = none
          ∧ ∃ r, queueExecution env c.principal
            (runRequest c.request question runtime c.idempotencyKey) question.structuredContent
            c.ids.executionId c.clock db = .ok r := by
  show (∃ db' accepted, queueRun env c.principal c.request c.idempotencyKey c.slug c.ids id
    c.clock db = .ok (db', accepted) ∧ _) ↔ _
  unfold queueRun
  simp only [mapError_succeeds]
  constructor
  · rintro ⟨db', accepted, h, hnew⟩
    obtain ⟨⟨question, runtime⟩, hsession, h⟩ := bind_eq_ok h
    obtain ⟨found, hfound, h⟩ := bind_eq_ok h
    obtain ⟨hkey, h⟩ := existingExecution_duplicate hfound h hnew
    exact ⟨question, runtime, hsession, hkey, (queueNewRun_succeeds hkey).mp ⟨_, _, h, hnew⟩⟩
  · rintro ⟨question, runtime, hsession, hkey, hqueue⟩
    have hkey' : findByIdempotency c.principal
        (runRequest c.request question runtime c.idempotencyKey).idempotencyKey db = none := hkey
    obtain ⟨db', accepted, h, hnew⟩ := (queueNewRun_succeeds hkey').mpr hqueue
    refine ⟨db', accepted, ?_, hnew⟩
    rw [hsession, ok_bind]
    dsimp only
    rw [existingExecution_none hkey']
    exact h

theorem queueSubmit_new :
    (∃ db' accepted, c.queue env .submit db = .ok (db', accepted) ∧ accepted.duplicate = false)
      ↔ c.Submittable db ∧ ∃ question runtime,
        sessionQuestion c.principal c.request.sessionId c.slug id db = .ok (question, runtime)
          ∧ findByIdempotency c.principal (c.executionKey .submit) db = none
          ∧ ∃ r, queueExecution env c.principal
            (submitRequest c.request question runtime c.idempotencyKey c.ids.submissionId)
            question.structuredContent c.ids.executionId c.clock db = .ok r := by
  show (∃ db' accepted, queueSubmit env c.principal c.request c.idempotencyKey c.slug c.ids id id
    c.clock db = .ok (db', accepted) ∧ _) ↔ _
  unfold queueSubmit
  simp only [mapError_succeeds]
  constructor
  · rintro ⟨db', accepted, h, hnew⟩
    obtain ⟨⟨question, runtime⟩, hsession, h⟩ := bind_eq_ok h
    obtain ⟨found, hfound, h⟩ := bind_eq_ok h
    obtain ⟨hkey, h⟩ := existingExecution_duplicate hfound h hnew
    obtain ⟨⟨hid, hsubmission⟩, hqueue, hstate⟩ :=
      (queueNewSubmit_succeeds rfl hkey).mp ⟨_, _, h, hnew⟩
    exact ⟨⟨hid, hsubmission, hstate⟩, question, runtime, hsession, hkey, hqueue⟩
  · rintro ⟨⟨hid, hsubmission, hstate⟩, question, runtime, hsession, hkey, hqueue⟩
    have hkey' : findByIdempotency c.principal (submitRequest c.request question runtime
        c.idempotencyKey c.ids.submissionId).idempotencyKey db = none := hkey
    obtain ⟨db', accepted, h, hnew⟩ :=
      (queueNewSubmit_succeeds rfl hkey').mpr ⟨⟨hid, hsubmission⟩, hqueue, hstate⟩
    refine ⟨db', accepted, ?_, hnew⟩
    rw [hsession, ok_bind]
    dsimp only
    rw [existingExecution_none hkey']
    exact h

theorem getExecutionCapability_eq {slug : Str} {question : PublishedQuestion F}
    (h : publishedQuestionPayload slug db = .ok question) :
    getExecutionCapability env slug db = capability env.functionNames question := by
  unfold getExecutionCapability
  rw [h]

/-- What is left of `queueExecution`, by the capability of the question. -/
theorem queueExecution_iff_offers {q : QueueRequest} {question : PublishedQuestion F}
    {runtime : SubmissionRuntime} (htype : q.executionType = type) (hruntime : q.runtime = runtime)
    (hkey : findByIdempotency c.principal q.idempotencyKey db = none)
    (hsession : sessionQuestion c.principal c.request.sessionId c.slug id db
      = .ok (question, runtime)) :
    (∃ r, queueExecution env c.principal q question.structuredContent c.ids.executionId c.clock db
        = .ok r)
      ↔ (activeCount c.principal type db < maxActive type ∧ db.execution c.ids.executionId = none)
        ∧ SettingsValid question.structuredContent runtime
        ∧ ∃ cap, getExecutionCapability env c.slug db = .ok cap
          ∧ cap.Offers runtime (decide (type = .run)) := by
  obtain ⟨-, -, -, -, hquestion, hrequired⟩ := sessionQuestion_ok hsession
  rw [queueExecution_succeeds hkey, htype, hruntime, config_iff_offers hrequired,
    getExecutionCapability_eq hquestion]
  tauto

end Rigor
