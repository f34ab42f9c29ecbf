import Rigor.PracticeStore
import Rigor.RequestHash

/-!
# Queueing executions

`queue_run` and `queue_submit` of `execution_api.py` with
`ExecutionRepository.create_queued`: the session check, the idempotency
look-up, backpressure, and the rows a new execution brings along. New
identifiers are arguments; the primary keys refuse one that is taken.
-/

namespace Rigor

open Py

variable {F : Type}

/-! ## Requests -/

structure PracticeRunRequest where
  sessionId : Uuid
  sourceCode : Str
  source_length : 1 ≤ sourceCode.length ∧ sourceCode.length ≤ 100000
  session_scalar : IsScalar sessionId
  source_scalar : IsScalar sourceCode

structure ExecutionAccepted where
  executionId : Uuid
  submissionId : Option Uuid
  status : ExecutionStatus
  duplicate : Bool
  deriving DecidableEq

/-- The text that `execution_request_hash` digests. -/
def canonicalRequest (executionType : ExecutionType) (practiceSessionId questionVersionId : Uuid)
    (runtime sourceCode : Str) : Str :=
  let member (name : String) (value rest : Str) : Str := Str.ofString name ++ (asciiString value ++ rest)
  member "\x7b\"execution_type\":" executionType.value
    (member ",\"practice_session_id\":" practiceSessionId
      (member ",\"question_version_id\":" questionVersionId
        (member ",\"runtime\":" runtime (member ",\"source_code\":" sourceCode [125]))))

/-- `execution_request_hash`. -/
def executionRequestHash (env : Environment) (executionType : ExecutionType)
    (practiceSessionId questionVersionId : Uuid) (runtime sourceCode : Str) : Str :=
  env.sha256 (canonicalRequest executionType practiceSessionId questionVersionId runtime sourceCode)

/-! ## `_session_question` -/

section

variable [Runtime F]

/-- `_session_question`. -/
def sessionQuestion (principal : Principal) (sessionId : Uuid) (slug : Str) (check : StateRead)
    (db : Db F) : Except Failure (PublishedQuestion F × SubmissionRuntime) := do
  let session ← getSession principal sessionId db
  let sessionSlug ← sessionSlug session db
  if sessionSlug ≠ slug then .error .sessionNotFound
  else if check session.state = .completed ∨ check session.state = .abandoned then
    .error (.http 409 "Practice session is no longer executable.")
  else
    match SubmissionRuntime.ofValue session.runtime with
    | none => .error (.http 409 "Practice session runtime is unsupported.")
    | some runtime => do
        let question ← publishedQuestionPayload slug db
        match questionRuntime question.structuredContent with
        | .error (.practiceTransition message) => .error (.http 409 message)
        | .error failure => .error failure
        | .ok required =>
            if runtime ≠ required then .error (.http 409
              "Practice session runtime no longer matches the published question runtime.")
            else .ok (question, runtime)

end

/-! ## Idempotency and backpressure -/

/-- The candidate's execution with the key. -/
def findByIdempotency (principal : Principal) (key : Str) (db : Db F) : Option (Execution F) :=
  db.executions.find? fun e =>
    decide (e.row.candidateId = principal.userId ∧ e.row.idempotencyKey = key)

def conflictMessage : Str :=
  "The Idempotency-Key was already used for a different execution request."

def acceptedAgain (e : Execution F) : ExecutionAccepted :=
  ⟨e.row.id, e.row.submissionId, e.state, true⟩

/-- `_existing_execution`. -/
def existingExecution (principal : Principal) (key expectedHash : Str) (db : Db F) :
    Except Failure (Option ExecutionAccepted) :=
  match findByIdempotency principal key db with
  | none => .ok none
  | some e =>
      if e.row.requestHash ≠ expectedHash then .error (.conflict conflictMessage)
      else .ok (some (acceptedAgain e))

def maxActiveRunsPerCandidate : Nat := 5
def maxActiveSubmitsPerCandidate : Nat := 2

def maxActive : ExecutionType → Nat
  | .run => maxActiveRunsPerCandidate
  | .submit => maxActiveSubmitsPerCandidate

def activeStates : List ExecutionStatus := [.queued, .dispatching, .running]

def activeCount (principal : Principal) (executionType : ExecutionType) (db : Db F) : Nat :=
  db.executions.countP fun e => decide (e.row.candidateId = principal.userId
    ∧ e.row.executionType = executionType ∧ e.state ∈ activeStates)

/-- `_enforce_backpressure`. -/
def enforceBackpressure (principal : Principal) (executionType : ExecutionType) (db : Db F) :
    Except Failure Unit :=
  if activeCount principal executionType db ≥ maxActive executionType then
    .error (.http 429
      "Too many candidate executions are already active. Retry after one finishes.")
  else .ok ()

/-! ## `create_queued` -/

/-- What is queued, apart from who queues it. -/
structure QueueRequest where
  executionType : ExecutionType
  practiceSessionId : Uuid
  submissionId : Option Uuid
  questionVersionId : Uuid
  runtime : SubmissionRuntime
  sourceCode : Str
  idempotencyKey : Str

def QueueRequest.hash (env : Environment) (q : QueueRequest) : Str :=
  executionRequestHash env q.executionType q.practiceSessionId q.questionVersionId q.runtime.value
    q.sourceCode

/-- The rows `create_queued` inserts for an execution. -/
def queuedExecution (env : Environment) (principal : Principal) (q : QueueRequest)
    (inputPayload : Dict F) (executionId : Uuid) (clock : Clock) : Execution F where
  row :=
    { id := executionId, organizationId := principal.organizationId,
      candidateId := principal.userId, practiceSessionId := q.practiceSessionId,
      submissionId := q.submissionId, questionVersionId := q.questionVersionId,
      executionType := q.executionType, runtime := q.runtime.value,
      language := runtimeLanguage q.runtime, idempotencyKey := q.idempotencyKey,
      requestHash := q.hash env, limits := limits q.runtime, queuedAt := clock.app,
      traceId := principal.correlationId, state := .queued, attemptCount := 0,
      leaseOwner := none, leaseExpiresAt := none, kubernetesNamespace := none,
      kubernetesJobName := none, dispatchStartedAt := none, runningAt := none, startedAt := none,
      completedAt := none, runtimeMs := none, exitCode := none, errorCategory := none,
      resultReference := none }
  payload := ⟨q.sourceCode, inputPayload⟩
  events := [⟨0, .queued, .queued 0 principal.correlationId⟩]
  publicWrites := []

/-- `ExecutionRepository.create_queued`. -/
def createQueued (env : Environment) (principal : Principal) (q : QueueRequest)
    (inputPayload : Dict F) (executionId : Uuid) (clock : Clock) (db : Db F) :
    Except Failure (Db F × ExecutionAccepted) :=
  match findByIdempotency principal q.idempotencyKey db with
  | some e =>
      if e.row.requestHash ≠ q.hash env then .error (.conflict conflictMessage)
      else .ok (db, acceptedAgain e)
  | none =>
      if (db.execution executionId).isSome then .error (.integrity "execution_requests_pkey")
      else
        let inserted : Db F := { db with
          executions := db.executions ++ [queuedExecution env principal q inputPayload executionId
            clock] }
        .ok (inserted.send ⟨executionId, "execution.requested",
            "execution.requested:" ++ executionId, clock.app, principal.correlationId⟩,
          ⟨executionId, q.submissionId, .queued, false⟩)

/-! ## The endpoints -/

/-- How the endpoints answer. -/
def httpFailure : Failure → Failure
  | .sessionNotFound => .http 404 "Practice session or question not found."
  | .conflict message => .http 409 message
  | failure => failure

/-- The identifiers a request may use up. -/
structure NewIds where
  executionId : Uuid
  submissionId : Uuid

section

variable [Runtime F]

/-- `_queue_execution`. -/
def queueExecution (env : Environment) (principal : Principal) (q : QueueRequest)
    (structuredContent : Json F) (executionId : Uuid) (clock : Clock) (db : Db F) :
    Except Failure (Db F × ExecutionAccepted) := do
  enforceBackpressure principal q.executionType db
  let inputPayload ← runtimeExecutionConfig env.functionNames structuredContent q.runtime
    (decide (q.executionType = .run))
  createQueued env principal q inputPayload executionId clock db

/-- The session of a queued run. -/
def PracticeSession.recordRun (source : Str) (executionId : Uuid) (runtime : SubmissionRuntime)
    (s : PracticeSession F) : PracticeSession F :=
  PracticeSession.appendEvent "CODE_RUN_QUEUED"
    [("execution_id", .str executionId), ("runtime", .str runtime.value)]
    { s with draftCode := source, runCount := s.runCount + 1 }

/-- The session of a queued submission. -/
def PracticeSession.recordSubmission (source : Str) (executionId submissionId : Uuid)
    (runtime : SubmissionRuntime) (s : PracticeSession F) : PracticeSession F :=
  PracticeSession.appendEvent "SUBMISSION_QUEUED"
    [("execution_id", .str executionId), ("submission_id", .str submissionId),
      ("runtime", .str runtime.value)]
    { s with draftCode := source, submissionCount := s.submissionCount + 1 }

/-- The body of `queue_run` behind the idempotency look-up. -/
def queueNewRun (env : Environment) (principal : Principal) (request : PracticeRunRequest)
    (q : QueueRequest) (structuredContent : Json F) (ids : NewIds) (clock : Clock) (db : Db F) :
    Except Failure (Db F × ExecutionAccepted) := do
  let (queued, accepted) ← queueExecution env principal q structuredContent ids.executionId clock db
  .ok (queued.updateSession request.sessionId
    (PracticeSession.recordRun request.sourceCode accepted.executionId q.runtime), accepted)

/-- The row that `queue_submit` inserts into `submissions`. -/
def queuedSubmissionRow (principal : Principal) (q : QueueRequest) (idempotencyKey : Str)
    (submissionId : Uuid) : Submission F where
  id := submissionId
  organizationId := principal.organizationId
  candidateId := principal.userId
  practiceSessionId := q.practiceSessionId
  questionVersionId := q.questionVersionId
  runtime := q.runtime.value
  submittedSource := q.sourceCode
  status := .queued
  idempotencyKey := idempotencyKey
  publicTestResults := []
  hiddenTestSummary := none
  errorCategory := none
  executionDurationMs := none
  startedAt := none
  completedAt := none
  results := []
  evaluations := []

def insertSubmission (row : Submission F) (db : Db F) : Except Failure (Db F) :=
  if (db.submission row.id).isSome then .error (.integrity "submissions_pkey")
  else if db.submissions.any fun s => decide (s.candidateId = row.candidateId
      ∧ s.idempotencyKey = row.idempotencyKey) then
    .error (.integrity "uq_submissions_candidate_idempotency")
  else .ok { db with submissions := db.submissions ++ [row] }

/-- The body of `queue_submit` behind the idempotency look-up. -/
def queueNewSubmit (env : Environment) (principal : Principal) (request : PracticeRunRequest)
    (idempotencyKey : Str) (q : QueueRequest) (structuredContent : Json F) (ids : NewIds)
    (reread : StateRead) (clock : Clock) (db : Db F) :
    Except Failure (Db F × ExecutionAccepted) := do
  enforceBackpressure principal .submit db
  let inserted ← insertSubmission (queuedSubmissionRow principal q idempotencyKey ids.submissionId) db
  let (queued, accepted) ←
    queueExecution env principal q structuredContent ids.executionId clock inserted
  let moved ← transitionSession principal request.sessionId .submitted
    [.created, .inProgress, .paused] reread clock queued
  .ok (moved.updateSession request.sessionId
    (PracticeSession.recordSubmission request.sourceCode accepted.executionId ids.submissionId
      q.runtime), accepted)

/-- What a run of `slug` by the candidate would queue now. -/
def runRequest (request : PracticeRunRequest) (question : PublishedQuestion F)
    (runtime : SubmissionRuntime) (idempotencyKey : Str) : QueueRequest :=
  ⟨.run, request.sessionId, none, question.questionVersionId, runtime, request.sourceCode,
    "run:" ++ idempotencyKey⟩

def submitRequest (request : PracticeRunRequest) (question : PublishedQuestion F)
    (runtime : SubmissionRuntime) (idempotencyKey : Str) (submissionId : Uuid) : QueueRequest :=
  ⟨.submit, request.sessionId, some submissionId, question.questionVersionId, runtime,
    request.sourceCode, "submit:" ++ idempotencyKey⟩

/-- `queue_run`. -/
def queueRun (env : Environment) (principal : Principal) (request : PracticeRunRequest)
    (idempotencyKey slug : Str) (ids : NewIds) (check : StateRead) (clock : Clock) (db : Db F) :
    Except Failure (Db F × ExecutionAccepted) :=
  Except.mapError httpFailure do
    let (question, runtime) ← sessionQuestion principal request.sessionId slug check db
    let q := runRequest request question runtime idempotencyKey
    match ← existingExecution principal q.idempotencyKey (q.hash env) db with
    | some accepted => .ok (db, accepted)
    | none => queueNewRun env principal request q question.structuredContent ids clock db

/-- `queue_submit`. -/
def queueSubmit (env : Environment) (principal : Principal) (request : PracticeRunRequest)
    (idempotencyKey slug : Str) (ids : NewIds) (check reread : StateRead) (clock : Clock)
    (db : Db F) : Except Failure (Db F × ExecutionAccepted) :=
  Except.mapError httpFailure do
    let (question, runtime) ← sessionQuestion principal request.sessionId slug check db
    let q := submitRequest request question runtime idempotencyKey ids.submissionId
    match ← existingExecution principal q.idempotencyKey (q.hash env) db with
    | some accepted => .ok (db, accepted)
    | none =>
        queueNewSubmit env principal request idempotencyKey q question.structuredContent ids reread
          clock db

end

end Rigor
