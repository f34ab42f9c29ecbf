import Rigor.ExecutionPersistence
import Rigor.QuestionContent
import Rigor.RequestHash
import Rigor.Tables

/-!
# The practice store

The tables behind the candidate's API, the published catalogue and
`PracticeSessionRepository`. Every function is one transaction; one that
raises leaves the tables alone.
-/

namespace Rigor

open Py

variable {F : Type}

/-! ## Tables -/

inductive ContentState where
  | draft | generated | automatedValidationFailed | awaitingTechnicalReview
  | awaitingEditorialReview | approved | published | deprecated | archived
  deriving DecidableEq

def ContentState.value : ContentState → Str
  | .draft => "draft"
  | .generated => "generated"
  | .automatedValidationFailed => "automated_validation_failed"
  | .awaitingTechnicalReview => "awaiting_technical_review"
  | .awaitingEditorialReview => "awaiting_editorial_review"
  | .approved => "approved"
  | .published => "published"
  | .deprecated => "deprecated"
  | .archived => "archived"

structure Question where
  id : Uuid
  slug : Str
  archivedAt : Option Time
  currentPublishedVersionId : Option Uuid

structure QuestionVersion (F : Type) where
  id : Uuid
  id_scalar : IsScalar id
  questionId : Uuid
  state : ContentState
  structuredContent : Json F

/-- A row of `execution_outbox`. -/
structure OutboxMessage where
  aggregateId : Uuid
  eventType : Str
  dedupeKey : Str
  createdAt : Time
  traceId : Str

/-- A hint that a candidate saw, and the version it came from. -/
structure RevealedHint where
  sessionId : Uuid
  questionVersionId : Uuid

/-- The tables, and two records of what left them: the packages handed to
workers, by execution, and the hints shown to candidates. -/
structure Db (F : Type) where
  questions : List Question
  versions : List (QuestionVersion F)
  sessions : List (PracticeSession F)
  submissions : List (Submission F)
  executions : List (Execution F)
  outbox : List OutboxMessage
  packages : Uuid → List (Str × DispatchPackage F)
  hints : List RevealedHint

def Execution.id (e : Execution F) : Uuid := e.row.id

namespace Db

def question (slug : Str) (db : Db F) : Option Question :=
  Tables.find Question.slug slug db.questions

def questionOf (version : QuestionVersion F) (db : Db F) : Option Question :=
  Tables.find Question.id version.questionId db.questions

def version (id : Uuid) (db : Db F) : Option (QuestionVersion F) :=
  Tables.find QuestionVersion.id id db.versions

def session (id : Uuid) (db : Db F) : Option (PracticeSession F) :=
  Tables.find PracticeSession.id id db.sessions

def submission (id : Uuid) (db : Db F) : Option (Submission F) :=
  Tables.find Submission.id id db.submissions

def execution (id : Uuid) (db : Db F) : Option (Execution F) :=
  Tables.find Execution.id id db.executions

def updateSession (id : Uuid) (f : PracticeSession F → PracticeSession F) (db : Db F) : Db F :=
  { db with sessions := Tables.update PracticeSession.id id f db.sessions }

def updateExecution (id : Uuid) (f : Execution F → Execution F) (db : Db F) : Db F :=
  { db with executions := Tables.update Execution.id id f db.executions }

/-- `ON CONFLICT (dedupe_key) DO NOTHING`. -/
def send (m : OutboxMessage) (db : Db F) : Db F :=
  if m.dedupeKey ∈ db.outbox.map OutboxMessage.dedupeKey then db
  else { db with outbox := db.outbox ++ [m] }

end Db

/-- The authenticated candidate. -/
structure Principal where
  userId : Uuid
  organizationId : Option Uuid
  correlationId : Str

/-- What the API takes from outside: SHA-256 of a text, and the names `ast`
finds. -/
structure Environment where
  sha256 : Str → Str
  functionNames : FunctionNames

/-! ## The published catalogue -/

structure PublishedQuestion (F : Type) where
  questionId : Uuid
  slug : Str
  questionVersionId : Uuid
  structuredContent : Json F

/-- `published_question_payload`. -/
def publishedQuestionPayload (slug : Str) (db : Db F) : Except Failure (PublishedQuestion F) :=
  match db.question slug with
  | none => .error .sessionNotFound
  | some q =>
      match q.currentPublishedVersionId.bind fun id => db.version id with
      | none => .error .sessionNotFound
      | some v =>
          if q.archivedAt = none ∧ v.state = .published then
            .ok ⟨q.id, q.slug, v.id, v.structuredContent⟩
          else .error .sessionNotFound

/-- `ReviewRepository.publish`, once the two independent approvals are there
(`reviewed`). -/
def publish (versionId : Uuid) (reviewed : Bool) (db : Db F) : Except Failure (Db F) :=
  match db.version versionId with
  | none => .error (.http 404 "Question version not found")
  | some v =>
      if v.state ≠ .approved then .error (.http 409 "Only an approved version can be published")
      else if reviewed = false then
        .error (.http 409 "Technical and editorial approvals are required")
      else
        .ok { db with
          versions := Tables.update QuestionVersion.id versionId
            (fun v => { v with state := .published }) db.versions
          questions := Tables.update Question.id v.questionId
            (fun q => { q with currentPublishedVersionId := some versionId }) db.questions }

/-! ## `PracticeSessionRepository` -/

/-- `get`: the session of the candidate. -/
def getSession (principal : Principal) (sessionId : Uuid) (db : Db F) :
    Except Failure (PracticeSession F) :=
  match db.session sessionId with
  | none => .error .sessionNotFound
  | some s => if s.candidateId = principal.userId then .ok s else .error .sessionNotFound

/-- `_view`: the slug of the question whose version the session holds. -/
def sessionSlug (s : PracticeSession F) (db : Db F) : Except Failure Str :=
  match (db.version s.questionVersionId).bind fun v => db.questionOf v with
  | none => .error .sessionNotFound
  | some q => .ok q.slug

/-- What a read of a session's state sees. Under `READ COMMITTED` this may
be older than the row that the transaction then updates. -/
abbrev StateRead := PracticeSessionState → PracticeSessionState

/-- The session in its new state, with the columns `transition` sets. -/
def PracticeSession.moveTo (seen target : PracticeSessionState) (clock : Clock)
    (s : PracticeSession F) : PracticeSession F :=
  let stamp (t : PracticeSessionState) (old : Option Time) : Option Time :=
    if target = t then some clock.database else old
  PracticeSession.appendEvent ("SESSION_" ++ target.value)
    [("from", .str seen.value), ("to", .str target.value)]
    { s with
      state := target
      startedAt := if target = .inProgress then s.startedAt <|> some clock.database else s.startedAt
      pausedAt := stamp .paused s.pausedAt
      submittedAt := stamp .submitted s.submittedAt
      completedAt := stamp .completed s.completedAt }

/-- `transition`. -/
def transitionSession (principal : Principal) (sessionId : Uuid) (target : PracticeSessionState)
    (allowed : List PracticeSessionState) (read : StateRead) (clock : Clock) (db : Db F) :
    Except Failure (Db F) := do
  let current ← getSession principal sessionId db
  if read current.state ∉ allowed then
    .error (.practiceTransition ("Cannot transition a " ++ ((read current.state).value ++
      (" session to " ++ (target.value ++ ("." : Str)) : Str))))
  else .ok (db.updateSession sessionId (PracticeSession.moveTo (read current.state) target clock))

section

variable [Runtime F]

/-- The row of a session that `create` inserts. -/
def startedSession (principal : Principal) (slug : Str) (required : SubmissionRuntime) (id : Uuid)
    (question : PublishedQuestion F) (clock : Clock) : PracticeSession F :=
  PracticeSession.appendEvent "SESSION_STARTED"
    [("question_slug", .str slug), ("runtime", .str required.value)]
    { id := id, candidateId := principal.userId, questionVersionId := question.questionVersionId,
      runtime := required.value, state := .inProgress,
      draftCode := starterSource question.structuredContent required, hintCount := 0,
      runCount := 0, submissionCount := 0, startedAt := some clock.database, pausedAt := none,
      submittedAt := none, completedAt := none, events := [] }

/-- `create`, for a session with the identifier `id`. Of several open
sessions any may be the one it answers with. -/
def createSession (principal : Principal) (slug : Str) (runtime : SubmissionRuntime) (id : Uuid)
    (clock : Clock) (db : Db F) : Except Failure (Db F × Uuid) := do
  let question ← publishedQuestionPayload slug db
  let required ← questionRuntime question.structuredContent
  if runtime ≠ required then
    .error (.practiceTransition ("Requested runtime does not match the published question runtime ("
      ++ (required.value ++ (")." : Str))))
  else
    match db.sessions.find? fun s => decide (s.candidateId = principal.userId
        ∧ s.questionVersionId = question.questionVersionId ∧ s.runtime = required.value
        ∧ (s.state = .created ∨ s.state = .inProgress ∨ s.state = .paused)) with
    | some existing => .ok (db, existing.id)
    | none =>
        if (db.session id).isSome then .error (.integrity "practice_sessions_pkey")
        else
          .ok ({ db with sessions := db.sessions
            ++ [startedSession principal slug required id question clock] }, id)

/-- The hint that `next_hint` shows, before `int(reveal_level)`. -/
structure PracticeHint (F : Type) where
  sessionId : Uuid
  revealLevel : Json F
  text : Str
  hintCount : Nat

def PracticeSession.revealHint (level : Json F) (count : Nat) (s : PracticeSession F) :
    PracticeSession F :=
  PracticeSession.appendEvent "HINT_REVEALED" [("reveal_level", level)] { s with hintCount := count }

/-- `next_hint`. -/
def nextHint (principal : Principal) (sessionId : Uuid) (db : Db F) :
    Except Failure (Db F × PracticeHint F) := do
  let session ← getSession principal sessionId db
  let slug ← sessionSlug session db
  let question ← publishedQuestionPayload slug db
  match (questionHints question.structuredContent)[session.hintCount]? with
  | none => .error (.practiceTransition "No additional hints are available.")
  | some hint =>
      let newCount := session.hintCount + 1
      let level := (Json.lookup "reveal_level" hint).getD (.int newCount)
      let moved := db.updateSession sessionId (PracticeSession.revealHint level newCount)
      .ok ({ moved with hints := moved.hints ++ [⟨sessionId, question.questionVersionId⟩] },
        ⟨sessionId, level, ((Json.lookup "text" hint).getD (.str [])).pyStr, newCount⟩)

end

end Rigor
