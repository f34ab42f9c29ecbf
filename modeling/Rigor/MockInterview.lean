import Rigor.Mastery
import Rigor.MockInterviewDomain

/-!
# Mock interviews

`mock_interview_routes.py`: the rows of one candidate and the transactions
that create an interview, answer its phases, and pause, resume or cancel it.
`principal_transaction` locks the candidate's row of `users` before any of
their statements.
-/

namespace Rigor

open Py Transactions

variable {F : Type}

/-! ## Tables -/

inductive MockInterviewState where
  | created | ready | inProgress | paused | completed | cancelled
  deriving DecidableEq

/-- A row of `mock_interview_sessions`. -/
structure MockSession where
  id : Uuid
  organizationId : Option Uuid
  interviewType : Str
  targetRole : Str
  sourceType : Str
  sourceId : Str
  status : MockInterviewState
  currentPhase : Str
  startedAt : Option Time
  completedAt : Option Time
  createdAt : Time
  updatedAt : Time

inductive MessageRole where
  | interviewer | candidate
  deriving DecidableEq

/-- The JSON of a message's `evidence`: of a question or of an answer. -/
inductive MessageEvidence (F : Type) where
  | question (template label rubric : Str) (idempotencyKey : Option Str)
  | answer (idempotencyKey : Str) (evidence : PhaseEvidence F) (rubric : Str)

/-- `evidence->>'idempotency_key'`. -/
def MessageEvidence.idempotencyKey : MessageEvidence F → Option Str
  | question _ _ _ key => key
  | answer key _ _ => some key

/-- A row of `mock_interview_messages`. -/
structure MockMessage (F : Type) where
  sessionId : Uuid
  sequenceNumber : Int
  role : MessageRole
  phase : Str
  content : Str
  evidence : MessageEvidence F
  createdAt : Time

/-- A row of `mock_interview_reports`. -/
structure MockReport (F : Type) where
  sessionId : Uuid
  report : InterviewReport F

/-- The rows of one candidate. -/
structure MockDb (F : Type) where
  sessions : List MockSession
  messages : List (MockMessage F)
  reports : List (MockReport F)
  progress : MasteryRows F

namespace MockDb

def messagesOf (sessionId : Uuid) (db : MockDb F) : List (MockMessage F) :=
  db.messages.filter fun m => m.sessionId = sessionId

def reportsOf (sessionId : Uuid) (db : MockDb F) : List (MockReport F) :=
  db.reports.filter fun r => r.sessionId = sessionId

/-- `_session_row`. -/
def sessionRow (sessionId : Uuid) (db : MockDb F) : Except Failure MockSession :=
  match Tables.find MockSession.id sessionId db.sessions with
  | none => .error (.http 404 "Mock interview session not found")
  | some s => .ok s

def updateSession (sessionId : Uuid) (f : MockSession → MockSession) (db : MockDb F) : MockDb F :=
  { db with sessions := Tables.update MockSession.id sessionId f db.sessions }

/-- `_next_sequence`. -/
def nextSequence (sessionId : Uuid) (db : MockDb F) : Int :=
  ((db.messagesOf sessionId).map MockMessage.sequenceNumber).foldl max (-1) + 1

def setProgress (progress : MasteryRows F) (db : MockDb F) : MockDb F := { db with progress }

/-- The insert of a message, with `uq_mock_message_sequence`. -/
def insertMessage (m : MockMessage F) (db : MockDb F) :
    Except Failure ((MockDb F → MockDb F) × Unit) :=
  if db.messages.any fun r =>
      r.sessionId = m.sessionId ∧ r.sequenceNumber = m.sequenceNumber then
    .error (.integrity "uq_mock_message_sequence")
  else .ok (fun db => { db with messages := db.messages ++ [m] }, ())

/-- `ON CONFLICT (session_id) DO NOTHING`. -/
def insertReport (r : MockReport F) (db : MockDb F) : MockDb F :=
  if db.reportsOf r.sessionId = [] then { db with reports := db.reports ++ [r] } else db

/-- `INSERT INTO mock_interview_sessions`. -/
def insertSession (s : MockSession) (db : MockDb F) :
    Except Failure ((MockDb F → MockDb F) × Unit) :=
  if (Tables.find MockSession.id s.id db.sessions).isSome then
    .error (.integrity "mock_interview_sessions_pkey")
  else .ok (fun db => { db with sessions := db.sessions ++ [s] }, ())

/-- The message with which a session was created under the key. -/
def IsOpening (idempotencyKey : Str) (m : MockMessage F) : Prop :=
  m.role = .interviewer ∧ m.sequenceNumber = 0 ∧ m.evidence.idempotencyKey = some idempotencyKey

instance (idempotencyKey : Str) (m : MockMessage F) : Decidable (IsOpening idempotencyKey m) :=
  inferInstanceAs (Decidable (_ ∧ _))

/-- The session that was created under the key, the latest first. -/
def createdWith (idempotencyKey : Str) (db : MockDb F) : Option MockSession :=
  let found := db.sessions.filter fun s =>
    (db.messagesOf s.id).any fun m => decide (IsOpening idempotencyKey m)
  (found.mergeSort fun a b => decide (b.createdAt ≤ a.createdAt)).head?

/-- An answer of the session under the key. -/
def IsAnswer (idempotencyKey : Str) (m : MockMessage F) : Prop :=
  m.role = .candidate ∧ m.evidence.idempotencyKey = some idempotencyKey

instance (idempotencyKey : Str) (m : MockMessage F) : Decidable (IsAnswer idempotencyKey m) :=
  inferInstanceAs (Decidable (_ ∧ _))

def answeredWith (sessionId : Uuid) (idempotencyKey : Str) (db : MockDb F) : Bool :=
  (db.messagesOf sessionId).any fun m => decide (IsAnswer idempotencyKey m)

end MockDb

/-- `_messages`: in the order of their numbers. -/
def mockMessages (sessionId : Uuid) (db : MockDb F) : List (MockMessage F) :=
  (db.messagesOf sessionId).mergeSort fun a b => decide (a.sequenceNumber ≤ b.sequenceNumber)

/-- What a response shows: the session, its messages and its report. -/
structure MockDetail (F : Type) where
  session : MockSession
  messages : List (MockMessage F)
  report : Option (MockReport F)

/-- `_detail`. -/
def mockDetail (sessionId : Uuid) (db : MockDb F) : Except Failure (MockDetail F) := do
  let session ← db.sessionRow sessionId
  .ok ⟨session, mockMessages sessionId db, (db.reportsOf sessionId).head?⟩

/-! ## The transactions -/

/-- The rubric, the readiness arithmetic and the competencies by slug. -/
structure MockEnvironment (F : Type) where
  rubric : Rubric F
  readiness : MockReadiness F
  competencies : List (Str × Uuid)

/-- `_insert_message`. -/
def insertMessageTx (sessionId : Uuid) (role : MessageRole) (phase content : Str)
    (evidence : MessageEvidence F) (clock : Clock) : Tx (MockDb F) Failure Unit := do
  let sequenceNumber ← Tx.read fun db => .ok (db.nextSequence sessionId)
  Tx.execute (MockDb.insertMessage
    ⟨sessionId, sequenceNumber, role, phase, content, evidence, clock.database⟩)

/-- The question of a phase. -/
def askTx (template : MockInterviewTemplate) (phase : MockInterviewPhase) (sessionId : Uuid)
    (idempotencyKey : Option Str) (clock : Clock) : Tx (MockDb F) Failure Unit :=
  insertMessageTx sessionId .interviewer phase.slug phase.prompt
    (.question template.slug phase.label mockEvaluatorVersion idempotencyKey) clock

/-- What an answer's message holds, as the report reads it back. -/
def MockMessage.phaseEvidence (rubric : Rubric F) (m : MockMessage F) : PhaseEvidence F :=
  match m.evidence with
  | .answer _ evidence _ => { evidence with phase := m.phase }
  | .question _ label _ _ => ⟨m.phase, label, rubric.zero, rubric.zero, rubric.zero, [], [], 0⟩

/-- `_phase_evidence_from_messages`. -/
def phaseEvidenceFromMessages (rubric : Rubric F) (sessionId : Uuid) (db : MockDb F) :
    List (PhaseEvidence F) :=
  ((mockMessages sessionId db).filter fun m => m.role = .candidate).map
    (MockMessage.phaseEvidence rubric)

def MockSession.complete (clock : Clock) (s : MockSession) : MockSession :=
  { s with
    status := .completed
    currentPhase := completePhase
    completedAt := some clock.database
    updatedAt := clock.database }

/-- `_complete_session`. -/
def completeSessionTx (env : MockEnvironment F) (principal : Principal) (sessionId : Uuid)
    (focus : Str) (clock : Clock) : Tx (MockDb F) Failure Unit :=
  match templateFor focus with
  | none => .rollback (.http 409 "Interview template is unavailable")
  | some template => do
      let evidence ← Tx.read fun db => .ok (phaseEvidenceFromMessages env.rubric sessionId db)
      let report := buildReport env.rubric evidence
      Tx.write (MockDb.insertReport ⟨sessionId, report⟩)
      Tx.write (MockDb.updateSession sessionId (MockSession.complete clock))
      (writeAllMasteryTx env.readiness env.competencies principal sessionId report.overallScore
        report.rubricEvidence.length clock template.competencies).inside
          MockDb.progress MockDb.setProgress

def openedSession (principal : Principal) (targetRole : Str) (template : MockInterviewTemplate)
    (phase : MockInterviewPhase) (sessionId : Uuid) (clock : Clock) : MockSession where
  id := sessionId
  organizationId := principal.organizationId
  interviewType := "TECHNICAL_MOCK"
  targetRole := targetRole
  sourceType := "skillforge_template"
  sourceId := template.slug
  status := .inProgress
  currentPhase := phase.slug
  startedAt := some clock.database
  completedAt := none
  createdAt := clock.database
  updatedAt := clock.database

/-- `create_mock_interview`; `sessionId` is the id the database draws. -/
def createMockInterviewTx (principal : Principal) (focusText targetRoleText idempotencyKey : Str)
    (sessionId : Uuid) (clock : Clock) : Tx (MockDb F) Failure (MockDetail F) :=
  let focus := strip focusText
  let targetRole := strip targetRoleText
  if focus = [] ∨ targetRole = [] then
    .rollback (.http 422 "Focus and target role must contain non-whitespace text.")
  else
    match templateFor focus with
    | none => .rollback (.http 404 "Mock interview template not found")
    | some template => do
        match ← Tx.read fun db => .ok (db.createdWith idempotencyKey) with
        | some existing =>
            if existing.sourceId ≠ template.slug ∨ existing.targetRole ≠ targetRole then
              .rollback (.http 409
                "Idempotency-Key was already used for a different mock interview request.")
            else Tx.read (mockDetail existing.id)
        | none =>
            let phase := template.phases.head template.opens
            Tx.execute (MockDb.insertSession
              (openedSession principal targetRole template phase sessionId clock))
            askTx template phase sessionId (some idempotencyKey) clock
            Tx.read (mockDetail sessionId)

/-- The statements of `answer_mock_interview` behind the insert of the
answer: the next question, or the report. -/
def advanceTx (env : MockEnvironment F) (principal : Principal) (template : MockInterviewTemplate)
    (focus : Str) (phaseIndex : Nat) (sessionId : Uuid) (clock : Clock) :
    Tx (MockDb F) Failure Unit :=
  match template.phases[phaseIndex + 1]? with
  | some phase => do
      Tx.write (MockDb.updateSession sessionId fun s =>
        { s with currentPhase := phase.slug, updatedAt := clock.database })
      askTx template phase sessionId none clock
  | none => completeSessionTx env principal sessionId focus clock

/-- The statements behind the lookup of the key. -/
def acceptAnswerTx (env : MockEnvironment F) (principal : Principal) (row : MockSession)
    (content idempotencyKey : Str) (sessionId : Uuid) (clock : Clock) :
    Tx (MockDb F) Failure Unit :=
  if row.status ≠ .inProgress then
    .rollback (.http 409 "Only an in-progress mock interview accepts responses.")
  else
    match templateFor row.sourceId with
    | none => .rollback (.http 409 "Interview template is unavailable.")
    | some template =>
        match template.phases.findIdx? fun phase => phase.slug = row.currentPhase with
        | none => .rollback (.http 409 "Interview phase is not recognized.")
        | some phaseIndex =>
            match template.phases[phaseIndex]? with
            | none => .rollback (.http 409 "Interview phase is not recognized.")
            | some phase => do
                insertMessageTx sessionId .candidate phase.slug content
                  (.answer idempotencyKey (evaluateResponse env.rubric phase content)
                    mockEvaluatorVersion) clock
                advanceTx env principal template row.sourceId phaseIndex sessionId clock

/-- `answer_mock_interview`. -/
def answerMockInterviewTx (env : MockEnvironment F) (principal : Principal) (sessionId : Uuid)
    (text idempotencyKey : Str) (clock : Clock) : Tx (MockDb F) Failure (MockDetail F) :=
  let content := strip text
  if content = [] then
    .rollback (.http 422 "Interview response must contain non-whitespace text.")
  else do
    let row ← Tx.read (MockDb.sessionRow sessionId)
    let existing ← Tx.read fun db => .ok (db.answeredWith sessionId idempotencyKey)
    if existing then Tx.read (mockDetail sessionId)
    else
      acceptAnswerTx env principal row content idempotencyKey sessionId clock
      Tx.read (mockDetail sessionId)

inductive MockAction where
  | pause | resume | cancel

/-- The transitions of `update_mock_interview_state`. -/
def MockAction.target : MockAction → MockInterviewState → Option MockInterviewState
  | .pause, .inProgress => some .paused
  | .resume, .paused => some .inProgress
  | .cancel, .inProgress => some .cancelled
  | .cancel, .paused => some .cancelled
  | _, _ => none

/-- `update_mock_interview_state`. -/
def updateMockInterviewStateTx (sessionId : Uuid) (action : MockAction) (clock : Clock) :
    Tx (MockDb F) Failure (MockDetail F) := do
  let row ← Tx.read (MockDb.sessionRow sessionId)
  match action.target row.status with
  | none => .rollback (.http 409 "Requested mock interview state transition is invalid.")
  | some target =>
      Tx.write (MockDb.updateSession sessionId fun s =>
        { s with status := target, updatedAt := clock.database })
      Tx.read (mockDetail sessionId)

inductive MockRequest where
  | create (principal : Principal) (focus targetRole idempotencyKey : Str) (sessionId : Uuid)
      (clock : Clock)
  | answer (principal : Principal) (sessionId : Uuid) (content idempotencyKey : Str)
      (clock : Clock)
  | action (principal : Principal) (sessionId : Uuid) (action : MockAction) (clock : Clock)

def MockRequest.candidate : MockRequest → Uuid
  | create principal .. => principal.userId
  | answer principal .. => principal.userId
  | action principal .. => principal.userId

def mockProgram (env : MockEnvironment F) : MockRequest → Tx (MockDb F) Failure (MockDetail F)
  | .create principal focus targetRole idempotencyKey sessionId clock =>
      createMockInterviewTx principal focus targetRole idempotencyKey sessionId clock
  | .answer principal sessionId content idempotencyKey clock =>
      answerMockInterviewTx env principal sessionId content idempotencyKey clock
  | .action _ sessionId action clock => updateMockInterviewStateTx sessionId action clock

end Rigor
