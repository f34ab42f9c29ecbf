import Rigor.Platform
import Rigor.Transactions

/-!
# The transactions of the candidate's API

`queue_run`, `queue_submit` and the session routes, statement by statement.
`principal_transaction` opens each of them with `ensure_user`, whose
`INSERT … ON CONFLICT (identity_subject) DO UPDATE` locks the candidate's row
of `users` until the transaction ends: one transaction of a candidate waits
there for the other. The workers' transactions take no such lock.

Run alone, each transaction is the function of `QueueApi.lean` or
`PracticeStore.lean`.
-/

namespace Rigor

open Py Transactions

variable {F : Type}

/-! ## `create_queued` -/

section Queueing

variable (env : Environment) (principal : Principal) (q : QueueRequest)

/-- The answer with a row that has the key. -/
def sameRequest (e : Execution F) : Except Failure ExecutionAccepted :=
  if e.row.requestHash ≠ q.hash env then .error (.conflict conflictMessage)
  else .ok (acceptedAgain e)

/-- `INSERT INTO execution_requests … ON CONFLICT (candidate_id, idempotency_key) DO NOTHING`,
with the payload and the event: whether a row was inserted. -/
def insertQueued (inputPayload : Dict F) (executionId : Uuid) (clock : Clock) (db : Db F) :
    Except Failure ((Db F → Db F) × Bool) :=
  if (findByIdempotency principal q.idempotencyKey db).isSome then .ok (id, false)
  else if (db.execution executionId).isSome then .error (.integrity "execution_requests_pkey")
  else .ok (fun db => { db with
      executions := db.executions
        ++ [queuedExecution env principal q inputPayload executionId clock] }, true)

def createQueuedTx (inputPayload : Dict F) (executionId : Uuid) (clock : Clock) :
    Tx (Db F) Failure ExecutionAccepted := do
  match ← Tx.read fun db => .ok (findByIdempotency principal q.idempotencyKey db) with
  | some e => Tx.ofExcept (sameRequest env q e)
  | none =>
      let inserted ← Tx.execute
        (insertQueued env principal q inputPayload executionId clock)
      if inserted then
        Tx.write fun db => db.send ⟨executionId, "execution.requested",
          "execution.requested:" ++ executionId, clock.app, principal.correlationId⟩
        pure ⟨executionId, q.submissionId, .queued, false⟩
      else
        match ← Tx.read fun db => .ok (findByIdempotency principal q.idempotencyKey db) with
        | some e => Tx.ofExcept (sameRequest env q e)
        | none => .rollback (.runtime "Execution idempotency conflict could not be resolved.")

variable [Runtime F]

/-- `_queue_execution`. -/
def queueExecutionTx (structuredContent : Json F) (executionId : Uuid) (clock : Clock) :
    Tx (Db F) Failure ExecutionAccepted := do
  Tx.read (enforceBackpressure principal q.executionType)
  let inputPayload ← Tx.ofExcept (runtimeExecutionConfig env.functionNames structuredContent
    q.runtime (decide (q.executionType = .run)))
  createQueuedTx env principal q inputPayload executionId clock

end Queueing

/-! ## Sessions -/

def transitionTx (principal : Principal) (sessionId : Uuid) (target : PracticeSessionState)
    (allowed : List PracticeSessionState) (clock : Clock) :
    Tx (Db F) Failure (PracticeSession F) := do
  let current ← Tx.read (getSession principal sessionId)
  if current.state ∉ allowed then
    .rollback (.practiceTransition ("Cannot transition a " ++ (current.state.value ++
      (" session to " ++ (target.value ++ ("." : Str)) : Str))))
  else
    Tx.write fun db => db.updateSession sessionId
      (PracticeSession.moveTo current.state target clock)
    Tx.read (getSession principal sessionId)

def editableStates : List PracticeSessionState := [.created, .inProgress, .paused]

def PracticeSession.patch (draft : Option Str) (s : PracticeSession F) : PracticeSession F :=
  { s with draftCode := draft.getD s.draftCode }

/-- `patch`, of the draft. -/
def patchTx (principal : Principal) (sessionId : Uuid) (draft : Option Str) :
    Tx (Db F) Failure (PracticeSession F) := do
  let current ← Tx.read (getSession principal sessionId)
  if current.state ∉ editableStates then
    .rollback (.practiceTransition "Completed practice sessions are immutable.")
  else
    Tx.write fun db => db.updateSession sessionId (PracticeSession.patch draft)
    Tx.read (getSession principal sessionId)

def insertSubmissionTx (row : Submission F) : Tx (Db F) Failure Unit :=
  Tx.execute fun db => (insertSubmission row db).map fun _ =>
    (fun db => { db with submissions := db.submissions ++ [row] }, ())

/-! ## Requests -/

/-- A call of `queue_run` or `queue_submit`. -/
structure QueueCall where
  principal : Principal
  request : PracticeRunRequest
  idempotencyKey : Str
  slug : Str
  ids : NewIds
  clock : Clock

inductive CandidateRequest where
  | queueRun (c : QueueCall)
  | queueSubmit (c : QueueCall)
  | route (principal : Principal) (sessionId : Uuid) (route : SessionRoute) (clock : Clock)
  | patch (principal : Principal) (sessionId : Uuid) (draft : Option Str)

def CandidateRequest.principal : CandidateRequest → Principal
  | .queueRun c => c.principal
  | .queueSubmit c => c.principal
  | .route principal .. => principal
  | .patch principal .. => principal

/-- The row of `users` that the request's transaction locks. -/
def CandidateRequest.user (r : CandidateRequest) : Uuid := r.principal.userId

inductive Answer (F : Type) where
  | accepted (a : ExecutionAccepted)
  | session (s : PracticeSession F)

section

variable [Runtime F]

/-- `queue_run`. The look-ups of `_session_question` are one statement. -/
def queueRunTx (env : Environment) (c : QueueCall) : Tx (Db F) Failure ExecutionAccepted :=
  Tx.mapError httpFailure do
    let (question, runtime) ←
      Tx.read (sessionQuestion c.principal c.request.sessionId c.slug id)
    let q := runRequest c.request question runtime c.idempotencyKey
    match ← Tx.read (existingExecution c.principal q.idempotencyKey (q.hash env)) with
    | some accepted => pure accepted
    | none =>
        let accepted ← queueExecutionTx env c.principal q question.structuredContent
          c.ids.executionId c.clock
        Tx.write fun db => db.updateSession c.request.sessionId
          (PracticeSession.recordRun c.request.sourceCode accepted.executionId q.runtime)
        pure accepted

/-- `queue_submit`. -/
def queueSubmitTx (env : Environment) (c : QueueCall) : Tx (Db F) Failure ExecutionAccepted :=
  Tx.mapError httpFailure do
    let (question, runtime) ←
      Tx.read (sessionQuestion c.principal c.request.sessionId c.slug id)
    let q := submitRequest c.request question runtime c.idempotencyKey c.ids.submissionId
    match ← Tx.read (existingExecution c.principal q.idempotencyKey (q.hash env)) with
    | some accepted => pure accepted
    | none =>
        Tx.read (enforceBackpressure c.principal .submit)
        insertSubmissionTx
          (queuedSubmissionRow c.principal q c.idempotencyKey c.ids.submissionId)
        let accepted ← queueExecutionTx env c.principal q question.structuredContent
          c.ids.executionId c.clock
        let _ ← transitionTx c.principal c.request.sessionId .submitted editableStates c.clock
        Tx.write fun db => db.updateSession c.request.sessionId
          (PracticeSession.recordSubmission c.request.sourceCode accepted.executionId
            c.ids.submissionId q.runtime)
        pure accepted

def CandidateRequest.program (env : Environment) : CandidateRequest → Tx (Db F) Failure (Answer F)
  | .queueRun c => do pure (.accepted (← queueRunTx env c))
  | .queueSubmit c => do pure (.accepted (← queueSubmitTx env c))
  | .route principal sessionId r clock => do
      pure (.session (← transitionTx principal sessionId r.target r.allowed clock))
  | .patch principal sessionId draft => do pure (.session (← patchTx principal sessionId draft))

end

/-! ## Run alone -/

section Alone

variable {env : Environment} {principal : Principal} {q : QueueRequest}

theorem createQueuedTx_alone (inputPayload : Dict F) (executionId : Uuid) (clock : Clock)
    (db : Db F) :
    (createQueuedTx env principal q inputPayload executionId clock).runAlone db
      = createQueued env principal q inputPayload executionId clock db := by
  unfold createQueuedTx createQueued
  rw [Tx.runAlone_bind, Tx.runAlone_read]
  cases hfind : findByIdempotency principal q.idempotencyKey db with
  | some e =>
      show (Tx.ofExcept (sameRequest env q e)).runAlone db = _
      rw [Tx.runAlone_ofExcept, sameRequest]
      dsimp only
      by_cases hhash : e.row.requestHash ≠ q.hash env
      · rw [if_pos hhash, if_pos hhash]
        rfl
      · rw [if_neg hhash, if_neg hhash]
        rfl
  | none =>
      show (Tx.execute _ >>= _).runAlone db = _
      rw [Tx.runAlone_bind, Tx.runAlone_execute, insertQueued, hfind, if_neg nofun]
      split_ifs <;> rfl

theorem getSession_eq_ok {principal : Principal} {sessionId : Uuid} {db : Db F}
    {s : PracticeSession F} :
    getSession principal sessionId db = .ok s
      ↔ db.session sessionId = some s ∧ s.candidateId = principal.userId := by
  unfold getSession
  cases db.session sessionId with
  | none => exact iff_of_false nofun nofun
  | some r =>
      dsimp only
      split_ifs with hcandidate
      · constructor
        · intro h
          cases h
          exact ⟨rfl, hcandidate⟩
        · rintro ⟨h, -⟩
          cases h
          rfl
      · refine iff_of_false nofun ?_
        rintro ⟨h, hs⟩
        cases h
        exact hcandidate hs

/-- A session that was found is found again behind its update. -/
theorem getSession_update {principal : Principal} {sessionId : Uuid} {db : Db F}
    {s : PracticeSession F} {f : PracticeSession F → PracticeSession F} (hf : KeepsIdentity f)
    (h : getSession principal sessionId db = .ok s) :
    getSession principal sessionId (db.updateSession sessionId f) = .ok (f s) := by
  obtain ⟨hfind, hcandidate⟩ := getSession_eq_ok.mp h
  refine getSession_eq_ok.mpr ⟨?_, ?_⟩
  · show Tables.find _ _ (Tables.update _ _ _ _) = _
    rw [Tables.find_update hf.id, show Tables.find PracticeSession.id sessionId db.sessions = some s
      from hfind, Option.map_some, if_pos (Tables.key_of_find hfind)]
  · rw [← hcandidate]
    exact congrArg (fun i => i.2.1) (hf s)

theorem transitionTx_alone (principal : Principal) (sessionId : Uuid)
    (target : PracticeSessionState) (allowed : List PracticeSessionState) (clock : Clock)
    (db : Db F) :
    ((transitionTx principal sessionId target allowed clock).runAlone db).map Prod.fst
      = transitionSession principal sessionId target allowed id clock db := by
  unfold transitionTx transitionSession
  rw [Tx.runAlone_bind, Tx.runAlone_read]
  cases hget : getSession principal sessionId db with
  | error e => rfl
  | ok current =>
      show ((if _ then _ else _ : Tx (Db F) Failure (PracticeSession F)).runAlone db).map _
        = if _ then _ else _
      by_cases hallowed : current.state ∉ allowed
      · rw [if_pos hallowed, if_pos (show id current.state ∉ allowed from hallowed)]
        rfl
      · rw [if_neg hallowed, if_neg (show ¬id current.state ∉ allowed from hallowed),
          Tx.runAlone_bind, Tx.runAlone_write]
        have hreread := getSession_update (f := PracticeSession.moveTo current.state target clock)
          (fun s => rfl) hget
        show Except.map _ ((Tx.read (getSession principal sessionId)).runAlone
          (db.updateSession sessionId (PracticeSession.moveTo current.state target clock))) = _
        rw [Tx.runAlone_read, hreread]
        rfl

theorem insertSubmissionTx_alone (row : Submission F) (db : Db F) :
    (insertSubmissionTx row).runAlone db = (insertSubmission row db).map fun db => (db, ()) := by
  unfold insertSubmissionTx
  rw [Tx.runAlone_execute]
  cases hinsert : insertSubmission row db with
  | error e => rfl
  | ok inserted =>
      rw [(insertSubmission_ok hinsert).2]
      rfl

section

variable [Runtime F]

theorem queueExecutionTx_alone (structuredContent : Json F) (executionId : Uuid) (clock : Clock)
    (db : Db F) :
    (queueExecutionTx env principal q structuredContent executionId clock).runAlone db
      = queueExecution env principal q structuredContent executionId clock db := by
  unfold queueExecutionTx queueExecution
  rw [Tx.runAlone_bind, Tx.runAlone_read]
  cases enforceBackpressure principal q.executionType db with
  | error e => rfl
  | ok u =>
      show (Tx.ofExcept _ >>= _).runAlone db = _
      rw [Tx.runAlone_bind, Tx.runAlone_ofExcept]
      cases runtimeExecutionConfig env.functionNames structuredContent q.runtime
          (decide (q.executionType = .run)) with
      | error e => rfl
      | ok inputPayload => exact createQueuedTx_alone inputPayload executionId clock db

theorem queueRunTx_alone (env : Environment) (c : QueueCall) (db : Db F) :
    (queueRunTx env c).runAlone db
      = queueRun env c.principal c.request c.idempotencyKey c.slug c.ids id c.clock db := by
  unfold queueRunTx queueRun
  rw [Tx.runAlone_mapError]
  congr 1
  rw [Tx.runAlone_bind, Tx.runAlone_read]
  cases sessionQuestion c.principal c.request.sessionId c.slug id db with
  | error e => rfl
  | ok found =>
      show (Tx.read _ >>= _).runAlone db = _
      obtain ⟨question, runtime⟩ := found
      rw [Tx.runAlone_bind, Tx.runAlone_read, ok_bind]
      dsimp only
      cases existingExecution c.principal
          (runRequest c.request question runtime c.idempotencyKey).idempotencyKey
          ((runRequest c.request question runtime c.idempotencyKey).hash env) db with
      | error e => rfl
      | ok existing =>
          cases existing with
          | some accepted => rfl
          | none =>
              show (queueExecutionTx _ _ _ _ _ _ >>= _).runAlone db = _
              rw [Tx.runAlone_bind, queueExecutionTx_alone, ok_bind]
              dsimp only
              unfold queueNewRun
              cases queueExecution env c.principal
                  (runRequest c.request question runtime c.idempotencyKey)
                  question.structuredContent c.ids.executionId c.clock db with
              | error e => rfl
              | ok queued => rfl

theorem queueSubmitTx_alone (env : Environment) (c : QueueCall) (db : Db F) :
    (queueSubmitTx env c).runAlone db
      = queueSubmit env c.principal c.request c.idempotencyKey c.slug c.ids id id c.clock db := by
  unfold queueSubmitTx queueSubmit
  rw [Tx.runAlone_mapError]
  congr 1
  rw [Tx.runAlone_bind, Tx.runAlone_read]
  cases sessionQuestion c.principal c.request.sessionId c.slug id db with
  | error e => rfl
  | ok found =>
      show (Tx.read _ >>= _).runAlone db = _
      obtain ⟨question, runtime⟩ := found
      rw [Tx.runAlone_bind, Tx.runAlone_read, ok_bind]
      dsimp only
      generalize hq : submitRequest c.request question runtime c.idempotencyKey
        c.ids.submissionId = q
      cases existingExecution c.principal q.idempotencyKey (q.hash env) db with
      | error e => rfl
      | ok existing =>
          cases existing with
          | some accepted => rfl
          | none =>
              show (Tx.read _ >>= _).runAlone db = _
              rw [Tx.runAlone_bind, Tx.runAlone_read, ok_bind]
              dsimp only
              unfold queueNewSubmit
              cases enforceBackpressure c.principal .submit db with
              | error e => rfl
              | ok u =>
                  show (insertSubmissionTx _ >>= _).runAlone db = insertSubmission _ db >>= _
                  rw [Tx.runAlone_bind, insertSubmissionTx_alone]
                  cases insertSubmission (queuedSubmissionRow c.principal q c.idempotencyKey
                      c.ids.submissionId) db with
                  | error e => rfl
                  | ok inserted =>
                      show (queueExecutionTx _ _ _ _ _ _ >>= _).runAlone inserted
                        = queueExecution _ _ _ _ _ _ inserted >>= _
                      rw [Tx.runAlone_bind, queueExecutionTx_alone]
                      cases queueExecution env c.principal q question.structuredContent
                          c.ids.executionId c.clock inserted with
                      | error e => rfl
                      | ok queued =>
                          show (transitionTx _ _ _ _ _ >>= _).runAlone queued.1
                            = transitionSession _ _ _ editableStates id _ queued.1 >>= _
                          rw [Tx.runAlone_bind, ← transitionTx_alone]
                          cases (transitionTx c.principal c.request.sessionId .submitted
                              editableStates c.clock).runAlone queued.1 with
                          | error e => rfl
                          | ok moved => rfl

end

end Alone

end Rigor
