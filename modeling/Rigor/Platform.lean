import Rigor.ExecutionFencing
import Rigor.QueueApi

/-!
# The platform

The candidate's API, the reviewers' publications and the workers on one
store, every transaction a step. The transactions on an execution are those
of `ExecutionFencing.lean`, lifted to the tables. `Db.Inv` keeps the tables
linked: unique identifiers and idempotency keys, an execution's session and
submission, and packages that say what the row says.
-/

namespace Rigor

open Py Runs

variable {F : Type}

/-! ## Steps -/

/-- The routes of a candidate that change a session's state. -/
inductive SessionRoute where
  | start | pause | resume | complete

def SessionRoute.target : SessionRoute → PracticeSessionState
  | .start => .inProgress
  | .pause => .paused
  | .resume => .inProgress
  | .complete => .completed

def SessionRoute.allowed : SessionRoute → List PracticeSessionState
  | .start => [.created]
  | .pause => [.inProgress]
  | .resume => [.paused]
  | .complete => [.submitted, .evaluating]

inductive DbAction (F : Type) where
  | createSession (principal : Principal) (slug : Str) (runtime : SubmissionRuntime) (id : Uuid)
  | publish (versionId : Uuid) (reviewed : Bool)
  | route (principal : Principal) (sessionId : Uuid) (route : SessionRoute) (read : StateRead)
  | queueRun (principal : Principal) (request : PracticeRunRequest) (idempotencyKey slug : Str)
      (ids : NewIds) (check : StateRead)
  | queueSubmit (principal : Principal) (request : PracticeRunRequest) (idempotencyKey slug : Str)
      (ids : NewIds) (check reread : StateRead)
  | nextHint (principal : Principal) (sessionId : Uuid)
  | execution (id : Uuid) (action : Action F)

namespace Db

/-- The execution with its submission, its session and its packages. -/
def system (id : Uuid) (db : Db F) : Option (System F) :=
  match db.execution id with
  | none => none
  | some e =>
      match db.session e.row.practiceSessionId with
      | none => none
      | some s => some ⟨⟨e, e.row.submissionId.bind fun id => db.submission id, s⟩, db.packages id⟩

/-- Write the rows of a system back. -/
def store (id : Uuid) (t : System F) (db : Db F) : Db F :=
  { db with
    executions := Tables.update Execution.id id (fun _ => t.attempt.execution) db.executions
    submissions :=
      match t.attempt.submission with
      | none => db.submissions
      | some s => Tables.update Submission.id s.id (fun _ => s) db.submissions
    sessions := Tables.update PracticeSession.id t.attempt.session.id
      (fun _ => t.attempt.session) db.sessions
    packages := Function.update db.packages id t.packages }

/-- A cancellation leaves a message for the workers. -/
def notify (id : Uuid) (action : Action F) (clock : Clock) (db : Db F) : Db F :=
  match action with
  | .cancel traceId => db.send ⟨id, "execution.cancel_requested",
      "execution.cancel_requested:" ++ id, clock.app, traceId⟩
  | _ => db

end Db

/-- One transaction that commits. -/
inductive DbStep [Runtime F] (env : Environment) (evaluator : Evaluator F) :
    Db F → DbAction F × Clock → Db F → Prop where
  | createSession {db db' : Db F} {principal : Principal} {slug : Str}
      {runtime : SubmissionRuntime} {id id' : Uuid} {clock : Clock}
      (h : createSession principal slug runtime id clock db = .ok (db', id')) :
      DbStep env evaluator db (.createSession principal slug runtime id, clock) db'
  | publish {db db' : Db F} {versionId : Uuid} {reviewed : Bool} {clock : Clock}
      (h : publish versionId reviewed db = .ok db') :
      DbStep env evaluator db (.publish versionId reviewed, clock) db'
  | route {db db' : Db F} {principal : Principal} {sessionId : Uuid} {route : SessionRoute}
      {read : StateRead} {clock : Clock}
      (h : transitionSession principal sessionId route.target route.allowed read clock db = .ok db') :
      DbStep env evaluator db (.route principal sessionId route read, clock) db'
  | queueRun {db db' : Db F} {principal : Principal} {request : PracticeRunRequest}
      {idempotencyKey slug : Str} {ids : NewIds} {check : StateRead} {clock : Clock}
      {accepted : ExecutionAccepted}
      (h : queueRun env principal request idempotencyKey slug ids check clock db
        = .ok (db', accepted)) :
      DbStep env evaluator db (.queueRun principal request idempotencyKey slug ids check, clock) db'
  | queueSubmit {db db' : Db F} {principal : Principal} {request : PracticeRunRequest}
      {idempotencyKey slug : Str} {ids : NewIds} {check reread : StateRead} {clock : Clock}
      {accepted : ExecutionAccepted}
      (h : queueSubmit env principal request idempotencyKey slug ids check reread clock db
        = .ok (db', accepted)) :
      DbStep env evaluator db
        (.queueSubmit principal request idempotencyKey slug ids check reread, clock) db'
  | nextHint {db db' : Db F} {principal : Principal} {sessionId : Uuid} {clock : Clock}
      {hint : PracticeHint F} (h : nextHint principal sessionId db = .ok (db', hint)) :
      DbStep env evaluator db (.nextHint principal sessionId, clock) db'
  | execution {db : Db F} {id : Uuid} {action : Action F} {clock : Clock} {s t : System F}
      (hs : db.system id = some s) (h : Step evaluator s (action, clock) t) :
      DbStep env evaluator db (.execution id action, clock) ((db.store id t).notify id action clock)

/-! ## What the queueing endpoints do -/

/-- The columns of a session that no transaction changes. -/
def PracticeSession.identity (s : PracticeSession F) : Uuid × Uuid × Uuid × Str :=
  (s.id, s.candidateId, s.questionVersionId, s.runtime)

namespace Db

@[simp] theorem send_executions (m : OutboxMessage) (db : Db F) :
    (db.send m).executions = db.executions := by
  rw [send]; split_ifs <;> rfl

@[simp] theorem send_submissions (m : OutboxMessage) (db : Db F) :
    (db.send m).submissions = db.submissions := by
  rw [send]; split_ifs <;> rfl

@[simp] theorem send_sessions (m : OutboxMessage) (db : Db F) :
    (db.send m).sessions = db.sessions := by
  rw [send]; split_ifs <;> rfl

@[simp] theorem send_packages (m : OutboxMessage) (db : Db F) :
    (db.send m).packages = db.packages := by
  rw [send]; split_ifs <;> rfl

@[simp] theorem send_hints (m : OutboxMessage) (db : Db F) : (db.send m).hints = db.hints := by
  rw [send]; split_ifs <;> rfl

@[simp] theorem send_questions (m : OutboxMessage) (db : Db F) :
    (db.send m).questions = db.questions := by
  rw [send]; split_ifs <;> rfl

@[simp] theorem send_versions (m : OutboxMessage) (db : Db F) :
    (db.send m).versions = db.versions := by
  rw [send]; split_ifs <;> rfl

end Db

/-- The tables a candidate's request cannot touch are as they were. -/
structure SameCatalogue (db db' : Db F) : Prop where
  questions : db'.questions = db.questions
  versions : db'.versions = db.versions
  packages : db'.packages = db.packages
  hints : db'.hints = db.hints

theorem createQueued_ok {env : Environment} {principal : Principal} {q : QueueRequest}
    {inputPayload : Dict F} {executionId : Uuid} {clock : Clock} {db db' : Db F}
    {accepted : ExecutionAccepted} (hnone : findByIdempotency principal q.idempotencyKey db = none)
    (h : createQueued env principal q inputPayload executionId clock db = .ok (db', accepted)) :
    db.execution executionId = none ∧ SameCatalogue db db'
      ∧ db'.executions
        = db.executions ++ [queuedExecution env principal q inputPayload executionId clock]
      ∧ db'.submissions = db.submissions ∧ db'.sessions = db.sessions
      ∧ accepted = ⟨executionId, q.submissionId, .queued, false⟩ := by
  rw [createQueued, hnone] at h
  dsimp only at h
  split_ifs at h with hid
  cases h
  exact ⟨by simpa using hid, ⟨by simp, by simp, by simp, by simp⟩, by simp, by simp, by simp, rfl⟩

section

variable [Runtime F]

theorem queueExecution_ok {env : Environment} {principal : Principal} {q : QueueRequest}
    {content : Json F} {executionId : Uuid} {clock : Clock} {db db' : Db F}
    {accepted : ExecutionAccepted} (hnone : findByIdempotency principal q.idempotencyKey db = none)
    (h : queueExecution env principal q content executionId clock db = .ok (db', accepted)) :
    ∃ inputPayload, db.execution executionId = none ∧ SameCatalogue db db'
      ∧ db'.executions
        = db.executions ++ [queuedExecution env principal q inputPayload executionId clock]
      ∧ db'.submissions = db.submissions ∧ db'.sessions = db.sessions
      ∧ accepted = ⟨executionId, q.submissionId, .queued, false⟩ := by
  rw [queueExecution] at h
  obtain ⟨-, -, h⟩ := bind_eq_ok h
  obtain ⟨inputPayload, -, h⟩ := bind_eq_ok h
  exact ⟨inputPayload, createQueued_ok hnone h⟩

/-- The tables with one more execution, queued for `q`. -/
structure Queued (env : Environment) (principal : Principal) (q : QueueRequest)
    (executionId : Uuid) (clock : Clock) (db db' : Db F) : Prop where
  catalogue : SameCatalogue db db'
  newKey : findByIdempotency principal q.idempotencyKey db = none
  newId : db.execution executionId = none
  executions : ∃ inputPayload : Dict F, db'.executions
    = db.executions ++ [queuedExecution env principal q inputPayload executionId clock]

/-- `f` changes no identity. -/
def KeepsIdentity (f : PracticeSession F → PracticeSession F) : Prop :=
  ∀ s, (f s).identity = s.identity

omit [Runtime F] in
theorem KeepsIdentity.id {f : PracticeSession F → PracticeSession F} (h : KeepsIdentity f)
    (s : PracticeSession F) : (f s).id = s.id := congrArg Prod.fst (h s)

omit [Runtime F] in
/-- A look-up that finds the request's execution again answers with it. -/
theorem existingExecution_ok {env : Environment} {principal : Principal} {q : QueueRequest}
    {db : Db F} {found : Option ExecutionAccepted}
    (h : existingExecution principal q.idempotencyKey (q.hash env) db = .ok found) :
    (found = none ∧ findByIdempotency principal q.idempotencyKey db = none)
      ∨ ∃ e, findByIdempotency principal q.idempotencyKey db = some e
        ∧ e.row.requestHash = q.hash env ∧ found = some (acceptedAgain e) := by
  rw [existingExecution] at h
  split at h
  · rename_i hnone
    cases h; exact .inl ⟨rfl, hnone⟩
  · rename_i e hsome
    split_ifs at h with hhash
    cases h
    exact .inr ⟨e, hsome, not_not.mp hhash, rfl⟩

theorem queueRun_ok {env : Environment} {principal : Principal} {request : PracticeRunRequest}
    {idempotencyKey slug : Str} {ids : NewIds} {check : StateRead} {clock : Clock}
    {db db' : Db F} {accepted : ExecutionAccepted}
    (h : queueRun env principal request idempotencyKey slug ids check clock db
      = .ok (db', accepted)) :
    ∃ question runtime,
      sessionQuestion principal request.sessionId slug check db = .ok (question, runtime)
      ∧ ((∃ e, findByIdempotency principal ("run:" ++ idempotencyKey) db = some e
          ∧ e.row.requestHash = (runRequest request question runtime idempotencyKey).hash env
          ∧ db' = db ∧ accepted = acceptedAgain e)
        ∨ Queued env principal (runRequest request question runtime idempotencyKey)
            ids.executionId clock db db'
          ∧ db'.submissions = db.submissions
          ∧ (∃ f, KeepsIdentity f ∧ (∀ s, (f s).state = s.state ∧ (f s).completedAt = s.completedAt)
            ∧ db'.sessions = Tables.update PracticeSession.id request.sessionId f db.sessions)
          ∧ accepted = ⟨ids.executionId, none, .queued, false⟩) := by
  rw [queueRun] at h
  obtain ⟨⟨question, runtime⟩, hquestion, h⟩ := bind_eq_ok (mapError_eq_ok h)
  refine ⟨question, runtime, hquestion, ?_⟩
  obtain ⟨found, hfound, h⟩ := bind_eq_ok h
  rcases existingExecution_ok hfound with ⟨rfl, hnone⟩ | ⟨e, hsome, hhash, rfl⟩
  · dsimp only at h
    rw [queueNewRun] at h
    obtain ⟨⟨queued, accepted⟩, hqueue, h⟩ := bind_eq_ok h
    obtain ⟨inputPayload, hnew, hcat, hexec, hsub, hsess, rfl⟩ := queueExecution_ok hnone hqueue
    cases h
    refine .inr ⟨⟨⟨hcat.questions, hcat.versions, hcat.packages, hcat.hints⟩, hnone, hnew,
      inputPayload, hexec⟩, hsub, ⟨PracticeSession.recordRun request.sourceCode ids.executionId
        runtime, fun s => rfl, fun s => ⟨rfl, rfl⟩, ?_⟩, rfl⟩
    rw [← hsess]; rfl
  · cases h
    exact .inl ⟨e, hsome, hhash, rfl, rfl⟩

omit [Runtime F] in
theorem insertSubmission_ok {row : Submission F} {db db' : Db F}
    (h : insertSubmission row db = .ok db') :
    db.submission row.id = none ∧ db' = { db with submissions := db.submissions ++ [row] } := by
  rw [insertSubmission] at h
  split_ifs at h with hid
  cases h
  exact ⟨by simpa using hid, rfl⟩

omit [Runtime F] in
theorem transitionSession_ok {principal : Principal} {sessionId : Uuid}
    {target : PracticeSessionState} {allowed : List PracticeSessionState} {read : StateRead}
    {clock : Clock} {db db' : Db F}
    (h : transitionSession principal sessionId target allowed read clock db = .ok db') :
    ∃ f, KeepsIdentity f ∧ (∀ s, (f s).state = target
        ∧ (target ≠ .completed → (f s).completedAt = s.completedAt))
      ∧ db' = db.updateSession sessionId f := by
  rw [transitionSession] at h
  obtain ⟨current, -, h⟩ := bind_eq_ok h
  split_ifs at h
  cases h
  exact ⟨PracticeSession.moveTo (read current.state) target clock, fun s => rfl,
    fun s => ⟨rfl, fun hne => if_neg hne⟩, rfl⟩

theorem queueSubmit_ok {env : Environment} {principal : Principal} {request : PracticeRunRequest}
    {idempotencyKey slug : Str} {ids : NewIds} {check reread : StateRead} {clock : Clock}
    {db db' : Db F} {accepted : ExecutionAccepted}
    (h : queueSubmit env principal request idempotencyKey slug ids check reread clock db
      = .ok (db', accepted)) :
    ∃ question runtime,
      sessionQuestion principal request.sessionId slug check db = .ok (question, runtime)
      ∧ ((∃ e, findByIdempotency principal ("submit:" ++ idempotencyKey) db = some e
          ∧ e.row.requestHash
            = (submitRequest request question runtime idempotencyKey ids.submissionId).hash env
          ∧ db' = db ∧ accepted = acceptedAgain e)
        ∨ Queued env principal
            (submitRequest request question runtime idempotencyKey ids.submissionId)
            ids.executionId clock db db'
          ∧ db.submission ids.submissionId = none
          ∧ db'.submissions = db.submissions ++ [queuedSubmissionRow principal
            (submitRequest request question runtime idempotencyKey ids.submissionId)
            idempotencyKey ids.submissionId]
          ∧ (∃ f, KeepsIdentity f
            ∧ (∀ s, (f s).state = .submitted ∧ (f s).completedAt = s.completedAt)
            ∧ db'.sessions = Tables.update PracticeSession.id request.sessionId f db.sessions)
          ∧ accepted = ⟨ids.executionId, some ids.submissionId, .queued, false⟩) := by
  rw [queueSubmit] at h
  obtain ⟨⟨question, runtime⟩, hquestion, h⟩ := bind_eq_ok (mapError_eq_ok h)
  refine ⟨question, runtime, hquestion, ?_⟩
  obtain ⟨found, hfound, h⟩ := bind_eq_ok h
  rcases existingExecution_ok hfound with ⟨rfl, hnone⟩ | ⟨e, hsome, hhash, rfl⟩
  · dsimp only at h
    rw [queueNewSubmit] at h
    obtain ⟨-, -, h⟩ := bind_eq_ok h
    obtain ⟨inserted, hinsert, hqueued⟩ := bind_eq_ok h
    obtain ⟨⟨queued, accepted⟩, hqueue, hrest⟩ := bind_eq_ok hqueued
    obtain ⟨hnewSub, hinserted⟩ := insertSubmission_ok hinsert
    have hnone' : findByIdempotency principal (submitRequest request question runtime
        idempotencyKey ids.submissionId).idempotencyKey inserted = none := by
      rw [hinserted]; exact hnone
    obtain ⟨inputPayload, hnew, hcat, hexec, hsub, hsess, rfl⟩ := queueExecution_ok hnone' hqueue
    subst hinserted
    obtain ⟨moved, hmove, hlast⟩ := bind_eq_ok hrest
    obtain ⟨f, hident, hstate, rfl⟩ := transitionSession_ok hmove
    cases hlast
    refine .inr ⟨⟨⟨hcat.questions, hcat.versions, hcat.packages, hcat.hints⟩, hnone, hnew,
      inputPayload, hexec⟩, hnewSub, hsub, ⟨fun s => PracticeSession.recordSubmission
        request.sourceCode ids.executionId ids.submissionId runtime (f s), hident,
      fun s => ⟨(hstate s).1, (hstate s).2 nofun⟩, ?_⟩, rfl⟩
    change Tables.update _ _ _ (Tables.update _ _ f queued.sessions) = _
    rw [Tables.update_update hident.id, hsess]
    rfl
  · cases h
    exact .inl ⟨e, hsome, hhash, rfl, rfl⟩

end

/-! ## What no step changes -/

namespace Db

/-- The columns of the executions that no transaction changes. -/
def columns (db : Db F) : List (RequestColumns F) := db.executions.map fun e => e.row.toRequestColumns

def submissionIds (db : Db F) : List Uuid := db.submissions.map Submission.id

/-- Unique identifiers and keys, and a submission of its own behind every
submitted execution. -/
structure Linked (db : Db F) : Prop where
  executionIds : (db.columns.map RequestColumns.id).Nodup
  keys : (db.columns.map fun c => (c.candidateId, c.idempotencyKey)).Nodup
  submissionIds : db.submissionIds.Nodup
  submission : ∀ c ∈ db.columns, ∀ id, c.submissionId = some id → id ∈ db.submissionIds
  owners : ∀ c ∈ db.columns, ∀ c' ∈ db.columns, ∀ id, c.submissionId = some id →
    c'.submissionId = some id → c = c'
  submits : ∀ c ∈ db.columns, c.executionType = .submit → ∃ id, c.submissionId = some id

theorem mem_columns {e : Execution F} {db : Db F} (h : e ∈ db.executions) :
    e.row.toRequestColumns ∈ db.columns := List.mem_map.mpr ⟨e, h, rfl⟩

theorem execution_ids (db : Db F) :
    db.columns.map RequestColumns.id = db.executions.map Execution.id := by
  rw [columns, List.map_map]; rfl

/-- Two rows of one execution are one row. -/
theorem Linked.execution_eq {db : Db F} (h : db.Linked) {e e' : Execution F}
    (he : e ∈ db.executions) (he' : e' ∈ db.executions) (hid : e.id = e'.id) : e = e' :=
  List.inj_on_of_nodup_map (db.execution_ids ▸ h.executionIds) he he' hid

theorem system_some {id : Uuid} {db : Db F} {s : System F} (h : db.system id = some s) :
    db.execution id = some s.attempt.execution
      ∧ db.session s.attempt.execution.row.practiceSessionId = some s.attempt.session
      ∧ s.attempt.submission
        = s.attempt.execution.row.submissionId.bind (fun id => db.submission id)
      ∧ s.packages = db.packages id := by
  rw [system] at h
  split at h
  · cases h
  · rename_i e he
    split at h
    · cases h
    · rename_i p hp
      cases h
      exact ⟨he, hp, rfl, rfl⟩

theorem notify_executions (id : Uuid) (action : Action F) (clock : Clock) (db : Db F) :
    (db.notify id action clock).executions = db.executions := by
  rw [notify.eq_def]; split <;> simp

theorem notify_submissions (id : Uuid) (action : Action F) (clock : Clock) (db : Db F) :
    (db.notify id action clock).submissions = db.submissions := by
  rw [notify.eq_def]; split <;> simp

theorem notify_sessions (id : Uuid) (action : Action F) (clock : Clock) (db : Db F) :
    (db.notify id action clock).sessions = db.sessions := by
  rw [notify.eq_def]; split <;> simp

theorem notify_packages (id : Uuid) (action : Action F) (clock : Clock) (db : Db F) :
    (db.notify id action clock).packages = db.packages := by
  rw [notify.eq_def]; split <;> simp

theorem notify_hints (id : Uuid) (action : Action F) (clock : Clock) (db : Db F) :
    (db.notify id action clock).hints = db.hints := by
  rw [notify.eq_def]; split <;> simp

theorem notify_versions (id : Uuid) (action : Action F) (clock : Clock) (db : Db F) :
    (db.notify id action clock).versions = db.versions := by
  rw [notify.eq_def]; split <;> simp

theorem Linked.store_columns {db : Db F} (hl : db.Linked) {id : Uuid} {s t : System F}
    (hs : db.system id = some s)
    (hcols : t.attempt.execution.row.toRequestColumns = s.attempt.execution.row.toRequestColumns) :
    (db.store id t).columns = db.columns := by
  have hexec := (system_some hs).1
  refine Tables.map_update fun e he hid => ?_
  rw [hl.execution_eq he (Tables.mem_of_find hexec) (hid.trans (Tables.key_of_find hexec).symm)]
  exact hcols

theorem store_packages_self (id : Uuid) (t : System F) (db : Db F) :
    (db.store id t).packages id = t.packages := Function.update_self ..

theorem store_packages_of_ne {id id' : Uuid} (h : id' ≠ id) (t : System F) (db : Db F) :
    (db.store id t).packages id' = db.packages id' := Function.update_of_ne h ..

/-- A row of the stored submissions is an old one with another identifier,
or the system's. -/
theorem mem_store_submissions {id : Uuid} {t : System F} {db : Db F} {r : Submission F}
    (h : r ∈ (db.store id t).submissions) :
    (r ∈ db.submissions ∧ ∀ sub, t.attempt.submission = some sub → r.id ≠ sub.id)
      ∨ t.attempt.submission = some r := by
  rw [store.eq_def] at h
  dsimp only at h
  cases hsub : t.attempt.submission with
  | none =>
      rw [hsub] at h
      exact .inl ⟨h, fun _ h => nomatch h⟩
  | some sub =>
      rw [hsub] at h
      rcases Tables.mem_update h with ⟨hr, hne⟩ | ⟨_, -, -, rfl⟩
      · exact .inl ⟨hr, fun _ hs => by cases hs; exact hne⟩
      · exact .inr rfl

theorem store_submissionIds (id : Uuid) (t : System F) (db : Db F) :
    (db.store id t).submissionIds = db.submissionIds := by
  rw [submissionIds, store]
  cases t.attempt.submission with
  | none => rfl
  | some sub => exact Tables.map_update fun r _ hr => hr.symm

end Db

/-- A step keeps the columns of all executions, or queues one with new
identifiers and a new key. -/
inductive ColumnsStep (db db' : Db F) : Prop where
  | same (columns : db'.columns = db.columns) (submissionIds : db'.submissionIds = db.submissionIds)
  | run (c : RequestColumns F) (columns : db'.columns = db.columns ++ [c])
      (newId : c.id ∉ db.columns.map RequestColumns.id)
      (newKey : (c.candidateId, c.idempotencyKey)
        ∉ db.columns.map fun c => (c.candidateId, c.idempotencyKey))
      (executionType : c.executionType = .run) (submissionId : c.submissionId = none)
      (submissionIds : db'.submissionIds = db.submissionIds)
  | submit (c : RequestColumns F) (submissionId : Uuid) (columns : db'.columns = db.columns ++ [c])
      (newId : c.id ∉ db.columns.map RequestColumns.id)
      (newKey : (c.candidateId, c.idempotencyKey)
        ∉ db.columns.map fun c => (c.candidateId, c.idempotencyKey))
      (submission : c.submissionId = some submissionId)
      (newSubmission : submissionId ∉ db.submissionIds)
      (submissionIds : db'.submissionIds = db.submissionIds ++ [submissionId])

theorem ColumnsStep.linked {db db' : Db F} (h : ColumnsStep db db') (hl : db.Linked) :
    db'.Linked := by
  cases h with
  | same hcols hsubs =>
      exact ⟨hcols ▸ hl.executionIds, hcols ▸ hl.keys, hsubs ▸ hl.submissionIds,
        hcols ▸ hsubs ▸ hl.submission, hcols ▸ hl.owners, hcols ▸ hl.submits⟩
  | run c hcols hid hkey htype hnone hsubs =>
      refine ⟨?_, ?_, hsubs ▸ hl.submissionIds, ?_, ?_, ?_⟩
      · rw [hcols, List.map_append]
        exact List.Nodup.append hl.executionIds (List.nodup_singleton _)
          (List.disjoint_singleton.mpr hid)
      · rw [hcols, List.map_append]
        exact List.Nodup.append hl.keys (List.nodup_singleton _) (List.disjoint_singleton.mpr hkey)
      · rw [hcols, hsubs]
        intro c' hc' id hid'
        rcases List.mem_append.mp hc' with hc' | hc'
        · exact hl.submission c' hc' id hid'
        · rw [List.mem_singleton.mp hc', hnone] at hid'; cases hid'
      · rw [hcols]
        intro c₁ h₁ c₂ h₂ id hid₁ hid₂
        rcases List.mem_append.mp h₁ with h₁ | h₁ <;> rcases List.mem_append.mp h₂ with h₂ | h₂
        · exact hl.owners c₁ h₁ c₂ h₂ id hid₁ hid₂
        · rw [List.mem_singleton.mp h₂, hnone] at hid₂; cases hid₂
        · rw [List.mem_singleton.mp h₁, hnone] at hid₁; cases hid₁
        · rw [List.mem_singleton.mp h₁, List.mem_singleton.mp h₂]
      · rw [hcols]
        intro c' hc' hsubmit
        rcases List.mem_append.mp hc' with hc' | hc'
        · exact hl.submits c' hc' hsubmit
        · rw [List.mem_singleton.mp hc', htype] at hsubmit; cases hsubmit
  | submit c sid hcols hid hkey hsub hnew hsubs =>
      refine ⟨?_, ?_, ?_, ?_, ?_, ?_⟩
      · rw [hcols, List.map_append]
        exact List.Nodup.append hl.executionIds (List.nodup_singleton _)
          (List.disjoint_singleton.mpr hid)
      · rw [hcols, List.map_append]
        exact List.Nodup.append hl.keys (List.nodup_singleton _) (List.disjoint_singleton.mpr hkey)
      · rw [hsubs]
        exact List.Nodup.append hl.submissionIds (List.nodup_singleton _)
          (List.disjoint_singleton.mpr hnew)
      · rw [hcols, hsubs]
        intro c' hc' id hid'
        rcases List.mem_append.mp hc' with hc' | hc'
        · exact List.mem_append_left _ (hl.submission c' hc' id hid')
        · rw [List.mem_singleton.mp hc', hsub] at hid'
          cases hid'
          exact List.mem_append_right _ (List.mem_singleton_self _)
      · -- an old execution has no claim to the new submission
        have hold : ∀ c' ∈ db.columns, ∀ id, c'.submissionId = some id → c.submissionId ≠ some id :=
          fun c' hc' id hid' hc => by
            rw [hsub] at hc
            cases hc
            exact hnew (hl.submission c' hc' _ hid')
        rw [hcols]
        intro c₁ h₁ c₂ h₂ id hid₁ hid₂
        rcases List.mem_append.mp h₁ with h₁ | h₁ <;> rcases List.mem_append.mp h₂ with h₂ | h₂
        · exact hl.owners c₁ h₁ c₂ h₂ id hid₁ hid₂
        · rw [List.mem_singleton.mp h₂] at hid₂
          exact absurd hid₂ (hold c₁ h₁ id hid₁)
        · rw [List.mem_singleton.mp h₁] at hid₁
          exact absurd hid₁ (hold c₂ h₂ id hid₂)
        · rw [List.mem_singleton.mp h₁, List.mem_singleton.mp h₂]
      · rw [hcols]
        intro c' hc' hsubmit
        rcases List.mem_append.mp hc' with hc' | hc'
        · exact hl.submits c' hc' hsubmit
        · rw [List.mem_singleton.mp hc']; exact ⟨sid, hsub⟩

/-! ## What each step does -/

section

variable [Runtime F]

theorem createSession_ok {principal : Principal} {slug : Str} {runtime : SubmissionRuntime}
    {id id' : Uuid} {clock : Clock} {db db' : Db F}
    (h : createSession principal slug runtime id clock db = .ok (db', id')) :
    db' = db ∨ ∃ question required, publishedQuestionPayload slug db = .ok question
      ∧ db.session id = none
      ∧ db' = { db with sessions := db.sessions
          ++ [startedSession principal slug required id question clock] } := by
  rw [createSession] at h
  obtain ⟨question, hquestion, h⟩ := bind_eq_ok h
  obtain ⟨required, -, h⟩ := bind_eq_ok h
  by_cases hruntime : runtime ≠ required
  · rw [if_pos hruntime] at h; cases h
  rw [if_neg hruntime] at h
  split at h
  · cases h; exact .inl rfl
  · split_ifs at h with hid
    cases h
    exact .inr ⟨question, required, hquestion, by simpa using hid, rfl⟩

omit [Runtime F] in
theorem publish_ok {versionId : Uuid} {reviewed : Bool} {db db' : Db F}
    (h : publish versionId reviewed db = .ok db') :
    db'.sessions = db.sessions ∧ db'.submissions = db.submissions
      ∧ db'.executions = db.executions ∧ db'.packages = db.packages ∧ db'.hints = db.hints := by
  rw [publish] at h
  split at h
  · cases h
  · split_ifs at h
    cases h
    exact ⟨rfl, rfl, rfl, rfl, rfl⟩

theorem nextHint_ok {principal : Principal} {sessionId : Uuid} {db db' : Db F}
    {hint : PracticeHint F} (h : nextHint principal sessionId db = .ok (db', hint)) :
    ∃ session slug question f, getSession principal sessionId db = .ok session
      ∧ sessionSlug session db = .ok slug ∧ publishedQuestionPayload slug db = .ok question
      ∧ KeepsIdentity f ∧ (∀ s, (f s).state = s.state ∧ (f s).draftCode = s.draftCode
        ∧ (f s).completedAt = s.completedAt)
      ∧ db' = { db.updateSession sessionId f with
          hints := db.hints ++ [⟨sessionId, question.questionVersionId⟩] } := by
  rw [nextHint] at h
  obtain ⟨session, hsession, h⟩ := bind_eq_ok h
  obtain ⟨slug, hslug, h⟩ := bind_eq_ok h
  obtain ⟨question, hquestion, h⟩ := bind_eq_ok h
  split at h
  · cases h
  · rename_i found _
    cases h
    exact ⟨session, slug, question, PracticeSession.revealHint
      ((Json.lookup "reveal_level" found).getD (.int (session.hintCount + 1)))
      (session.hintCount + 1), hsession, hslug, hquestion, fun s => rfl,
      fun s => ⟨rfl, rfl, rfl⟩, rfl⟩

omit [Runtime F] in
theorem not_mem_submissionIds {id : Uuid} {db : Db F} (h : db.submission id = none) :
    id ∉ db.submissionIds := by
  intro hmem
  obtain ⟨sub, hsub, rfl⟩ := List.mem_map.mp hmem
  obtain ⟨r, hr⟩ := Tables.find_isSome_of_mem Submission.id hsub
  exact nomatch h.symm.trans hr

omit [Runtime F] in
theorem not_mem_executionIds {id : Uuid} {db : Db F} (h : db.execution id = none) :
    id ∉ db.columns.map RequestColumns.id := by
  rw [db.execution_ids]
  intro hmem
  obtain ⟨e, he, rfl⟩ := List.mem_map.mp hmem
  obtain ⟨r, hr⟩ := Tables.find_isSome_of_mem Execution.id he
  exact nomatch h.symm.trans hr

omit [Runtime F] in
theorem not_mem_keys {principal : Principal} {key : Str} {db : Db F}
    (h : findByIdempotency principal key db = none) :
    (principal.userId, key) ∉ db.columns.map fun c => (c.candidateId, c.idempotencyKey) := by
  intro hmem
  obtain ⟨c, hc, heq⟩ := List.mem_map.mp hmem
  obtain ⟨e, he, rfl⟩ := List.mem_map.mp hc
  have hno := List.find?_eq_none.mp h e he
  simp only [decide_eq_true_eq] at hno
  exact hno ⟨congrArg Prod.fst heq, congrArg Prod.snd heq⟩

omit [Runtime F] in
theorem Queued.columns {env : Environment} {principal : Principal} {q : QueueRequest}
    {executionId : Uuid} {clock : Clock} {db db' : Db F}
    (h : Queued env principal q executionId clock db db') :
    ∃ inputPayload : Dict F, db'.columns = db.columns
      ++ [(queuedExecution env principal q inputPayload executionId clock).row.toRequestColumns] := by
  obtain ⟨inputPayload, hexec⟩ := h.executions
  exact ⟨inputPayload, by rw [Db.columns, hexec, List.map_append]; rfl⟩

/-- Every step on linked tables is a `ColumnsStep`. -/
theorem DbStep.columns {env : Environment} {evaluator : Evaluator F} {db db' : Db F}
    {a : DbAction F × Clock} (h : DbStep env evaluator db a db') (hl : db.Linked) :
    ColumnsStep db db' := by
  cases h with
  | createSession h =>
      rcases createSession_ok h with rfl | ⟨_, _, -, -, rfl⟩ <;> exact .same rfl rfl
  | publish h =>
      obtain ⟨-, hsub, hexec, -, -⟩ := publish_ok h
      exact .same (by rw [Db.columns, hexec]; rfl) (by rw [Db.submissionIds, hsub]; rfl)
  | route h =>
      obtain ⟨f, -, -, rfl⟩ := transitionSession_ok h
      exact .same rfl rfl
  | nextHint h =>
      obtain ⟨_, _, _, f, -, -, -, -, -, rfl⟩ := nextHint_ok h
      exact .same rfl rfl
  | queueRun h =>
      obtain ⟨question, runtime, -, ⟨_, -, -, rfl, -⟩ | ⟨hq, hsub, -, -⟩⟩ := queueRun_ok h
      · exact .same rfl rfl
      · obtain ⟨inputPayload, hcols⟩ := hq.columns
        exact .run _ hcols (not_mem_executionIds hq.newId) (not_mem_keys hq.newKey) rfl rfl
          (by rw [Db.submissionIds, hsub]; rfl)
  | queueSubmit h =>
      obtain ⟨question, runtime, -, ⟨_, -, -, rfl, -⟩ | ⟨hq, hnew, hsub, -, -⟩⟩ := queueSubmit_ok h
      · exact .same rfl rfl
      · obtain ⟨inputPayload, hcols⟩ := hq.columns
        exact .submit _ _ hcols (not_mem_executionIds hq.newId) (not_mem_keys hq.newKey) rfl
          (not_mem_submissionIds hnew)
          (by rw [Db.submissionIds, hsub, List.map_append]; rfl)
  | execution hs h =>
      refine .same ?_ ?_
      · rw [Db.columns, Db.notify_executions]
        exact hl.store_columns hs h.columns
      · rw [Db.submissionIds, Db.notify_submissions]
        exact Db.store_submissionIds ..

end

end Rigor
