import Rigor.Backpressure
import Rigor.VersionPinning

/-!
# The states of a practice session

A candidate's requests read the state of a session and overwrite the row by
its identifier; the lock of `ensure_user` keeps the candidate's other
requests out, but not the worker that completes the session. So a session
that is over is not opened again, and its draft stays; only `complete` may
come too late, and then overwrites a row that is `COMPLETED` already
(`session_states`), which the worker's own `UPDATE` would leave alone.
-/

namespace Rigor

open Py Runs Transactions

variable {F : Type}

/-! ## What others do to a session -/

/-- The worker completes a session that waits for it, and nothing else. -/
def WorkerMove (a b : PracticeSessionState) : Prop :=
  b = a ∨ (a = .submitted ∨ a = .evaluating) ∧ b = .completed

theorem WorkerMove.trans {a b c : PracticeSessionState} (h : WorkerMove a b)
    (h' : WorkerMove b c) : WorkerMove a c := by
  rcases h with rfl | ⟨ha, rfl⟩
  · exact h'
  · rcases h' with rfl | ⟨hb, -⟩
    · exact .inr ⟨ha, rfl⟩
    · exact absurd hb (by decide)

theorem mem_editableStates {state : PracticeSessionState} :
    state ∈ editableStates ↔ state = .created ∨ state = .inProgress ∨ state = .paused := by
  unfold editableStates
  simp only [List.mem_cons, List.not_mem_nil, or_false]

/-- A session is not worked on any more, and never will be. -/
theorem WorkerMove.closed {a b : PracticeSessionState} (h : WorkerMove a b)
    (ha : a ∉ editableStates) : b ∉ editableStates := by
  rcases h with rfl | ⟨-, rfl⟩
  · exact ha
  · decide

/-- What is worked on does not wait for the worker. -/
theorem WorkerMove.eq_of_mem {a b : PracticeSessionState} (h : WorkerMove a b)
    (ha : a ∈ editableStates) : b = a := by
  rcases h with rfl | ⟨rfl | rfl, -⟩
  · rfl
  · exact absurd ha (by decide)
  · exact absurd ha (by decide)

/-- What the transaction of a candidate relies on: its sessions stay where
they are, but for the worker. -/
def SessionsKept (candidate : Uuid) (db db' : Db F) : Prop :=
  ∀ id s, db.session id = some s → s.candidateId = candidate →
    ∃ s', db'.session id = some s' ∧ s'.candidateId = candidate ∧ WorkerMove s.state s'.state

theorem SessionsKept.refl (candidate : Uuid) (db : Db F) : SessionsKept candidate db db :=
  fun _ s h hcandidate => ⟨s, h, hcandidate, .inl rfl⟩

theorem SessionsKept.trans {candidate : Uuid} {db db' db'' : Db F}
    (h : SessionsKept candidate db db') (h' : SessionsKept candidate db' db'') :
    SessionsKept candidate db db'' := by
  intro id s hs hcandidate
  obtain ⟨s', hs', hcandidate', hmove⟩ := h id s hs hcandidate
  obtain ⟨s'', hs'', hcandidate'', hmove'⟩ := h' id s' hs' hcandidate'
  exact ⟨s'', hs'', hcandidate'', hmove.trans hmove'⟩

/-- The candidate's session was seen in an allowed state. -/
def Db.Stands (candidate sessionId : Uuid) (allowed : List PracticeSessionState) (db : Db F) :
    Prop :=
  ∃ s, db.session sessionId = some s ∧ s.candidateId = candidate
    ∧ ∃ seen ∈ allowed, WorkerMove seen s.state

theorem Db.Stands.mono {candidate sessionId : Uuid} {allowed : List PracticeSessionState}
    {db db' : Db F} (h : db.Stands candidate sessionId allowed)
    (hrely : SessionsKept candidate db db') : db'.Stands candidate sessionId allowed := by
  obtain ⟨s, hs, hcandidate, seen, hseen, hmove⟩ := h
  obtain ⟨s', hs', hcandidate', hmove'⟩ := hrely sessionId s hs hcandidate
  exact ⟨s', hs', hcandidate', seen, hseen, hmove.trans hmove'⟩

/-! ## What a transaction writes -/

def KeepsSessions (w : Db F → Db F) : Prop := ∀ db, (w db).sessions = db.sessions

theorem KeepsSessions.session {w : Db F → Db F} (h : KeepsSessions w) (db : Db F) (id : Uuid) :
    (w db).session id = db.session id := by
  unfold Db.session
  rw [h db]

/-- The writes change the row of one session, by `f`. -/
structure Rewrites (sessionId : Uuid) (f : PracticeSession F → PracticeSession F)
    (w : Db F → Db F) : Prop where
  identity : KeepsIdentity f
  session : ∀ db id,
    (w db).session id = (db.session id).map fun s => if s.id = sessionId then f s else s

theorem KeepsSessions.rewrites {w : Db F → Db F} (h : KeepsSessions w) (sessionId : Uuid) :
    Rewrites sessionId id w where
  identity _ := rfl
  session db key := by
    rw [h.session]
    cases db.session key with
    | none => rfl
    | some s => exact congrArg some (ite_self s).symm

theorem rewrites_updateSession (sessionId : Uuid) {f : PracticeSession F → PracticeSession F}
    (hf : KeepsIdentity f) : Rewrites sessionId f fun db => db.updateSession sessionId f where
  identity := hf
  session _ _ := Tables.find_update hf.id

theorem Rewrites.comp {sessionId : Uuid} {f g : PracticeSession F → PracticeSession F}
    {w v : Db F → Db F} (h : Rewrites sessionId f w) (h' : Rewrites sessionId g v) :
    Rewrites sessionId (g ∘ f) (v ∘ w) where
  identity s := (h'.identity (f s)).trans (h.identity s)
  session db id := by
    show (v (w db)).session id = _
    rw [h'.session, h.session, Option.map_map]
    refine congrArg (Option.map · (db.session id)) (funext fun s => ?_)
    by_cases hid : s.id = sessionId
    · rw [Function.comp_apply, if_pos hid, if_pos ((h.identity.id s).trans hid), if_pos hid]
      rfl
    · rw [Function.comp_apply, if_neg hid, if_neg hid, if_neg hid]

theorem Rewrites.session_of {sessionId : Uuid} {f : PracticeSession F → PracticeSession F}
    {w : Db F → Db F} (h : Rewrites sessionId f w) {db : Db F} {id : Uuid} {s : PracticeSession F}
    (hs : db.session id = some s) :
    (w db).session id = some (if id = sessionId then f s else s) := by
  rw [h.session, hs, Option.map_some, show s.id = id from Tables.key_of_find hs]

/-! ## What the requests commit -/

namespace CandidateRequest

def sessionId : CandidateRequest → Uuid
  | .queueRun c => c.request.sessionId
  | .queueSubmit c => c.request.sessionId
  | .route _ sessionId .. => sessionId
  | .patch _ sessionId _ => sessionId

/-- The states in which the request may find the session that it overwrites. -/
def allowed : CandidateRequest → List PracticeSessionState
  | .queueRun _ => []
  | .queueSubmit _ => editableStates
  | .route _ _ r _ => r.allowed
  | .patch .. => editableStates

/-- The commit overwrites the session under the state machine: `queue_run`
never does, and `queue_submit` unless it answers with an earlier submission. -/
def Overwrites : CandidateRequest → Db F → Db F → Prop
  | .queueRun _, _, _ => False
  | .queueSubmit _, db, db' => db' ≠ db
  | .route .., _, _ => True
  | .patch .., _, _ => True

/-- What the request makes of the row that it overwrites. -/
def Makes : CandidateRequest → PracticeSession F → PracticeSession F → Prop
  | .queueRun _, s, s' => s'.state = s.state
  | .queueSubmit _, _, s' => s'.state = .submitted
  | .route _ _ r _, s, s' => s'.state = r.target ∧ s'.draftCode = s.draftCode
  | .patch .., s, s' => s'.state = s.state

end CandidateRequest

/-- What a transaction has written for its request by the time it commits. -/
inductive Moves (r : CandidateRequest) (w : Db F → Db F) (db : Db F) : Prop where
  | replayed (h : w = id) (hr : ∃ c, r = .queueRun c ∨ r = .queueSubmit c)
  | run (c : QueueCall) (h : r = .queueRun c) (f : PracticeSession F → PracticeSession F)
      (hw : Rewrites r.sessionId f w) (hf : ∀ s, r.Makes s (f s))
  | overwritten (f : PracticeSession F → PracticeSession F) (hw : Rewrites r.sessionId f w)
      (hf : ∀ s, r.Makes s (f s)) (hstands : db.Stands r.user r.sessionId r.allowed)

theorem Moves.mono {r : CandidateRequest} {w : Db F → Db F} {db db' : Db F} (h : Moves r w db)
    (hrely : SessionsKept r.user db db') : Moves r w db' := by
  cases h with
  | replayed h hr => exact .replayed h hr
  | run c h f hw hf => exact .run c h f hw hf
  | overwritten f hw hf hstands => exact .overwritten f hw hf (hstands.mono hrely)

/-! ## The programs -/

theorem keepsSessions_id : KeepsSessions (id : Db F → Db F) := fun _ => rfl

theorem KeepsSessions.comp {w v : Db F → Db F} (hw : KeepsSessions w) (hv : KeepsSessions v) :
    KeepsSessions (v ∘ w) := fun db => (hv (w db)).trans (hw db)

theorem insertSubmissionTx_keepsSessions (row : Submission F) :
    (insertSubmissionTx row).AllWrites KeepsSessions := by
  refine Tx.allWrites_execute keepsSessions_id fun db write a h => ?_
  obtain ⟨db', -, heq⟩ := map_eq_ok h
  cases heq
  exact fun _ => rfl

theorem createQueuedTx_keepsSessions (env : Environment) (principal : Principal) (q : QueueRequest)
    (inputPayload : Dict F) (executionId : Uuid) (clock : Clock) :
    (createQueuedTx env principal q inputPayload executionId clock).AllWrites KeepsSessions := by
  refine (Tx.allWrites_read keepsSessions_id _).bind fun found => ?_
  cases found with
  | some e => exact Tx.allWrites_ofExcept _
  | none =>
      refine Tx.AllWrites.bind (Tx.allWrites_execute keepsSessions_id fun db write a h => ?_)
        fun inserted => ?_
      · unfold insertQueued at h
        split_ifs at h
        · cases h
          exact keepsSessions_id
        · cases h
          exact fun _ => rfl
      · cases inserted with
        | true =>
            exact (Tx.allWrites_write keepsSessions_id fun db => Db.send_sessions ..).bind
              fun _ => trivial
        | false =>
            refine (Tx.allWrites_read keepsSessions_id _).bind fun found => ?_
            cases found with
            | some e => exact Tx.allWrites_ofExcept _
            | none => exact trivial

theorem queueExecutionTx_keepsSessions [Runtime F] (env : Environment) (principal : Principal)
    (q : QueueRequest) (structuredContent : Json F) (executionId : Uuid) (clock : Clock) :
    (queueExecutionTx env principal q structuredContent executionId clock).AllWrites
      KeepsSessions :=
  (Tx.allWrites_read keepsSessions_id _).bind fun _ =>
    (Tx.allWrites_ofExcept _).bind fun _ => createQueuedTx_keepsSessions _ _ _ _ _ _

section

variable {candidate : Uuid} {w : Db F → Db F} {db : Db F} {α β : Type}

theorem sessions_bind {mid : (Db F → Db F) → β → Db F → Prop}
    {post : (Db F → Db F) → α → Db F → Prop} {tx : Tx (Db F) Failure β}
    {f : β → Tx (Db F) Failure α} (h : Ensures (SessionsKept candidate) mid w tx db)
    (hf : ∀ w b db', mid w b db' → Ensures (SessionsKept candidate) post w (f b) db') :
    Ensures (SessionsKept candidate) post w (tx >>= f) db :=
  h.bind (fun _ t _ => .refl candidate t) (fun _ _ _ h h' => h.trans h') (.refl candidate db)
    fun w b db' _ => hf w b db'

theorem sessions_read_bind {post : (Db F → Db F) → α → Db F → Prop}
    {query : Db F → Except Failure β} {f : β → Tx (Db F) Failure α}
    (hf : ∀ b db', (∃ seen, SessionsKept candidate seen db' ∧ query (w seen) = .ok b) →
      Ensures (SessionsKept candidate) post w (f b) db') :
    Ensures (SessionsKept candidate) post w (Tx.read query >>= f) db :=
  Ensures.read_bind (fun _ t _ => .refl candidate t) (fun _ _ _ h h' => h.trans h')
    (.refl candidate db) fun b db' _ => hf b db'

theorem sessions_of_keeps {tx : Tx (Db F) Failure α} (htx : tx.AllWrites KeepsSessions)
    (hw : KeepsSessions w) :
    Ensures (SessionsKept candidate) (fun w _ _ => KeepsSessions w) w tx db :=
  ensures_of_allWrites (fun _ _ _ hw hv => hw.comp hv) (fun _ _ _ _ hw => hw) htx hw

/-- A session is read, and its row overwritten if it is in an allowed state. -/
theorem sessions_overwrite {principal : Principal} {sessionId : Uuid}
    {allowed : List PracticeSessionState} {fail : PracticeSession F → Failure}
    {change : PracticeSession F → PracticeSession F → PracticeSession F} (hw : KeepsSessions w) :
    Ensures (SessionsKept principal.userId)
      (fun w' _ db' => db'.Stands principal.userId sessionId allowed
        ∧ ∃ current, w' = (fun db => db.updateSession sessionId (change current)) ∘ w)
      w
      (Tx.read (getSession principal sessionId) >>= fun current =>
        if current.state ∉ allowed then .rollback (fail current)
        else Tx.write (fun db => db.updateSession sessionId (change current)) >>= fun _ =>
          Tx.read (getSession principal sessionId)) db := by
  refine sessions_read_bind fun current db' hread => ?_
  obtain ⟨seen, hrely, hget⟩ := hread
  obtain ⟨hfind, hcandidate⟩ := getSession_eq_ok.mp hget
  rw [hw.session] at hfind
  by_cases hallowed : current.state ∈ allowed
  · rw [if_neg (not_not.mpr hallowed)]
    have hseen : seen.Stands principal.userId sessionId allowed :=
      ⟨current, hfind, hcandidate, current.state, hallowed, .inl rfl⟩
    have hwrite : Ensures (SessionsKept principal.userId)
        (fun w' _ db'' => db''.Stands principal.userId sessionId allowed
          ∧ w' = (fun db => db.updateSession sessionId (change current)) ∘ w) w
        (Tx.write (ε := Failure) fun db => db.updateSession sessionId (change current)) db' :=
      ensures_write (fun db'' h => ⟨(hseen.mono hrely).mono h, rfl⟩) fun _ _ _ h h' => h.trans h'
    refine sessions_bind hwrite ?_
    rintro w' _ db'' ⟨hstands, rfl⟩
    exact ensures_read fun t u ht hu _ _ => ⟨(hstands.mono ht).mono hu, current, rfl⟩
  · rw [if_pos hallowed]
    exact trivial

theorem transitionTx_sessions (principal : Principal) (sessionId : Uuid)
    (target : PracticeSessionState) (allowed : List PracticeSessionState) (clock : Clock)
    (hw : KeepsSessions w) :
    Ensures (SessionsKept principal.userId)
      (fun w' _ db' => db'.Stands principal.userId sessionId allowed
        ∧ ∃ current : PracticeSession F, w' = (fun db => db.updateSession sessionId
          (PracticeSession.moveTo current.state target clock)) ∘ w)
      w (transitionTx principal sessionId target allowed clock) db := sessions_overwrite hw

theorem patchTx_sessions (principal : Principal) (sessionId : Uuid) (draft : Option Str)
    (hw : KeepsSessions w) :
    Ensures (SessionsKept principal.userId)
      (fun w' _ db' => db'.Stands principal.userId sessionId editableStates
        ∧ ∃ _ : PracticeSession F, w' = (fun db => db.updateSession sessionId
          (PracticeSession.patch draft)) ∘ w)
      w (patchTx principal sessionId draft) db := sessions_overwrite hw

/-- The writes of a request, with what they rely on. -/
def MovesFor (r : CandidateRequest) (w : Db F → Db F) (tx : Tx (Db F) Failure α) (db : Db F) :
    Prop :=
  Ensures (SessionsKept r.user) (fun w _ db => Moves r w db) w tx db

theorem movesFor_commit {r : CandidateRequest} {a : α} (h : Moves r w db) :
    MovesFor r w (.commit a : Tx (Db F) Failure α) db := fun _ hrely => h.mono hrely

theorem keepsIdentity_moveTo (seen target : PracticeSessionState) (clock : Clock) :
    KeepsIdentity (PracticeSession.moveTo (F := F) seen target clock) := fun _ => rfl

variable [Runtime F] {env : Environment}

theorem queueRunTx_moves (c : QueueCall) : MovesFor (.queueRun c) id (queueRunTx env c) db := by
  refine Ensures.mapError (sessions_read_bind fun found db' _ => ?_)
  obtain ⟨question, runtime⟩ := found
  refine sessions_read_bind fun existing db'' _ => ?_
  cases existing with
  | some accepted => exact movesFor_commit (.replayed rfl ⟨c, .inl rfl⟩)
  | none =>
      refine sessions_bind (sessions_of_keeps (queueExecutionTx_keepsSessions _ _ _ _ _ _) keepsSessions_id)
        fun w' accepted db₃ hw' => ?_
      have hwrite : Ensures (SessionsKept (CandidateRequest.queueRun c).user)
          (fun w _ db => Moves (.queueRun c) w db) w'
          (Tx.write (ε := Failure) fun db => db.updateSession c.request.sessionId
            (PracticeSession.recordRun c.request.sourceCode accepted.executionId runtime)) db₃ :=
        ensures_write (fun _ _ => .run c rfl _ ((hw'.rewrites _).comp
          (rewrites_updateSession c.request.sessionId fun _ => rfl)) fun _ => rfl)
          fun _ _ _ h h' => h.trans h'
      exact sessions_bind hwrite fun w'' _ db₄ hmoves => movesFor_commit hmoves

theorem queueSubmitTx_moves (c : QueueCall) :
    MovesFor (.queueSubmit c) id (queueSubmitTx env c) db := by
  refine Ensures.mapError (sessions_read_bind fun found db' _ => ?_)
  obtain ⟨question, runtime⟩ := found
  refine sessions_read_bind fun existing db'' _ => ?_
  cases existing with
  | some accepted => exact movesFor_commit (.replayed rfl ⟨c, .inr rfl⟩)
  | none =>
      refine sessions_read_bind fun _ db₃ _ => ?_
      refine sessions_bind (sessions_of_keeps (insertSubmissionTx_keepsSessions _)
        keepsSessions_id) fun w₁ _ db₄ hw₁ => ?_
      refine sessions_bind (sessions_of_keeps (queueExecutionTx_keepsSessions _ _ _ _ _ _) hw₁)
        fun w₂ accepted db₅ hw₂ => ?_
      refine sessions_bind (transitionTx_sessions c.principal c.request.sessionId .submitted
        editableStates c.clock hw₂) fun w₃ _ db₆ hmoved => ?_
      obtain ⟨hstands, current, rfl⟩ := hmoved
      have hwrites := ((hw₂.rewrites _).comp (rewrites_updateSession c.request.sessionId
        (keepsIdentity_moveTo current.state .submitted c.clock))).comp
          (rewrites_updateSession c.request.sessionId (f := PracticeSession.recordSubmission
            c.request.sourceCode accepted.executionId c.ids.submissionId runtime) fun _ => rfl)
      have hwrite : Ensures (SessionsKept (CandidateRequest.queueSubmit c).user)
          (fun w _ db => Moves (.queueSubmit c) w db)
          ((fun db => db.updateSession c.request.sessionId
            (PracticeSession.moveTo current.state .submitted c.clock)) ∘ w₂)
          (Tx.write (ε := Failure) fun db => db.updateSession c.request.sessionId
            (PracticeSession.recordSubmission c.request.sourceCode accepted.executionId
              c.ids.submissionId runtime)) db₆ :=
        ensures_write (fun _ hrely => .overwritten _ hwrites (fun _ => rfl) (hstands.mono hrely))
          fun _ _ _ h h' => h.trans h'
      exact sessions_bind hwrite fun w'' _ db₇ hmoves => movesFor_commit hmoves

theorem program_moves (r : CandidateRequest) : MovesFor r id (r.program (F := F) env) db := by
  have hanswer {γ : Type} {tx : Tx (Db F) Failure γ} (f : γ → Answer F) (htx : MovesFor r id tx db) :
      MovesFor r id (tx >>= fun a => pure (f a)) db :=
    sessions_bind htx fun _ _ _ hmoves => movesFor_commit hmoves
  cases r with
  | queueRun c => exact hanswer _ (queueRunTx_moves c)
  | queueSubmit c => exact hanswer _ (queueSubmitTx_moves c)
  | route principal sessionId route clock =>
      refine hanswer _ ((transitionTx_sessions principal sessionId route.target route.allowed clock
        keepsSessions_id).imp ?_)
      rintro _ _ db' ⟨hstands, current, rfl⟩
      exact .overwritten _ (rewrites_updateSession sessionId
        (keepsIdentity_moveTo current.state route.target clock)) (fun _ => ⟨rfl, rfl⟩) hstands
  | patch principal sessionId draft =>
      refine hanswer _ ((patchTx_sessions principal sessionId draft keepsSessions_id).imp ?_)
      rintro _ _ db' ⟨hstands, -, rfl⟩
      exact .overwritten _ (rewrites_updateSession sessionId fun _ => rfl) (fun _ => rfl) hstands

end

/-! ## The workers -/

/-- A step on an execution completes its session if that waits for it. -/
theorem Step.session {evaluator : Evaluator F} {s t : System F} {a : Action F × Clock}
    (h : Step evaluator s a t) :
    WorkerMove s.attempt.session.state t.attempt.session.state
      ∧ t.attempt.session.draftCode = s.attempt.session.draftCode := by
  rcases h.moved_or_persisted with ⟨-, -, hsess, -⟩ | ⟨_, _, _, p, -, -, -, -, -, -, hfinal⟩
  · rw [hsess]
    exact ⟨.inl rfl, rfl⟩
  · rcases finalizeSubmission_ok hfinal with ⟨-, hsess, -⟩ | ⟨sid, _, _, -, -, -, -, -, -, hsess⟩
    · rw [hsess]
      exact ⟨.inl rfl, rfl⟩
    · rw [hsess, completeSession]
      split_ifs with hwaits
      · exact ⟨.inr ⟨hwaits, rfl⟩, rfl⟩
      · exact ⟨.inl rfl, rfl⟩

/-- Every transaction but those of the requests whose statements are told apart. -/
def DbAction.IsElsewhere : DbAction F → Prop
  | .queueRun .. => False
  | .queueSubmit .. => False
  | .route .. => False
  | _ => True

variable [Runtime F]

def Elsewhere (env : Environment) (evaluator : Evaluator F) (db : Db F) (a : DbAction F × Clock)
    (db' : Db F) : Prop :=
  DbStep env evaluator db a db' ∧ a.1.IsElsewhere

omit [Runtime F] in
theorem session_update {db : Db F} {sessionId id : Uuid}
    {f : PracticeSession F → PracticeSession F} (hf : KeepsIdentity f) {s : PracticeSession F}
    (hs : db.session id = some s) :
    (db.updateSession sessionId f).session id = some (if id = sessionId then f s else s) :=
  (rewrites_updateSession sessionId hf).session_of hs

/-- Elsewhere a session is only ever completed. -/
theorem Elsewhere.session {env : Environment} {evaluator : Evaluator F} {db db' : Db F}
    {a : DbAction F × Clock} (h : Elsewhere env evaluator db a db') {id : Uuid}
    {s : PracticeSession F} (hs : db.session id = some s) :
    ∃ s', db'.session id = some s' ∧ s'.candidateId = s.candidateId
      ∧ WorkerMove s.state s'.state ∧ s'.draftCode = s.draftCode := by
  obtain ⟨hstep, helsewhere⟩ := h
  cases hstep with
  | createSession h =>
      refine ⟨s, ?_, rfl, .inl rfl, rfl⟩
      rcases createSession_ok h with rfl | ⟨_, _, -, -, rfl⟩
      · exact hs
      · unfold Db.session Tables.find
        rw [List.find?_append, show db.sessions.find? _ = some s from hs]
        rfl
  | publish h =>
      refine ⟨s, ?_, rfl, .inl rfl, rfl⟩
      rw [Db.session, (publish_ok h).1]
      exact hs
  | route h => exact helsewhere.elim
  | queueRun h => exact helsewhere.elim
  | queueSubmit h => exact helsewhere.elim
  | nextHint h =>
      obtain ⟨_, _, _, f, -, -, -, hident, hkeeps, rfl⟩ := nextHint_ok h
      refine ⟨_, session_update hident hs, ?_⟩
      split_ifs
      · exact ⟨congrArg (fun i => i.2.1) (hident s), .inl (hkeeps s).1, (hkeeps s).2.1⟩
      · exact ⟨rfl, .inl rfl, rfl⟩
  | execution hsystem h =>
      rename_i key action clock before after
      have hfound := (Db.system_some hsystem).2.1
      have hident := h.pins.1
      have hid : after.attempt.session.id = before.attempt.execution.row.practiceSessionId :=
        (PracticeSession.of_identity hident).1.trans (Tables.key_of_find hfound)
      refine ⟨if s.id = after.attempt.session.id then after.attempt.session else s, ?_, ?_⟩
      · unfold Db.session
        rw [Db.notify_sessions]
        exact (Tables.find_update_of fun _ _ => rfl).trans (congrArg (Option.map _) hs)
      · split_ifs with hkey
        · have heq : s = before.attempt.session := by
            rw [hid.symm.trans (hkey.symm.trans (Tables.key_of_find hs)), hs] at hfound
            exact Option.some.inj hfound
          rw [heq]
          exact ⟨congrArg (fun i => i.2.1) hident, h.session⟩
        · exact ⟨rfl, .inl rfl, rfl⟩

/-! ## Runs -/

/-- What the commit of a request does to the sessions. -/
def CommitsMoves (r : CandidateRequest) (db db' : Db F) : Prop := ∃ w, db' = w db ∧ Moves r w db

omit [Runtime F] in
/-- The row of the request's session, and every other. -/
theorem CommitsMoves.session {r : CandidateRequest} {db db' : Db F} (h : CommitsMoves r db db')
    {id : Uuid} {s : PracticeSession F} (hs : db.session id = some s) :
    ∃ s', db'.session id = some s' ∧ s'.candidateId = s.candidateId
      ∧ (s' = s ∨ id = r.sessionId ∧ r.Makes s s'
        ∧ ((∃ c, r = .queueRun c) ∨ db.Stands r.user id r.allowed)) := by
  obtain ⟨w, rfl, hmoves⟩ := h
  have hrow {f : PracticeSession F → PracticeSession F} (hw : Rewrites r.sessionId f w)
      (hf : ∀ s, r.Makes s (f s))
      (hwhy : (∃ c, r = .queueRun c) ∨ db.Stands r.user r.sessionId r.allowed) :
      ∃ s', (w db).session id = some s' ∧ s'.candidateId = s.candidateId
        ∧ (s' = s ∨ id = r.sessionId ∧ r.Makes s s'
          ∧ ((∃ c, r = .queueRun c) ∨ db.Stands r.user id r.allowed)) := by
    refine ⟨_, hw.session_of hs, ?_⟩
    split_ifs with hid
    · exact ⟨congrArg (fun i => i.2.1) (hw.identity s), .inr ⟨hid, hf s, hid ▸ hwhy⟩⟩
    · exact ⟨rfl, .inl rfl⟩
  cases hmoves with
  | replayed h _ => exact ⟨s, h ▸ hs, rfl, .inl rfl⟩
  | run c h f hw hf => exact hrow hw hf (.inl ⟨c, h⟩)
  | overwritten f hw hf hstands => exact hrow hw hf (.inr hstands)

theorem program_commits (env : Environment) (r : CandidateRequest) (db : Db F) :
    Guarded (SessionsKept r.user) (CommitsMoves r) id (r.program (F := F) env) db :=
  (program_moves r).imp fun w _ _ hmoves => ⟨w, rfl, hmoves⟩

theorem sessions_rules (env : Environment) (evaluator : Evaluator F) :
    Rules CandidateRequest.user (CandidateRequest.program env) Db.UniqueExecutions
      (Elsewhere env evaluator) (fun _ => True) SessionsKept CommitsMoves where
  refl k db _ := .refl k db
  trans _ _ _ _ h h' := h.trans h'
  environment db a db' _ h := by
    refine ⟨trivial, fun k id s hs hcandidate => ?_⟩
    obtain ⟨s', hs', hcandidate', hmove, -⟩ := h.session hs
    exact ⟨s', hs', hcandidate'.trans hcandidate, hmove⟩
  program r db _ := program_commits env r db
  commit r db db' _ _ h := by
    refine ⟨trivial, fun k hk id s hs hcandidate => ?_⟩
    obtain ⟨s', hs', hcandidate', rfl | ⟨rfl, hmakes, hwhy⟩⟩ := h.session hs
    · exact ⟨s', hs', hcandidate, .inl rfl⟩
    · rcases hwhy with ⟨c, rfl⟩ | ⟨s₀, hs₀, huser, -⟩
      · exact ⟨s', hs', hcandidate'.trans hcandidate, .inl hmakes⟩
      · cases hs.symm.trans hs₀
        exact absurd (hcandidate.symm.trans huser) hk

/-- The candidates' requests, statement by statement, and the workers. -/
abbrev SessionStep (env : Environment) (evaluator : Evaluator F) :=
  Transactions.Step CandidateRequest.user (CandidateRequest.program env) Db.UniqueExecutions
    (Elsewhere env evaluator)

abbrev SessionAction (F : Type) := Transactions.Action CandidateRequest (DbAction F × Clock)

/-- A request overwrites a row that is in one of its allowed states at the
commit, and a worker's step changes a session only to complete it. -/
structure FollowsStates (x : Taken (Server F) (SessionAction F)) : Prop where
  request : ∀ r, x.label = .commit r → r.Overwrites x.source.store x.target.store →
    ∃ s, x.source.store.session r.sessionId = some s ∧ s.state ∈ r.allowed
  worker : ∀ a, x.label = .environment a → ∀ id s, x.source.store.session id = some s →
    ∃ s', x.target.store.session id = some s' ∧ WorkerMove s.state s'.state

/-- `complete` commits over a session that is `COMPLETED` already. -/
def Recompletes (x : Taken (Server F) (SessionAction F)) : Prop :=
  ∃ principal sessionId clock s, x.label = .commit (.route principal sessionId .complete clock)
    ∧ x.source.store.session sessionId = some s ∧ s.state = .completed

/-- A session that is over stays so, and only `queue_run` changes its draft. -/
def StaysClosed (x : Taken (Server F) (SessionAction F)) : Prop :=
  ∀ id s, x.source.store.session id = some s → s.state ∉ editableStates →
    ∃ s', x.target.store.session id = some s' ∧ s'.state ∉ editableStates
      ∧ ((∀ c, x.label ≠ .commit (.queueRun c)) → s'.draftCode = s.draftCode)

omit [Runtime F] in
/-- What is overwritten stands where it was seen, or has been completed before `complete`. -/
theorem CommitsMoves.stands {r : CandidateRequest} {db db' : Db F} (h : CommitsMoves r db db')
    (hoverwrites : r.Overwrites db db') :
    ∃ s, db.session r.sessionId = some s ∧ (s.state ∈ r.allowed
      ∨ s.state = .completed ∧ ∃ principal sessionId clock,
        r = .route principal sessionId .complete clock) := by
  obtain ⟨w, rfl, hmoves⟩ := h
  cases hmoves with
  | replayed h hr =>
      subst h
      obtain ⟨c, rfl | rfl⟩ := hr
      · exact hoverwrites.elim
      · exact absurd rfl hoverwrites
  | run c h f hw hf =>
      subst h
      exact hoverwrites.elim
  | overwritten f hw hf hstands =>
      obtain ⟨s, hs, -, seen, hseen, hmove⟩ := hstands
      refine ⟨s, hs, ?_⟩
      by_cases heditable : seen ∈ editableStates
      · exact .inl (hmove.eq_of_mem heditable ▸ hseen)
      · rcases hmove with hsame | ⟨-, hcompleted⟩
        · exact .inl (hsame ▸ hseen)
        · refine .inr ⟨hcompleted, ?_⟩
          cases r with
          | queueRun c => exact nomatch hseen
          | queueSubmit c => exact absurd hseen heditable
          | patch principal sessionId draft => exact absurd hseen heditable
          | route principal sessionId route clock =>
              cases route with
              | complete => exact ⟨principal, sessionId, clock, rfl⟩
              | start => exact absurd (List.mem_singleton.mp hseen ▸ by decide) heditable
              | pause => exact absurd (List.mem_singleton.mp hseen ▸ by decide) heditable
              | resume => exact absurd (List.mem_singleton.mp hseen ▸ by decide) heditable

omit [Runtime F] in
theorem CommitsMoves.closed {r : CandidateRequest} {db db' : Db F} (h : CommitsMoves r db db')
    {id : Uuid} {s : PracticeSession F} (hs : db.session id = some s)
    (hclosed : s.state ∉ editableStates) :
    ∃ s', db'.session id = some s' ∧ s'.state ∉ editableStates
      ∧ ((∀ c, r ≠ .queueRun c) → s'.draftCode = s.draftCode) := by
  obtain ⟨s', hs', -, rfl | ⟨rfl, hmakes, hwhy⟩⟩ := h.session hs
  · exact ⟨s', hs', hclosed, fun _ => rfl⟩
  · refine ⟨s', hs', ?_⟩
    rcases hwhy with ⟨c, rfl⟩ | ⟨s₀, hs₀, -, seen, hseen, hmove⟩
    · refine ⟨?_, fun hrun => absurd rfl (hrun c)⟩
      rw [show s'.state = s.state from hmakes]
      exact hclosed
    · cases hs.symm.trans hs₀
      have hseen' : seen ∉ editableStates := fun heditable =>
        hclosed (hmove.eq_of_mem heditable ▸ heditable)
      cases r with
      | queueRun c => exact nomatch hseen
      | queueSubmit c => exact absurd hseen hseen'
      | patch principal sessionId draft => exact absurd hseen hseen'
      | route principal sessionId route clock =>
          obtain ⟨hstate, hdraft⟩ := hmakes
          refine ⟨?_, fun _ => hdraft⟩
          cases route with
          | complete => rw [hstate]; decide
          | start => exact absurd (List.mem_singleton.mp hseen ▸ by decide) hseen'
          | pause => exact absurd (List.mem_singleton.mp hseen ▸ by decide) hseen'
          | resume => exact absurd (List.mem_singleton.mp hseen ▸ by decide) hseen'

/-- What a transition does to the committed tables. -/
theorem SessionStep.store {env : Environment} {evaluator : Evaluator F} {s t : Server F}
    {a : SessionAction F} (h : SessionStep env evaluator s a t) :
    t.store = s.store ∨ (∃ r, a = .commit r)
      ∨ ∃ b, a = .environment b ∧ Elsewhere env evaluator s.store b t.store := by
  cases h with
  | begin => exact .inl rfl
  | statement => exact .inl rfl
  | rollback => exact .inl rfl
  | commit => exact .inr (.inl ⟨_, rfl⟩)
  | environment h => exact .inr (.inr ⟨_, rfl, h⟩)

section

variable {env : Environment} {evaluator : Evaluator F} {x : Taken (Server F) (SessionAction F)}

theorem followsStates_iff (hstep : SessionStep env evaluator x.source x.label x.target)
    (hcommits : Transactions.Commits CommitsMoves x) : FollowsStates x ↔ ¬Recompletes x := by
  constructor
  · rintro hfollows ⟨principal, sessionId, clock, s, hlabel, hs, hcompleted⟩
    obtain ⟨s₀, hs₀, hallowed⟩ := hfollows.request _ hlabel trivial
    cases hs.symm.trans hs₀
    rw [hcompleted] at hallowed
    exact absurd hallowed (by decide : PracticeSessionState.completed ∉ SessionRoute.complete.allowed)
  · intro hnot
    constructor
    · intro r hlabel hoverwrites
      obtain ⟨s, hs, hallowed | ⟨hcompleted, principal, sessionId, clock, rfl⟩⟩ :=
        (hcommits r hlabel).stands hoverwrites
      · exact ⟨s, hs, hallowed⟩
      · exact absurd ⟨principal, sessionId, clock, s, hlabel, hs, hcompleted⟩ hnot
    · intro a hlabel id s hs
      rcases SessionStep.store hstep with hsame | ⟨r, hr⟩ | ⟨b, -, helsewhere⟩
      · exact ⟨s, hsame ▸ hs, .inl rfl⟩
      · exact nomatch hlabel.symm.trans hr
      · obtain ⟨s', hs', -, hmove, -⟩ := helsewhere.session hs
        exact ⟨s', hs', hmove⟩

theorem staysClosed_of_commits (hstep : SessionStep env evaluator x.source x.label x.target)
    (hcommits : Transactions.Commits CommitsMoves x) : StaysClosed x := by
  intro id s hs hclosed
  rcases SessionStep.store hstep with hsame | ⟨r, hr⟩ | ⟨b, -, helsewhere⟩
  · exact ⟨s, hsame ▸ hs, hclosed, fun _ => rfl⟩
  · obtain ⟨s', hs', hclosed', hdraft⟩ := (hcommits r hr).closed hs hclosed
    exact ⟨s', hs', hclosed', fun hrun => hdraft fun c hc => hrun c (hc ▸ hr)⟩
  · obtain ⟨s', hs', -, hmove, hdraft⟩ := helsewhere.session hs
    exact ⟨s', hs', hmove.closed hclosed, fun _ => hdraft⟩

end

/-- **Practice sessions.** However the requests of the candidates are
interleaved with each other and with the workers, a session follows its
state machine exactly when no `complete` commits behind the completion of a
worker; and no session that is over is opened or edited again. -/
theorem session_states {env : Environment} {evaluator : Evaluator F} {s t : Server F}
    {trace : List (Taken (Server F) (SessionAction F))}
    (hrun : Run (SessionStep env evaluator) s trace t)
    (hfree : ∀ candidate, s.holder candidate = none) :
    ((∀ x ∈ trace, FollowsStates x) ↔ ∀ x ∈ trace, ¬Recompletes x)
      ∧ ∀ x ∈ trace, StaysClosed x := by
  have hcommits := (run_commits (sessions_rules env evaluator) hrun trivial hfree).2
  have htaken := hrun.taken
  exact ⟨forall₂_congr fun x hx => followsStates_iff (htaken x hx) (hcommits x hx),
    fun x hx => staysClosed_of_commits (htaken x hx) (hcommits x hx)⟩

def pauseRequest : CandidateRequest := .route sampleCandidate "session-1" .pause zeroClock

/-- The candidate pauses the session. -/
theorem session_states_pause : ∃ trace t,
    Run (SessionStep sampleEnvironment sampleEvaluator) quietServer trace t
      ∧ trace.length = 5 ∧ ∀ x ∈ trace, FollowsStates x := by
  obtain ⟨trace, t, hrun, hlength, hnone⟩ : ∃ trace t,
      Run (SessionStep sampleEnvironment sampleEvaluator) quietServer trace t
        ∧ trace.length = 5 ∧ ∀ x ∈ trace, ¬Recompletes x := by
    refine Run.exists_cons (.begin pauseRequest) (.begin rfl) ?_
    iterate 3 refine Run.exists_cons (.statement pauseRequest) (.statement rfl) ?_
    refine Run.exists_cons (.commit pauseRequest) (.commit rfl List.nodup_nil) ?_
    refine Run.exists_nil ⟨rfl, fun x hx => ?_⟩
    rintro ⟨_, _, _, _, hlabel, -⟩
    simp only [List.mem_cons, List.not_mem_nil, or_false] at hx
    rcases hx with rfl | rfl | rfl | rfl | rfl <;> cases hlabel
  exact ⟨trace, t, hrun, hlength, (session_states hrun fun _ => rfl).1.mpr hnone⟩

def completeRequest : CandidateRequest := .route sampleCandidate "session-1" .complete zeroClock

def submitRequestSent : CandidateRequest := .queueSubmit sampleQueueCall

/-- `complete` reads that the session is `SUBMITTED`, the worker completes
it, and `complete` commits over that. -/
theorem complete_overwrites_completed : ∃ trace t,
    Run (SessionStep sampleEnvironment sampleEvaluator) quietServer trace t
      ∧ ∃ x ∈ trace, ¬FollowsStates x := by
  refine Run.exists_cons (.begin submitRequestSent) (.begin rfl) ?_
  iterate 12 refine Run.exists_cons (.statement submitRequestSent) (.statement rfl) ?_
  refine Run.exists_cons (.commit submitRequestSent) (.commit rfl (List.nodup_singleton _)) ?_
  refine Run.exists_cons (.environment (.execution "execution-1" (.claimForDispatch "worker-1" 60),
    zeroClock)) (.environment ⟨.execution rfl (.claimForDispatch rfl), trivial⟩) ?_
  refine Run.exists_cons (.environment (.execution "execution-1"
    (.markRunning "worker-1" "sandboxes" "execution-execution-1"), zeroClock))
    (.environment ⟨.execution rfl .markRunning, trivial⟩) ?_
  refine Run.exists_cons (.begin completeRequest) (.begin rfl) ?_
  refine Run.exists_cons (.statement completeRequest) (.statement rfl) ?_
  refine Run.exists_cons (.environment (.execution "execution-1"
    (.persistObservation _ "worker-1" (.ok sampleProjection)), zeroClock))
    (.environment ⟨.execution rfl (.persistObservation (List.mem_cons_self ..) rfl), trivial⟩) ?_
  iterate 2 refine Run.exists_cons (.statement completeRequest) (.statement rfl) ?_
  refine Run.exists_cons (.commit completeRequest) (.commit rfl (List.nodup_singleton _)) ?_
  refine Run.exists_nil ⟨_, List.mem_of_getElem? (i := 21) rfl, fun hfollows => ?_⟩
  obtain ⟨s, hs, hallowed⟩ := hfollows.request completeRequest rfl trivial
  cases hs
  exact absurd hallowed (by decide)

end Rigor
