import Rigor.CandidateTransactions
import Rigor.QueueIdempotency

/-!
# Backpressure

However the transactions of the candidates are interleaved with each other
and with those of the workers, no candidate has more active executions of a
type than `_enforce_backpressure` allows (`backpressure`): the rows it counts
stay counted until the insert is committed, because only a transaction of
the same candidate adds to them, and the lock of `ensure_user` keeps that out.
-/

namespace Rigor

open Py Runs Transactions

variable {F : Type}

/-! ## Active executions -/

def Execution.ActiveOf (candidate : Uuid) (type : ExecutionType) (e : Execution F) : Prop :=
  e.row.candidateId = candidate ∧ e.row.executionType = type ∧ e.state ∈ activeStates

instance (candidate : Uuid) (type : ExecutionType) :
    DecidablePred (Execution.ActiveOf (F := F) candidate type) := fun e =>
  inferInstanceAs (Decidable (e.row.candidateId = candidate ∧ _))

namespace Db

/-- The candidate's executions of the type that are queued, dispatching or running. -/
def active (candidate : Uuid) (type : ExecutionType) (db : Db F) : Nat :=
  db.executions.countP fun e => decide (e.ActiveOf candidate type)

theorem active_append (candidate : Uuid) (type : ExecutionType) {db db' : Db F} {e : Execution F}
    (h : db'.executions = db.executions ++ [e]) :
    db'.active candidate type
      = db.active candidate type + if e.ActiveOf candidate type then 1 else 0 := by
  unfold active
  rw [h, List.countP_append, List.countP_singleton]
  simp only [decide_eq_true_eq]

theorem active_congr (candidate : Uuid) (type : ExecutionType) {db db' : Db F}
    (h : db'.executions = db.executions) : db'.active candidate type = db.active candidate type := by
  unfold active
  rw [h]

/-- The primary key of `execution_requests`. -/
def UniqueExecutions (db : Db F) : Prop := (db.executions.map Execution.id).Nodup

structure Bounded (db : Db F) : Prop where
  unique : db.UniqueExecutions
  active_le : ∀ candidate type, db.active candidate type ≤ maxActive type

end Db

theorem activeCount_eq (principal : Principal) (type : ExecutionType) (db : Db F) :
    activeCount principal type db = db.active principal.userId type := rfl

theorem enforceBackpressure_ok {principal : Principal} {type : ExecutionType} {db : Db F} {u : Unit}
    (h : enforceBackpressure principal type db = .ok u) :
    db.active principal.userId type < maxActive type := by
  unfold enforceBackpressure at h
  split_ifs at h with hcount
  rw [activeCount_eq] at hcount
  exact Nat.not_le.mp hcount

/-! ## The workers and the other requests -/

theorem mem_activeStates {state : ExecutionStatus} : state ∈ activeStates ↔ ¬state.IsTerminal := by
  cases state <;> decide

/-- A step on an execution does not make it active again. -/
theorem Step.activeOf {evaluator : Evaluator F} {s t : System F} {a : Action F × Clock}
    (h : Step evaluator s a t) {candidate : Uuid} {type : ExecutionType}
    (ht : t.attempt.execution.ActiveOf candidate type) :
    s.attempt.execution.ActiveOf candidate type := by
  obtain ⟨hcandidate, htype, hactive⟩ := ht
  have hcolumns := h.columns
  refine ⟨?_, ?_, ?_⟩
  · rw [← hcandidate]
    exact congrArg RequestColumns.candidateId hcolumns.symm
  · rw [← htype]
    exact congrArg RequestColumns.executionType hcolumns.symm
  · refine mem_activeStates.mpr fun hterminal => ?_
    rw [h.terminal hterminal] at hactive
    exact mem_activeStates.mp hactive hterminal

section

variable [Runtime F]

/-- Steps other than queueing leave the identifiers as they are, and no
candidate with more active executions. -/
structure Db.Settles (db db' : Db F) : Prop where
  unique : db.UniqueExecutions → db'.UniqueExecutions
  active_le : db.UniqueExecutions → ∀ candidate type,
    db'.active candidate type ≤ db.active candidate type

omit [Runtime F] in
theorem Db.Settles.of_same {db db' : Db F} (h : db'.executions = db.executions) :
    db.Settles db' where
  unique hunique := by
    unfold Db.UniqueExecutions
    rw [h]
    exact hunique
  active_le _ candidate type := Nat.le_of_eq (Db.active_congr candidate type h)

omit [Runtime F] in
theorem Db.Settles.of_execution {evaluator : Evaluator F} {db : Db F} {id : Uuid} {s t : System F}
    {action : Action F} {clock : Clock} (hs : db.system id = some s)
    (h : Step evaluator s (action, clock) t) :
    db.Settles ((db.store id t).notify id action clock) := by
  have hexec := (Db.system_some hs).1
  have hid : s.attempt.execution.id = id := Tables.key_of_find hexec
  have hid' : t.attempt.execution.id = id :=
    (congrArg RequestColumns.id h.columns).trans hid
  have hrows : ((db.store id t).notify id action clock).executions
      = Tables.update Execution.id id (fun _ => t.attempt.execution) db.executions :=
    Db.notify_executions ..
  constructor
  · intro hunique
    unfold Db.UniqueExecutions
    rw [hrows, Tables.map_update fun r _ hr => hid'.trans hr.symm]
    exact hunique
  · intro hunique candidate type
    unfold Db.active
    rw [hrows, Tables.update, List.countP_map]
    refine List.countP_mono_left fun r hr hactive => ?_
    rw [Function.comp_apply, decide_eq_true_eq] at hactive
    rw [decide_eq_true_eq]
    split_ifs at hactive with hkey
    · rw [List.inj_on_of_nodup_map hunique hr (Tables.mem_of_find hexec) (hkey.trans hid.symm)]
      exact h.activeOf hactive
    · exact hactive

/-- Every transaction but those of `queue_run` and `queue_submit`. -/
def DbAction.IsBackground : DbAction F → Prop
  | .queueRun .. => False
  | .queueSubmit .. => False
  | _ => True

/-- The workers, and the candidates' other requests. -/
def Background (env : Environment) (evaluator : Evaluator F) (db : Db F)
    (a : DbAction F × Clock) (db' : Db F) : Prop :=
  DbStep env evaluator db a db' ∧ a.1.IsBackground

theorem Background.settles {env : Environment} {evaluator : Evaluator F} {db db' : Db F}
    {a : DbAction F × Clock} (h : Background env evaluator db a db') : db.Settles db' := by
  obtain ⟨hstep, hbackground⟩ := h
  cases hstep with
  | createSession h =>
      rcases createSession_ok h with rfl | ⟨_, _, -, -, rfl⟩
      · exact .of_same rfl
      · exact .of_same rfl
  | publish h => exact .of_same (publish_ok h).2.2.1
  | route h =>
      obtain ⟨f, -, -, rfl⟩ := transitionSession_ok h
      exact .of_same rfl
  | queueRun h => exact hbackground.elim
  | queueSubmit h => exact hbackground.elim
  | nextHint h =>
      obtain ⟨_, _, _, f, -, -, -, -, -, rfl⟩ := nextHint_ok h
      exact .of_same rfl
  | execution hs h => exact .of_execution hs h

end

/-! ## Rely and guarantee -/

/-- What the transaction of a candidate relies on: nobody else adds to what
it counted. -/
def Uncrowded (candidate : Uuid) (db db' : Db F) : Prop :=
  db'.Bounded ∧ ∀ type, db'.active candidate type ≤ db.active candidate type

/-- What a request commits: at most one execution, of its candidate, for
which there was room. -/
def QueuesOne (r : CandidateRequest) (db db' : Db F) : Prop :=
  db'.executions = db.executions
    ∨ ∃ e : Execution F, db'.executions = db.executions ++ [e] ∧ e.row.candidateId = r.user
      ∧ db.active r.user e.row.executionType < maxActive e.row.executionType

theorem Uncrowded.refl_right {candidate : Uuid} {db db' : Db F} (h : Uncrowded candidate db db') :
    Uncrowded candidate db' db' := ⟨h.1, fun _ => le_refl _⟩

theorem Uncrowded.trans {candidate : Uuid} {db db' db'' : Db F} (h : Uncrowded candidate db db')
    (h' : Uncrowded candidate db' db'') : Uncrowded candidate db db'' :=
  ⟨h'.1, fun type => (h'.2 type).trans (h.2 type)⟩

/-- The writes so far leave the executions alone. -/
def KeepsExecutions (w : Db F → Db F) : Prop := ∀ db, (w db).executions = db.executions

/-- The writes so far are those of a queueing transaction. -/
def Queueing (r : CandidateRequest) (w : Db F → Db F) (db : Db F) : Prop :=
  KeepsExecutions w
    ∨ ∃ e : Execution F, (∀ db, (w db).executions = db.executions ++ [e])
      ∧ e.row.candidateId = r.user
      ∧ db.active r.user e.row.executionType < maxActive e.row.executionType

theorem Queueing.queuesOne {r : CandidateRequest} {w : Db F → Db F} {db : Db F}
    (h : Queueing r w db) : QueuesOne r db (w db) := by
  rcases h with hkeeps | ⟨e, happends, hcandidate, hroom⟩
  · exact .inl (hkeeps db)
  · exact .inr ⟨e, happends db, hcandidate, hroom⟩

theorem Queueing.mono {r : CandidateRequest} {w : Db F → Db F} {db db' : Db F}
    (h : Queueing r w db) (hrely : Uncrowded r.user db db') : Queueing r w db' := by
  rcases h with hkeeps | ⟨e, happends, hcandidate, hroom⟩
  · exact .inl hkeeps
  · exact .inr ⟨e, happends, hcandidate, (hrely.2 _).trans_lt hroom⟩

theorem Queueing.comp {r : CandidateRequest} {w v : Db F → Db F} {db : Db F}
    (h : Queueing r w db) (hv : KeepsExecutions v) : Queueing r (v ∘ w) db := by
  rcases h with hkeeps | ⟨e, happends, hcandidate, hroom⟩
  · exact .inl fun db => (hv (w db)).trans (hkeeps db)
  · exact .inr ⟨e, fun db => (hv (w db)).trans (happends db), hcandidate, hroom⟩

/-- The rely and the post of a program that queues for the request. -/
def QueuesFor {α : Type} (r : CandidateRequest) (w : Db F → Db F) (tx : Tx (Db F) Failure α)
    (db : Db F) : Prop :=
  Ensures (Uncrowded r.user) (fun w _ db => Queueing r w db) w tx db

section

variable {r : CandidateRequest} {w : Db F → Db F} {db : Db F} {α β : Type}

theorem queuesFor_of_keeps {tx : Tx (Db F) Failure α} (htx : tx.AllWrites KeepsExecutions)
    (hw : Queueing r w db) : QueuesFor r w tx db :=
  ensures_of_allWrites (fun _ _ _ hq hv => hq.comp hv) (fun _ _ _ hrely hq => hq.mono hrely) htx hw

theorem queuesFor_bind {mid : (Db F → Db F) → β → Db F → Prop} {tx : Tx (Db F) Failure β}
    {f : β → Tx (Db F) Failure α} (hdb : db.Bounded) (h : Ensures (Uncrowded r.user) mid w tx db)
    (hf : ∀ w b db', Uncrowded r.user db db' → mid w b db' → QueuesFor r w (f b) db') :
    QueuesFor r w (tx >>= f) db :=
  h.bind (fun _ _ h => h.refl_right) (fun _ _ _ h h' => h.trans h') ⟨hdb, fun _ => le_refl _⟩ hf

/-- A statement that only reads, of what the candidate relies on. -/
theorem queuesFor_read_bind {query : Db F → Except Failure β} {f : β → Tx (Db F) Failure α}
    (hdb : db.Bounded)
    (hf : ∀ b db', Uncrowded r.user db db' →
      (∃ seen, Uncrowded r.user seen db' ∧ query (w seen) = .ok b) → QueuesFor r w (f b) db') :
    QueuesFor r w (Tx.read query >>= f) db :=
  Ensures.read_bind (fun _ _ h => h.refl_right) (fun _ _ _ h h' => h.trans h')
    ⟨hdb, fun _ => le_refl _⟩ hf

end

/-! ## The programs -/

theorem keepsExecutions_id : KeepsExecutions (id : Db F → Db F) := fun _ => rfl

theorem keepsExecutions_updateSession (sessionId : Uuid)
    (f : PracticeSession F → PracticeSession F) :
    KeepsExecutions fun db => db.updateSession sessionId f := fun _ => rfl

theorem transitionTx_keeps (principal : Principal) (sessionId : Uuid)
    (target : PracticeSessionState) (allowed : List PracticeSessionState) (clock : Clock) :
    (transitionTx (F := F) principal sessionId target allowed clock).AllWrites KeepsExecutions := by
  refine (Tx.allWrites_read keepsExecutions_id _).bind fun current => ?_
  split_ifs
  · exact (Tx.allWrites_write keepsExecutions_id (keepsExecutions_updateSession _ _)).bind
      fun _ => Tx.allWrites_read keepsExecutions_id _
  · exact trivial

theorem patchTx_keeps (principal : Principal) (sessionId : Uuid) (draft : Option Str) :
    (patchTx (F := F) principal sessionId draft).AllWrites KeepsExecutions := by
  refine (Tx.allWrites_read keepsExecutions_id _).bind fun current => ?_
  split_ifs
  · exact (Tx.allWrites_write keepsExecutions_id (keepsExecutions_updateSession _ _)).bind
      fun _ => Tx.allWrites_read keepsExecutions_id _
  · exact trivial

theorem insertSubmissionTx_keeps (row : Submission F) :
    (insertSubmissionTx row).AllWrites KeepsExecutions := by
  refine Tx.allWrites_execute keepsExecutions_id fun db write a h => ?_
  obtain ⟨db', -, heq⟩ := map_eq_ok h
  cases heq
  exact fun _ => rfl

section

variable {r : CandidateRequest} {w : Db F → Db F} {db : Db F} {env : Environment}
  {principal : Principal} {q : QueueRequest}

theorem insertQueued_queueing (hprincipal : r.principal = principal)
    {inputPayload : Dict F} {executionId : Uuid} {clock : Clock} {db' : Db F}
    {write : Db F → Db F} {inserted : Bool} (hw : KeepsExecutions w)
    (hroom : db.active r.user q.executionType < maxActive q.executionType)
    (h : insertQueued env principal q inputPayload executionId clock db' = .ok (write, inserted)) :
    Queueing r (write ∘ w) db := by
  unfold insertQueued at h
  split_ifs at h
  · cases h
    exact .inl hw
  · cases h
    refine .inr ⟨queuedExecution env principal q inputPayload executionId clock, fun db => ?_, ?_,
      hroom⟩
    · show (w db).executions ++ _ = _
      rw [hw db]
    · exact congrArg Principal.userId hprincipal.symm

/-- `create_queued` inserts where there is room. -/
theorem createQueuedTx_queues (hprincipal : r.principal = principal) (inputPayload : Dict F)
    (executionId : Uuid) (clock : Clock) (hdb : db.Bounded) (hw : KeepsExecutions w)
    (hroom : db.active r.user q.executionType < maxActive q.executionType) :
    QueuesFor r w (createQueuedTx env principal q inputPayload executionId clock) db := by
  refine queuesFor_read_bind hdb fun found db' hrely _ => ?_
  cases found with
  | some e => exact queuesFor_of_keeps (Tx.allWrites_ofExcept _) (.inl hw)
  | none =>
      have hroom' := (hrely.2 q.executionType).trans_lt hroom
      have hinsert : Ensures (Uncrowded r.user) (fun w _ db => Queueing r w db) w
          (Tx.execute (insertQueued env principal q inputPayload executionId clock)) db' :=
        ensures_execute fun seen db'' hseen hrely'' write inserted h =>
          (insertQueued_queueing hprincipal hw
            ((hseen.2 q.executionType).trans_lt hroom') h).mono hrely''
      refine queuesFor_bind hrely.1 hinsert fun w' inserted db'' _ hqueueing => ?_
      refine queuesFor_of_keeps ?_ hqueueing
      cases inserted with
      | true =>
          exact (Tx.allWrites_write keepsExecutions_id fun db => Db.send_executions ..).bind
            fun _ => trivial
      | false =>
          refine (Tx.allWrites_read keepsExecutions_id _).bind fun found => ?_
          cases found with
          | some e => exact Tx.allWrites_ofExcept _
          | none => exact trivial

variable [Runtime F]

/-- What the count of `_enforce_backpressure` leaves room for. -/
theorem queueExecutionTx_queues (hprincipal : r.principal = principal)
    (structuredContent : Json F) (executionId : Uuid) (clock : Clock) (hdb : db.Bounded)
    (hw : KeepsExecutions w) :
    QueuesFor r w (queueExecutionTx env principal q structuredContent executionId clock) db := by
  refine queuesFor_read_bind hdb fun _ db' hrely hcount => ?_
  obtain ⟨seen, hseen, henforce⟩ := hcount
  have hroom : db'.active r.user q.executionType < maxActive q.executionType := by
    have hlt := enforceBackpressure_ok henforce
    rw [Db.active_congr _ _ (hw seen), ← hprincipal] at hlt
    exact (hseen.2 q.executionType).trans_lt hlt
  have hconfig : Ensures (Uncrowded r.user) (fun w' _ _ => w' = w) w
      (Tx.ofExcept (ε := Failure) (runtimeExecutionConfig env.functionNames structuredContent
        q.runtime (decide (q.executionType = .run)))) db' :=
    ensures_ofExcept fun _ _ _ _ => rfl
  refine queuesFor_bind hrely.1 hconfig ?_
  rintro w' inputPayload db'' hrely' rfl
  exact createQueuedTx_queues hprincipal inputPayload executionId clock hrely'.1 hw
    ((hrely'.2 q.executionType).trans_lt hroom)

theorem queueRunTx_queues (c : QueueCall) (hprincipal : r.principal = c.principal)
    (hdb : db.Bounded) (hw : KeepsExecutions w) : QueuesFor r w (queueRunTx env c) db := by
  refine Ensures.mapError (queuesFor_read_bind hdb fun found db' hrely _ => ?_)
  obtain ⟨question, runtime⟩ := found
  refine queuesFor_read_bind hrely.1 fun existing db'' hrely' _ => ?_
  cases existing with
  | some accepted => exact queuesFor_of_keeps trivial (.inl hw)
  | none =>
      refine queuesFor_bind hrely'.1
        (queueExecutionTx_queues hprincipal _ _ _ hrely'.1 hw) fun w' accepted _ _ hqueueing => ?_
      exact queuesFor_of_keeps ((Tx.allWrites_write keepsExecutions_id
        (keepsExecutions_updateSession _ _)).bind fun _ => trivial) hqueueing

theorem queueSubmitTx_queues (c : QueueCall) (hprincipal : r.principal = c.principal)
    (hdb : db.Bounded) (hw : KeepsExecutions w) : QueuesFor r w (queueSubmitTx env c) db := by
  refine Ensures.mapError (queuesFor_read_bind hdb fun found db' hrely _ => ?_)
  obtain ⟨question, runtime⟩ := found
  refine queuesFor_read_bind hrely.1 fun existing db'' hrely' _ => ?_
  cases existing with
  | some accepted => exact queuesFor_of_keeps trivial (.inl hw)
  | none =>
      refine queuesFor_read_bind hrely'.1 fun _ db₃ hrely₃ _ => ?_
      have hinsert : Ensures (Uncrowded r.user) (fun w _ _ => KeepsExecutions w) w
          (insertSubmissionTx (queuedSubmissionRow (F := F) c.principal
            (submitRequest c.request question runtime c.idempotencyKey c.ids.submissionId)
            c.idempotencyKey c.ids.submissionId)) db₃ :=
        ensures_of_allWrites (fun w v _ hw hv db => (hv (w db)).trans (hw db))
          (fun _ _ _ _ hw => hw) (insertSubmissionTx_keeps _) hw
      refine queuesFor_bind hrely₃.1 hinsert fun w' _ db₄ hrely₄ hw' => ?_
      refine queuesFor_bind hrely₄.1
        (queueExecutionTx_queues hprincipal _ _ _ hrely₄.1 hw') fun w'' accepted _ _ hqueueing => ?_
      refine queuesFor_of_keeps ((transitionTx_keeps _ _ _ _ _).bind fun _ => ?_) hqueueing
      exact (Tx.allWrites_write keepsExecutions_id (keepsExecutions_updateSession _ _)).bind
        fun _ => trivial

theorem program_queues (r : CandidateRequest) (hdb : db.Bounded) :
    Guarded (Uncrowded r.user) (QueuesOne r) id (r.program (F := F) env) db := by
  have hqueues : QueuesFor r id (r.program (F := F) env) db := by
    have hanswer {α : Type} {tx : Tx (Db F) Failure α} (f : α → Answer F)
        (htx : QueuesFor r id tx db) :
        QueuesFor r id (tx >>= fun a => pure (f a)) db :=
      queuesFor_bind hdb htx fun _ _ _ _ hq => queuesFor_of_keeps trivial hq
    cases r with
    | queueRun c => exact hanswer _ (queueRunTx_queues c rfl hdb keepsExecutions_id)
    | queueSubmit c => exact hanswer _ (queueSubmitTx_queues c rfl hdb keepsExecutions_id)
    | route principal sessionId route clock =>
        exact hanswer _ (queuesFor_of_keeps (transitionTx_keeps _ _ _ _ _) (.inl keepsExecutions_id))
    | patch principal sessionId draft =>
        exact hanswer _ (queuesFor_of_keeps (patchTx_keeps _ _ _) (.inl keepsExecutions_id))
  exact hqueues.imp fun _ _ _ h => h.queuesOne

omit [Runtime F] in
theorem QueuesOne.bounded {db' : Db F} (h : QueuesOne r db db') (hdb : db.Bounded)
    (hunique : db'.UniqueExecutions) :
    db'.Bounded ∧ ∀ k, k ≠ r.user → Uncrowded k db db' := by
  have hcounts : (∀ type, db'.active r.user type ≤ maxActive type)
      ∧ ∀ k, k ≠ r.user → ∀ type, db'.active k type ≤ db.active k type := by
    rcases h with hsame | ⟨e, happends, hcandidate, hroom⟩
    · simp only [Db.active_congr _ _ hsame]
      exact ⟨fun type => hdb.active_le r.user type, fun _ _ _ => le_refl _⟩
    · constructor
      · intro type
        rw [Db.active_append _ _ happends]
        have hle := hdb.active_le r.user type
        split_ifs with hactive
        · rw [hactive.2.1] at hroom
          exact hroom
        · exact hle
      · intro k hk type
        rw [Db.active_append _ _ happends, if_neg fun hactive =>
          hk (hactive.1.symm.trans hcandidate)]
        exact le_refl _
  have hbounded : db'.Bounded := by
    refine ⟨hunique, fun candidate type => ?_⟩
    by_cases hk : candidate = r.user
    · rw [hk]
      exact hcounts.1 type
    · exact (hcounts.2 candidate hk type).trans (hdb.active_le candidate type)
  exact ⟨hbounded, fun k hk => ⟨hbounded, hcounts.2 k hk⟩⟩

end

/-! ## Runs -/

variable [Runtime F]

theorem backpressure_rules (env : Environment) (evaluator : Evaluator F) :
    Rules CandidateRequest.user (CandidateRequest.program env) Db.UniqueExecutions
      (Background env evaluator) Db.Bounded Uncrowded QueuesOne where
  refl _ _ hdb := ⟨hdb, fun _ => le_refl _⟩
  trans _ _ _ _ h h' := h.trans h'
  environment db a db' hdb h := by
    have hsettles := h.settles
    have hle := hsettles.active_le hdb.unique
    have hbounded : db'.Bounded := ⟨hsettles.unique hdb.unique, fun candidate type =>
      (hle candidate type).trans (hdb.active_le candidate type)⟩
    exact ⟨hbounded, fun k => ⟨hbounded, hle k⟩⟩
  program r _ hdb := program_queues r hdb
  commit _ _ _ hdb hvalid h := h.bounded hdb hvalid

/-- The server: the tables, and the open transactions of the candidates. -/
abbrev Server (F : Type) := State (Db F) Uuid CandidateRequest Failure (Answer F)

def sampleQueueCall : QueueCall where
  principal := sampleCandidate
  request := sampleRequest
  idempotencyKey := "key-0001"
  slug := "join-basics"
  ids := ⟨"execution-1", "submission-1"⟩
  clock := zeroClock

/-- A session has been started, and no request is under way. -/
def quietServer : Server FloatConst := ⟨startedDb, fun _ => none⟩

theorem quietServer_bounded : quietServer.store.Bounded where
  unique := List.nodup_nil
  active_le _ _ := Nat.zero_le _

end Rigor
