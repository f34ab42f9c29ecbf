import Rigor.DeadLetters
import Rigor.SubmissionLifecycle

/-!
# What the tables owe the workers

Every execution has a row in the outbox that asks for it, and every row there
is of an execution that exists (`Db.Announced`). No transaction takes a row
back, or puts an execution back into the queue (`Db.Later`).
-/

namespace Rigor

open Py Runs

variable {F : Type}

/-! ## Executions -/

/-- What `e'` keeps of `e`, whatever transactions lie between. -/
structure Execution.Follows (e e' : Execution F) : Prop where
  columns : e'.row.toRequestColumns = e.row.toRequestColumns
  queued : e'.state = .queued → e.state = .queued
  terminal : e.state.IsTerminal → e'.state = e.state
  jobName : e.state.IsTerminal → jobName e = none → jobName e' = none

theorem Execution.Follows.refl (e : Execution F) : e.Follows e :=
  ⟨rfl, fun h => h, fun _ => rfl, fun _ h => h⟩

theorem Execution.Follows.trans {e e' e'' : Execution F} (h : e.Follows e') (h' : e'.Follows e'') :
    e.Follows e'' where
  columns := h'.columns.trans h.columns
  queued hqueued := h.queued (h'.queued hqueued)
  terminal ht := (h'.terminal (h.terminal ht ▸ ht)).trans (h.terminal ht)
  jobName ht hnone := h'.jobName (h.terminal ht ▸ ht) (h.jobName ht hnone)

theorem Execution.Follows.id_eq {e e' : Execution F} (h : e.Follows e') : e'.id = e.id :=
  congrArg RequestColumns.id h.columns

theorem Execution.Follows.traceId {e e' : Execution F} (h : e.Follows e') :
    e'.row.traceId = e.row.traceId := congrArg RequestColumns.traceId h.columns

theorem Execution.Follows.over {e e' : Execution F} (h : e.Follows e') {event : ExecutionQueueEvent}
    (hover : e.Over event) : e'.Over event := by
  have hstate := h.terminal hover.1
  refine ⟨hstate ▸ hover.1, fun cancelled hevent hcancelled => ?_⟩
  exact h.jobName hover.1 (hover.2 cancelled hevent (hstate ▸ hcancelled))

theorem clearCancelled_follows (e : Execution F) : e.Follows (clearCancelled e) := by
  unfold clearCancelled
  split_ifs
  · exact ⟨rfl, fun h => h, fun _ => rfl, fun _ _ => rfl⟩
  · exact .refl e

theorem clearTerminalOrphan_follows (e : Execution F) : e.Follows (clearTerminalOrphan e) := by
  unfold clearTerminalOrphan
  split_ifs
  · exact ⟨rfl, fun h => h, fun _ => rfl, fun _ _ => rfl⟩
  · exact .refl e

theorem not_queued_of_active {status : ExecutionStatus} (h : status.IsActive) :
    status ≠ .queued := by
  rintro rfl
  rcases h with h | h <;> cases h

section

variable {workerId : Str} {deadline : Time} {clock : Clock} {e e' : Execution F}

theorem claimForDispatch_ok {claim : Option ExecutionClaim}
    (h : claimForDispatch workerId deadline clock e = .ok (e', claim)) :
    e'.state ≠ .queued ∧ (e.state ≠ .queued → e' = e) := by
  rw [claimForDispatch] at h
  obtain ⟨-, -, h⟩ := bind_eq_ok h
  split_ifs at h with hqueued
  · cases h
    exact ⟨fun h => (by cases h), fun hne => absurd hqueued hne⟩
  · cases h
    exact ⟨hqueued, fun _ => rfl⟩

theorem retryMissingSandbox_idle {expectedAttempt : Int} {maxAttempts : Int} {attempt : Option Int}
    (h : retryMissingSandbox expectedAttempt workerId deadline maxAttempts clock e
      = .ok (e', attempt)) : e' = e ∨ e.state.IsActive ∧ e'.state = .dispatching := by
  rw [retryMissingSandbox] at h
  obtain ⟨-, -, h⟩ := bind_eq_ok h
  split_ifs at h with hbound hrow
  · cases h
    exact .inl rfl
  · cases h
    exact .inr ⟨hrow.1, rfl⟩
  · cases h
    exact .inl rfl

theorem markRunning_idle (workerId kubernetesNamespace kubernetesJobName : Str) (clock : Clock)
    (e : Execution F) : (markRunning workerId kubernetesNamespace kubernetesJobName clock e).1 = e
      ∨ e.state.IsActive
        ∧ (markRunning workerId kubernetesNamespace kubernetesJobName clock e).1.state
          = .running := by
  rw [markRunning]
  split_ifs with hrow
  · exact .inr ⟨.inl hrow.1, rfl⟩
  · exact .inl rfl

theorem renewLease_idle {renewed : Bool}
    (h : renewLease workerId deadline clock e = .ok (e', renewed)) :
    e'.state = e.state ∧ (¬e.state.IsActive → e' = e) := by
  rw [renewLease] at h
  obtain ⟨-, -, h⟩ := bind_eq_ok h
  split_ifs at h with hrow
  · cases h
    exact ⟨rfl, fun hne => absurd hrow.2 hne⟩
  · cases h
    exact ⟨rfl, fun _ => rfl⟩

theorem deferInfrastructureRetry_state (attemptCount : Int) (workerId category : Str)
    (clock : Clock) (e : Execution F) :
    (deferInfrastructureRetry attemptCount workerId category clock e).1.state = e.state := by
  rw [deferInfrastructureRetry]
  split_ifs <;> rfl

theorem reacquireExpiredExecution_idle {lease : ExpiredExecutionLease} {missing : Bool}
    {kubernetesNamespace kubernetesJobName : Str} {package : Option (DispatchPackage F)}
    (h : reacquireExpiredExecution lease missing workerId deadline kubernetesNamespace
      kubernetesJobName clock e = (e', package)) :
    e'.state = e.state ∨ e.state.IsActive ∧ e'.state = .running := by
  rw [reacquireExpiredExecution] at h
  by_cases hrow : e.state = lease.status ∧ e.row.attemptCount = lease.attemptCount
      ∧ e.LeaseExpired clock.database
  · rw [if_pos hrow] at h
    by_cases hmark : lease.status = .dispatching ∧ missing = false
    · rw [if_pos hmark] at h
      cases h
      rcases markRunning_idle workerId kubernetesNamespace kubernetesJobName clock
        { e with row := { e.row with
            leaseOwner := some workerId, leaseExpiresAt := some deadline } }
        with hsame | ⟨hactive, hstate⟩
      · rw [hsame]
        exact .inl rfl
      · exact .inr ⟨hactive, hstate⟩
    · rw [if_neg hmark] at h
      cases h
      exact .inl rfl
  · rw [if_neg hrow] at h
    cases h
    exact .inl rfl

theorem cancel_ok {traceId : Str} (h : cancel traceId clock e = .ok e') :
    e'.state = .cancelled := by
  rw [cancel] at h
  split_ifs at h with hcancelled
  · cases h
    exact hcancelled
  · exact (transition_ok h).2.1

end

/-- What a step makes of the state. -/
inductive StateMove (s s' : ExecutionStatus) : Prop where
  | still (h : s' = s)
  | cancelled (h : s' = .cancelled)
  | active (source : s.IsActive) (target : s' ≠ .queued)

theorem Step.stateMove {evaluator : Evaluator F} {s t : System F} {a : Action F × Clock}
    (h : Step evaluator s a t)
    (hclaim : ∀ workerId deadline, a.1 ≠ .claimForDispatch workerId deadline) :
    StateMove s.state t.state := by
  have hmoved : ∀ {status : ExecutionStatus}, s.state.IsActive → t.state = status →
      status ≠ .queued → StateMove s.state t.state :=
    fun hactive hstate hne => .active hactive (hstate ▸ hne)
  cases h with
  | claimForDispatch h => exact absurd rfl (hclaim _ _)
  | retryMissingSandbox h =>
      rcases retryMissingSandbox_idle h with rfl | ⟨hactive, hstate⟩
      · exact .still rfl
      · exact hmoved hactive hstate (by decide)
  | markRunning =>
      rcases markRunning_idle _ _ _ _ s.attempt.execution with hsame | ⟨hactive, hstate⟩
      · exact .still (congrArg Execution.state hsame)
      · exact hmoved hactive hstate (by decide)
  | renewLease h => exact .still (renewLease_idle h).1
  | deferInfrastructureRetry held => exact .still (deferInfrastructureRetry_state ..)
  | reacquireExpiredExecution h =>
      rcases reacquireExpiredExecution_idle h with hsame | ⟨hactive, hstate⟩
      · exact .still hsame
      · exact hmoved hactive hstate (by decide)
  | cancel h => exact .cancelled (cancel_ok h)
  | persistObservation held h =>
      rcases persistObservation_ok h with rfl | ⟨-, -, hactive, p, -, hpersist, -⟩
      · exact .still rfl
      · refine hmoved hactive (persistTerminalResult_ok hactive hpersist).2.1 fun hqueued => ?_
        exact queued_not_terminal (hqueued ▸ p.status_terminal)

/-- A claim leaves nothing in the queue. -/
theorem Step.claimed {evaluator : Evaluator F} {s t : System F} {workerId : Str} {deadline : Time}
    {clock : Clock} (h : Step evaluator s (.claimForDispatch workerId deadline, clock) t) :
    t.state ≠ .queued := by
  cases h with
  | claimForDispatch h => exact (claimForDispatch_ok h).1

theorem Step.queued {evaluator : Evaluator F} {s t : System F} {a : Action F × Clock}
    (h : Step evaluator s a t) (ht : t.state = .queued) : s.state = .queued := by
  obtain ⟨action, clock⟩ := a
  have hclaim : ∀ workerId deadline, action ≠ .claimForDispatch workerId deadline := by
    rintro workerId deadline rfl
    exact h.claimed ht
  cases h.stateMove hclaim with
  | still hstate => exact hstate.symm.trans ht
  | cancelled hstate => cases hstate.symm.trans ht
  | active _ hne => exact absurd ht hne

theorem Step.follows {evaluator : Evaluator F} {s t : System F} {a : Action F × Clock}
    (h : Step evaluator s a t) : s.attempt.execution.Follows t.attempt.execution where
  columns := h.columns
  queued := h.queued
  terminal ht := by rw [h.terminal ht]
  jobName ht hnone := by rw [h.terminal ht]; exact hnone

/-! ## Rows -/

namespace OutboxMessage

/-- The row that `create_queued` writes. -/
def requested (executionId : Uuid) (requestedAt : Time) (traceId : Str) : OutboxMessage :=
  ⟨executionId, "execution.requested", "execution.requested:" ++ executionId, requestedAt, traceId⟩

/-- The row that `cancel` writes. -/
def cancelRequested (executionId : Uuid) (requestedAt : Time) (traceId : Str) : OutboxMessage :=
  ⟨executionId, "execution.cancel_requested", "execution.cancel_requested:" ++ executionId,
    requestedAt, traceId⟩

/-- The row asks the workers for the execution. -/
structure Requests (m : OutboxMessage) (e : Execution F) : Prop where
  eventType : m.eventType = "execution.requested"
  aggregateId : m.aggregateId = e.id
  traceId : m.traceId = e.row.traceId

theorem requested_written {executionId : Uuid} {requestedAt : Time} (traceId : Str)
    (hid : isUuidText executionId = true) (hat : IsDatetime requestedAt) :
    (requested executionId requestedAt traceId).Written := ⟨.inl rfl, rfl, hid, hat⟩

theorem cancelRequested_written {executionId : Uuid} {requestedAt : Time} (traceId : Str)
    (hid : isUuidText executionId = true) (hat : IsDatetime requestedAt) :
    (cancelRequested executionId requestedAt traceId).Written := ⟨.inr rfl, rfl, hid, hat⟩

/-- The key says which execution is asked for. -/
theorem Written.aggregateId_of_key {m : OutboxMessage} (h : m.Written) {executionId : Uuid}
    {requestedAt : Time} {traceId : Str}
    (hkey : m.dedupeKey = (requested executionId requestedAt traceId).dedupeKey) :
    m.aggregateId = executionId := by
  have hkey' : m.eventType ++ (":" ++ m.aggregateId : Str)
      = ("execution.requested:" ++ executionId : Str) := h.dedupeKey.symm.trans hkey
  rcases h.eventType with htype | htype
  · rw [htype] at hkey'
    have hcancel : Str.ofString "execution.requested:" ++ m.aggregateId
        = Str.ofString "execution.requested:" ++ executionId := hkey'
    exact List.append_cancel_left hcancel
  · rw [htype] at hkey'
    have htake := congrArg (List.take 11) hkey'
    have hne : (Str.ofString "execution.cancel_requested").take 11
        ≠ (Str.ofString "execution.requested:").take 11 := by decide
    refine absurd ?_ hne
    exact (List.take_append_of_le_length (by decide)).symm.trans
      (htake.trans (List.take_append_of_le_length (by decide)))

end OutboxMessage

namespace Db

theorem send_outbox {m : OutboxMessage} {db : Db F} {m' : OutboxMessage} :
    m' ∈ (db.send m).outbox ↔
      m' ∈ db.outbox ∨ m.dedupeKey ∉ db.outbox.map OutboxMessage.dedupeKey ∧ m' = m := by
  rw [send]
  split_ifs with hkey
  · exact ⟨.inl, fun h => h.elim id fun h => absurd hkey h.1⟩
  · rw [List.mem_append, List.mem_singleton]
    exact or_congr_right ⟨fun h => ⟨hkey, h⟩, fun h => h.2⟩

/-- What is sent depends on the rows there alone. -/
theorem send_outbox_congr {m : OutboxMessage} {db db' : Db F} (h : db'.outbox = db.outbox) :
    (db'.send m).outbox = (db.send m).outbox := by
  rw [send, send, h]
  split_ifs
  · exact h
  · rfl

theorem send_keys {m : OutboxMessage} {db : Db F}
    (h : (db.outbox.map OutboxMessage.dedupeKey).Nodup) :
    ((db.send m).outbox.map OutboxMessage.dedupeKey).Nodup := by
  rw [send]
  split_ifs with hkey
  · exact h
  · rw [List.map_append]
    exact List.Nodup.append h (List.nodup_singleton _) (List.disjoint_singleton.mpr hkey)

end Db

/-- Every execution is asked for, and nothing else is. -/
structure Db.Announced (db : Db F) : Prop where
  linked : db.Linked
  keys : (db.outbox.map OutboxMessage.dedupeKey).Nodup
  written : ∀ m ∈ db.outbox, m.Written
  known : ∀ m ∈ db.outbox, ∃ e, db.execution m.aggregateId = some e
  requested : ∀ e ∈ db.executions, ∃ m ∈ db.outbox, m.Requests e

/-- What `db'` keeps of `db`, whatever transactions lie between. -/
structure Db.Later (db db' : Db F) : Prop where
  execution : ∀ id e, db.execution id = some e → ∃ e', db'.execution id = some e' ∧ e.Follows e'
  outbox : ∀ m ∈ db.outbox, m ∈ db'.outbox

namespace Db

theorem Later.refl (db : Db F) : db.Later db :=
  ⟨fun _ e he => ⟨e, he, .refl e⟩, fun _ hm => hm⟩

theorem Linked.execution_of_mem {db : Db F} (h : db.Linked) {e : Execution F}
    (he : e ∈ db.executions) : db.execution e.id = some e :=
  Tables.find_of_mem (db.execution_ids ▸ h.executionIds) he

/-- A change of one execution keeps what the workers are told. -/
theorem Announced.of_update {db db' : Db F} (h : db.Announced) (hlinked : db'.Linked)
    (hlater : db.Later db') (hfrom : ∀ e' ∈ db'.executions, ∃ e ∈ db.executions, e.Follows e')
    (houtbox : db'.outbox = db.outbox) : db'.Announced where
  linked := hlinked
  keys := houtbox ▸ h.keys
  written := houtbox ▸ h.written
  known m hm := by
    obtain ⟨e, he⟩ := h.known m (houtbox ▸ hm)
    obtain ⟨e', he', -⟩ := hlater.execution _ e he
    exact ⟨e', he'⟩
  requested e' he' := by
    obtain ⟨e, he, hfollows⟩ := hfrom e' he'
    obtain ⟨m, hm, hrequests⟩ := h.requested e he
    exact ⟨m, houtbox ▸ hm, hrequests.eventType, hrequests.aggregateId.trans hfollows.id_eq.symm,
      hrequests.traceId.trans hfollows.traceId.symm⟩

/-- A row of an existing execution is written, or was before. -/
theorem Announced.send {db : Db F} (h : db.Announced) {m : OutboxMessage} (hm : m.Written)
    {e : Execution F} (he : db.execution m.aggregateId = some e) : (db.send m).Announced where
  linked := by
    refine ⟨?_, ?_, ?_, ?_, ?_, ?_⟩
    all_goals simp only [columns, submissionIds, send_executions, send_submissions]
    · exact h.linked.executionIds
    · exact h.linked.keys
    · exact h.linked.submissionIds
    · exact h.linked.submission
    · exact h.linked.owners
    · exact h.linked.submits
  keys := send_keys h.keys
  written m' hm' := by
    rcases send_outbox.mp hm' with hm' | ⟨-, rfl⟩
    · exact h.written m' hm'
    · exact hm
  known m' hm' := by
    have hsame : (db.send m).execution m'.aggregateId = db.execution m'.aggregateId := by
      rw [execution, send_executions]
      rfl
    rw [hsame]
    rcases send_outbox.mp hm' with hm' | ⟨-, rfl⟩
    · exact h.known m' hm'
    · exact ⟨e, he⟩
  requested e' he' := by
    rw [send_executions] at he'
    obtain ⟨m', hm', hrequests⟩ := h.requested e' he'
    exact ⟨m', send_outbox.mpr (.inl hm'), hrequests⟩

theorem Later.send (db : Db F) (m : OutboxMessage) : db.Later (db.send m) where
  execution id e he := by
    refine ⟨e, ?_, .refl e⟩
    rw [Db.execution, send_executions]
    exact he
  outbox m' hm' := send_outbox.mpr (.inl hm')

theorem Later.trans {db db' db'' : Db F} (h : db.Later db') (h' : db'.Later db'') :
    db.Later db'' where
  execution id e he := by
    obtain ⟨e', he', hfollows⟩ := h.execution id e he
    obtain ⟨e'', he'', hfollows'⟩ := h'.execution id e' he'
    exact ⟨e'', he'', hfollows.trans hfollows'⟩
  outbox m hm := h'.outbox m (h.outbox m hm)

theorem Later.of_executions {db db' : Db F} (hlinked : db'.Linked)
    (hexecutions : ∀ e ∈ db.executions, e ∈ db'.executions)
    (houtbox : ∀ m ∈ db.outbox, m ∈ db'.outbox) : db.Later db' where
  execution id e he := by
    have hid : e.id = id := Tables.key_of_find he
    have hmem := hlinked.execution_of_mem (hexecutions e (Tables.mem_of_find he))
    exact ⟨e, hid ▸ hmem, .refl e⟩
  outbox := houtbox

/-- A new execution is announced with it. -/
theorem Announced.of_queued {db db' : Db F} (h : db.Announced) (hlinked : db'.Linked)
    {e : Execution F} (hnew : db.execution e.id = none)
    (hexecutions : db'.executions = db.executions ++ [e]) {requestedAt : Time}
    (hid : isUuidText e.id = true) (hat : IsDatetime requestedAt)
    (houtbox : db'.outbox = (db.send (.requested e.id requestedAt e.row.traceId)).outbox) :
    db.Later db' ∧ db'.Announced := by
  set row := OutboxMessage.requested e.id requestedAt e.row.traceId
  have hmem : ∀ m, m ∈ db'.outbox ↔ m ∈ db.outbox
      ∨ row.dedupeKey ∉ db.outbox.map OutboxMessage.dedupeKey ∧ m = row := by
    intro m
    rw [houtbox]
    exact send_outbox
  have hlater : db.Later db' := .of_executions hlinked
    (fun e he => hexecutions ▸ List.mem_append_left _ he) fun m hm => (hmem m).mpr (.inl hm)
  have hself : db'.execution e.id = some e := hlinked.execution_of_mem
    (hexecutions ▸ List.mem_append_right _ (List.mem_singleton_self _))
  -- a row with the key of the new one would be of an execution with its identifier
  have hkey : row.dedupeKey ∉ db.outbox.map OutboxMessage.dedupeKey := by
    intro hkey
    obtain ⟨m, hm, hsame⟩ := List.mem_map.mp hkey
    obtain ⟨e', he'⟩ := h.known m hm
    rw [(h.written m hm).aggregateId_of_key hsame, hnew] at he'
    cases he'
  refine ⟨hlater, hlinked, houtbox ▸ send_keys h.keys, fun m hm => ?_, fun m hm => ?_,
    fun e' he' => ?_⟩
  · rcases (hmem m).mp hm with hm | ⟨-, rfl⟩
    · exact h.written m hm
    · exact OutboxMessage.requested_written _ hid hat
  · rcases (hmem m).mp hm with hm | ⟨-, rfl⟩
    · obtain ⟨e', he'⟩ := h.known m hm
      obtain ⟨e'', he'', -⟩ := hlater.execution _ e' he'
      exact ⟨e'', he''⟩
    · exact ⟨e, hself⟩
  · rw [hexecutions] at he'
    rcases List.mem_append.mp he' with he' | he'
    · obtain ⟨m, hm, hrequests⟩ := h.requested e' he'
      exact ⟨m, hlater.outbox m hm, hrequests⟩
    · obtain rfl := List.mem_singleton.mp he'
      exact ⟨_, (hmem _).mpr (.inr ⟨hkey, rfl⟩), rfl, rfl, rfl⟩

end Db

/-! ## Requests of a candidate -/

theorem createQueued_outbox {env : Environment} {principal : Principal} {q : QueueRequest}
    {inputPayload : Dict F} {executionId : Uuid} {clock : Clock} {db db' : Db F}
    {accepted : ExecutionAccepted} (hnone : findByIdempotency principal q.idempotencyKey db = none)
    (h : createQueued env principal q inputPayload executionId clock db = .ok (db', accepted)) :
    db'.outbox
      = (db.send (.requested executionId clock.app principal.correlationId)).outbox := by
  rw [createQueued, hnone] at h
  dsimp only at h
  split_ifs at h
  cases h
  exact Db.send_outbox_congr rfl

theorem publish_outbox {versionId : Uuid} {reviewed : Bool} {db db' : Db F}
    (h : publish versionId reviewed db = .ok db') : db'.outbox = db.outbox := by
  rw [publish] at h
  split at h
  · cases h
  · split_ifs at h
    cases h
    rfl

section

variable [Runtime F]

theorem queueExecution_outbox {env : Environment} {principal : Principal} {q : QueueRequest}
    {content : Json F} {executionId : Uuid} {clock : Clock} {db db' : Db F}
    {accepted : ExecutionAccepted} (hnone : findByIdempotency principal q.idempotencyKey db = none)
    (h : queueExecution env principal q content executionId clock db = .ok (db', accepted)) :
    db'.outbox
      = (db.send (.requested executionId clock.app principal.correlationId)).outbox := by
  rw [queueExecution] at h
  obtain ⟨-, -, h⟩ := bind_eq_ok h
  obtain ⟨inputPayload, -, h⟩ := bind_eq_ok h
  exact createQueued_outbox hnone h

theorem queueRun_outbox {env : Environment} {principal : Principal} {request : PracticeRunRequest}
    {idempotencyKey slug : Str} {ids : NewIds} {check : StateRead} {clock : Clock}
    {db db' : Db F} {accepted : ExecutionAccepted}
    (hnone : findByIdempotency principal ("run:" ++ idempotencyKey) db = none)
    (h : queueRun env principal request idempotencyKey slug ids check clock db
      = .ok (db', accepted)) :
    db'.outbox
      = (db.send (.requested ids.executionId clock.app principal.correlationId)).outbox := by
  rw [queueRun] at h
  obtain ⟨⟨question, runtime⟩, -, h⟩ := bind_eq_ok (mapError_eq_ok h)
  obtain ⟨found, hfound, h⟩ := bind_eq_ok h
  rcases existingExecution_ok hfound with ⟨rfl, -⟩ | ⟨e, hsome, -, -⟩
  · dsimp only at h
    rw [queueNewRun] at h
    obtain ⟨⟨queued, accepted⟩, hqueue, h⟩ := bind_eq_ok h
    have houtbox := queueExecution_outbox (q := runRequest request question runtime idempotencyKey)
      hnone hqueue
    cases h
    exact houtbox
  · cases hnone.symm.trans hsome

theorem queueSubmit_outbox {env : Environment} {principal : Principal}
    {request : PracticeRunRequest} {idempotencyKey slug : Str} {ids : NewIds}
    {check reread : StateRead} {clock : Clock} {db db' : Db F} {accepted : ExecutionAccepted}
    (hnone : findByIdempotency principal ("submit:" ++ idempotencyKey) db = none)
    (h : queueSubmit env principal request idempotencyKey slug ids check reread clock db
      = .ok (db', accepted)) :
    db'.outbox
      = (db.send (.requested ids.executionId clock.app principal.correlationId)).outbox := by
  rw [queueSubmit] at h
  obtain ⟨⟨question, runtime⟩, -, h⟩ := bind_eq_ok (mapError_eq_ok h)
  obtain ⟨found, hfound, h⟩ := bind_eq_ok h
  rcases existingExecution_ok hfound with ⟨rfl, -⟩ | ⟨e, hsome, -, -⟩
  · dsimp only at h
    rw [queueNewSubmit] at h
    obtain ⟨-, -, h⟩ := bind_eq_ok h
    obtain ⟨inserted, hinsert, hqueued⟩ := bind_eq_ok h
    obtain ⟨⟨queued, accepted⟩, hqueue, hrest⟩ := bind_eq_ok hqueued
    obtain ⟨moved, hmove, h⟩ := bind_eq_ok hrest
    obtain ⟨-, rfl⟩ := insertSubmission_ok hinsert
    obtain ⟨f, -, -, rfl⟩ := transitionSession_ok hmove
    have houtbox := queueExecution_outbox
      (q := submitRequest request question runtime idempotencyKey ids.submissionId)
      (by exact hnone) hqueue
    cases h
    exact houtbox.trans (Db.send_outbox_congr rfl)
  · cases hnone.symm.trans hsome

/-! ## Steps -/

/-- A text that the column of the trace id holds. -/
structure FitsTraceId (s : Str) : Prop where
  encodable : isEncodable s = true
  length : s.length ≤ 160

theorem FitsTraceId.accepted_iff {s : Str} (h : FitsTraceId s) : AcceptedTraceId s ↔ s ≠ [] := by
  refine ⟨fun haccepted hnil => ?_, fun hne => ⟨⟨?_, h.length⟩, h.encodable⟩⟩
  · subst hnil
    exact absurd haccepted.length.1 (by decide)
  · exact List.length_pos_iff.mpr hne

/-- A new identifier is a `uuid`, and the header fits in its column. -/
structure Principal.Arrives (principal : Principal) (executionId : Uuid) (clock : Clock) :
    Prop where
  executionId : isUuidText executionId = true
  app : IsDatetime clock.app
  traceId : FitsTraceId principal.correlationId

/-- What the code takes from outside is of the type it has there. -/
def DbAction.Arrives : DbAction F × Clock → Prop
  | (.queueRun principal _ _ _ ids _, clock) => principal.Arrives ids.executionId clock
  | (.queueSubmit principal _ _ _ ids _ _, clock) => principal.Arrives ids.executionId clock
  | (.execution _ (.cancel _), clock) => IsDatetime clock.app
  | _ => True

omit [Runtime F] in
theorem Db.Announced.of_same {db db' : Db F} (h : db.Announced) (hlinked : db'.Linked)
    (hexecutions : db'.executions = db.executions) (houtbox : db'.outbox = db.outbox) :
    db.Later db' ∧ db'.Announced := by
  have hlater : db.Later db' := .of_executions hlinked (fun e he => hexecutions ▸ he)
    fun m hm => houtbox ▸ hm
  exact ⟨hlater, h.of_update hlinked hlater (fun e he => ⟨e, hexecutions ▸ he, .refl e⟩) houtbox⟩

omit [Runtime F] in
/-- One execution is changed. -/
theorem Db.Announced.of_changed {db db' : Db F} (h : db.Announced) (hlinked : db'.Linked)
    {id : Uuid} {f : Execution F → Execution F}
    (hf : ∀ e, db.execution id = some e → e.Follows (f e))
    (hexecutions : db'.executions = Tables.update Execution.id id f db.executions)
    (houtbox : db'.outbox = db.outbox) : db.Later db' ∧ db'.Announced := by
  have hlater : db.Later db' := by
    refine ⟨fun id' e he => ?_, fun m hm => houtbox ▸ hm⟩
    have hmem := Tables.mem_of_find he
    have hkey : e.id = id' := Tables.key_of_find he
    by_cases hid : e.id = id
    · have hfollows := hf e (hid ▸ h.linked.execution_of_mem hmem)
      refine ⟨f e, ?_, hfollows⟩
      rw [← hkey, ← hfollows.id_eq]
      exact hlinked.execution_of_mem (hexecutions ▸ Tables.mem_update_of_eq hmem hid)
    · refine ⟨e, ?_, .refl e⟩
      rw [← hkey]
      exact hlinked.execution_of_mem (hexecutions ▸ Tables.mem_update_of_ne hmem hid)
  refine ⟨hlater, h.of_update hlinked hlater (fun e' he' => ?_) houtbox⟩
  rw [hexecutions] at he'
  rcases Tables.mem_update he' with ⟨he, -⟩ | ⟨e, he, hid, rfl⟩
  · exact ⟨e', he, .refl e'⟩
  · exact ⟨e, he, hf e (hid ▸ h.linked.execution_of_mem he)⟩

/-- What a transaction keeps. -/
theorem DbStep.later {env : Environment} {evaluator : Evaluator F} {db db' : Db F}
    {a : DbAction F × Clock} (h : DbStep env evaluator db a db') (hdb : db.Announced)
    (ha : DbAction.Arrives a) : db.Later db' ∧ db'.Announced := by
  have hlinked := (h.columns hdb.linked).linked hdb.linked
  cases h with
  | createSession h =>
      rcases createSession_ok h with rfl | ⟨_, _, -, -, rfl⟩
      · exact ⟨.refl db', hdb⟩
      · exact hdb.of_same hlinked rfl rfl
  | publish h =>
      obtain ⟨-, -, hexec, -, -⟩ := publish_ok h
      exact hdb.of_same hlinked hexec (publish_outbox h)
  | route h =>
      obtain ⟨f, -, -, rfl⟩ := transitionSession_ok h
      exact hdb.of_same hlinked rfl rfl
  | nextHint h =>
      obtain ⟨_, _, _, f, -, -, -, -, -, rfl⟩ := nextHint_ok h
      exact hdb.of_same hlinked rfl rfl
  | queueRun h =>
      obtain ⟨question, runtime, -, ⟨_, -, -, rfl, -⟩ | ⟨hq, -, -, -⟩⟩ := queueRun_ok h
      · exact ⟨.refl db', hdb⟩
      · obtain ⟨inputPayload, hexec⟩ := hq.executions
        exact hdb.of_queued hlinked (by exact hq.newId) hexec ha.executionId ha.app
          (queueRun_outbox hq.newKey h)
  | queueSubmit h =>
      obtain ⟨question, runtime, -, ⟨_, -, -, rfl, -⟩ | ⟨hq, -, -, -, -⟩⟩ := queueSubmit_ok h
      · exact ⟨.refl db', hdb⟩
      · obtain ⟨inputPayload, hexec⟩ := hq.executions
        exact hdb.of_queued hlinked (by exact hq.newId) hexec ha.executionId ha.app
          (queueSubmit_outbox hq.newKey h)
  | @execution id action clock s t hs h =>
      have hexec := (Db.system_some hs).1
      have hstored : (db.store id t).Linked :=
        ColumnsStep.linked (.same (hdb.linked.store_columns hs h.columns)
          (Db.store_submissionIds ..)) hdb.linked
      obtain ⟨hlater, hannounced⟩ := hdb.of_changed hstored (f := fun _ => t.attempt.execution)
        (fun e he => by
          obtain rfl : e = s.attempt.execution := Option.some.inj (he.symm.trans hexec)
          exact h.follows) rfl rfl
      obtain ⟨e, he, -⟩ := hlater.execution id _ hexec
      cases action with
      | cancel traceId =>
          obtain ⟨m, hm, hrequests⟩ := hannounced.requested e (Tables.mem_of_find he)
          have hid : m.aggregateId = id := hrequests.aggregateId.trans (Tables.key_of_find he)
          have hwritten : (OutboxMessage.cancelRequested id clock.app traceId).Written :=
            OutboxMessage.cancelRequested_written traceId
              (hid ▸ (hannounced.written m hm).aggregateId) ha
          exact ⟨hlater.trans (.send _ _), hannounced.send hwritten he⟩
      | _ => exact ⟨hlater, hannounced⟩

/-- `claim_for_dispatch`, which only a worker with a message calls. -/
def DbAction.IsClaim : DbAction F → Prop
  | .execution _ (.claimForDispatch ..) => True
  | _ => False

/-- Where the executions behind a step that claims nothing come from. -/
theorem DbStep.executions {env : Environment} {evaluator : Evaluator F} {db db' : Db F}
    {a : DbAction F × Clock} (h : DbStep env evaluator db a db') (ha : DbAction.Arrives a)
    (hclaim : ¬a.1.IsClaim) {e' : Execution F} (he' : e' ∈ db'.executions) :
    (e'.state = .queued ∧ FitsTraceId e'.row.traceId)
      ∨ ∃ e ∈ db.executions, e'.row.traceId = e.row.traceId ∧ StateMove e.state e'.state := by
  have hold : e' ∈ db.executions → (e'.state = .queued ∧ FitsTraceId e'.row.traceId)
      ∨ ∃ e ∈ db.executions, e'.row.traceId = e.row.traceId ∧ StateMove e.state e'.state :=
    fun he => .inr ⟨e', he, rfl, .still rfl⟩
  have hqueued : ∀ {principal : Principal} {q : QueueRequest} {executionId : Uuid} {clock : Clock},
      Queued env principal q executionId clock db db' → FitsTraceId principal.correlationId →
      (e'.state = .queued ∧ FitsTraceId e'.row.traceId)
        ∨ ∃ e ∈ db.executions, e'.row.traceId = e.row.traceId ∧ StateMove e.state e'.state := by
    intro principal q executionId clock hq hfits
    obtain ⟨inputPayload, hexec⟩ := hq.executions
    rw [hexec] at he'
    rcases List.mem_append.mp he' with he' | he'
    · exact hold he'
    · obtain rfl := List.mem_singleton.mp he'
      exact .inl ⟨rfl, hfits⟩
  cases h with
  | createSession h =>
      rcases createSession_ok h with rfl | ⟨_, _, -, -, rfl⟩
      · exact hold he'
      · exact hold he'
  | publish h => exact hold ((publish_ok h).2.2.1 ▸ he')
  | route h =>
      obtain ⟨f, -, -, rfl⟩ := transitionSession_ok h
      exact hold he'
  | nextHint h =>
      obtain ⟨_, _, _, f, -, -, -, -, -, rfl⟩ := nextHint_ok h
      exact hold he'
  | queueRun h =>
      obtain ⟨question, runtime, -, ⟨_, -, -, rfl, -⟩ | ⟨hq, -, -, -⟩⟩ := queueRun_ok h
      · exact hold he'
      · exact hqueued hq ha.traceId
  | queueSubmit h =>
      obtain ⟨question, runtime, -, ⟨_, -, -, rfl, -⟩ | ⟨hq, -, -, -, -⟩⟩ := queueSubmit_ok h
      · exact hold he'
      · exact hqueued hq ha.traceId
  | @execution id action clock s t hs h =>
      rw [Db.notify_executions] at he'
      have hmove : StateMove s.state t.state := h.stateMove fun workerId deadline heq => by
        have hact : action = .claimForDispatch workerId deadline := heq
        subst hact
        exact hclaim trivial
      rcases Tables.mem_update he' with ⟨he, -⟩ | ⟨_, -, -, rfl⟩
      · exact hold he
      · exact .inr ⟨_, Tables.mem_of_find (Db.system_some hs).1, h.follows.traceId, hmove⟩

end

end Rigor
