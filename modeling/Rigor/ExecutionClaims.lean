import Rigor.Results

/-!
# Claims on an execution

`ExecutionRepository` and `ExecutionClaimRepository`: the transactions that
compare and set one row of `execution_requests` and append to its events.
A function that raises leaves the row as it was (the transaction rolls
back); one that finds no row to update answers `none` or `false`.
-/

namespace Rigor

open Py

variable {F : Type}

/-- The clocks a transaction reads: `datetime.now(UTC)` of the process and
`CURRENT_TIMESTAMP` of the database. -/
structure Clock where
  app : Time
  database : Time

/-- The `details` of an event. -/
inductive EventDetails where
  | queued (attempt : Int) (traceId : Str)
  | dispatching (attempt : Int) (leaseOwner : Str) (leaseExpiresAt : Time) (reason : Option Str)
  | running (attempt : Int) (kubernetesNamespace kubernetesJobName : Str)
  | result (source target : ExecutionStatus) (runtimeMs : Int) (errorCategory : Str)
  | cancelled (source target : ExecutionStatus) (reason traceId : Str)

structure ExecutionEvent where
  sequenceNumber : Int
  state : ExecutionStatus
  details : EventDetails

/-- The columns of `execution_requests` that only `create_queued` writes. -/
structure RequestColumns (F : Type) where
  id : Uuid
  organizationId : Option Uuid
  candidateId : Uuid
  practiceSessionId : Uuid
  submissionId : Option Uuid
  questionVersionId : Uuid
  executionType : ExecutionType
  runtime : Str
  language : Str
  idempotencyKey : Str
  requestHash : Str
  limits : Dict F
  queuedAt : Time
  traceId : Str

/-- A row of `execution_requests`. -/
structure ExecutionRow (F : Type) extends RequestColumns F where
  state : ExecutionStatus
  attemptCount : Int
  leaseOwner : Option Str
  leaseExpiresAt : Option Time
  kubernetesNamespace : Option Str
  kubernetesJobName : Option Str
  dispatchStartedAt : Option Time
  runningAt : Option Time
  startedAt : Option Time
  completedAt : Option Time
  runtimeMs : Option Int
  exitCode : Option Int
  errorCategory : Option Str
  resultReference : Option Str

/-- A row of `execution_payloads`. -/
structure ExecutionPayload (F : Type) where
  sourceCode : Str
  inputPayload : Dict F

/-- A row of `execution_public_results`. -/
structure PublicResult (F : Type) where
  publicResults : List (PublicTestResult F)
  hiddenTotal : Nat
  hiddenPassed : Nat
  stdout : Str
  stderr : Str
  candidateMessage : Str

/-- An execution and the rows that refer to it. `publicWrites` are the
writes of its public result, the last of which is the stored row. -/
structure Execution (F : Type) where
  row : ExecutionRow F
  payload : ExecutionPayload F
  events : List ExecutionEvent
  publicWrites : List (PublicResult F)

namespace Execution

def state (e : Execution F) : ExecutionStatus := e.row.state

/-- `COALESCE(max(sequence_number), -1) + 1`. -/
def nextSequenceNumber (e : Execution F) : Int :=
  (e.events.map ExecutionEvent.sequenceNumber).foldl max (-1) + 1

/-- `_append_event`. -/
def appendEvent (status : ExecutionStatus) (details : EventDetails) (e : Execution F) :
    Execution F :=
  { e with events := e.events ++ [⟨e.nextSequenceNumber, status, details⟩] }

@[simp] theorem appendEvent_row (status : ExecutionStatus) (details : EventDetails)
    (e : Execution F) : (e.appendEvent status details).row = e.row := rfl

@[simp] theorem appendEvent_publicWrites (status : ExecutionStatus) (details : EventDetails)
    (e : Execution F) : (e.appendEvent status details).publicWrites = e.publicWrites := rfl

/-- The lease of `worker` has not run out. -/
def Leased (e : Execution F) (worker : Str) (now : Time) : Prop :=
  e.row.leaseOwner = some worker ∧ ∃ deadline, e.row.leaseExpiresAt = some deadline ∧ now < deadline

/-- `lease_expires_at < CURRENT_TIMESTAMP`. -/
def LeaseExpired (e : Execution F) (now : Time) : Prop :=
  ∃ deadline, e.row.leaseExpiresAt = some deadline ∧ deadline < now

instance (e : Execution F) (worker : Str) (now : Time) : Decidable (e.Leased worker now) :=
  match h : e.row.leaseExpiresAt with
  | none => isFalse fun ⟨_, _, hd, _⟩ => by rw [h] at hd; cases hd
  | some deadline =>
      decidable_of_iff (e.row.leaseOwner = some worker ∧ now < deadline)
        ⟨fun ⟨ho, hd⟩ => ⟨ho, deadline, h, hd⟩, fun ⟨ho, d, hd, hlt⟩ => by
          rw [h] at hd; cases hd; exact ⟨ho, hlt⟩⟩

instance (e : Execution F) (now : Time) : Decidable (e.LeaseExpired now) :=
  match h : e.row.leaseExpiresAt with
  | none => isFalse fun ⟨_, hd, _⟩ => by rw [h] at hd; cases hd
  | some deadline =>
      decidable_of_iff (deadline < now) ⟨fun hd => ⟨deadline, h, hd⟩, fun ⟨d, hd, hlt⟩ => by
        rw [h] at hd; cases hd; exact hlt⟩

/-- `load_dispatch_package`. -/
def loadDispatchPackage (e : Execution F) : DispatchPackage F where
  executionId := e.row.id
  organizationId := e.row.organizationId
  candidateId := e.row.candidateId
  practiceSessionId := e.row.practiceSessionId
  submissionId := e.row.submissionId
  questionVersionId := e.row.questionVersionId
  executionType := e.row.executionType
  runtime := e.row.runtime
  language := e.row.language
  sourceCode := e.payload.sourceCode
  inputPayload := e.payload.inputPayload
  limits := e.row.limits
  traceId := e.row.traceId
  attemptCount := e.row.attemptCount

end Execution

/-! ## `ExecutionRepository` -/

/-- `ExecutionRepository.transition`: the lease is given up unless the caller passes one. -/
def transition (target : ExecutionStatus)
    (details : ExecutionStatus → ExecutionStatus → EventDetails) (clock : Clock)
    (e : Execution F) : Except Failure (Execution F) :=
  match validateExecutionTransition e.state target with
  | .error failure => .error failure
  | .ok () =>
      let started (t : Option Time) := if target = .running then t <|> some clock.database else t
      .ok (Execution.appendEvent target (details e.state target)
        { e with row := { e.row with
            state := target
            dispatchStartedAt :=
              if target = .dispatching then e.row.dispatchStartedAt <|> some clock.database
              else e.row.dispatchStartedAt
            runningAt := started e.row.runningAt
            startedAt := started e.row.startedAt
            completedAt := if target.IsTerminal then some clock.app else e.row.completedAt
            leaseOwner := none
            leaseExpiresAt := none } })

theorem transition_ok {target : ExecutionStatus}
    {details : ExecutionStatus → ExecutionStatus → EventDetails} {clock : Clock}
    {e e' : Execution F} (h : transition target details clock e = .ok e') :
    target ∈ legalExecutionTransitions e.state ∧ e'.state = target
      ∧ e'.row.toRequestColumns = e.row.toRequestColumns ∧ e'.payload = e.payload
      ∧ e'.publicWrites = e.publicWrites ∧ e'.row.attemptCount = e.row.attemptCount
      ∧ e'.row.leaseOwner = none ∧ e'.row.leaseExpiresAt = none := by
  rw [transition] at h
  split at h
  · cases h
  · rename_i hlegal
    cases h
    exact ⟨validateExecutionTransition_ok hlegal, rfl, rfl, rfl, rfl, rfl, rfl, rfl⟩

/-- `ExecutionRepository.cancel`, without its outbox message. -/
def cancel (traceId : Str) (clock : Clock) (e : Execution F) : Except Failure (Execution F) :=
  if e.state = .cancelled then .ok e
  else if e.state.IsTerminal then
    .error (.transition ("Cannot cancel terminal execution " ++ (e.state.value ++ ("." : Str))))
  else
    transition .cancelled (fun source target => .cancelled source target "candidate_requested" traceId)
      clock e

/-! ## `ExecutionClaimRepository` -/

structure ExecutionClaim where
  executionId : Uuid
  runtime : Str
  executionType : ExecutionType
  language : Str
  attemptCount : Int
  leaseOwner : Str
  leaseExpiresAt : Time
  traceId : Str

/-- A lease that ran out while its execution was dispatching or running. -/
structure ExpiredExecutionLease where
  executionId : Uuid
  status : ExecutionStatus
  status_active : status.IsActive
  leaseOwner : Option Str
  leaseExpiresAt : Option Time
  kubernetesNamespace : Option Str
  kubernetesJobName : Option Str
  attemptCount : Int

def validateLeaseDeadline (value : Time) (clock : Clock) : Except Failure Unit :=
  if value ≤ clock.app then .error (.value "Lease deadline must be in the future.") else .ok ()

def claimForDispatch (workerId : Str) (leaseExpiresAt : Time) (clock : Clock) (e : Execution F) :
    Except Failure (Execution F × Option ExecutionClaim) := do
  validateLeaseDeadline leaseExpiresAt clock
  if e.state = .queued then
    let attempt := e.row.attemptCount + 1
    .ok (Execution.appendEvent .dispatching (.dispatching attempt workerId leaseExpiresAt none)
        { e with row := { e.row with
            state := .dispatching
            leaseOwner := some workerId
            leaseExpiresAt := some leaseExpiresAt
            attemptCount := attempt
            dispatchStartedAt := e.row.dispatchStartedAt <|> some clock.database } },
      some ⟨e.row.id, e.row.runtime, e.row.executionType, e.row.language, attempt, workerId,
        leaseExpiresAt, e.row.traceId⟩)
  else .ok (e, none)

def retryMissingSandbox (expectedAttempt : Int) (workerId : Str) (leaseExpiresAt : Time)
    (maxAttempts : Int) (clock : Clock) (e : Execution F) :
    Except Failure (Execution F × Option Int) := do
  validateLeaseDeadline leaseExpiresAt clock
  if expectedAttempt < 1 ∨ maxAttempts < 1 then .ok (e, none)
  else if e.state.IsActive ∧ e.row.attemptCount = expectedAttempt
      ∧ e.row.attemptCount < maxAttempts ∧ e.LeaseExpired clock.database then
    let attempt := e.row.attemptCount + 1
    .ok (Execution.appendEvent .dispatching
        (.dispatching attempt workerId leaseExpiresAt (some "infrastructure_retry"))
        { e with row := { e.row with
            state := .dispatching
            leaseOwner := some workerId
            leaseExpiresAt := some leaseExpiresAt
            attemptCount := attempt
            kubernetesNamespace := none
            kubernetesJobName := none } },
      some attempt)
  else .ok (e, none)

def markRunning (workerId kubernetesNamespace kubernetesJobName : Str) (clock : Clock)
    (e : Execution F) : Execution F × Bool :=
  if e.state = .dispatching ∧ e.Leased workerId clock.database then
    (Execution.appendEvent .running
        (.running e.row.attemptCount kubernetesNamespace kubernetesJobName)
        { e with row := { e.row with
            state := .running
            runningAt := e.row.runningAt <|> some clock.database
            startedAt := e.row.startedAt <|> some clock.database
            kubernetesNamespace := some kubernetesNamespace
            kubernetesJobName := some kubernetesJobName } },
      true)
  else (e, false)

def renewLease (workerId : Str) (leaseExpiresAt : Time) (clock : Clock) (e : Execution F) :
    Except Failure (Execution F × Bool) := do
  validateLeaseDeadline leaseExpiresAt clock
  if e.Leased workerId clock.database ∧ e.state.IsActive then
    .ok ({ e with row := { e.row with leaseExpiresAt := some leaseExpiresAt } }, true)
  else .ok (e, false)

/-- `lock_owned_attempt`: a test of the row, which it locks. -/
def lockOwnedAttempt (workerId : Str) (attemptCount : Int) (clock : Clock) (e : Execution F) :
    Bool :=
  decide (1 ≤ attemptCount) && decide (e.row.attemptCount = attemptCount)
    && decide (e.Leased workerId clock.database) && decide e.state.IsActive

/-- A row of `expired_leases`. -/
def expiredLease (clock : Clock) (e : Execution F) : Option ExpiredExecutionLease :=
  if h : e.state.IsActive ∧ e.LeaseExpired clock.database then
    some ⟨e.row.id, e.state, h.1, e.row.leaseOwner, e.row.leaseExpiresAt, e.row.kubernetesNamespace,
      e.row.kubernetesJobName, e.row.attemptCount⟩
  else none

theorem lockOwnedAttempt_iff {workerId : Str} {attemptCount : Int} {clock : Clock}
    {e : Execution F} :
    lockOwnedAttempt workerId attemptCount clock e = true
      ↔ 1 ≤ attemptCount ∧ e.row.attemptCount = attemptCount
        ∧ e.Leased workerId clock.database ∧ e.state.IsActive := by
  simp only [lockOwnedAttempt, Bool.and_eq_true, decide_eq_true_eq, and_assoc]

/-! ## The controller's own statements -/

/-- The update of `_defer_infrastructure_retry`: the lease expires a second ago. -/
def deferInfrastructureRetry (attemptCount : Int) (workerId errorCategory : Str) (clock : Clock)
    (e : Execution F) : Execution F × Bool :=
  if e.row.attemptCount = attemptCount ∧ e.row.leaseOwner = some workerId ∧ e.state.IsActive then
    ({ e with row := { e.row with
        leaseExpiresAt := some (clock.database - 1000000)
        kubernetesNamespace := none
        kubernetesJobName := none
        errorCategory := some errorCategory } }, true)
  else (e, false)

/-- `_reacquire_expired_execution`. A `mark_running` that finds nothing to
mark makes it answer `none`, but the lease it took stays. -/
def reacquireExpiredExecution (lease : ExpiredExecutionLease) (missing : Bool)
    (workerId : Str) (leaseExpiresAt : Time) (kubernetesNamespace kubernetesJobName : Str)
    (clock : Clock) (e : Execution F) : Execution F × Option (DispatchPackage F) :=
  if e.state = lease.status ∧ e.row.attemptCount = lease.attemptCount
      ∧ e.LeaseExpired clock.database then
    let taken : Execution F := { e with row := { e.row with
      leaseOwner := some workerId, leaseExpiresAt := some leaseExpiresAt } }
    if lease.status = .dispatching ∧ missing = false then
      let marked := markRunning workerId kubernetesNamespace kubernetesJobName clock taken
      (marked.1, if marked.2 then some taken.loadDispatchPackage else none)
    else (taken, some taken.loadDispatchPackage)
  else (e, none)

/-- The update of `_process_cancel`, once the sandbox is deleted. -/
def clearCancelled (e : Execution F) : Execution F :=
  if e.state = .cancelled then
    { e with row := { e.row with
        kubernetesNamespace := none
        kubernetesJobName := none
        leaseOwner := none
        leaseExpiresAt := none } }
  else e

/-- The update of `_cleanup_terminal_orphans`. -/
def clearTerminalOrphan (e : Execution F) : Execution F :=
  if e.state.IsTerminal then
    { e with row := { e.row with kubernetesNamespace := none, kubernetesJobName := none } }
  else e

end Rigor
