import Rigor.ExecutionFencing
import Rigor.VercelDispatch

/-!
# Who deletes a sandbox

The controllers of one execution and its sandbox: a Job and the Secret with
its input, both named after the execution alone. What a controller does for
a message or an expired lease is a program of calls to the Kubernetes API
and of transactions, and the programs of any number of controllers
interleave call by call; one that raises or stops goes no further. A
`DELETE` may fail unnoticed and a `POST` may arrive though it failed.
-/

namespace Rigor

open Py Runs

variable {F : Type}

/-! ## Calls and transactions -/

/-- What the Kubernetes API keeps of an execution. -/
inductive Resource where
  | job | secret

structure SandboxObjects where
  job : Bool
  secret : Bool

def SandboxObjects.put (present : Bool) (s : SandboxObjects) : Resource → SandboxObjects
  | .job => { s with job := present }
  | .secret => { s with secret := present }

/-- Why a controller calls `cleanup`: it gives its attempt up, or it has
seen the execution end. -/
inductive Occasion where
  | gaveUp | ended

/-- The transactions of the controller. -/
inductive Transaction (F : Type) where
  | claimForDispatch (deadline : Time)
  | retryMissingSandbox (lease : ExpiredExecutionLease) (deadline : Time) (maxAttempts : Int)
  | reacquireExpiredExecution (lease : ExpiredExecutionLease) (missing : Bool) (deadline : Time)
      (kubernetesNamespace kubernetesJobName : Str)
  | markRunning (kubernetesNamespace kubernetesJobName : Str)
  | renewLease (deadline : Time)
  | deferInfrastructureRetry (package : DispatchPackage F) (category : Str)
  | persistProjection (package : DispatchPackage F) (projection : TrustedExecutionProjection F)
  | persistObservation (package : DispatchPackage F)
  | selectTerminalOrphan
  | clearCancelled
  | clearTerminalOrphan

/-- What a transaction answers. `distrusted` is a `TrustedResultError`, and
`handed` an attempt that the controller may go on with. -/
inductive Reply (F : Type) where
  | yes | no | distrusted
  | handed (package : DispatchPackage F)

def Reply.ofBool (b : Bool) : Reply F := if b then .yes else .no

def Reply.ofPackage : Option (DispatchPackage F) → Reply F
  | none => .no
  | some package => .handed package

/-- What a controller has still to do for the execution; at its end it may
delete the message of the queue. -/
inductive Program (F : Type) where
  | done
  | create (resource : Resource) (created failed : Program F)
  | observe (next : SandboxObservation → Program F)
  | delete (occasion : Occasion) (resource : Resource) (next : Program F)
  | transact (t : Transaction F) (next : Reply F → Program F)
  | acknowledge (next : Program F)

namespace Transaction

/-- `_persist_projection`, or the transaction of `_persist_observation`: an
attempt that is not the worker's answers `_terminal_or_lost`. -/
def persist (evaluator : Evaluator F) (workerId : Str) (package : DispatchPackage F)
    (p : TrustedExecutionProjection F) (clock : Clock) (a : Attempt F) :
    Except Failure (Attempt F × Reply F) :=
  (Rigor.persistProjection evaluator package workerId p clock a).map fun (a', status) =>
    (a', .ofBool (status.isSome || decide a'.execution.state.IsTerminal))

/-- A transaction of the worker. `graded` is what `load_expected_tests` and
`trusted_compare` make of a result, `none` their `TrustedResultError`. -/
def run (evaluator : Evaluator F) (workerId : Str) (graded : Option (TrustedExecutionProjection F))
    (clock : Clock) (a : Attempt F) : Transaction F → Except Failure (Attempt F × Reply F)
  | .claimForDispatch deadline =>
      (Rigor.claimForDispatch workerId deadline clock a.execution).map fun (e, claim) =>
        ({ a with execution := e }, .ofPackage (claim.map fun _ => e.loadDispatchPackage))
  | .retryMissingSandbox lease deadline maxAttempts =>
      (Rigor.retryMissingSandbox lease.attemptCount workerId deadline maxAttempts clock
        a.execution).map fun (e, attempt) =>
          ({ a with execution := e }, .ofPackage (attempt.map fun _ => e.loadDispatchPackage))
  | .reacquireExpiredExecution lease missing deadline kubernetesNamespace kubernetesJobName =>
      let (e, package) := Rigor.reacquireExpiredExecution lease missing workerId deadline
        kubernetesNamespace kubernetesJobName clock a.execution
      .ok ({ a with execution := e }, .ofPackage package)
  | .markRunning kubernetesNamespace kubernetesJobName =>
      let (e, running) := Rigor.markRunning workerId kubernetesNamespace kubernetesJobName clock
        a.execution
      .ok ({ a with execution := e }, .ofBool running)
  | .renewLease deadline =>
      (Rigor.renewLease workerId deadline clock a.execution).map fun (e, renewed) =>
        ({ a with execution := e }, .ofBool renewed)
  | .deferInfrastructureRetry package category =>
      let (e, expired) := Rigor.deferInfrastructureRetry package.attemptCount workerId category
        clock a.execution
      .ok ({ a with execution := e }, .ofBool expired)
  | .persistProjection package p => persist evaluator workerId package p clock a
  | .persistObservation package =>
      if lockOwnedAttempt workerId package.attemptCount clock a.execution = false then
        .ok (a, .ofBool (decide a.execution.state.IsTerminal))
      else
        match graded with
        | none => .ok (a, .distrusted)
        | some p => persist evaluator workerId package p clock a
  | .selectTerminalOrphan =>
      .ok (a, .ofBool (decide a.execution.state.IsTerminal
        && a.execution.row.kubernetesJobName.isSome))
  | .clearCancelled => .ok ({ a with execution := Rigor.clearCancelled a.execution }, .yes)
  | .clearTerminalOrphan =>
      .ok ({ a with execution := Rigor.clearTerminalOrphan a.execution }, .yes)

/-- The update of `retry_missing_sandbox` or `_reacquire_expired_execution`
finds the row: the worker takes the execution over. -/
def takesOver (workerId : Str) (clock : Clock) (e : Execution F) : Transaction F → Bool
  | .retryMissingSandbox lease deadline maxAttempts =>
      match Rigor.retryMissingSandbox lease.attemptCount workerId deadline maxAttempts clock e with
      | .ok (_, some _) => true
      | _ => false
  | .reacquireExpiredExecution lease .. =>
      decide (e.state = lease.status ∧ e.row.attemptCount = lease.attemptCount
        ∧ e.LeaseExpired clock.database)
  | _ => false

/-- The answer tells the controller that the execution has ended. -/
def ends : Transaction F → Reply F → Bool
  | .persistProjection .., .yes => true
  | .persistObservation .., .yes => true
  | .selectTerminalOrphan, .yes => true
  | _, _ => false

/-- The update forgets the sandbox of an ended execution. -/
def forgets : Transaction F → Bool
  | .clearCancelled => true
  | .clearTerminalOrphan => true
  | _ => false

end Transaction

/-! ## The controller -/

/-- What a controller is configured with, and what its clock decides: how
often it observes a sandbox before the deadline, and until when it renews
its lease after an observation. -/
structure Controller where
  workerId : Str
  kubernetesNamespace : Str
  maxAttempts : Int
  deadline : Time
  int : Str → Option Int
  polls : Nat
  renewals : Nat → Option Time

/-- `sandbox_job_name`. -/
def sandboxJobName (executionId : Uuid) : Str := ("execution-" : Str) ++ executionId

/-- `KubernetesSandboxExecutor.cleanup`. -/
def cleanup (occasion : Occasion) (next : Program F) : Program F :=
  .delete occasion .job (.delete occasion .secret next)

/-- `_create_resources`: what fails is cleaned up and raised again. -/
def createResources (next : Program F) : Program F :=
  .create .secret (.create .job next (cleanup .gaveUp .done)) (cleanup .gaveUp .done)

namespace Controller

variable (c : Controller)

def persistInfrastructureFailure (package : DispatchPackage F) (category message : Str)
    (next : Bool → Program F) : Program F :=
  .transact (.persistProjection package (infrastructureProjection category message)) fun
    | .yes => next true
    | _ => next false

def timeoutProjection (package : DispatchPackage F) : TrustedExecutionProjection F where
  executionStatus := .timeout
  status_ok := TrustedExecutionProjection.timeout_ok
  runtimeMs := executionTimeoutSeconds c.int package * 1000
  exitCode := 124
  errorCategory := some "timeout"
  publicResults := []
  hiddenTotal := 0
  hiddenPassed := 0
  stdout := []
  stderr := []
  candidateMessage := "Execution exceeded the configured time limit."

def persistTimeout (package : DispatchPackage F) (next : Bool → Program F) : Program F :=
  .transact (.persistProjection package (c.timeoutProjection package)) fun
    | .yes => next true
    | _ => next false

/-- `_defer_infrastructure_retry`: the sandbox is deleted before the update
asks who owns the attempt. -/
def deferInfrastructureRetry (package : DispatchPackage F) (category : Str)
    (next : Bool → Program F) : Program F :=
  if package.attemptCount ≥ c.maxAttempts then
    persistInfrastructureFailure package "execution_attempt_limit"
      "Execution failed after repeated infrastructure errors." next
  else
    cleanup .gaveUp (.transact (.deferInfrastructureRetry package category) fun _ => next false)

section Observing

variable [Runtime F]

def persistObservation (package : DispatchPackage F) (observation : SandboxObservation)
    (next : Bool → Program F) : Program F :=
  if observation.logs = [] then
    c.deferInfrastructureRetry package "runner_result_unavailable" next
  else
    match parseRunnerResult (F := F) observation.logs package.executionId
        (some package.attemptCount) with
    | .error (.trusted _) =>
        c.deferInfrastructureRetry package "trusted_result_validation_failed" next
    | .error (.load _) => .done
    | .ok r =>
        if isInfrastructure r then
          c.deferInfrastructureRetry package
            (r.errorCategory.getD "runner_infrastructure_error") next
        else
          .transact (.persistObservation package) fun
            | .distrusted =>
                c.deferInfrastructureRetry package "trusted_result_validation_failed" next
            | .yes => next true
            | _ => next false

/-- One turn of `_monitor`'s loop, and what a pending sandbox leads to. -/
def observed (package : DispatchPackage F) (next : Bool → Program F) (pending : Program F) :
    Program F :=
  .observe fun observation =>
    if observation.state = "SUCCEEDED" ∨ observation.state = "FAILED" then
      if observation.reason = some "DeadlineExceeded" ∧ observation.logs = [] then
        c.persistTimeout package next
      else c.persistObservation package observation next
    else if observation.state = "MISSING" then
      c.deferInfrastructureRetry package "sandbox_missing" next
    else pending

/-- `_monitor`, with so many observations to go before the deadline. -/
def monitor (package : DispatchPackage F) (next : Bool → Program F) : Nat → Program F
  | 0 => c.observed package next (c.persistTimeout package next)
  | n + 1 =>
      c.observed package next
        (match c.renewals n with
        | none => monitor package next n
        | some deadline =>
            .transact (.renewLease deadline) fun
              | .yes => monitor package next n
              | _ => next false)

/-- The end of `_start_sandbox`; `next` is what follows when the sandbox runs. -/
def markRunning (package : DispatchPackage F) (next : Program F) : Program F :=
  .transact (.markRunning c.kubernetesNamespace (sandboxJobName package.executionId)) fun
    | .yes => next
    | _ => cleanup .gaveUp .done

/-- `_start_sandbox`. -/
def startSandbox (package : DispatchPackage F) (next : Program F) : Program F :=
  match sandboxRequest package with
  | .error _ => .done
  | .ok _ => createResources (c.markRunning package next)

/-- The end of a task that may have ended the execution. -/
def cleanupIfTerminal (terminal : Bool) : Program F :=
  if terminal then cleanup .ended .done else .done

/-- `_process_requested`, once the execution is claimed. -/
def processClaimed (package : DispatchPackage F) : Program F :=
  if package.attemptCount > c.maxAttempts then
    persistInfrastructureFailure package "execution_attempt_limit"
      "Execution could not be started after repeated infrastructure failures." fun _ => .done
  else if package.language ≠ "python" ∧ package.language ≠ "sql" then
    persistInfrastructureFailure package "unsupported_execution_language"
      "This runtime is not available in the production executor." fun _ => .done
  else c.startSandbox package (c.monitor package cleanupIfTerminal c.polls)

/-- `_process_requested`. -/
def processRequested : Program F :=
  .transact (.claimForDispatch c.deadline) fun
    | .handed package => c.processClaimed package
    | _ => .done

/-- `_reacquire_expired_execution`, or nothing more. -/
def reacquire (lease : ExpiredExecutionLease) (missing : Bool)
    (next : DispatchPackage F → Program F) : Program F :=
  .transact (.reacquireExpiredExecution lease missing c.deadline
    (lease.kubernetesNamespace.getD c.kubernetesNamespace)
    (lease.kubernetesJobName.getD (sandboxJobName lease.executionId))) fun
      | .handed package => next package
      | _ => .done

/-- `_reconcile_lease` of a lost sandbox that is not tried again. -/
def failMissing (lease : ExpiredExecutionLease) : Program F :=
  c.reacquire lease true fun package =>
    persistInfrastructureFailure package "execution_attempt_limit"
      "Execution failed after repeated infrastructure errors." cleanupIfTerminal

/-- `_reconcile_lease`, with its observation. -/
def reconcileObserved (lease : ExpiredExecutionLease) (observation : SandboxObservation) :
    Program F :=
  if observation.state = "MISSING" then
    if lease.attemptCount ≥ c.maxAttempts then c.failMissing lease
    else
      .transact (.retryMissingSandbox lease c.deadline c.maxAttempts) fun
        | .handed package => c.startSandbox package .done
        | _ => c.failMissing lease
  else
    c.reacquire lease false fun package =>
      if observation.state = "SUCCEEDED" ∨ observation.state = "FAILED" then
        c.persistObservation package observation cleanupIfTerminal
      else .done

def reconcileLease (lease : ExpiredExecutionLease) : Program F :=
  .observe (c.reconcileObserved lease)

end Observing

/-- `_process_cancel`, on a row that exists, and `delete_message`. -/
def processCancel : Program F :=
  cleanup .ended (.transact .clearCancelled fun _ => .acknowledge .done)

/-- `_cleanup_terminal_orphans`. -/
def cleanupTerminalOrphans : Program F :=
  .transact .selectTerminalOrphan fun
    | .yes => cleanup .ended (.transact .clearTerminalOrphan fun _ => .done)
    | _ => .done

end Controller

/-! ## The system -/

/-- A program of a worker. `held` is the attempt it was handed last, and
`takenOver` whether the execution was taken over since. -/
structure Task (F : Type) where
  workerId : Str
  held : Option (DispatchPackage F)
  takenOver : Bool
  program : Program F

/-- `cancelRequested` says that a cancel event was sent, and `cancelPending`
that it is still in the outbox or in the queue. -/
structure Cluster (F : Type) where
  attempt : Attempt F
  sandbox : SandboxObjects
  cancelRequested : Bool
  cancelPending : Bool
  tasks : List (Task F)

def Cluster.execution (s : Cluster F) : Execution F := s.attempt.execution

/-- The task goes on with its answer. -/
def Task.answered (took : Bool) (answer : Reply F) (next : Program F) (task : Task F) : Task F :=
  match answer with
  | .handed package => { task with held := some package, takenOver := false, program := next }
  | _ => { task with takenOver := task.takenOver || took, program := next }

/-- The others may have lost the execution. -/
def Task.noted (took : Bool) (task : Task F) : Task F :=
  { task with takenOver := task.takenOver || took }

def Cluster.resume (s : Cluster F) (i : Nat) (task : Task F) (program : Program F) : Cluster F :=
  { s with tasks := s.tasks.set i { task with program := program } }

/-- What a controller starts: a message of the queue, a lease that had run
out when it looked, or its sweep of ended executions. -/
inductive Starts [Runtime F] (c : Controller) (s : Cluster F) (clock : Clock) :
    Program F → Prop where
  | requested : Starts c s clock c.processRequested
  | lease {lease : ExpiredExecutionLease} (h : expiredLease clock s.execution = some lease) :
      Starts c s clock (c.reconcileLease lease)
  | cancelled (h : s.cancelRequested = true) : Starts c s clock Controller.processCancel
  | orphans : Starts c s clock Controller.cleanupTerminalOrphans

inductive Event (F : Type) where
  | start (c : Controller)
  | task (i : Nat)
  | cancel (traceId : Str)
  | jobExpires
  | discard

/-- `classify_event` of a cancel event says `DISCARD_TERMINAL`. -/
def Execution.DiscardsCancel (e : Execution F) : Prop :=
  e.state.IsTerminal ∧ ¬(e.state = .cancelled ∧ e.row.kubernetesJobName.isSome)

/-- One call, one transaction, the candidate's cancelling, the end of a
finished Job's time to live, or an operator's `discard-terminal` of the
cancel event. -/
inductive ClusterStep [Runtime F] (evaluator : Evaluator F) :
    Cluster F → Event F × Clock → Cluster F → Prop where
  | start {s : Cluster F} {c : Controller} {clock : Clock} {program : Program F}
      (h : Starts c s clock program) :
      ClusterStep evaluator s (.start c, clock)
        { s with tasks := s.tasks ++ [⟨c.workerId, none, false, program⟩] }
  | created {s : Cluster F} {i : Nat} {clock : Clock} {task : Task F} {resource : Resource}
      {created failed : Program F} (hi : s.tasks[i]? = some task)
      (hp : task.program = .create resource created failed) :
      ClusterStep evaluator s (.task i, clock)
        { s.resume i task created with sandbox := s.sandbox.put true resource }
  | failed {s : Cluster F} {i : Nat} {clock : Clock} {task : Task F} {resource : Resource}
      {created failed : Program F} {sandbox : SandboxObjects} (hi : s.tasks[i]? = some task)
      (hp : task.program = .create resource created failed)
      (hs : sandbox = s.sandbox ∨ sandbox = s.sandbox.put true resource) :
      ClusterStep evaluator s (.task i, clock)
        { s.resume i task failed with sandbox := sandbox }
  | observe {s : Cluster F} {i : Nat} {clock : Clock} {task : Task F}
      {next : SandboxObservation → Program F} {observation : SandboxObservation}
      (hi : s.tasks[i]? = some task) (hp : task.program = .observe next)
      (ho : observation.state = "MISSING" ↔ s.sandbox.job = false) :
      ClusterStep evaluator s (.task i, clock) (s.resume i task (next observation))
  | delete {s : Cluster F} {i : Nat} {clock : Clock} {task : Task F} {occasion : Occasion}
      {resource : Resource} {next : Program F} {sandbox : SandboxObjects}
      (hi : s.tasks[i]? = some task) (hp : task.program = .delete occasion resource next)
      (hs : sandbox = s.sandbox ∨ sandbox = s.sandbox.put false resource) :
      ClusterStep evaluator s (.task i, clock) { s.resume i task next with sandbox := sandbox }
  | transact {s : Cluster F} {i : Nat} {clock : Clock} {task : Task F} {t : Transaction F}
      {next : Reply F → Program F} {graded : Option (TrustedExecutionProjection F)}
      {a : Attempt F} {answer : Reply F} (hi : s.tasks[i]? = some task)
      (hp : task.program = .transact t next)
      (h : t.run evaluator task.workerId graded clock s.attempt = .ok (a, answer)) :
      ClusterStep evaluator s (.task i, clock)
        { s with
          attempt := a
          tasks := (s.tasks.map (Task.noted (t.takesOver task.workerId clock s.execution))).set i
            (task.answered (t.takesOver task.workerId clock s.execution) answer (next answer)) }
  | cancel {s : Cluster F} {clock : Clock} {traceId : Str} {e : Execution F}
      (h : cancel traceId clock s.execution = .ok e) :
      ClusterStep evaluator s (.cancel traceId, clock)
        { s with
          attempt := { s.attempt with execution := e }
          cancelRequested := true
          cancelPending := s.cancelPending || decide (s.execution.state ≠ .cancelled) }
  | acknowledge {s : Cluster F} {i : Nat} {clock : Clock} {task : Task F} {next : Program F}
      (hi : s.tasks[i]? = some task) (hp : task.program = .acknowledge next) :
      ClusterStep evaluator s (.task i, clock) { s.resume i task next with cancelPending := false }
  | jobExpires {s : Cluster F} {clock : Clock} :
      ClusterStep evaluator s (.jobExpires, clock)
        { s with sandbox := s.sandbox.put false .job }
  | discard {s : Cluster F} {clock : Clock} (h : s.execution.DiscardsCancel) :
      ClusterStep evaluator s (.discard, clock) { s with cancelPending := false }

/-! ## What a transaction does to the execution -/

theorem persistObservation_some {evaluator : Evaluator F} {package : DispatchPackage F}
    {workerId : Str} {compare : Except Failure (TrustedExecutionProjection F)} {clock : Clock}
    {a a' : Attempt F} {status : ExecutionStatus}
    (h : persistObservation evaluator package workerId compare clock a = .ok (a', some status)) :
    a'.execution.state.IsTerminal := by
  rw [persistObservation] at h
  split_ifs at h with hlock
  · cases h
  · obtain ⟨-, -, -, hactive⟩ := lockOwnedAttempt_iff.mp (Bool.not_eq_false _ ▸ hlock)
    obtain ⟨p, -, h⟩ := bind_eq_ok h
    obtain ⟨⟨execution, terminal⟩, hpersist, h⟩ := bind_eq_ok h
    have hended := (persistTerminalResult_terminal hactive.not_terminal hpersist).1
    dsimp only at h
    split_ifs at h
    · obtain ⟨⟨submission, session⟩, -, h⟩ := bind_eq_ok h
      cases h
      exact hended
    · cases h
      exact hended

namespace Execution

/-- The worker's lease is of the attempt. -/
def Holds (workerId : Str) (attempt : Int) (e : Execution F) : Prop :=
  e.row.leaseOwner = some workerId ∧ e.row.attemptCount = attempt

/-- A worker that holds an attempt goes on holding it, unless the execution ends. -/
def KeepsHolder (e e' : Execution F) : Prop :=
  ∀ workerId attempt, e.Holds workerId attempt → e'.state.IsTerminal ∨ e'.Holds workerId attempt

theorem KeepsHolder.of_same {e e' : Execution F} (howner : e'.row.leaseOwner = e.row.leaseOwner)
    (hattempt : e'.row.attemptCount = e.row.attemptCount) : e.KeepsHolder e' :=
  fun _ _ h => .inr ⟨howner.trans h.1, hattempt.trans h.2⟩

theorem KeepsHolder.of_terminal {e e' : Execution F} (h : e'.state.IsTerminal) :
    e.KeepsHolder e' := fun _ _ _ => .inl h

/-- What a transaction of a worker does: it keeps the fencing and a terminal
state, it hands out the attempt that the worker holds, and only one that
takes the execution over may end another's hold. -/
structure Handled (workerId : Str) (t : Transaction F) (clock : Clock) (e e' : Execution F)
    (answer : Reply F) : Prop where
  fenced : e'.Fenced
  terminal : e.state.IsTerminal → e'.state.IsTerminal
  ends : t.ends answer = true → e'.state.IsTerminal
  handed : ∀ package, answer = .handed package → e'.Holds workerId package.attemptCount
  keeps : t.takesOver workerId clock e = false → e.KeepsHolder e'

/-- A step that leaves owner and attempt as they are and hands nothing out. -/
theorem Handled.of_kept {workerId : Str} {t : Transaction F} {clock : Clock} {e e' : Execution F}
    {answer : Reply F} (h : e.Advanced e' ∨ e'.state.IsTerminal) (hf' : e'.Fenced)
    (hends : t.ends answer = true → e'.state.IsTerminal)
    (hhanded : ∀ package, answer ≠ .handed package) (hkeeps : e.KeepsHolder e') :
    Handled workerId t clock e e' answer where
  fenced := hf'
  terminal ht := by
    rcases h with h | h
    · rw [h.terminal ht]; exact ht
    · exact h
  ends := hends
  handed package hp := absurd hp (hhanded package)
  keeps _ := hkeeps

end Execution

theorem not_ends {t : Transaction F} {answer : Reply F} {p : Prop} (h : t.ends answer = false)
    (hends : t.ends answer = true) : p := by
  rw [h] at hends
  cases hends

theorem Reply.ofBool_ne (b : Bool) (package : DispatchPackage F) :
    Reply.ofBool b ≠ .handed package := by
  cases b <;> nofun

theorem persist_handled {evaluator : Evaluator F} {workerId : Str} {package : DispatchPackage F}
    {p : TrustedExecutionProjection F} {clock : Clock} {a a' : Attempt F} {answer : Reply F}
    {t : Transaction F} (hf : a.execution.Fenced)
    (h : Transaction.persist evaluator workerId package p clock a = .ok (a', answer)) :
    a.execution.Handled workerId t clock a'.execution answer := by
  rw [Transaction.persist, persistProjection] at h
  obtain ⟨⟨stored, status⟩, hstored, heq⟩ := map_eq_ok h
  dsimp only at heq
  obtain ⟨rfl, rfl⟩ := Prod.mk.injEq .. |>.mp heq
  have hends : t.ends (.ofBool (status.isSome || decide stored.execution.state.IsTerminal)) = true →
      stored.execution.state.IsTerminal := by
    intro hanswer
    cases status with
    | some status => exact persistObservation_some hstored
    | none =>
        by_cases hterm : stored.execution.state.IsTerminal
        · exact hterm
        · rw [Option.isSome_none, Bool.false_or, decide_eq_false hterm] at hanswer
          cases t <;> cases hanswer
  rcases persistObservation_ok hstored with rfl | ⟨-, -, hactive, p', -, hpersist, -⟩
  · exact .of_kept (.inl (.refl _)) hf hends (Reply.ofBool_ne _) (.of_same rfl rfl)
  · obtain ⟨hterm, howner, hdeadline⟩ := persistTerminalResult_terminal hactive.not_terminal hpersist
    exact .of_kept (.inr hterm) (.of_terminal hterm howner hdeadline) hends
      (Reply.ofBool_ne _) (.of_terminal hterm)

theorem clearCancelled_handled {workerId : Str} {clock : Clock} {e : Execution F} (hf : e.Fenced) :
    e.Handled workerId .clearCancelled clock (clearCancelled e) .yes := by
  rw [clearCancelled]
  split_ifs with h
  · have hterm : e.state.IsTerminal := by rw [h]; decide
    exact .of_kept (.inr hterm) (.of_terminal hterm rfl rfl) (not_ends rfl) (Reply.ofBool_ne true)
      (.of_terminal hterm)
  · exact .of_kept (.inl (.refl e)) hf (not_ends rfl) (Reply.ofBool_ne true) (.of_same rfl rfl)

theorem clearTerminalOrphan_handled {workerId : Str} {clock : Clock} {e : Execution F}
    (hf : e.Fenced) :
    e.Handled workerId .clearTerminalOrphan clock (clearTerminalOrphan e) .yes := by
  rw [clearTerminalOrphan]
  split_ifs with h
  · exact .of_kept (.inr h) (.of_terminal h (hf.terminal h).1 (hf.terminal h).2) (not_ends rfl)
      (Reply.ofBool_ne true) (.of_terminal h)
  · exact .of_kept (.inl (.refl e)) hf (not_ends rfl) (Reply.ofBool_ne true) (.of_same rfl rfl)

theorem claimForDispatch_handled {workerId : Str} {deadline : Time} {clock : Clock}
    {e e' : Execution F} {claim : Option ExecutionClaim} (hf : e.Fenced)
    (h : claimForDispatch workerId deadline clock e = .ok (e', claim)) :
    e.Handled workerId (.claimForDispatch deadline) clock e'
      (.ofPackage (claim.map fun _ => e'.loadDispatchPackage)) := by
  have hadvanced := claimForDispatch_advanced h
  rw [claimForDispatch] at h
  obtain ⟨-, -, h⟩ := bind_eq_ok h
  split_ifs at h with hqueued
  · cases h
    -- nobody holds an execution of the queue
    have hnone : e.row.leaseOwner = none := (hf.queued hqueued).2.1
    exact {
      fenced := hadvanced.fenced hf
      terminal := fun ht => absurd (hqueued ▸ ht) queued_not_terminal
      ends := not_ends rfl
      handed := fun package hp => by cases hp; exact ⟨rfl, rfl⟩
      keeps := fun _ _ _ hholds => by
        have := hholds.1
        rw [hnone] at this
        cases this }
  · cases h
    exact .of_kept (.inl (.refl e)) hf (not_ends rfl) (Reply.ofBool_ne false) (.of_same rfl rfl)

theorem retryMissingSandbox_handled {workerId : Str} {lease : ExpiredExecutionLease}
    {deadline : Time} {maxAttempts : Int} {clock : Clock} {e e' : Execution F}
    {attempt : Option Int} (hf : e.Fenced)
    (h : retryMissingSandbox lease.attemptCount workerId deadline maxAttempts clock e
      = .ok (e', attempt)) :
    e.Handled workerId (.retryMissingSandbox lease deadline maxAttempts) clock e'
      (.ofPackage (attempt.map fun _ => e'.loadDispatchPackage)) := by
  have hadvanced := retryMissingSandbox_advanced h
  have hkept (hrest : retryMissingSandbox lease.attemptCount workerId deadline maxAttempts clock e
      = .ok (e, none)) :
      e.Handled workerId (.retryMissingSandbox lease deadline maxAttempts) clock e
        (.ofPackage none) :=
    .of_kept (.inl (.refl e)) hf (not_ends rfl) (Reply.ofBool_ne false) (.of_same rfl rfl)
  have htakes : attempt.isSome →
      Transaction.takesOver workerId clock e (.retryMissingSandbox lease deadline maxAttempts)
        = true := by
    intro hsome
    obtain ⟨n, rfl⟩ := Option.isSome_iff_exists.mp hsome
    rw [Transaction.takesOver, h]
  have hwhole := h
  rw [retryMissingSandbox] at h
  obtain ⟨-, -, h⟩ := bind_eq_ok h
  split_ifs at h with hbound hrow
  · cases h; exact hkept hwhole
  · cases h
    exact {
      fenced := hadvanced.fenced hf
      terminal := fun ht => absurd ht hrow.1.not_terminal
      ends := not_ends rfl
      handed := fun package hp => by cases hp; exact ⟨rfl, rfl⟩
      keeps := fun hno => by rw [htakes rfl] at hno; cases hno }
  · cases h; exact hkept hwhole

theorem reacquireExpiredExecution_handled {workerId : Str} {lease : ExpiredExecutionLease}
    {missing : Bool} {deadline : Time} {kubernetesNamespace kubernetesJobName : Str}
    {clock : Clock} {e e' : Execution F} {package : Option (DispatchPackage F)} (hf : e.Fenced)
    (h : reacquireExpiredExecution lease missing workerId deadline kubernetesNamespace
      kubernetesJobName clock e = (e', package)) :
    e.Handled workerId (.reacquireExpiredExecution lease missing deadline kubernetesNamespace
      kubernetesJobName) clock e' (.ofPackage package) := by
  have hadvanced := reacquireExpiredExecution_advanced h
  rw [reacquireExpiredExecution] at h
  by_cases hrow : e.state = lease.status ∧ e.row.attemptCount = lease.attemptCount
      ∧ e.LeaseExpired clock.database
  · have hactive : e.state.IsActive := hrow.1 ▸ lease.status_active
    refine
      { fenced := hadvanced.fenced hf
        terminal := fun ht => absurd ht hactive.not_terminal
        ends := by cases package <;> exact not_ends rfl
        handed := fun p hp => ?_
        keeps := fun hno => by rw [Transaction.takesOver, decide_eq_true hrow] at hno; cases hno }
    rw [if_pos hrow] at h
    dsimp only at h
    cases package with
    | none => cases hp
    | some taken =>
        cases hp
        split_ifs at h with hmark hran <;> cases h
        · rw [markRunning]
          split_ifs <;> exact ⟨rfl, rfl⟩
        · exact ⟨rfl, rfl⟩
  · rw [if_neg hrow] at h
    cases h
    exact .of_kept (.inl (.refl e)) hf (not_ends rfl) (Reply.ofBool_ne false) (.of_same rfl rfl)

theorem Transaction.run_handled {evaluator : Evaluator F} {workerId : Str}
    {graded : Option (TrustedExecutionProjection F)} {clock : Clock} {a a' : Attempt F}
    {answer : Reply F} {t : Transaction F} (hf : a.execution.Fenced)
    (h : t.run evaluator workerId graded clock a = .ok (a', answer)) :
    a.execution.Handled workerId t clock a'.execution answer := by
  have hread {b : Bool} (hends : t.ends (.ofBool b) = true → a.execution.state.IsTerminal) :
      a.execution.Handled workerId t clock a.execution (.ofBool b) :=
    .of_kept (.inl (.refl _)) hf hends (Reply.ofBool_ne b) (.of_same rfl rfl)
  cases t with
  | claimForDispatch deadline =>
      obtain ⟨⟨e, claim⟩, hclaim, heq⟩ := map_eq_ok h
      cases heq
      exact claimForDispatch_handled hf hclaim
  | retryMissingSandbox lease deadline maxAttempts =>
      obtain ⟨⟨e, attempt⟩, hretry, heq⟩ := map_eq_ok h
      cases heq
      exact retryMissingSandbox_handled hf hretry
  | reacquireExpiredExecution lease missing deadline kubernetesNamespace kubernetesJobName =>
      cases h
      exact reacquireExpiredExecution_handled hf rfl
  | markRunning kubernetesNamespace kubernetesJobName =>
      cases h
      have hadvanced := markRunning_advanced workerId kubernetesNamespace kubernetesJobName clock
        a.execution
      have hkeeps : a.execution.KeepsHolder
          (Rigor.markRunning workerId kubernetesNamespace kubernetesJobName clock a.execution).1 := by
        rw [Rigor.markRunning]
        split_ifs <;> exact .of_same rfl rfl
      exact .of_kept (.inl hadvanced) (hadvanced.fenced hf) (not_ends rfl) (Reply.ofBool_ne _)
        hkeeps
  | renewLease deadline =>
      obtain ⟨⟨e, renewed⟩, hrenew, heq⟩ := map_eq_ok h
      cases heq
      have hadvanced := renewLease_advanced hrenew
      refine .of_kept (.inl hadvanced) (hadvanced.fenced hf) (not_ends rfl) (Reply.ofBool_ne _) ?_
      rw [Rigor.renewLease] at hrenew
      obtain ⟨-, -, hrenew⟩ := bind_eq_ok hrenew
      split_ifs at hrenew <;> cases hrenew <;> exact .of_same rfl rfl
  | deferInfrastructureRetry package category =>
      cases h
      have hadvanced := deferInfrastructureRetry_advanced package.attemptCount workerId category
        clock a.execution
      have hkeeps : a.execution.KeepsHolder (Rigor.deferInfrastructureRetry package.attemptCount
          workerId category clock a.execution).1 := by
        rw [Rigor.deferInfrastructureRetry]
        split_ifs <;> exact .of_same rfl rfl
      exact .of_kept (.inl hadvanced) (hadvanced.fenced hf) (not_ends rfl) (Reply.ofBool_ne _)
        hkeeps
  | persistProjection package p => exact persist_handled hf h
  | persistObservation package =>
      dsimp only [Transaction.run] at h
      split_ifs at h with hlock
      · cases h
        refine hread fun hends => ?_
        by_cases hterm : a.execution.state.IsTerminal
        · exact hterm
        · rw [decide_eq_false hterm] at hends
          cases hends
      · cases graded with
        | none =>
            cases h
            exact .of_kept (.inl (.refl _)) hf (not_ends rfl) (fun _ h => by cases h)
              (.of_same rfl rfl)
        | some p => exact persist_handled hf h
  | selectTerminalOrphan =>
      cases h
      refine hread fun hends => ?_
      by_cases hterm : a.execution.state.IsTerminal
      · exact hterm
      · rw [decide_eq_false hterm, Bool.false_and] at hends
        cases hends
  | clearCancelled => cases h; exact clearCancelled_handled hf
  | clearTerminalOrphan => cases h; exact clearTerminalOrphan_handled hf

/-! ## Careful programs -/

def Reply.isHanded : Reply F → Bool
  | .handed _ => true
  | _ => false

/-- What a program may rely on: it was handed an attempt, the execution has
ended, and its Job and its Secret were deleted since. -/
structure Known where
  held : Bool
  ended : Bool
  jobGone : Bool
  secretGone : Bool

def Known.nothing : Known := ⟨false, false, false, false⟩

def Known.attempt : Known := ⟨true, false, false, false⟩

def Known.over : Known := ⟨true, true, false, false⟩

def Known.deleted (k : Known) : Resource → Known
  | .job => { k with jobGone := true }
  | .secret => { k with secretGone := true }

def Known.answered (k : Known) (t : Transaction F) (answer : Reply F) : Known :=
  { k with held := k.held || answer.isHanded, ended := k.ended || t.ends answer }

/-- The sandbox of an ended execution was deleted. -/
def Known.Swept (k : Known) : Prop :=
  k.ended = true ∧ k.jobGone = true ∧ k.secretGone = true

/-- The program gives up only an attempt that it was handed, deletes as one
that saw the execution end only if it has, and forgets a sandbox, in the row
or with the message, only once it has deleted it. -/
def Program.Careful : Program F → Known → Prop
  | .done, _ => True
  | .create _ created failed, k => created.Careful k ∧ failed.Careful k
  | .observe next, k => ∀ observation, (next observation).Careful k
  | .delete .gaveUp _ next, k => k.held = true ∧ next.Careful k
  | .delete .ended resource next, k => k.ended = true ∧ next.Careful (k.deleted resource)
  | .transact t next, k =>
      (t.forgets = true → k.Swept) ∧ ∀ answer, (next answer).Careful (k.answered t answer)
  | .acknowledge next, k => k.Swept ∧ next.Careful k

/-- What follows a transaction that may have ended the execution. -/
structure Returns (next : Bool → Program F) : Prop where
  ended : (next true).Careful .over
  lost : (next false).Careful .attempt

theorem cleanup_careful {next : Program F} (h : next.Careful .attempt) :
    (cleanup .gaveUp next).Careful .attempt := ⟨rfl, rfl, h⟩

theorem createResources_careful {next : Program F} (h : next.Careful .attempt) :
    (createResources next).Careful .attempt :=
  ⟨⟨h, cleanup_careful trivial⟩, cleanup_careful trivial⟩

namespace Controller

variable {c : Controller}

theorem cleanupIfTerminal_returns : Returns (cleanupIfTerminal : Bool → Program F) where
  ended := ⟨rfl, rfl, trivial⟩
  lost := trivial

theorem persistInfrastructureFailure_careful {package : DispatchPackage F} {category message : Str}
    {next : Bool → Program F} (h : Returns next) :
    (persistInfrastructureFailure package category message next).Careful .attempt := by
  refine ⟨nofun, fun answer => ?_⟩
  cases answer with
  | yes => exact h.ended
  | no => exact h.lost
  | distrusted => exact h.lost
  | handed package => exact h.lost

theorem persistTimeout_careful {package : DispatchPackage F} {next : Bool → Program F}
    (h : Returns next) : (c.persistTimeout package next).Careful .attempt := by
  refine ⟨nofun, fun answer => ?_⟩
  cases answer with
  | yes => exact h.ended
  | no => exact h.lost
  | distrusted => exact h.lost
  | handed package => exact h.lost

theorem deferInfrastructureRetry_careful {package : DispatchPackage F} {category : Str}
    {next : Bool → Program F} (h : Returns next) :
    (c.deferInfrastructureRetry package category next).Careful .attempt := by
  rw [deferInfrastructureRetry]
  split_ifs
  · exact persistInfrastructureFailure_careful h
  · refine cleanup_careful ⟨nofun, fun answer => ?_⟩
    cases answer with
    | yes => exact h.lost
    | no => exact h.lost
    | distrusted => exact h.lost
    | handed package => exact h.lost

variable [Runtime F]

theorem persistObservation_careful {package : DispatchPackage F} {observation : SandboxObservation}
    {next : Bool → Program F} (h : Returns next) :
    (c.persistObservation package observation next).Careful .attempt := by
  rw [persistObservation]
  split_ifs
  · exact deferInfrastructureRetry_careful h
  · split
    · exact deferInfrastructureRetry_careful h
    · exact trivial
    · split_ifs
      · exact deferInfrastructureRetry_careful h
      · refine ⟨nofun, fun answer => ?_⟩
        cases answer with
        | yes => exact h.ended
        | no => exact h.lost
        | distrusted => exact deferInfrastructureRetry_careful h
        | handed package => exact h.lost

theorem observed_careful {package : DispatchPackage F} {next : Bool → Program F}
    {pending : Program F} (h : Returns next) (hpending : pending.Careful .attempt) :
    (c.observed package next pending).Careful .attempt := by
  intro observation
  dsimp only
  split_ifs
  · exact persistTimeout_careful h
  · exact persistObservation_careful h
  · exact deferInfrastructureRetry_careful h
  · exact hpending

theorem monitor_careful {package : DispatchPackage F} {next : Bool → Program F}
    (h : Returns next) (n : Nat) : (c.monitor package next n).Careful .attempt := by
  induction n with
  | zero => exact observed_careful h (persistTimeout_careful h)
  | succ n ih =>
      refine observed_careful h ?_
      split
      · exact ih
      · refine ⟨nofun, fun answer => ?_⟩
        cases answer with
        | yes => exact ih
        | no => exact h.lost
        | distrusted => exact h.lost
        | handed package => exact h.lost

theorem startSandbox_careful {package : DispatchPackage F} {next : Program F}
    (h : next.Careful .attempt) : (c.startSandbox package next).Careful .attempt := by
  rw [startSandbox]
  split
  · exact trivial
  · refine createResources_careful ⟨nofun, fun answer => ?_⟩
    cases answer with
    | yes => exact h
    | no => exact cleanup_careful trivial
    | distrusted => exact cleanup_careful trivial
    | handed package => exact cleanup_careful trivial

theorem processRequested_careful : (c.processRequested : Program F).Careful .nothing := by
  have hdone : Returns fun _ => (.done : Program F) := ⟨trivial, trivial⟩
  refine ⟨nofun, fun answer => ?_⟩
  cases answer with
  | handed package =>
      change (c.processClaimed package).Careful .attempt
      rw [processClaimed]
      split_ifs
      · exact persistInfrastructureFailure_careful hdone
      · exact persistInfrastructureFailure_careful hdone
      · exact startSandbox_careful (monitor_careful cleanupIfTerminal_returns _)
  | yes => exact trivial
  | no => exact trivial
  | distrusted => exact trivial

omit [Runtime F] in
theorem reacquire_careful {lease : ExpiredExecutionLease} {missing : Bool}
    {next : DispatchPackage F → Program F} (h : ∀ package, (next package).Careful .attempt) :
    (c.reacquire lease missing next).Careful .nothing := by
  refine ⟨nofun, fun answer => ?_⟩
  cases answer with
  | handed package => exact h package
  | yes => exact trivial
  | no => exact trivial
  | distrusted => exact trivial

omit [Runtime F] in
theorem failMissing_careful {lease : ExpiredExecutionLease} :
    (c.failMissing lease : Program F).Careful .nothing :=
  reacquire_careful fun _ => persistInfrastructureFailure_careful cleanupIfTerminal_returns

theorem reconcileLease_careful {lease : ExpiredExecutionLease} :
    (c.reconcileLease lease : Program F).Careful .nothing := by
  intro observation
  rw [reconcileObserved]
  split_ifs
  · exact failMissing_careful
  · refine ⟨nofun, fun answer => ?_⟩
    cases answer with
    | handed package => exact startSandbox_careful trivial
    | yes => exact failMissing_careful
    | no => exact failMissing_careful
    | distrusted => exact failMissing_careful
  · exact reacquire_careful fun _ => persistObservation_careful cleanupIfTerminal_returns
  · exact reacquire_careful fun _ => trivial

omit [Runtime F] in
theorem processCancel_careful :
    (processCancel : Program F).Careful ⟨false, true, false, false⟩ := by
  refine ⟨rfl, rfl, fun _ => ⟨rfl, rfl, rfl⟩, fun answer => ?_⟩
  exact ⟨⟨rfl, rfl, rfl⟩, trivial⟩

omit [Runtime F] in
theorem cleanupTerminalOrphans_careful :
    (cleanupTerminalOrphans : Program F).Careful .nothing := by
  refine ⟨nofun, fun answer => ?_⟩
  cases answer with
  | yes => exact ⟨rfl, rfl, fun _ => ⟨rfl, rfl, rfl⟩, fun _ => trivial⟩
  | no => exact trivial
  | distrusted => exact trivial
  | handed package => exact trivial

end Controller

/-! ## Runs -/

/-- The worker of the task holds the attempt it was handed. -/
def Task.Holds (task : Task F) (e : Execution F) : Prop :=
  ∃ package, task.held = some package ∧ e.Holds task.workerId package.attemptCount

/-- The task is careful with what it knows, and what it knows is so. That
what it deleted is gone takes a `clean` run. -/
structure Task.Follows (clean : Prop) (s : Cluster F) (task : Task F) (k : Known) : Prop where
  careful : task.program.Careful k
  held : k.held = true → task.held.isSome
  ended : k.ended = true → s.execution.state.IsTerminal
  jobGone : k.jobGone = true → k.ended = true ∧ (clean → s.sandbox.job = false)
  secretGone : k.secretGone = true → k.ended = true ∧ (clean → s.sandbox.secret = false)

structure Task.Inv (clean : Prop) (s : Cluster F) (task : Task F) : Prop where
  follows : ∃ k, task.Follows clean s k
  holds : s.execution.state.IsTerminal ∨ task.takenOver = true ∨ task.held = none
    ∨ task.Holds s.execution

namespace Cluster

structure Inv (clean : Prop) (s : Cluster F) : Prop where
  fenced : s.execution.Fenced
  cancelled : s.cancelRequested = true → s.execution.state.IsTerminal
  tasks : ∀ task ∈ s.tasks, task.Inv clean s

/-- What holds of the sandbox of an ended execution goes on to hold. -/
structure Later (clean : Prop) (s t : Cluster F) : Prop where
  terminal : s.execution.state.IsTerminal → t.execution.state.IsTerminal
  job : clean → s.execution.state.IsTerminal → s.sandbox.job = false → t.sandbox.job = false
  secret : clean → s.execution.state.IsTerminal → s.sandbox.secret = false →
    t.sandbox.secret = false

/-- The task is about to delete a resource. -/
def Deletes (s : Cluster F) (i : Nat) (task : Task F) (occasion : Occasion) (resource : Resource) :
    Prop :=
  s.tasks[i]? = some task ∧ ∃ next, task.program = .delete occasion resource next

/-- The task is about to create a resource. -/
def Creates (s : Cluster F) (i : Nat) (task : Task F) : Prop :=
  s.tasks[i]? = some task ∧ ∃ resource created failed,
    task.program = .create resource created failed

/-- Neither the Job nor the Secret exists. -/
def SandboxGone (s : Cluster F) : Prop := s.sandbox.job = false ∧ s.sandbox.secret = false

end Cluster

/-- Every `DELETE` is sent by the worker that holds the current attempt, or
when the execution has ended. -/
def DeletesOwn (x : Taken (Cluster F) (Event F × Clock)) : Prop :=
  ∀ i task occasion resource, x.label.1 = .task i →
    x.source.Deletes i task occasion resource →
    x.source.execution.state.IsTerminal ∨ task.Holds x.source.execution

/-- A controller that gives up its attempt while the execution goes on does
so before another takes the execution over. -/
def GivesUpFirst (x : Taken (Cluster F) (Event F × Clock)) : Prop :=
  ∀ i task resource, x.label.1 = .task i → x.source.Deletes i task .gaveUp resource →
    x.source.execution.state.IsTerminal ∨ task.takenOver = false

/-- For an ended execution no `POST` is sent and every `DELETE` succeeds, a
result is stored only for a sandbox that the row names, and the cancel event
of one that it does not name is not discarded. -/
structure SweepsCleanly (x : Taken (Cluster F) (Event F × Clock)) : Prop where
  posts : ∀ i task, x.label.1 = .task i → x.source.Creates i task →
    ¬x.source.execution.state.IsTerminal
  deletes : ∀ i task resource, x.label.1 = .task i → x.source.Deletes i task .ended resource →
    x.target.sandbox = x.source.sandbox.put false resource
  results : ∀ i, x.label.1 = .task i → ¬x.source.execution.state.IsTerminal →
    x.target.execution.state.IsTerminal →
    x.source.execution.row.kubernetesJobName.isSome ∨ x.source.SandboxGone
  discards : x.label.1 = .discard →
    x.source.execution.row.kubernetesJobName.isSome ∨ x.source.SandboxGone

theorem Task.Follows.later {clean : Prop} {s t : Cluster F} {task : Task F} {k : Known}
    (h : task.Follows clean s k) (hl : Cluster.Later clean s t) : task.Follows clean t k where
  careful := h.careful
  held := h.held
  ended hk := hl.terminal (h.ended hk)
  jobGone hk :=
    have hgone := h.jobGone hk
    ⟨hgone.1, fun hc => hl.job hc (h.ended hgone.1) (hgone.2 hc)⟩
  secretGone hk :=
    have hgone := h.secretGone hk
    ⟨hgone.1, fun hc => hl.secret hc (h.ended hgone.1) (hgone.2 hc)⟩

/-- What the task knows does not depend on what else its record says. -/
theorem Task.Follows.going {clean : Prop} {s : Cluster F} {task : Task F} {program : Program F}
    {k : Known} (h : task.Follows clean s k) (hcareful : program.Careful k) :
    Task.Follows clean s { task with program := program } k :=
  ⟨hcareful, h.held, h.ended, h.jobGone, h.secretGone⟩

namespace Cluster

variable {clean : Prop} {s t : Cluster F}

theorem Later.refl (s : Cluster F) : Later clean s s := ⟨id, fun _ _ h => h, fun _ _ h => h⟩

/-- The sandbox of an ended execution is put where it is not, or not at all. -/
theorem Later.of_sandbox (hattempt : t.attempt = s.attempt)
    (h : clean → s.execution.state.IsTerminal → t.sandbox = s.sandbox
      ∨ ∃ resource, t.sandbox = s.sandbox.put false resource) : Later clean s t where
  terminal ht := by rw [execution, hattempt]; exact ht
  job hc ht hjob := by
    rcases h hc ht with heq | ⟨resource, heq⟩
    · rw [heq]; exact hjob
    · rw [heq]
      cases resource with
      | job => rfl
      | secret => exact hjob
  secret hc ht hsecret := by
    rcases h hc ht with heq | ⟨resource, heq⟩
    · rw [heq]; exact hsecret
    · rw [heq]
      cases resource with
      | job => exact hsecret
      | secret => rfl

/-- A step that is no transaction: the acting task goes on, and the sandbox
changes or not. -/
theorem Inv.went {i : Nat} {task : Task F} {program : Program F} (h : s.Inv clean)
    (hi : s.tasks[i]? = some task) (hl : Later clean s t) (hattempt : t.attempt = s.attempt)
    (hcancel : t.cancelRequested = s.cancelRequested)
    (htasks : t.tasks = s.tasks.set i { task with program := program })
    (hgoes : ∀ k, task.program.Careful k → Task.Follows clean t task k →
      ∃ k', Task.Follows clean t { task with program := program } k') : t.Inv clean where
  fenced := by rw [execution, hattempt]; exact h.fenced
  cancelled hc := hl.terminal (h.cancelled (hcancel ▸ hc))
  tasks other hother := by
    rw [htasks] at hother
    rcases List.mem_or_eq_of_mem_set hother with hold | rfl
    · obtain ⟨⟨k, hk⟩, hholds⟩ := h.tasks other hold
      refine ⟨⟨k, hk.later hl⟩, ?_⟩
      rw [execution, hattempt]
      exact hholds
    · obtain ⟨⟨k, hk⟩, hholds⟩ := h.tasks task (List.mem_of_getElem? hi)
      refine ⟨hgoes k hk.careful (hk.later hl), ?_⟩
      rw [execution, hattempt]
      exact hholds

/-- A step that neither changes the execution nor moves a task. -/
theorem Inv.stayed (h : s.Inv clean) (hl : Later clean s t) (hattempt : t.attempt = s.attempt)
    (hcancel : t.cancelRequested = s.cancelRequested) (htasks : t.tasks = s.tasks) :
    t.Inv clean where
  fenced := by rw [execution, hattempt]; exact h.fenced
  cancelled hc := hl.terminal (h.cancelled (hcancel ▸ hc))
  tasks other hother := by
    obtain ⟨⟨k, hk⟩, hholds⟩ := h.tasks other (htasks ▸ hother)
    refine ⟨⟨k, hk.later hl⟩, ?_⟩
    rw [execution, hattempt]
    exact hholds

end Cluster

/-- Who holds an attempt after another's transaction. -/
theorem Task.Inv.holds_noted {clean : Prop} {workerId : Str} {t : Transaction F} {clock : Clock}
    {s : Cluster F} {e' : Execution F} {answer : Reply F} {task : Task F} (h : task.Inv clean s)
    (hhandled : s.execution.Handled workerId t clock e' answer) :
    e'.state.IsTerminal ∨ (task.noted (t.takesOver workerId clock s.execution)).takenOver = true
      ∨ task.held = none ∨ task.Holds e' := by
  rcases h.holds with hterm | htaken | hnone | ⟨package, hheld, hholds⟩
  · exact .inl (hhandled.terminal hterm)
  · exact .inr (.inl (by rw [Task.noted, htaken, Bool.true_or]))
  · exact .inr (.inr (.inl hnone))
  · cases htakes : t.takesOver workerId clock s.execution with
    | true => exact .inr (.inl (Bool.or_true _))
    | false =>
        exact (hhandled.keeps htakes _ _ hholds).imp_right fun hkept =>
          .inr (.inr ⟨package, hheld, hkept⟩)

/-- The task that made the transaction, with its answer. -/
theorem Task.Inv.answered {clean : Prop} {t : Transaction F} {clock : Clock}
    {s s' : Cluster F} {answer : Reply F} {task : Task F} {next : Reply F → Program F}
    (h : task.Inv clean s) (hp : task.program = .transact t next)
    (hl : Cluster.Later clean s s')
    (hhandled : s.execution.Handled task.workerId t clock s'.execution answer) :
    Task.Inv clean s'
      (task.answered (t.takesOver task.workerId clock s.execution) answer (next answer)) := by
  have hnoted := h.holds_noted hhandled
  obtain ⟨⟨k, hk⟩, -⟩ := h
  have hcareful := hk.careful
  rw [hp] at hcareful
  have hended : (k.answered t answer).ended = true → s'.execution.state.IsTerminal := by
    intro hended
    rcases Bool.or_eq_true_iff.mp hended with hbefore | hends
    · exact hl.terminal (hk.ended hbefore)
    · exact hhandled.ends hends
  have hlater := hk.later hl
  have hgone : k.jobGone = true →
      (k.answered t answer).ended = true ∧ (clean → s'.sandbox.job = false) :=
    fun hg => ⟨by rw [Known.answered, (hlater.jobGone hg).1, Bool.true_or], (hlater.jobGone hg).2⟩
  have hgone' : k.secretGone = true →
      (k.answered t answer).ended = true ∧ (clean → s'.sandbox.secret = false) :=
    fun hg => ⟨by rw [Known.answered, (hlater.secretGone hg).1, Bool.true_or],
      (hlater.secretGone hg).2⟩
  have hheld (hnot : answer.isHanded = false) :
      (k.answered t answer).held = true → task.held.isSome := by
    intro hheld
    rw [Known.answered, hnot, Bool.or_false] at hheld
    exact hk.held hheld
  cases answer with
  | handed package =>
      exact ⟨⟨_, hcareful.2 _, fun _ => rfl, hended, hgone, hgone'⟩,
        .inr (.inr (.inr ⟨package, rfl, hhandled.handed package rfl⟩))⟩
  | yes => exact ⟨⟨_, hcareful.2 _, hheld rfl, hended, hgone, hgone'⟩, hnoted⟩
  | no => exact ⟨⟨_, hcareful.2 _, hheld rfl, hended, hgone, hgone'⟩, hnoted⟩
  | distrusted => exact ⟨⟨_, hcareful.2 _, hheld rfl, hended, hgone, hgone'⟩, hnoted⟩

theorem Starts.inv [Runtime F] {clean : Prop} {c : Controller} {s : Cluster F} {clock : Clock}
    {program : Program F} (h : Starts c s clock program) (hs : s.Inv clean) :
    Task.Inv clean s ⟨c.workerId, none, false, program⟩ := by
  refine ⟨?_, .inr (.inr (.inl rfl))⟩
  cases h with
  | requested => exact ⟨_, Controller.processRequested_careful, nofun, nofun, nofun, nofun⟩
  | lease h => exact ⟨_, Controller.reconcileLease_careful, nofun, nofun, nofun, nofun⟩
  | cancelled h =>
      exact ⟨_, Controller.processCancel_careful, nofun, fun _ => hs.cancelled h, nofun, nofun⟩
  | orphans => exact ⟨_, Controller.cleanupTerminalOrphans_careful, nofun, nofun, nofun, nofun⟩

theorem ClusterStep.inv [Runtime F] {clean : Prop} {evaluator : Evaluator F} {s t : Cluster F}
    {a : Event F × Clock} (h : ClusterStep evaluator s a t) (hs : s.Inv clean)
    (hclean : clean → SweepsCleanly ⟨s, a, t⟩) : t.Inv clean := by
  cases h with
  | start h =>
      refine ⟨hs.fenced, hs.cancelled, fun task htask => ?_⟩
      rcases List.mem_append.mp htask with hold | hnew
      · obtain ⟨⟨k, hk⟩, hholds⟩ := hs.tasks task hold
        exact ⟨⟨k, hk.later (.of_sandbox rfl fun _ _ => .inl rfl)⟩, hholds⟩
      · rw [List.mem_singleton.mp hnew]
        obtain ⟨⟨k, hk⟩, hholds⟩ := h.inv hs
        exact ⟨⟨k, hk.later (.of_sandbox rfl fun _ _ => .inl rfl)⟩, hholds⟩
  | created hi hp =>
      refine hs.went hi (.of_sandbox rfl fun hc ht => ?_) rfl rfl rfl fun k hcareful hk => ⟨k, ?_⟩
      · exact absurd ht ((hclean hc).posts _ _ rfl ⟨hi, _, _, _, hp⟩)
      · rw [hp] at hcareful
        exact hk.going hcareful.1
  | failed hi hp _ =>
      refine hs.went hi (.of_sandbox rfl fun hc ht => ?_) rfl rfl rfl fun k hcareful hk => ⟨k, ?_⟩
      · exact absurd ht ((hclean hc).posts _ _ rfl ⟨hi, _, _, _, hp⟩)
      · rw [hp] at hcareful
        exact hk.going hcareful.2
  | observe hi hp _ =>
      refine hs.went hi (.of_sandbox rfl fun _ _ => .inl rfl) rfl rfl rfl
        fun k hcareful hk => ⟨k, ?_⟩
      rw [hp] at hcareful
      exact hk.going (hcareful _)
  | @delete i clock task occasion resource next sandbox hi hp hsandbox =>
      refine hs.went hi (.of_sandbox rfl fun _ _ => hsandbox.imp_right fun heq => ⟨resource, heq⟩)
        rfl rfl rfl fun k hcareful hk => ?_
      rw [hp] at hcareful
      cases occasion with
      | gaveUp => exact ⟨k, hk.going hcareful.2⟩
      | ended =>
          have hgone (hc : clean) : sandbox = s.sandbox.put false resource :=
            (hclean hc).deletes i task resource rfl ⟨hi, next, hp⟩
          refine ⟨k.deleted resource, ?_⟩
          cases resource with
          | job =>
              exact ⟨hcareful.2, hk.held, hk.ended,
                fun _ => ⟨hcareful.1, fun hc => by rw [hgone hc]; rfl⟩, hk.secretGone⟩
          | secret =>
              exact ⟨hcareful.2, hk.held, hk.ended, hk.jobGone,
                fun _ => ⟨hcareful.1, fun hc => by rw [hgone hc]; rfl⟩⟩
  | @transact i clock task t next graded a answer hi hp h =>
      have hhandled : s.execution.Handled task.workerId t clock a.execution answer :=
        Transaction.run_handled hs.fenced h
      refine ⟨hhandled.fenced, fun hc => hhandled.terminal (hs.cancelled hc), fun other hother => ?_⟩
      rcases List.mem_or_eq_of_mem_set hother with hold | rfl
      · obtain ⟨before, hbefore, rfl⟩ := List.mem_map.mp hold
        obtain ⟨⟨k, hk⟩, hholds⟩ := hs.tasks before hbefore
        have hlater := hk.later (t := { s with attempt := a })
          ⟨hhandled.terminal, fun _ _ hjob => hjob, fun _ _ hsecret => hsecret⟩
        exact ⟨⟨k, hlater.careful, hlater.held, hlater.ended, hlater.jobGone, hlater.secretGone⟩,
          (hs.tasks before hbefore).holds_noted hhandled⟩
      · exact (hs.tasks task (List.mem_of_getElem? hi)).answered hp
          ⟨hhandled.terminal, fun _ _ hjob => hjob, fun _ _ hsecret => hsecret⟩ hhandled
  | @cancel clock traceId e h =>
      have hmoved := cancel_moved h
      have hterm : e.state.IsTerminal := cancel_ok_terminal h
      refine ⟨hmoved.fenced hs.fenced, fun _ => hterm, fun task htask => ?_⟩
      obtain ⟨⟨k, hk⟩, -⟩ := hs.tasks task htask
      exact ⟨⟨k, hk.later ⟨fun _ => hterm, fun _ _ hjob => hjob, fun _ _ hsecret => hsecret⟩⟩,
        .inl hterm⟩
  | acknowledge hi hp =>
      refine hs.went hi (.of_sandbox rfl fun _ _ => .inl rfl) rfl rfl rfl
        fun k hcareful hk => ⟨k, ?_⟩
      rw [hp] at hcareful
      exact hk.going hcareful.2
  | jobExpires =>
      exact hs.stayed (.of_sandbox rfl fun _ _ => .inr ⟨.job, rfl⟩) rfl rfl rfl
  | discard => exact hs.stayed (.of_sandbox rfl fun _ _ => .inl rfl) rfl rfl rfl

/-- As `create_queued` leaves it, before any controller has seen it. -/
structure Cluster.Fresh (s : Cluster F) : Prop where
  queued : s.execution.state = .queued
  attempt : s.execution.row.attemptCount = 0
  owner : s.execution.row.leaseOwner = none
  deadline : s.execution.row.leaseExpiresAt = none
  uncancelled : s.cancelRequested = false
  tasks : s.tasks = []

theorem Cluster.Fresh.inv {clean : Prop} {s : Cluster F} (h : s.Fresh) : s.Inv clean where
  fenced :=
    { queued := fun _ => ⟨h.attempt, h.owner, h.deadline⟩
      active := fun ha => by
        rw [h.queued] at ha
        rcases ha with ha | ha <;> cases ha
      terminal := fun _ => ⟨h.owner, h.deadline⟩ }
  cancelled hc := by rw [h.uncancelled] at hc; cases hc
  tasks task htask := by rw [h.tasks] at htask; cases htask

def controllerOf (workerId : Str) (deadline : Time) : Controller where
  workerId := workerId
  kubernetesNamespace := "sandboxes"
  maxAttempts := 3
  deadline := deadline
  int _ := none
  polls := 0
  renewals _ := none

def selectCluster : Cluster NanoFloat where
  attempt := selectAttempt
  sandbox := ⟨false, false⟩
  cancelRequested := false
  cancelPending := false
  tasks := []

theorem selectCluster_fresh : selectCluster.Fresh := ⟨rfl, rfl, rfl, rfl, rfl, rfl⟩

/-- The attempt once a controller has claimed it. -/
def claimedBy (workerId : Str) (deadline : Time) : Attempt NanoFloat :=
  { selectAttempt with
    execution := Execution.appendEvent .dispatching (.dispatching 1 workerId deadline none)
      { selectAttempt.execution with row := { selectRow with
          state := .dispatching
          leaseOwner := some workerId
          leaseExpiresAt := some deadline
          attemptCount := 1
          dispatchStartedAt := some 0 } } }

/-- `mark_running` and what follows it. -/
def markSelect (next : Program NanoFloat) : Program NanoFloat :=
  (controllerOf "a" 180000000).markRunning (claimedPackageOf selectAttempt) next

theorem processClaimed_select :
    ∃ next, (controllerOf "a" 180000000).processClaimed (claimedPackageOf selectAttempt)
      = createResources (markSelect next) := by
  obtain ⟨payload, hrequest⟩ :
      ∃ payload, sandboxRequest (claimedPackageOf selectAttempt) = .ok payload := ⟨_, rfl⟩
  unfold Controller.processClaimed Controller.startSandbox
  rw [if_neg (by decide), if_neg (by decide), hrequest]
  exact ⟨_, rfl⟩

/-- The execution, its sandbox and the tasks on it. -/
def selectState (a : Attempt NanoFloat) (job secret : Bool) (tasks : List (Task NanoFloat)) :
    Cluster NanoFloat :=
  ⟨a, ⟨job, secret⟩, false, false, tasks⟩

/-- A task that was handed the first attempt. -/
def selectTask (workerId : Str) (takenOver : Bool) (program : Program NanoFloat) : Task NanoFloat :=
  ⟨workerId, some (claimedPackageOf selectAttempt), takenOver, program⟩

theorem start_select :
    ClusterStep echoEvaluator selectCluster (.start (controllerOf "a" 180000000), ⟨0, 0⟩)
      (selectState selectAttempt false false
        [⟨"a", none, false, (controllerOf "a" 180000000).processRequested⟩]) :=
  .start .requested

/-- A controller claims the execution and goes on to create its sandbox. -/
theorem claim_select : ∃ next,
    ClusterStep echoEvaluator
      (selectState selectAttempt false false
        [⟨"a", none, false, (controllerOf "a" 180000000).processRequested⟩])
      (.task 0, ⟨0, 0⟩)
      (selectState (claimedBy "a" 180000000) false false
        [selectTask "a" false (createResources (markSelect next))]) := by
  obtain ⟨next, hnext⟩ := processClaimed_select
  refine ⟨next, ?_⟩
  rw [← hnext]
  exact @ClusterStep.transact _ _ _ (selectState selectAttempt false false
    [⟨"a", none, false, (controllerOf "a" 180000000).processRequested⟩]) 0 ⟨0, 0⟩ _ _ _ none
    (claimedBy "a" 180000000) (.handed (claimedPackageOf selectAttempt)) rfl rfl rfl

theorem delete_select (a : Attempt NanoFloat) (job secret gone takenOver : Bool) (clock : Clock)
    (others : List (Task NanoFloat)) (next : Program NanoFloat) :
    ClusterStep echoEvaluator
      (selectState a job secret
        (selectTask "a" takenOver (.delete .gaveUp .job next) :: others))
      (.task 0, clock)
      (selectState a (job && !gone) secret (selectTask "a" takenOver next :: others)) := by
  refine @ClusterStep.delete _ _ _ (selectState a job secret
    (selectTask "a" takenOver (.delete .gaveUp .job next) :: others)) 0 clock
    (selectTask "a" takenOver (.delete .gaveUp .job next)) .gaveUp .job next
    ⟨job && !gone, secret⟩ rfl rfl ?_
  cases gone with
  | false => exact .inl (by rw [Bool.not_false, Bool.and_true]; rfl)
  | true => exact .inr (by rw [Bool.not_true, Bool.and_false]; rfl)

theorem GivesUpFirst.of_single {x : Taken (Cluster F) (Event F × Clock)} {task : Task F}
    (h : x.source.tasks = [task]) (hnot : task.takenOver = false) : GivesUpFirst x := by
  rintro i other resource - ⟨hi, -⟩
  have hmem := List.mem_of_getElem? hi
  rw [h] at hmem
  rw [List.mem_singleton.mp hmem]
  exact .inr hnot

/-- The lease of the first controller, which has run out. -/
def expiredSelect : ExpiredExecutionLease where
  executionId := selectRow.id
  status := .dispatching
  status_active := .inl rfl
  leaseOwner := some "a"
  leaseExpiresAt := some 180000000
  kubernetesNamespace := none
  kubernetesJobName := none
  attemptCount := 1

/-- The second controller has found the Job and reacquired the lease. -/
def reacquiredSelect : Attempt NanoFloat :=
  { selectAttempt with
    execution := Execution.appendEvent .running
      (.running 1 "sandboxes" (sandboxJobName selectRow.id))
      { (claimedBy "a" 180000000).execution with
        row := { (claimedBy "a" 180000000).execution.row with
          state := .running
          leaseOwner := some "b"
          leaseExpiresAt := some 400000000
          runningAt := some 200000000
          startedAt := some 200000000
          kubernetesNamespace := some "sandboxes"
          kubernetesJobName := some (sandboxJobName selectRow.id) } } }

theorem expiredLease_select :
    expiredLease ⟨200000000, 200000000⟩ (claimedBy "a" 180000000).execution
      = some expiredSelect := by
  rw [expiredLease, dif_pos (by decide)]
  rfl

theorem reacquire_select :
    reacquireExpiredExecution expiredSelect false "b" 400000000 "sandboxes"
        (sandboxJobName selectRow.id) ⟨200000000, 200000000⟩ (claimedBy "a" 180000000).execution
      = (reacquiredSelect.execution, some (claimedPackageOf selectAttempt)) := by
  rw [reacquireExpiredExecution, if_pos (by decide)]
  rfl

theorem markRunning_select :
    markRunning "a" "sandboxes" (sandboxJobName selectRow.id) ⟨210000000, 210000000⟩
      reacquiredSelect.execution = (reacquiredSelect.execution, false) := by
  rw [markRunning, if_neg (by rintro ⟨hstate, -⟩; cases hstate)]

end Rigor
