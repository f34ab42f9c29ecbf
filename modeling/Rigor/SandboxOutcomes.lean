import Rigor.SandboxOwnership

/-!
# What a finished sandbox does to its execution

A sandbox that ended is seen by the worker that monitors it, or, when that
worker's lease has run out, by the worker that reconciles the lease. Both
grade the logs, try the attempt again or fail the execution; only the
monitor asks whether the Job exceeded its deadline. The two leave the
execution alike exactly when that question does not arise
(`monitor_reconcile_agree`).
-/

namespace Rigor

open Py

variable {F : Type}

/-! ## Outcomes -/

/-- What an observation comes to for an execution: a terminal status, or
another attempt. -/
inductive Outcome where
  | ended (status : ExecutionStatus) (errorCategory : Option Str)
  | anotherAttempt
  | lost
  | raised
  deriving DecidableEq

def Execution.outcome (e : Execution F) : Outcome :=
  if e.state.IsTerminal then .ended e.state e.row.errorCategory else .anotherAttempt

def Observed.outcome : Observed F → Outcome
  | .stored a => a.execution.outcome
  | .deferred a => a.execution.outcome
  | .lost => .lost
  | .raised => .raised

section

variable [FloatArith F]

/-- `_persist_projection`. -/
def storeTerminal (evaluator : Evaluator F) (package : DispatchPackage F) (workerId : Str)
    (p : TrustedExecutionProjection F) (clock : Clock) (a : Attempt F) : Observed F :=
  match storeProjection evaluator package workerId p clock a with
  | .ok (a', some _) => .stored a'
  | .ok (_, none) => .lost
  | .error _ => .raised

/-- `_monitor`, with the observation that ends its loop. -/
def monitorObservation (evaluator : Evaluator F) (c : Controller) (package : DispatchPackage F)
    (structured : Json F) (observation : SandboxObservation) (clock later : Clock)
    (a : Attempt F) : Observed F :=
  if observation.state = "SUCCEEDED" ∨ observation.state = "FAILED" then
    if observation.reason = some "DeadlineExceeded" ∧ observation.logs = [] then
      storeTerminal evaluator package c.workerId (c.timeoutProjection package) clock a
    else
      persistLogs evaluator package c.workerId c.maxAttempts structured observation.logs clock later a
  else deferRetry evaluator package c.workerId c.maxAttempts "sandbox_missing" clock a

/-- `_reacquire_expired_execution`, and what follows if it answers a package. -/
def reacquired (c : Controller) (lease : ExpiredExecutionLease) (missing : Bool) (clock : Clock)
    (a : Attempt F) (next : DispatchPackage F → Attempt F → Observed F) : Observed F :=
  match reacquireExpiredExecution lease missing c.workerId c.deadline
      (lease.kubernetesNamespace.getD c.kubernetesNamespace)
      (lease.kubernetesJobName.getD (sandboxJobName lease.executionId)) clock a.execution with
  | (e, some package) => next package { a with execution := e }
  | (_, none) => .lost

/-- `_reconcile_lease` of a lost sandbox that is not tried again. -/
def reconcileFailed (evaluator : Evaluator F) (c : Controller) (lease : ExpiredExecutionLease)
    (clock later : Clock) (a : Attempt F) : Observed F :=
  reacquired c lease true clock a fun package a' =>
    storeTerminal evaluator package c.workerId (infrastructureProjection "execution_attempt_limit"
      "Execution failed after repeated infrastructure errors.") later a'

/-- `_reconcile_lease`, with the observation of a sandbox that has ended or
is gone; `clock` is that of the first transaction. -/
def reconcileObservation (evaluator : Evaluator F) (c : Controller) (lease : ExpiredExecutionLease)
    (structured : Json F) (observation : SandboxObservation) (clock second third : Clock)
    (a : Attempt F) : Observed F :=
  if observation.state = "MISSING" then
    if lease.attemptCount ≥ c.maxAttempts then reconcileFailed evaluator c lease clock second a
    else
      match retryMissingSandbox lease.attemptCount c.workerId c.deadline c.maxAttempts clock
          a.execution with
      | .ok (e, some _) => .deferred { a with execution := e }
      | .ok (_, none) => reconcileFailed evaluator c lease clock second a
      | .error _ => .raised
  else
    reacquired c lease false clock a fun package a' =>
      persistLogs evaluator package c.workerId c.maxAttempts structured observation.logs second third
        a'

/-! ## Stored projections -/

variable {evaluator : Evaluator F} {package : DispatchPackage F} {workerId workerId' : Str}
  {clock clock' later later' : Clock} {a b : Attempt F} {p : TrustedExecutionProjection F}

omit [FloatArith F] in
theorem persistTerminalResult_category {e e' : Execution F} {status : ExecutionStatus}
    (hactive : e.state.IsActive) (h : persistTerminalResult p clock e = .ok (e', status)) :
    e'.row.errorCategory = p.errorCategory := by
  rw [persistTerminalResult, if_neg hactive.not_terminal] at h
  split at h
  · cases h
  · split_ifs at h
    obtain ⟨written, hwrite, heq⟩ := map_eq_ok h
    cases heq
    rw [writePublicResult] at hwrite
    split_ifs at hwrite
    cases hwrite
    rfl

omit [FloatArith F] in
theorem persistProjection_outcome {a' : Attempt F} {status : ExecutionStatus}
    (howned : OwnedBy workerId package clock a)
    (h : persistProjection evaluator package workerId p clock a = .ok (a', some status)) :
    a'.execution.outcome = .ended p.executionStatus p.errorCategory := by
  obtain ⟨-, -, -, hactive⟩ := lockOwnedAttempt_iff.mp howned.locked
  rw [persistProjection, persistObservation, if_neg (by rw [howned.locked]; decide), ok_bind] at h
  obtain ⟨⟨execution, terminal⟩, hpersist, h⟩ := bind_eq_ok h
  obtain ⟨hstatus, hstate, -⟩ := persistTerminalResult_ok hactive hpersist
  have hcategory := persistTerminalResult_category hactive hpersist
  have hended : execution.outcome = .ended p.executionStatus p.errorCategory := by
    rw [Execution.outcome, if_pos (hstate ▸ p.status_terminal), hstate, hcategory]
  dsimp only at h
  rw [if_pos hstatus] at h
  obtain ⟨⟨submission, session⟩, -, h⟩ := bind_eq_ok h
  cases h
  exact hended

/-- An owned attempt ends as the projection says, where its columns take the
values and its state may end so. -/
theorem storeTerminal_outcome (evaluator : Evaluator F) (howned : OwnedBy workerId package clock a)
    (hruntime : 0 ≤ p.runtimeMs) (hhidden : p.hiddenPassed ≤ p.hiddenTotal) :
    (storeTerminal evaluator package workerId p clock a).outcome
      = if (storedValues package a p).all Pg.Value.accepted = true
          ∧ p.executionStatus ∈ legalExecutionTransitions a.execution.state then
          .ended p.executionStatus p.errorCategory
        else .raised := by
  rw [storeTerminal, storeProjection, howned.locked, Bool.true_and]
  cases haccepted : (storedValues package a p).all Pg.Value.accepted with
  | false =>
      rw [Bool.not_false, if_pos rfl, if_neg fun h => Bool.noConfusion h.1]
      rfl
  | true =>
      rw [Bool.not_true, if_neg Bool.false_ne_true]
      rcases persistProjection_owned evaluator howned hruntime hhidden with
        ⟨hlegal, a', status, h, -⟩ | ⟨hlegal, e, h⟩
      · rw [if_pos ⟨rfl, hlegal⟩, h]
        exact persistProjection_outcome howned h
      · rw [if_neg fun hboth => hlegal hboth.2, h]
        rfl

/-- The same projection ends two owned attempts alike that differ in their
leases. -/
theorem storeTerminal_congr (howned : OwnedBy workerId package clock a)
    (howned' : OwnedBy workerId' package clock' b)
    (hstate : b.execution.state = a.execution.state) (hsubmission : b.submission = a.submission)
    (hruntime : 0 ≤ p.runtimeMs) (hhidden : p.hiddenPassed ≤ p.hiddenTotal) :
    (storeTerminal evaluator package workerId' p clock' b).outcome
      = (storeTerminal evaluator package workerId p clock a).outcome := by
  have hvalues : storedValues package b p = storedValues package a p := by
    rw [storedValues, storedValues, finalizes, finalizes, hstate, hsubmission]
  rw [storeTerminal_outcome evaluator howned hruntime hhidden,
    storeTerminal_outcome evaluator howned' hruntime hhidden, hvalues, hstate]

/-- The failure at the attempt limit can be stored of every owned attempt. -/
theorem attemptLimit_outcome (evaluator : Evaluator F) (howned : OwnedBy workerId package clock a) :
    (storeTerminal evaluator package workerId (infrastructureProjection "execution_attempt_limit"
      "Execution failed after repeated infrastructure errors.") clock a).outcome
      = .ended .failed (some "execution_attempt_limit") := by
  obtain ⟨-, -, -, hactive⟩ := lockOwnedAttempt_iff.mp howned.locked
  have hfailed : ExecutionStatus.failed ∈ legalExecutionTransitions a.execution.state := by
    rcases hactive with h | h <;> rw [h] <;> decide
  have haccepted : (storedValues package a (infrastructureProjection "execution_attempt_limit"
      "Execution failed after repeated infrastructure errors.")).all Pg.Value.accepted = true :=
    storedValues_infrastructure package a (by decide) (by decide) (by decide)
  exact (storeTerminal_outcome evaluator howned (le_refl (0 : Int)) (Nat.le_refl 0)).trans
    (if_pos ⟨haccepted, hfailed⟩)

theorem deferRetry_outcome (evaluator : Evaluator F) {maxAttempts : Int} (category : Str)
    (howned : OwnedBy workerId package clock a) :
    (deferRetry evaluator package workerId maxAttempts category clock a).outcome
      = if package.attemptCount ≥ maxAttempts then
          .ended .failed (some "execution_attempt_limit")
        else .anotherAttempt := by
  obtain ⟨-, hattempt, hleased, hactive⟩ := lockOwnedAttempt_iff.mp howned.locked
  rw [deferRetry]
  split_ifs with hmax
  · rw [← attemptLimit_outcome evaluator howned, storeTerminal]
    generalize storeProjection evaluator package workerId _ clock a = x
    rcases x with e | ⟨a', _ | status⟩ <;> rfl
  · rw [deferInfrastructureRetry, if_pos ⟨hattempt, hleased.1, hactive⟩]
    exact if_neg hactive.not_terminal

theorem deferRetry_congr {maxAttempts : Int} (category : Str)
    (howned : OwnedBy workerId package clock a) (howned' : OwnedBy workerId' package clock' b) :
    (deferRetry evaluator package workerId' maxAttempts category clock' b).outcome
      = (deferRetry evaluator package workerId maxAttempts category clock a).outcome := by
  rw [deferRetry_outcome evaluator category howned, deferRetry_outcome evaluator category howned']

/-- What the function makes of a transaction that found its attempt. -/
theorem observed_storeProjection (defer : Str → Observed F) :
    observed defer (storeProjection evaluator package workerId p clock a)
      = storeTerminal evaluator package workerId p clock a := by
  rw [storeTerminal, storeProjection]
  split_ifs
  · rfl
  · rcases persistProjection evaluator package workerId p clock a with e | ⟨a', _ | status⟩ <;> rfl

/-- The logs of a sandbox come to the same for two owned attempts that
differ in their leases. -/
theorem persistLogs_congr {maxAttempts : Int} {structured : Json F} {logs : Str}
    (howned : OwnedBy workerId package clock a) (hlater : OwnedBy workerId package later a)
    (howned' : OwnedBy workerId' package clock' b) (hlater' : OwnedBy workerId' package later' b)
    (hstate : b.execution.state = a.execution.state) (hsubmission : b.submission = a.submission) :
    (persistLogs evaluator package workerId' maxAttempts structured logs clock' later' b).outcome
      = (persistLogs evaluator package workerId maxAttempts structured logs clock later a).outcome := by
  have hdefer : ∀ category,
      (deferRetry evaluator package workerId' maxAttempts category later' b).outcome
        = (deferRetry evaluator package workerId maxAttempts category later a).outcome :=
    fun category => deferRetry_congr category hlater hlater'
  rw [persistLogs, persistLogs]
  dsimp only
  split_ifs with hempty
  · exact hdefer _
  · cases hparse : parseRunnerResult (F := F) logs package.executionId (some package.attemptCount) with
    | error e =>
        cases e with
        | trusted message => exact hdefer _
        | load e => rfl
    | ok r =>
        dsimp only
        split_ifs with hinfra
        · exact hdefer _
        · rw [storeObservation, storeObservation, if_neg (by rw [howned'.locked]; decide),
            if_neg (by rw [howned.locked]; decide)]
          cases hgrade : loadExpectedTests structured >>= trustedCompare r with
          | error e =>
              dsimp only
              cases e with
              | runner e =>
                  cases e with
                  | trusted message => exact hdefer _
                  | load e => rfl
              | typeError => rfl
              | overflow => rfl
              | key => rfl
          | ok p =>
              obtain ⟨expected, -, hcompare⟩ := bind_eq_ok hgrade
              obtain ⟨hnodup, hruntime⟩ := parseRunnerResult_ok hparse
              obtain ⟨-, -, hp, -⟩ := trustedCompare_ok hcompare
              dsimp only
              rw [observed_storeProjection, observed_storeProjection]
              exact storeTerminal_congr howned howned' hstate hsubmission (hp ▸ hruntime)
                (trustedCompare_hidden hcompare hnodup)

/-! ## The two workers -/

/-- The execution under another lease. -/
def Attempt.leasedTo (workerId : Str) (deadline : Time) (a : Attempt F) : Attempt F :=
  { a with execution := { a.execution with row := { a.execution.row with
      leaseOwner := some workerId, leaseExpiresAt := some deadline } } }

omit [FloatArith F] in
theorem reacquired_eq {c : Controller} {lease : ExpiredExecutionLease} {missing : Bool}
    {next : DispatchPackage F → Attempt F → Observed F}
    (hlease : expiredLease clock a.execution = some lease) (hrunning : a.execution.state = .running) :
    reacquired c lease missing clock a next
      = next a.execution.loadDispatchPackage (a.leasedTo c.workerId c.deadline) := by
  unfold expiredLease at hlease
  split_ifs at hlease with hexpired
  cases hlease
  rw [reacquired, reacquireExpiredExecution, if_pos ⟨rfl, rfl, hexpired.2⟩]
  dsimp only
  rw [if_neg fun h => by rw [hrunning] at h; cases h.1]
  rfl

omit [FloatArith F] in
theorem leasedTo_owned {deadline : Time} (howned : OwnedBy workerId package clock a)
    (hdeadline : clock'.database < deadline) :
    OwnedBy workerId' package clock' (a.leasedTo workerId' deadline) where
  locked := by
    obtain ⟨hone, hattempt, -, hactive⟩ := lockOwnedAttempt_iff.mp howned.locked
    exact lockOwnedAttempt_iff.mpr ⟨hone, hattempt, ⟨rfl, deadline, rfl, hdeadline⟩, hactive⟩
  submission := howned.submission

/-- The Job was ended by its deadline before it wrote anything. -/
def SandboxObservation.EndedSilently (o : SandboxObservation) : Prop :=
  (o.state = "SUCCEEDED" ∨ o.state = "FAILED") ∧ o.reason = some "DeadlineExceeded" ∧ o.logs = []

omit [FloatArith F] in
theorem positiveLimit_pos (int : Str → Option Int) (limits : Dict F) (key : Str) {default : Int}
    (h : 0 < default) : 0 < positiveLimit int limits key default := by
  unfold positiveLimit
  split
  · split_ifs with hvalue
    · exact hvalue
    · exact h
  · split
    · exact h
    · split_ifs with hparsed
      · exact hparsed
      · exact h
  · exact h

/-- The monitor's time limit is none of the outcomes of the reconciler. -/
theorem timeout_outcome (evaluator : Evaluator F) (c : Controller)
    (howned : OwnedBy workerId package clock a) :
    (storeTerminal evaluator package workerId (c.timeoutProjection package) clock a).outcome
        = .ended .timeout (some "timeout")
      ∨ (storeTerminal evaluator package workerId (c.timeoutProjection package) clock a).outcome
        = .raised := by
  have hseconds : 0 ≤ executionTimeoutSeconds c.int package * 1000 :=
    Int.mul_nonneg (positiveLimit_pos _ _ _ (by decide)).le (by decide)
  rw [storeTerminal_outcome evaluator howned hseconds (Nat.le_refl 0)]
  split_ifs
  · exact .inl rfl
  · exact .inr rfl

/-- A sandbox that is gone is tried again, up to the limit. -/
theorem reconcileObservation_missing (evaluator : Evaluator F) {c : Controller}
    {lease : ExpiredExecutionLease} {structured : Json F} {observation : SandboxObservation}
    {second third : Clock} (hmissing : observation.state = "MISSING")
    (hlease : expiredLease clock' a.execution = some lease) (hrunning : a.execution.state = .running)
    (howned : OwnedBy workerId a.execution.loadDispatchPackage clock a)
    (hdeadline : clock'.app < c.deadline) (hsecond : second.database < c.deadline) :
    (reconcileObservation evaluator c lease structured observation clock' second third a).outcome
      = if a.execution.row.attemptCount ≥ c.maxAttempts then
          .ended .failed (some "execution_attempt_limit")
        else .anotherAttempt := by
  obtain ⟨hone, -, -, hactive⟩ := lockOwnedAttempt_iff.mp howned.locked
  have hcount : lease.attemptCount = a.execution.row.attemptCount := by
    unfold expiredLease at hlease
    split_ifs at hlease
    cases hlease
    rfl
  have hexpired : a.execution.LeaseExpired clock'.database := by
    unfold expiredLease at hlease
    split_ifs at hlease with h
    exact h.2
  have hpositive : 1 ≤ a.execution.row.attemptCount := hone
  rw [reconcileObservation, if_pos hmissing, hcount]
  split_ifs with hmax
  · rw [reconcileFailed, reacquired_eq hlease hrunning]
    exact attemptLimit_outcome evaluator (leasedTo_owned howned hsecond)
  · rw [retryMissingSandbox, validateLeaseDeadline, if_neg (Int.not_le.mpr hdeadline), ok_bind,
      if_neg (by omega), if_pos ⟨hactive, rfl, by omega, hexpired⟩]
    rw [Observed.outcome, Execution.outcome, if_neg]
    change ¬ExecutionStatus.dispatching.IsTerminal
    decide

theorem reconcileObservation_ended (evaluator : Evaluator F) {c : Controller}
    {lease : ExpiredExecutionLease} {structured : Json F} {observation : SandboxObservation}
    {second third : Clock} (hmissing : observation.state ≠ "MISSING")
    (hlease : expiredLease clock' a.execution = some lease)
    (hrunning : a.execution.state = .running) :
    reconcileObservation evaluator c lease structured observation clock' second third a
      = persistLogs evaluator a.execution.loadDispatchPackage c.workerId c.maxAttempts structured
        observation.logs second third (a.leasedTo c.workerId c.deadline) := by
  rw [reconcileObservation, if_neg hmissing, reacquired_eq hlease hrunning]

end

/-- A worker that owns a running attempt and monitors its sandbox, and one
that takes the attempt over when the lease has run out and reconciles it,
leave the execution alike exactly when the sandbox was not ended by its
deadline without a log. -/
theorem monitor_reconcile_agree [FloatArith F] (evaluator : Evaluator F) (c c' : Controller)
    (structured : Json F) (observation : SandboxObservation) (a : Attempt F)
    (lease : ExpiredExecutionLease) (clock later clock' second third : Clock)
    (hstate : observation.state = "SUCCEEDED" ∨ observation.state = "FAILED"
      ∨ observation.state = "MISSING")
    (hmax : c.maxAttempts = c'.maxAttempts) (hrunning : a.execution.state = .running)
    (howned : OwnedBy c.workerId a.execution.loadDispatchPackage clock a)
    (hlater : OwnedBy c.workerId a.execution.loadDispatchPackage later a)
    (hlease : expiredLease clock' a.execution = some lease) (hdeadline : clock'.app < c'.deadline)
    (hsecond : second.database < c'.deadline) (hthird : third.database < c'.deadline) :
    (monitorObservation evaluator c a.execution.loadDispatchPackage structured observation clock
        later a).outcome
      = (reconcileObservation evaluator c' lease structured observation clock' second third a).outcome
      ↔ ¬observation.EndedSilently := by
  by_cases hmissing : observation.state = "MISSING"
  · have hended : ¬(observation.state = "SUCCEEDED" ∨ observation.state = "FAILED") := by
      rw [hmissing]
      decide
    rw [monitorObservation, if_neg hended, deferRetry_outcome evaluator _ howned,
      reconcileObservation_missing evaluator hmissing hlease hrunning howned hdeadline hsecond, hmax]
    exact iff_of_true rfl fun h => hended h.1
  · have hended : observation.state = "SUCCEEDED" ∨ observation.state = "FAILED" := by
      rcases hstate with h | h | h
      · exact .inl h
      · exact .inr h
      · exact absurd h hmissing
    rw [monitorObservation, if_pos hended, reconcileObservation_ended evaluator hmissing hlease hrunning]
    have hsecond' : OwnedBy c'.workerId _ second (a.leasedTo c'.workerId c'.deadline) :=
      leasedTo_owned howned hsecond
    have hthird' : OwnedBy c'.workerId _ third (a.leasedTo c'.workerId c'.deadline) :=
      leasedTo_owned howned hthird
    by_cases hsilent : observation.reason = some "DeadlineExceeded" ∧ observation.logs = []
    · refine iff_of_false (fun heq => ?_) (not_not_intro ⟨hended, hsilent⟩)
      rw [if_pos hsilent, persistLogs, if_pos hsilent.2, deferRetry_outcome evaluator _ hthird'] at heq
      rcases timeout_outcome evaluator c howned with h | h
      · rw [h] at heq
        split_ifs at heq with hlimit
        cases heq
      · rw [h] at heq
        split_ifs at heq
    · rw [if_neg hsilent, hmax]
      exact iff_of_true (persistLogs_congr howned hlater hsecond' hthird' rfl rfl).symm
        fun h => hsilent h.2

/-! ## A deadline without a log -/

section

/-- The Job exceeded its deadline before the runner wrote its line. -/
def silentDeadline : SandboxObservation := ⟨"FAILED", [], some "DeadlineExceeded"⟩

def finishedSilently : SandboxObservation := ⟨"FAILED", [], some "BackoffLimitExceeded"⟩

def echoController : Controller where
  workerId := "worker-1"
  kubernetesNamespace := "sandboxes"
  maxAttempts := 3
  deadline := 200
  int _ := none
  polls := 0
  renewals _ := none

def echoLease : ExpiredExecutionLease where
  executionId := executionOne
  status := .running
  status_active := .inr rfl
  leaseOwner := some "worker-1"
  leaseExpiresAt := some 60
  kubernetesNamespace := some "sandboxes"
  kubernetesJobName := some "execution-1"
  attemptCount := 1

theorem echoLease_expired : expiredLease ⟨100, 100⟩ echoAttempt.execution = some echoLease := by
  have hexpired : echoAttempt.execution.LeaseExpired 100 := ⟨60, rfl, by decide⟩
  rw [expiredLease, dif_pos ⟨.inr rfl, hexpired⟩]
  rfl

theorem monitor_reconcile_agree_unfinished :
    (monitorObservation echoEvaluator echoController
        echoAttempt.execution.loadDispatchPackage .null finishedSilently ⟨0, 0⟩ ⟨0, 0⟩
        echoAttempt).outcome
      = (reconcileObservation echoEvaluator echoController echoLease .null
        finishedSilently ⟨100, 100⟩ ⟨100, 100⟩ ⟨100, 100⟩ echoAttempt).outcome :=
  (monitor_reconcile_agree echoEvaluator echoController echoController
    .null finishedSilently echoAttempt echoLease ⟨0, 0⟩ ⟨0, 0⟩ ⟨100, 100⟩ ⟨100, 100⟩ ⟨100, 100⟩
    (.inr (.inl rfl)) rfl rfl echoAttempt_owned echoAttempt_owned echoLease_expired (by decide)
    (by decide) (by decide)).mpr (by
      rintro ⟨-, h, -⟩
      revert h
      decide)

/-- The monitor ends the execution, the reconciler tries it again. -/
theorem silent_deadline_differs :
    (monitorObservation echoEvaluator echoController
        echoAttempt.execution.loadDispatchPackage .null silentDeadline ⟨0, 0⟩ ⟨0, 0⟩
        echoAttempt).outcome = .ended .timeout (some "timeout")
      ∧ (reconcileObservation echoEvaluator echoController echoLease .null
        silentDeadline ⟨100, 100⟩ ⟨100, 100⟩ ⟨100, 100⟩ echoAttempt).outcome = .anotherAttempt := by
  constructor
  · rw [monitorObservation, if_pos (.inr rfl), if_pos ⟨rfl, rfl⟩]
    refine (storeTerminal_outcome echoEvaluator echoAttempt_owned ?_ (Nat.le_refl 0)).trans
      (if_pos ⟨?_, ?_⟩)
    · decide
    · decide +kernel
    · decide
  · have howned : OwnedBy "worker-1" echoAttempt.execution.loadDispatchPackage ⟨100, 100⟩
        (echoAttempt.leasedTo "worker-1" 200) := leasedTo_owned echoAttempt_owned (by decide)
    rw [reconcileObservation_ended echoEvaluator (by decide) echoLease_expired rfl, persistLogs]
    dsimp only
    rw [if_pos (by rfl : silentDeadline.logs = [])]
    exact (deferRetry_outcome echoEvaluator _ howned).trans (if_neg (by decide))

end

end Rigor
