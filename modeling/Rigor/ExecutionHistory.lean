import Mathlib.Data.List.Chain
import Rigor.ExecutionFencing
import Rigor.QueueApi

/-!
# Attempts and events of one execution

Every statement on one row of `execution_requests`, from `create_queued` to
the clean-up of terminal rows, in any order and by any number of workers.
`attempt_accounting` counts the attempts: the row's number is the number of
attempts handed out so far, one by one. `events_explain_row` reads the event
log: numbered without gaps, every step an edge of the state machine or a
retry, and the last event the state of the row.
-/

namespace Rigor

open Py Runs

variable {F : Type}

/-! ## Statements on a row -/

inductive RowAction (F : Type) where
  | claimForDispatch (workerId : Str) (deadline : Time)
  | retryMissingSandbox (expectedAttempt : Int) (workerId : Str) (deadline : Time)
  | markRunning (workerId kubernetesNamespace kubernetesJobName : Str)
  | renewLease (workerId : Str) (deadline : Time)
  | deferInfrastructureRetry (attemptCount : Int) (workerId category : Str)
  | reacquireExpiredExecution (lease : ExpiredExecutionLease) (missing : Bool) (workerId : Str)
      (deadline : Time) (kubernetesNamespace kubernetesJobName : Str)
  | cancel (traceId : Str)
  | persistTerminalResult (p : TrustedExecutionProjection F)
  | clearCancelled
  | clearTerminalOrphan

/-- A statement, the clocks it reads, and the attempt number it hands out. -/
structure RowEvent (F : Type) where
  action : RowAction F
  clock : Clock
  returned : Option Int

/-- One statement that commits, by workers that share `maxAttempts`. -/
inductive RowStep (maxAttempts : Int) : Execution F → RowEvent F → Execution F → Prop where
  | claimForDispatch {e e' : Execution F} {workerId : Str} {deadline : Time} {clock : Clock}
      {claim : Option ExecutionClaim}
      (h : claimForDispatch workerId deadline clock e = .ok (e', claim)) :
      RowStep maxAttempts e
        ⟨.claimForDispatch workerId deadline, clock, claim.map ExecutionClaim.attemptCount⟩ e'
  | retryMissingSandbox {e e' : Execution F} {expectedAttempt : Int} {workerId : Str}
      {deadline : Time} {clock : Clock} {attempt : Option Int}
      (h : retryMissingSandbox expectedAttempt workerId deadline maxAttempts clock e
        = .ok (e', attempt)) :
      RowStep maxAttempts e
        ⟨.retryMissingSandbox expectedAttempt workerId deadline, clock, attempt⟩ e'
  | markRunning {e : Execution F} {workerId kubernetesNamespace kubernetesJobName : Str}
      {clock : Clock} :
      RowStep maxAttempts e
        ⟨.markRunning workerId kubernetesNamespace kubernetesJobName, clock, none⟩
        (markRunning workerId kubernetesNamespace kubernetesJobName clock e).1
  | renewLease {e e' : Execution F} {workerId : Str} {deadline : Time} {clock : Clock}
      {renewed : Bool} (h : renewLease workerId deadline clock e = .ok (e', renewed)) :
      RowStep maxAttempts e ⟨.renewLease workerId deadline, clock, none⟩ e'
  | deferInfrastructureRetry {e : Execution F} {attemptCount : Int} {workerId category : Str}
      {clock : Clock} :
      RowStep maxAttempts e ⟨.deferInfrastructureRetry attemptCount workerId category, clock, none⟩
        (deferInfrastructureRetry attemptCount workerId category clock e).1
  | reacquireExpiredExecution {e : Execution F} {lease : ExpiredExecutionLease} {missing : Bool}
      {workerId : Str} {deadline : Time} {kubernetesNamespace kubernetesJobName : Str}
      {clock : Clock} :
      RowStep maxAttempts e ⟨.reacquireExpiredExecution lease missing workerId deadline
          kubernetesNamespace kubernetesJobName, clock, none⟩
        (reacquireExpiredExecution lease missing workerId deadline kubernetesNamespace
          kubernetesJobName clock e).1
  | cancel {e e' : Execution F} {traceId : Str} {clock : Clock}
      (h : cancel traceId clock e = .ok e') :
      RowStep maxAttempts e ⟨.cancel traceId, clock, none⟩ e'
  | persistTerminalResult {e e' : Execution F} {p : TrustedExecutionProjection F} {clock : Clock}
      {status : ExecutionStatus} (h : persistTerminalResult p clock e = .ok (e', status)) :
      RowStep maxAttempts e ⟨.persistTerminalResult p, clock, none⟩ e'
  | clearCancelled {e : Execution F} {clock : Clock} :
      RowStep maxAttempts e ⟨.clearCancelled, clock, none⟩ (clearCancelled e)
  | clearTerminalOrphan {e : Execution F} {clock : Clock} :
      RowStep maxAttempts e ⟨.clearTerminalOrphan, clock, none⟩ (clearTerminalOrphan e)

/-! ## What a statement may do -/

/-- One event more, for the state of `e'`. -/
def OneEvent (e e' : Execution F) : Prop :=
  ∃ details, e'.events = e.events ++ [⟨e.nextSequenceNumber, e'.state, details⟩]

/-- A statement leaves state, events and attempt alone, hands out the next
attempt, or takes an edge of the state machine and logs it. -/
inductive RowMove (maxAttempts : Int) (e e' : Execution F) : RowEvent F → Prop where
  | still {x : RowEvent F} (returned : x.returned = none) (state : e'.state = e.state)
      (events : e'.events = e.events) (attempt : e'.row.attemptCount = e.row.attemptCount) :
      RowMove maxAttempts e e' x
  | claimed {workerId : Str} {deadline : Time} {clock : Clock} (source : e.state = .queued)
      (state : e'.state = .dispatching) (events : OneEvent e e')
      (attempt : e'.row.attemptCount = e.row.attemptCount + 1) :
      RowMove maxAttempts e e'
        ⟨.claimForDispatch workerId deadline, clock, some (e.row.attemptCount + 1)⟩
  | retried {expectedAttempt : Int} {workerId : Str} {deadline : Time} {clock : Clock}
      (source : e.state.IsActive) (bound : e.row.attemptCount < maxAttempts)
      (state : e'.state = .dispatching) (events : OneEvent e e')
      (attempt : e'.row.attemptCount = e.row.attemptCount + 1) :
      RowMove maxAttempts e e' ⟨.retryMissingSandbox expectedAttempt workerId deadline, clock,
        some (e.row.attemptCount + 1)⟩
  | edge {x : RowEvent F} (returned : x.returned = none)
      (legal : e'.state ∈ legalExecutionTransitions e.state) (events : OneEvent e e')
      (attempt : e'.row.attemptCount = e.row.attemptCount) : RowMove maxAttempts e e' x

theorem transition_logged {target : ExecutionStatus}
    {details : ExecutionStatus → ExecutionStatus → EventDetails} {clock : Clock}
    {e e' : Execution F} (h : transition target details clock e = .ok e') :
    e'.state ∈ legalExecutionTransitions e.state ∧ OneEvent e e'
      ∧ e'.row.attemptCount = e.row.attemptCount := by
  obtain ⟨hlegal, hstate, -, -, -, hattempt, -, -⟩ := transition_ok h
  refine ⟨hstate ▸ hlegal, ?_, hattempt⟩
  rw [transition] at h
  split at h
  · cases h
  · cases h
    exact ⟨_, rfl⟩

theorem persistTerminalResult_logged {p : TrustedExecutionProjection F} {clock : Clock}
    {e e' : Execution F} {status : ExecutionStatus}
    (h : persistTerminalResult p clock e = .ok (e', status)) :
    e' = e ∨ e'.state ∈ legalExecutionTransitions e.state ∧ OneEvent e e'
      ∧ e'.row.attemptCount = e.row.attemptCount := by
  rw [persistTerminalResult] at h
  by_cases hterm : e.state.IsTerminal
  · rw [if_pos hterm] at h
    cases h
    exact .inl rfl
  · rw [if_neg hterm] at h
    split at h
    · cases h
    · rename_i moved hmoved
      split_ifs at h
      obtain ⟨written, hwrite, heq⟩ := map_eq_ok h
      cases heq
      rw [writePublicResult] at hwrite
      split_ifs at hwrite
      cases hwrite
      obtain ⟨hlegal, ⟨details, hevents⟩, hattempt⟩ := transition_logged hmoved
      exact .inr ⟨hlegal, ⟨details, hevents⟩, hattempt⟩

theorem cancel_logged {traceId : Str} {clock : Clock} {e e' : Execution F}
    (h : cancel traceId clock e = .ok e') :
    e' = e ∨ e'.state ∈ legalExecutionTransitions e.state ∧ OneEvent e e'
      ∧ e'.row.attemptCount = e.row.attemptCount := by
  rw [cancel] at h
  split_ifs at h
  · cases h; exact .inl rfl
  · exact .inr (transition_logged h)

theorem markRunning_logged (workerId kubernetesNamespace kubernetesJobName : Str) (clock : Clock)
    (e : Execution F) {e' : Execution F}
    (h : (markRunning workerId kubernetesNamespace kubernetesJobName clock e).1 = e') :
    e' = e ∨ e.state = .dispatching ∧ e'.state = .running ∧ OneEvent e e'
      ∧ e'.row.attemptCount = e.row.attemptCount := by
  subst h
  rw [markRunning]
  split_ifs with hrow
  · exact .inr ⟨hrow.1, rfl, ⟨_, rfl⟩, rfl⟩
  · exact .inl rfl

/-- The statements of the reconciler take the lease, and may mark the row
running. -/
theorem reacquireExpiredExecution_logged (lease : ExpiredExecutionLease) (missing : Bool)
    (workerId : Str) (deadline : Time) (kubernetesNamespace kubernetesJobName : Str)
    (clock : Clock) (e : Execution F) {e' : Execution F}
    (h : (reacquireExpiredExecution lease missing workerId deadline kubernetesNamespace
      kubernetesJobName clock e).1 = e') :
    (e'.state = e.state ∧ e'.events = e.events ∨ e'.state ∈ legalExecutionTransitions e.state
      ∧ OneEvent e e') ∧ e'.row.attemptCount = e.row.attemptCount := by
  subst h
  rw [reacquireExpiredExecution]
  by_cases hrow : e.state = lease.status ∧ e.row.attemptCount = lease.attemptCount
      ∧ e.LeaseExpired clock.database
  · rw [if_pos hrow]
    by_cases hmark : lease.status = .dispatching ∧ missing = false
    · rw [if_pos hmark]
      rcases markRunning_logged workerId kubernetesNamespace kubernetesJobName clock _ rfl with
        hsame | ⟨hsource, hstate, ⟨details, hevents⟩, hattempt⟩
      · dsimp only
        rw [hsame]
        exact ⟨.inl ⟨rfl, rfl⟩, rfl⟩
      · refine ⟨.inr ⟨?_, details, hevents⟩, hattempt⟩
        have hdispatching : e.state = .dispatching := hsource
        rw [hdispatching]
        exact hstate ▸ (by decide)
    · rw [if_neg hmark]
      exact ⟨.inl ⟨rfl, rfl⟩, rfl⟩
  · rw [if_neg hrow]
    exact ⟨.inl ⟨rfl, rfl⟩, rfl⟩

theorem RowStep.move {maxAttempts : Int} {e e' : Execution F} {x : RowEvent F}
    (h : RowStep maxAttempts e x e') : RowMove maxAttempts e e' x := by
  cases h with
  | claimForDispatch h =>
      rw [Rigor.claimForDispatch] at h
      obtain ⟨-, -, h⟩ := bind_eq_ok h
      split_ifs at h with hqueued
      · cases h
        exact .claimed hqueued rfl ⟨_, rfl⟩ rfl
      · cases h
        exact .still rfl rfl rfl rfl
  | retryMissingSandbox h =>
      rw [Rigor.retryMissingSandbox] at h
      obtain ⟨-, -, h⟩ := bind_eq_ok h
      split_ifs at h with hbound hrow
      · cases h
        exact .still rfl rfl rfl rfl
      · cases h
        exact .retried hrow.1 hrow.2.2.1 rfl ⟨_, rfl⟩ rfl
      · cases h
        exact .still rfl rfl rfl rfl
  | markRunning =>
      rcases markRunning_logged _ _ _ _ e rfl with hsame | ⟨hsource, hstate, hevents, hattempt⟩
      · rw [hsame]
        exact .still rfl rfl rfl rfl
      · exact .edge rfl (by rw [hsource, hstate]; decide) hevents hattempt
  | renewLease h =>
      rw [Rigor.renewLease] at h
      obtain ⟨-, -, h⟩ := bind_eq_ok h
      split_ifs at h <;> cases h <;> exact .still rfl rfl rfl rfl
  | deferInfrastructureRetry =>
      rw [Rigor.deferInfrastructureRetry]
      split_ifs <;> exact .still rfl rfl rfl rfl
  | reacquireExpiredExecution =>
      obtain ⟨⟨hstate, hevents⟩ | ⟨hlegal, hevents⟩, hattempt⟩ :=
        reacquireExpiredExecution_logged _ _ _ _ _ _ _ e rfl
      · exact .still rfl hstate hevents hattempt
      · exact .edge rfl hlegal hevents hattempt
  | cancel h =>
      rcases cancel_logged h with rfl | ⟨hlegal, hevents, hattempt⟩
      · exact .still rfl rfl rfl rfl
      · exact .edge rfl hlegal hevents hattempt
  | persistTerminalResult h =>
      rcases persistTerminalResult_logged h with rfl | ⟨hlegal, hevents, hattempt⟩
      · exact .still rfl rfl rfl rfl
      · exact .edge rfl hlegal hevents hattempt
  | clearCancelled =>
      rw [Rigor.clearCancelled]
      split_ifs <;> exact .still rfl rfl rfl rfl
  | clearTerminalOrphan =>
      rw [Rigor.clearTerminalOrphan]
      split_ifs <;> exact .still rfl rfl rfl rfl

/-! ## Attempts -/

theorem RowStep.fenced {maxAttempts : Int} {e e' : Execution F} {x : RowEvent F}
    (h : RowStep maxAttempts e x e') (hf : e.Fenced) : e'.Fenced := by
  cases h with
  | claimForDispatch h => exact (claimForDispatch_advanced h).fenced hf
  | retryMissingSandbox h => exact (retryMissingSandbox_advanced h).fenced hf
  | markRunning => exact (markRunning_advanced ..).fenced hf
  | renewLease h => exact (renewLease_advanced h).fenced hf
  | deferInfrastructureRetry => exact (deferInfrastructureRetry_advanced ..).fenced hf
  | reacquireExpiredExecution => exact (reacquireExpiredExecution_advanced rfl).fenced hf
  | cancel h => exact (cancel_moved h).fenced hf
  | persistTerminalResult h =>
      by_cases hterm : e.state.IsTerminal
      · rw [Rigor.persistTerminalResult, if_pos hterm] at h
        cases h
        exact hf
      · obtain ⟨hstate, howner, hdeadline⟩ := persistTerminalResult_terminal hterm h
        exact .of_terminal hstate howner hdeadline
  | clearCancelled =>
      rw [Rigor.clearCancelled]
      split_ifs with hcancelled
      · exact .of_terminal (show e.state.IsTerminal by rw [hcancelled]; decide) rfl rfl
      · exact hf
  | clearTerminalOrphan =>
      rw [Rigor.clearTerminalOrphan]
      split_ifs with hterm
      · exact .of_terminal hterm (hf.terminal hterm).1 (hf.terminal hterm).2
      · exact hf

theorem queuedExecution_fenced (env : Environment) (principal : Principal) (q : QueueRequest)
    (inputPayload : Dict F) (executionId : Uuid) (clock : Clock) :
    (queuedExecution env principal q inputPayload executionId clock).Fenced where
  queued _ := ⟨rfl, rfl, rfl⟩
  active h := by rcases h with h | h <;> cases h
  terminal h := absurd h queued_not_terminal

/-- The row's claim: `claim_for_dispatch` that answers with an attempt. -/
def RowEvent.isClaim : RowEvent F → Bool
  | ⟨.claimForDispatch _ _, _, some _⟩ => true
  | _ => false

/-- The attempt numbers handed out along a run, in order. -/
def returnedAttempts (trace : List (Taken (Execution F) (RowEvent F))) : List Int :=
  trace.filterMap fun x => x.label.returned

/-- Attempt 1 is handed out by `claim_for_dispatch`, later ones by
`retry_missing_sandbox`. -/
def HandedOutBy (x : RowEvent F) (n : Int) : Prop :=
  match x.action with
  | .claimForDispatch _ _ => n = 1
  | .retryMissingSandbox _ _ _ => 1 < n
  | _ => False

theorem RowMove.handedOut {maxAttempts : Int} {e e' : Execution F} {x : RowEvent F}
    (h : RowMove maxAttempts e e' x) (hf : e.Fenced) {n : Int} (hn : x.returned = some n) :
    e'.row.attemptCount = n ∧ HandedOutBy x n := by
  cases h with
  | still hnone => exact nomatch hnone.symm.trans hn
  | claimed hsource hstate hevents hattempt =>
      cases hn
      refine ⟨hattempt, ?_⟩
      rw [HandedOutBy, (hf.queued hsource).1]
      rfl
  | retried hsource hbound hstate hevents hattempt =>
      cases hn
      refine ⟨hattempt, ?_⟩
      have hone := (hf.active hsource).1
      change 1 < e.row.attemptCount + 1
      omega
  | edge hnone => exact nomatch hnone.symm.trans hn

theorem RowMove.counted {maxAttempts : Int} {e e' : Execution F} {x : RowEvent F}
    (h : RowMove maxAttempts e e' x) :
    x.returned = none ∧ e'.row.attemptCount = e.row.attemptCount
      ∨ x.returned = some (e.row.attemptCount + 1)
        ∧ e'.row.attemptCount = e.row.attemptCount + 1 := by
  cases h with
  | still hnone _ _ hattempt => exact .inl ⟨hnone, hattempt⟩
  | claimed _ _ _ hattempt => exact .inr ⟨rfl, hattempt⟩
  | retried _ _ _ _ hattempt => exact .inr ⟨rfl, hattempt⟩
  | edge hnone _ _ hattempt => exact .inl ⟨hnone, hattempt⟩

/-- Nothing returns to the queue. -/
theorem RowMove.not_queued {maxAttempts : Int} {e e' : Execution F} {x : RowEvent F}
    (h : RowMove maxAttempts e e' x) (hs : e.state ≠ .queued) : e'.state ≠ .queued := by
  cases h with
  | still _ hstate => rw [hstate]; exact hs
  | claimed _ hstate => rw [hstate]; nofun
  | retried _ _ hstate => rw [hstate]; nofun
  | edge _ hlegal => exact fun hqueued => queued_not_legal e.state (hqueued ▸ hlegal)

theorem RowMove.of_claim {maxAttempts : Int} {e e' : Execution F} {x : RowEvent F}
    (h : RowMove maxAttempts e e' x) (hx : x.isClaim) : e.state = .queued ∧ e'.state ≠ .queued := by
  obtain ⟨action, clock, returned⟩ := x
  cases h with
  | still hnone =>
      obtain rfl : returned = none := hnone
      cases action <;> cases hx
  | claimed hsource hstate => exact ⟨hsource, by rw [hstate]; nofun⟩
  | retried => cases hx
  | edge hnone =>
      obtain rfl : returned = none := hnone
      cases action <;> cases hx

/-- What attempt accounting keeps. -/
structure Accounted (maxAttempts : Int) (e : Execution F) : Prop where
  fenced : e.Fenced
  bound : e.row.attemptCount ≤ maxAttempts

theorem RowStep.accounted {maxAttempts : Int} (hmax : 1 ≤ maxAttempts) {e e' : Execution F}
    {x : RowEvent F} (h : RowStep maxAttempts e x e') (he : Accounted maxAttempts e) :
    Accounted maxAttempts e' := by
  refine ⟨h.fenced he.fenced, ?_⟩
  have hbound := he.bound
  cases h.move with
  | still _ _ _ hattempt => omega
  | claimed hsource _ _ hattempt =>
      have hzero := (he.fenced.queued hsource).1
      omega
  | retried _ hless _ _ hattempt => omega
  | edge _ _ _ hattempt => omega

/-- Attempts of a queued execution, for workers that share `maxAttempts`:
they are handed out one by one from 1, each once, never beyond the bound,
and the row's count is the last one handed out. -/
theorem attempt_accounting {maxAttempts : Int} (hmax : 1 ≤ maxAttempts) {env : Environment}
    {principal : Principal} {q : QueueRequest} {inputPayload : Dict F} {executionId : Uuid}
    {clock : Clock} {e : Execution F} {trace : List (Taken (Execution F) (RowEvent F))}
    (h : Run (RowStep maxAttempts)
      (queuedExecution env principal q inputPayload executionId clock) trace e) :
    returnedAttempts trace
        = (List.range (returnedAttempts trace).length).map (fun i : Nat => (i : Int) + 1)
      ∧ e.row.attemptCount = (returnedAttempts trace).length
      ∧ e.row.attemptCount ≤ maxAttempts
      ∧ (∀ x ∈ trace, x.target.row.attemptCount = x.source.row.attemptCount
          ∨ x.target.row.attemptCount = x.source.row.attemptCount + 1)
      ∧ (∀ x ∈ trace, ∀ n, x.label.returned = some n →
          x.target.row.attemptCount = n ∧ HandedOutBy x.label n)
      ∧ trace.countP (fun x => x.label.isClaim) ≤ 1
      ∧ (e.state.IsActive →
          1 ≤ e.row.attemptCount ∧ e.row.leaseOwner.isSome ∧ e.row.leaseExpiresAt.isSome) := by
  have h₀ : Accounted maxAttempts
      (queuedExecution env principal q inputPayload executionId clock) :=
    ⟨queuedExecution_fenced .., Int.le_trans (Int.le_of_lt Int.zero_lt_one) hmax⟩
  have hstep : ∀ x : Taken (Execution F) (RowEvent F), Accounted maxAttempts x.source →
      RowStep maxAttempts x.source x.label x.target → Accounted maxAttempts x.target :=
    fun _ hx hstep => hstep.accounted hmax hx
  have hend := h.invariant hstep h₀
  have hcounted := h.forall_taken hstep (fun x _ hx => hx.move.counted) h₀
  obtain ⟨hlist, hcount⟩ := h.emitted_eq (fun e => e.row.attemptCount)
    (fun x => x.label.returned) hstep (fun x _ hx => hx.move.counted) h₀
  refine ⟨hlist.trans (List.map_congr_left fun i _ => ?_), hcount.trans (Int.zero_add _), hend.bound,
    fun x hx => (hcounted x hx).imp And.right And.right, ?_, ?_, hend.fenced.active⟩
  · exact Int.add_comm ..
  · exact h.forall_taken hstep (fun x hx hstep n hn => hstep.move.handedOut hx.fenced hn) h₀
  · -- every claim leaves the queue, to which nothing returns
    refine Nat.le_trans (List.countP_mono_left fun x hx hclaim => ?_)
      (h.entries_le_one (P := fun e : Execution F => e.state ≠ .queued) hstep
        (fun x _ hx => hx.move.not_queued) h₀)
    have hentered := h.forall_taken hstep (fun x _ hx hclaim => hx.move.of_claim hclaim) h₀ x hx
      hclaim
    simp only [decide_eq_true_eq, not_not]
    exact hentered

def sampleQueueRequest : QueueRequest :=
  ⟨.run, "session-1", none, "version-1", .postgresql, "SELECT 1", "run:key-0001"⟩

/-- A queued execution of the sample request. -/
def sampleQueued : Execution Rat :=
  queuedExecution ⟨fun _ => [], fun _ => none⟩ ⟨"candidate-1", none, "trace-1"⟩ sampleQueueRequest []
    "execution-1" zeroClock

/-- A worker claims the execution and loses it; another one retries. -/
theorem attempt_accounting_retry : ∃ trace e, Run (RowStep 3) sampleQueued trace e
    ∧ returnedAttempts trace = [1, 2] ∧ e.row.attemptCount = (returnedAttempts trace).length
    ∧ e.row.attemptCount ≤ 3 ∧ trace.countP (fun x => x.label.isClaim) ≤ 1 := by
  have hrun : ∃ trace e, Run (RowStep 3) sampleQueued trace e ∧ returnedAttempts trace = [1, 2] := by
    refine Run.exists_cons ⟨.claimForDispatch "worker-1" 60, zeroClock, _⟩
      (.claimForDispatch rfl) ?_
    refine Run.exists_cons ⟨.retryMissingSandbox 1 "worker-2" 200, ⟨100, 100⟩, some 2⟩
      (.retryMissingSandbox rfl) ?_
    exact Run.exists_nil rfl
  obtain ⟨trace, e, hrun, hreturned⟩ := hrun
  obtain ⟨-, hcount, hbound, -, -, hclaims, -⟩ := attempt_accounting (by decide) hrun
  exact ⟨trace, e, hrun, hreturned, hcount, hbound, hclaims⟩

/-! ## The event log -/

/-- Two consecutive states of the log. -/
def EventEdge (s s' : ExecutionStatus) : Prop :=
  s' ∈ legalExecutionTransitions s ∨ s.IsActive ∧ s' = .dispatching

/-- The statements above, whatever their bound on attempts, and
`ExecutionRepository.transition` to any state. -/
inductive LogStep : Execution F → Option (RowEvent F) → Execution F → Prop where
  | row {maxAttempts : Int} {e e' : Execution F} {x : RowEvent F}
      (h : RowStep maxAttempts e x e') : LogStep e (some x) e'
  | transition {target : ExecutionStatus}
      {details : ExecutionStatus → ExecutionStatus → EventDetails} {clock : Clock}
      {e e' : Execution F} (h : transition target details clock e = .ok e') : LogStep e none e'

def Execution.eventStates (e : Execution F) : List ExecutionStatus :=
  e.events.map ExecutionEvent.state

/-- The log explains the row. -/
structure Explained (e : Execution F) : Prop where
  numbered : e.events.map ExecutionEvent.sequenceNumber
    = (List.range e.events.length).map fun i : Nat => (i : Int)
  first : e.eventStates.head? = some .queued
  last : e.eventStates.getLast? = some e.state
  edges : e.eventStates.IsChain EventEdge

theorem foldl_max_range (n : Nat) :
    ((List.range n).map fun i : Nat => (i : Int)).foldl max (-1) = (n : Int) - 1 := by
  induction n with
  | zero => rfl
  | succ n ih =>
      rw [List.range_succ, List.map_append, List.foldl_append, ih]
      change max ((n : Int) - 1) (n : Int) = _
      omega

theorem Explained.nextSequenceNumber {e : Execution F} (h : Explained e) :
    e.nextSequenceNumber = e.events.length := by
  rw [Execution.nextSequenceNumber, h.numbered, foldl_max_range]
  omega

theorem Explained.of_same {e e' : Execution F} (h : Explained e) (hstate : e'.state = e.state)
    (hevents : e'.events = e.events) : Explained e' where
  numbered := hevents ▸ h.numbered
  first := by rw [Execution.eventStates, hevents]; exact h.first
  last := by rw [Execution.eventStates, hevents, hstate]; exact h.last
  edges := by rw [Execution.eventStates, hevents]; exact h.edges

theorem Explained.of_event {e e' : Execution F} (h : Explained e) (hevent : OneEvent e e')
    (hedge : EventEdge e.state e'.state) : Explained e' := by
  obtain ⟨details, hevents⟩ := hevent
  have hstates : e'.eventStates = e.eventStates ++ [e'.state] := by
    rw [Execution.eventStates, hevents, List.map_append]; rfl
  refine ⟨?_, ?_, ?_, ?_⟩
  · rw [hevents, List.map_append, h.numbered, List.length_append, List.length_singleton,
      List.range_succ, List.map_append]
    exact congrArg (_ ++ [·]) h.nextSequenceNumber
  · rw [hstates, List.head?_append, h.first]; rfl
  · rw [hstates, List.getLast?_append]; rfl
  · rw [hstates]
    refine h.edges.append (List.isChain_singleton _) fun s hs s' hs' => ?_
    rw [h.last] at hs
    cases hs
    cases hs'
    exact hedge

theorem LogStep.explained {e e' : Execution F} {x : Option (RowEvent F)} (h : LogStep e x e')
    (he : Explained e) : Explained e' := by
  cases h with
  | row h =>
      cases h.move with
      | still _ hstate hevents => exact he.of_same hstate hevents
      | claimed hsource hstate hevents =>
          exact he.of_event hevents (.inl (by rw [hsource, hstate]; decide))
      | retried hsource _ hstate hevents => exact he.of_event hevents (.inr ⟨hsource, hstate⟩)
      | edge _ hlegal hevents => exact he.of_event hevents (.inl hlegal)
  | transition h =>
      obtain ⟨hlegal, hevents, -⟩ := transition_logged h
      exact he.of_event hevents (.inl hlegal)

theorem queuedExecution_explained (env : Environment) (principal : Principal) (q : QueueRequest)
    (inputPayload : Dict F) (executionId : Uuid) (clock : Clock) :
    Explained (queuedExecution env principal q inputPayload executionId clock) :=
  ⟨rfl, rfl, rfl, List.isChain_singleton _⟩

theorem EventEdge.not_terminal {s s' : ExecutionStatus} (h : EventEdge s s') : ¬s.IsTerminal := by
  rcases h with h | ⟨h, -⟩
  · exact not_terminal_of_legal h
  · exact h.not_terminal

/-- In every state reached from a queued execution, the events are numbered
0 to n-1, start with `QUEUED`, end with the row's state, and follow the
edges of the state machine or the retry edge, with nothing after a terminal
state. -/
theorem events_explain_row {env : Environment} {principal : Principal} {q : QueueRequest}
    {inputPayload : Dict F} {executionId : Uuid} {clock : Clock} {e : Execution F}
    {trace : List (Taken (Execution F) (Option (RowEvent F)))}
    (h : Run LogStep (queuedExecution env principal q inputPayload executionId clock) trace e) :
    Explained e ∧ ∀ before s after, e.eventStates = before ++ s :: after → s.IsTerminal →
      after = [] := by
  have he : Explained e := h.invariant (fun x hx hstep => LogStep.explained hstep hx)
    (queuedExecution_explained ..)
  refine ⟨he, fun before s after heq hterm => ?_⟩
  cases after with
  | nil => rfl
  | cons s' after =>
      have hedges := he.edges
      rw [heq, List.isChain_append_cons_cons] at hedges
      exact absurd hterm hedges.2.1.not_terminal

theorem events_explain_row_cancelled : ∃ trace e, Run LogStep sampleQueued trace e
    ∧ e.eventStates = [.queued, .dispatching, .running, .cancelled] ∧ Explained e := by
  have hrun : ∃ trace e, Run LogStep sampleQueued trace e
      ∧ e.eventStates = [.queued, .dispatching, .running, .cancelled] := by
    refine Run.exists_cons (some ⟨.claimForDispatch "worker-1" 60, zeroClock, _⟩)
      (.row (.claimForDispatch rfl : RowStep 3 _ _ _)) ?_
    refine Run.exists_cons (some ⟨.markRunning "worker-1" "sandboxes" "execution-execution-1",
      zeroClock, none⟩) (.row (.markRunning : RowStep 3 _ _ _)) ?_
    refine Run.exists_cons (some ⟨.cancel "trace-1", zeroClock, none⟩)
      (.row (.cancel rfl : RowStep 3 _ _ _)) ?_
    exact Run.exists_nil rfl
  obtain ⟨trace, e, hrun, hstates⟩ := hrun
  exact ⟨trace, e, hrun, hstates, (events_explain_row hrun).1⟩

end Rigor
