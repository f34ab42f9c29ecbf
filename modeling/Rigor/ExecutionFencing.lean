import Rigor.ExecutionPersistence
import Rigor.Runs

/-!
# Fencing of one execution

One execution, its submission and its practice session under any number of
workers, reconcilers and cancelling candidates, each transaction a step.
A package that a worker was handed stays in its hands for ever, so that a
worker that lost its lease may still try to persist. `Execution.Fenced`
links state, attempt and lease; every transaction keeps it, and a terminal
execution is changed by none (`Execution.Moved`).
-/

namespace Rigor

open Py Runs

variable {F : Type}

/-! ## What a transaction may do to an execution -/

/-- An execution in the queue has no attempt and no lease, an active one has
both, a terminal one has given its lease up. -/
structure Execution.Fenced (e : Execution F) : Prop where
  queued : e.state = .queued →
    e.row.attemptCount = 0 ∧ e.row.leaseOwner = none ∧ e.row.leaseExpiresAt = none
  active : e.state.IsActive →
    1 ≤ e.row.attemptCount ∧ e.row.leaseOwner.isSome ∧ e.row.leaseExpiresAt.isSome
  terminal : e.state.IsTerminal → e.row.leaseOwner = none ∧ e.row.leaseExpiresAt = none

theorem Execution.Fenced.of_active {e : Execution F} (h : e.state.IsActive)
    (hattempt : 1 ≤ e.row.attemptCount) (howner : e.row.leaseOwner.isSome)
    (hdeadline : e.row.leaseExpiresAt.isSome) : e.Fenced where
  queued hq := by rw [hq] at h; rcases h with h | h <;> cases h
  active _ := ⟨hattempt, howner, hdeadline⟩
  terminal ht := absurd ht h.not_terminal

theorem Execution.Fenced.of_terminal {e : Execution F} (h : e.state.IsTerminal)
    (howner : e.row.leaseOwner = none) (hdeadline : e.row.leaseExpiresAt = none) : e.Fenced where
  queued hq := by rw [hq] at h; exact absurd h queued_not_terminal
  active ha := absurd h ha.not_terminal
  terminal _ := ⟨howner, hdeadline⟩

/-- What every transaction but the persisting ones may do. -/
structure Execution.Moved (e e' : Execution F) : Prop where
  columns : e'.row.toRequestColumns = e.row.toRequestColumns
  payload : e'.payload = e.payload
  publicWrites : e'.publicWrites = e.publicWrites
  terminal : e.state.IsTerminal → e' = e
  fenced : e.Fenced → e'.Fenced

/-- The same without cancelling: the execution does not end. -/
structure Execution.Advanced (e e' : Execution F) : Prop extends e.Moved e' where
  ends : e'.state.IsTerminal → e' = e

theorem Execution.Advanced.refl (e : Execution F) : e.Advanced e :=
  ⟨⟨rfl, rfl, rfl, fun _ => rfl, id⟩, fun _ => rfl⟩

theorem Execution.Advanced.trans {e e' e'' : Execution F} (h : e.Advanced e')
    (h' : e'.Advanced e'') : e.Advanced e'' where
  columns := h'.columns.trans h.columns
  payload := h'.payload.trans h.payload
  publicWrites := h'.publicWrites.trans h.publicWrites
  terminal ht := by
    have he := h.terminal ht
    rw [h'.terminal (he ▸ ht), he]
  fenced hf := h'.fenced (h.fenced hf)
  ends ht := by
    have he := h'.ends ht
    rw [he] at ht ⊢
    exact h.ends ht

/-- A transaction on an execution that is not terminal which leaves it
active with a lease. -/
theorem Execution.Advanced.of_active {e e' : Execution F} (h : ¬e.state.IsTerminal)
    (columns : e'.row.toRequestColumns = e.row.toRequestColumns) (payload : e'.payload = e.payload)
    (publicWrites : e'.publicWrites = e.publicWrites) (hactive : e'.state.IsActive)
    (hlease : e.Fenced → 1 ≤ e'.row.attemptCount ∧ e'.row.leaseOwner.isSome
      ∧ e'.row.leaseExpiresAt.isSome) : e.Advanced e' where
  columns := columns
  payload := payload
  publicWrites := publicWrites
  terminal ht := absurd ht h
  fenced hf := .of_active hactive (hlease hf).1 (hlease hf).2.1 (hlease hf).2.2
  ends ht := absurd ht hactive.not_terminal

theorem cancel_moved {traceId : Str} {clock : Clock} {e e' : Execution F}
    (h : cancel traceId clock e = .ok e') : e.Moved e' := by
  rw [cancel] at h
  split_ifs at h with hcancelled hterminal
  · cases h; exact (Execution.Advanced.refl e).toMoved
  · obtain ⟨hlegal, hstate, hcols, hpay, hwrites, -, howner, hdeadline⟩ := transition_ok h
    exact ⟨hcols, hpay, hwrites, fun ht => absurd ht hterminal, fun _ =>
      .of_terminal (by rw [hstate]; decide) howner hdeadline⟩

theorem claimForDispatch_advanced {workerId : Str} {deadline : Time} {clock : Clock}
    {e e' : Execution F} {claim : Option ExecutionClaim}
    (h : claimForDispatch workerId deadline clock e = .ok (e', claim)) : e.Advanced e' := by
  rw [claimForDispatch] at h
  obtain ⟨-, -, h⟩ := bind_eq_ok h
  split_ifs at h with hqueued
  · cases h
    refine .of_active (by rw [hqueued]; decide) rfl rfl rfl (.inl rfl) fun hf => ⟨?_, rfl, rfl⟩
    have hzero := (hf.queued hqueued).1
    change 1 ≤ e.row.attemptCount + 1
    omega
  · cases h; exact .refl e

theorem retryMissingSandbox_advanced {expectedAttempt : Int} {workerId : Str} {deadline : Time}
    {maxAttempts : Int} {clock : Clock} {e e' : Execution F} {attempt : Option Int}
    (h : retryMissingSandbox expectedAttempt workerId deadline maxAttempts clock e
      = .ok (e', attempt)) : e.Advanced e' := by
  rw [retryMissingSandbox] at h
  obtain ⟨-, -, h⟩ := bind_eq_ok h
  split_ifs at h with hbound hrow
  · cases h; exact .refl e
  · cases h
    refine .of_active hrow.1.not_terminal rfl rfl rfl (.inl rfl) fun hf => ⟨?_, rfl, rfl⟩
    have hone := (hf.active hrow.1).1
    change 1 ≤ e.row.attemptCount + 1
    omega
  · cases h; exact .refl e

theorem markRunning_advanced (workerId kubernetesNamespace kubernetesJobName : Str) (clock : Clock)
    (e : Execution F) :
    e.Advanced (markRunning workerId kubernetesNamespace kubernetesJobName clock e).1 := by
  rw [markRunning]
  split_ifs with hrow
  · have hactive : e.state.IsActive := .inl hrow.1
    exact .of_active hactive.not_terminal rfl rfl rfl (.inr rfl) fun hf => hf.active hactive
  · exact .refl e

theorem renewLease_advanced {workerId : Str} {deadline : Time} {clock : Clock} {e e' : Execution F}
    {renewed : Bool} (h : renewLease workerId deadline clock e = .ok (e', renewed)) :
    e.Advanced e' := by
  rw [renewLease] at h
  obtain ⟨-, -, h⟩ := bind_eq_ok h
  split_ifs at h with hrow
  · cases h
    exact .of_active hrow.2.not_terminal rfl rfl rfl hrow.2 fun hf =>
      ⟨(hf.active hrow.2).1, (hf.active hrow.2).2.1, rfl⟩
  · cases h; exact .refl e

theorem deferInfrastructureRetry_advanced (attemptCount : Int) (workerId category : Str)
    (clock : Clock) (e : Execution F) :
    e.Advanced (deferInfrastructureRetry attemptCount workerId category clock e).1 := by
  rw [deferInfrastructureRetry]
  split_ifs with hrow
  · exact .of_active hrow.2.2.not_terminal rfl rfl rfl hrow.2.2 fun hf =>
      ⟨(hf.active hrow.2.2).1, (hf.active hrow.2.2).2.1, rfl⟩
  · exact .refl e

theorem reacquireExpiredExecution_advanced {lease : ExpiredExecutionLease} {missing : Bool}
    {workerId : Str} {deadline : Time} {kubernetesNamespace kubernetesJobName : Str}
    {clock : Clock} {e e' : Execution F} {package : Option (DispatchPackage F)}
    (h : reacquireExpiredExecution lease missing workerId deadline kubernetesNamespace
      kubernetesJobName clock e = (e', package)) : e.Advanced e' := by
  rw [reacquireExpiredExecution] at h
  by_cases hrow : e.state = lease.status ∧ e.row.attemptCount = lease.attemptCount
      ∧ e.LeaseExpired clock.database
  · have hactive : e.state.IsActive := hrow.1 ▸ lease.status_active
    have htaken : e.Advanced { e with row := { e.row with
        leaseOwner := some workerId, leaseExpiresAt := some deadline } } :=
      .of_active hactive.not_terminal rfl rfl rfl hactive fun hf =>
        ⟨(hf.active hactive).1, rfl, rfl⟩
    rw [if_pos hrow] at h
    by_cases hmark : lease.status = .dispatching ∧ missing = false
    · rw [if_pos hmark] at h
      cases h
      exact htaken.trans (markRunning_advanced ..)
    · rw [if_neg hmark] at h
      cases h
      exact htaken
  · rw [if_neg hrow] at h
    cases h
    exact .refl e

/-! ## The system -/

/-- The execution and every package that was handed to a worker so far. -/
structure System (F : Type) where
  attempt : Attempt F
  packages : List (Str × DispatchPackage F)

/-- The transactions on one execution. -/
inductive Action (F : Type) where
  | claimForDispatch (workerId : Str) (deadline : Time)
  | retryMissingSandbox (expectedAttempt : Int) (workerId : Str) (deadline : Time)
      (maxAttempts : Int)
  | markRunning (workerId kubernetesNamespace kubernetesJobName : Str)
  | renewLease (workerId : Str) (deadline : Time)
  | deferInfrastructureRetry (package : DispatchPackage F) (workerId category : Str)
  | reacquireExpiredExecution (lease : ExpiredExecutionLease) (missing : Bool) (workerId : Str)
      (deadline : Time) (kubernetesNamespace kubernetesJobName : Str)
  | cancel (traceId : Str)
  | persistObservation (package : DispatchPackage F) (workerId : Str)
      (compare : Except Failure (TrustedExecutionProjection F))

/-- The execution moved on, and perhaps a package was handed out. -/
def System.handOut (s : System F) (e : Execution F) (workerId : Str)
    (package : Option (DispatchPackage F)) : System F where
  attempt := { s.attempt with execution := e }
  packages := (package.map fun p => (workerId, p)).toList ++ s.packages

/-- One transaction that commits. `persistObservation` is for a package in
the worker's hands; the others read and write the row alone. -/
inductive Step (evaluator : Evaluator F) : System F → Action F × Clock → System F → Prop where
  | claimForDispatch {s : System F} {workerId : Str} {deadline : Time} {clock : Clock}
      {e : Execution F} {claim : Option ExecutionClaim}
      (h : claimForDispatch workerId deadline clock s.attempt.execution = .ok (e, claim)) :
      Step evaluator s (.claimForDispatch workerId deadline, clock)
        (s.handOut e workerId (claim.map fun _ => e.loadDispatchPackage))
  | retryMissingSandbox {s : System F} {expectedAttempt : Int} {workerId : Str} {deadline : Time}
      {maxAttempts : Int} {clock : Clock} {e : Execution F} {attempt : Option Int}
      (h : retryMissingSandbox expectedAttempt workerId deadline maxAttempts clock
        s.attempt.execution = .ok (e, attempt)) :
      Step evaluator s
        (.retryMissingSandbox expectedAttempt workerId deadline maxAttempts, clock)
        (s.handOut e workerId (attempt.map fun _ => e.loadDispatchPackage))
  | markRunning {s : System F} {workerId kubernetesNamespace kubernetesJobName : Str}
      {clock : Clock} :
      Step evaluator s (.markRunning workerId kubernetesNamespace kubernetesJobName, clock)
        (s.handOut (markRunning workerId kubernetesNamespace kubernetesJobName clock
          s.attempt.execution).1 workerId none)
  | renewLease {s : System F} {workerId : Str} {deadline : Time} {clock : Clock}
      {e : Execution F} {renewed : Bool}
      (h : renewLease workerId deadline clock s.attempt.execution = .ok (e, renewed)) :
      Step evaluator s (.renewLease workerId deadline, clock) (s.handOut e workerId none)
  | deferInfrastructureRetry {s : System F} {package : DispatchPackage F}
      {workerId category : Str} {clock : Clock} (held : (workerId, package) ∈ s.packages) :
      Step evaluator s (.deferInfrastructureRetry package workerId category, clock)
        (s.handOut (deferInfrastructureRetry package.attemptCount workerId category clock
          s.attempt.execution).1 workerId none)
  | reacquireExpiredExecution {s : System F} {lease : ExpiredExecutionLease} {missing : Bool}
      {workerId : Str} {deadline : Time} {kubernetesNamespace kubernetesJobName : Str}
      {clock : Clock} {e : Execution F} {package : Option (DispatchPackage F)}
      (h : reacquireExpiredExecution lease missing workerId deadline kubernetesNamespace
        kubernetesJobName clock s.attempt.execution = (e, package)) :
      Step evaluator s (.reacquireExpiredExecution lease missing workerId deadline
        kubernetesNamespace kubernetesJobName, clock) (s.handOut e workerId package)
  | cancel {s : System F} {traceId : Str} {clock : Clock} {e : Execution F}
      (h : cancel traceId clock s.attempt.execution = .ok e) :
      Step evaluator s (.cancel traceId, clock) (s.handOut e [] none)
  | persistObservation {s : System F} {package : DispatchPackage F} {workerId : Str}
      {compare : Except Failure (TrustedExecutionProjection F)} {clock : Clock} {a : Attempt F}
      {status : Option ExecutionStatus} (held : (workerId, package) ∈ s.packages)
      (h : persistObservation evaluator package workerId compare clock s.attempt
        = .ok (a, status)) :
      Step evaluator s (.persistObservation package workerId compare, clock)
        { s with attempt := a }

namespace System

def state (s : System F) : ExecutionStatus := s.attempt.execution.state

def publicWrites (s : System F) : List (PublicResult F) := s.attempt.execution.publicWrites

/-- The rows inserted into `submission_results` for the submission. -/
def submissionResults (s : System F) : List (SubmissionResult F) :=
  match s.attempt.submission with
  | none => []
  | some submission => submission.results

/-- As `create_queued` leaves it, before any worker has seen it. -/
structure Fresh (s : System F) : Prop where
  queued : s.state = .queued
  attempt : s.attempt.execution.row.attemptCount = 0
  owner : s.attempt.execution.row.leaseOwner = none
  deadline : s.attempt.execution.row.leaseExpiresAt = none
  unwritten : s.publicWrites = []
  ungraded : s.submissionResults = []
  packages : s.packages = []

structure Inv (s : System F) : Prop where
  fenced : s.attempt.execution.Fenced
  unwritten : ¬s.state.IsTerminal → s.publicWrites = []
  written : s.publicWrites.length ≤ 1
  graded : s.submissionResults.length ≤ 1

theorem Fresh.inv {s : System F} (h : s.Fresh) : s.Inv where
  fenced :=
    { queued := fun _ => ⟨h.attempt, h.owner, h.deadline⟩
      active := fun ha => by
        have hq : s.attempt.execution.state = .queued := h.queued
        rw [hq] at ha
        rcases ha with ha | ha <;> cases ha
      terminal := fun _ => ⟨h.owner, h.deadline⟩ }
  unwritten _ := h.unwritten
  written := by rw [h.unwritten]; exact Nat.zero_le 1
  graded := by rw [h.ungraded]; exact Nat.zero_le 1

end System

/-- Every step either moves the execution alone, or persists a result for
the worker that holds the lease of the package's attempt. -/
theorem Step.moved_or_persisted {evaluator : Evaluator F} {s t : System F} {a : Action F × Clock}
    (h : Step evaluator s a t) :
    (s.attempt.execution.Moved t.attempt.execution ∧ t.attempt.submission = s.attempt.submission
        ∧ t.attempt.session = s.attempt.session
        ∧ (s.attempt.execution.Advanced t.attempt.execution ∨ ∃ traceId, a.1 = .cancel traceId))
      ∨ ∃ package workerId compare p, a.1 = .persistObservation package workerId compare
          ∧ (workerId, package) ∈ s.packages
          ∧ s.attempt.execution.row.attemptCount = package.attemptCount
          ∧ s.attempt.execution.Leased workerId a.2.database
          ∧ s.attempt.execution.state.IsActive
          ∧ persistTerminalResult p a.2 s.attempt.execution
            = .ok (t.attempt.execution, p.executionStatus)
          ∧ finalizeSubmission evaluator package p a.2 s.attempt.submission s.attempt.session
            = .ok (t.attempt.submission, t.attempt.session) := by
  have hadvanced : s.attempt.execution.Advanced t.attempt.execution →
      t.attempt.submission = s.attempt.submission → t.attempt.session = s.attempt.session →
      s.attempt.execution.Moved t.attempt.execution ∧ t.attempt.submission = s.attempt.submission
        ∧ t.attempt.session = s.attempt.session
        ∧ (s.attempt.execution.Advanced t.attempt.execution ∨ ∃ traceId, a.1 = .cancel traceId) :=
    fun h hsub hsession => ⟨h.toMoved, hsub, hsession, .inl h⟩
  cases h with
  | claimForDispatch h => exact .inl (hadvanced (claimForDispatch_advanced h) rfl rfl)
  | retryMissingSandbox h => exact .inl (hadvanced (retryMissingSandbox_advanced h) rfl rfl)
  | markRunning => exact .inl (hadvanced (markRunning_advanced ..) rfl rfl)
  | renewLease h => exact .inl (hadvanced (renewLease_advanced h) rfl rfl)
  | deferInfrastructureRetry held =>
      exact .inl (hadvanced (deferInfrastructureRetry_advanced ..) rfl rfl)
  | reacquireExpiredExecution h =>
      exact .inl (hadvanced (reacquireExpiredExecution_advanced h) rfl rfl)
  | cancel h => exact .inl ⟨cancel_moved h, rfl, rfl, .inr ⟨_, rfl⟩⟩
  | persistObservation held h =>
      rcases persistObservation_ok h with rfl | ⟨hattempt, hleased, hactive, p, hp, hpersist, hfinal⟩
      · exact .inl (hadvanced (.refl _) rfl rfl)
      · exact .inr ⟨_, _, _, p, rfl, held, hattempt, hleased, hactive, hpersist, hfinal⟩

theorem Step.columns {evaluator : Evaluator F} {s t : System F} {a : Action F × Clock}
    (h : Step evaluator s a t) :
    t.attempt.execution.row.toRequestColumns = s.attempt.execution.row.toRequestColumns := by
  rcases h.moved_or_persisted with ⟨hmoved, -⟩ | ⟨_, _, _, _, -, -, -, -, hactive, hpersist, -⟩
  · exact hmoved.columns
  · exact (persistTerminalResult_ok hactive hpersist).2.2.2.1

/-- The package says of the execution what its row says. -/
structure Describes (p : DispatchPackage F) (c : RequestColumns F) : Prop where
  executionId : p.executionId = c.id
  submissionId : p.submissionId = c.submissionId
  executionType : p.executionType = c.executionType
  practiceSessionId : p.practiceSessionId = c.practiceSessionId
  questionVersionId : p.questionVersionId = c.questionVersionId

theorem describes_load (e : Execution F) :
    Describes e.loadDispatchPackage e.row.toRequestColumns := ⟨rfl, rfl, rfl, rfl, rfl⟩

theorem reacquireExpiredExecution_describes {lease : ExpiredExecutionLease} {missing : Bool}
    {workerId : Str} {deadline : Time} {kubernetesNamespace kubernetesJobName : Str}
    {clock : Clock} {e e' : Execution F} {package : DispatchPackage F}
    (h : reacquireExpiredExecution lease missing workerId deadline kubernetesNamespace
      kubernetesJobName clock e = (e', some package)) :
    Describes package e.row.toRequestColumns := by
  rw [reacquireExpiredExecution] at h
  dsimp only at h
  split_ifs at h <;> cases h <;> exact ⟨rfl, rfl, rfl, rfl, rfl⟩

/-- Packages that describe the execution go on describing it, and those
handed out now do too. -/
theorem Step.describes {evaluator : Evaluator F} {s t : System F} {a : Action F × Clock}
    (h : Step evaluator s a t)
    (hs : ∀ wp ∈ s.packages, Describes wp.2 s.attempt.execution.row.toRequestColumns) :
    ∀ wp ∈ t.packages, Describes wp.2 t.attempt.execution.row.toRequestColumns := by
  have hcols := h.columns
  have hand {e : Execution F} {workerId : Str} {package : Option (DispatchPackage F)}
      (he : e.row.toRequestColumns = s.attempt.execution.row.toRequestColumns)
      (hnew : ∀ p, package = some p → Describes p s.attempt.execution.row.toRequestColumns) :
      ∀ wp ∈ (s.handOut e workerId package).packages, Describes wp.2 e.row.toRequestColumns := by
    intro wp hwp
    rw [he]
    rcases List.mem_append.mp hwp with hwp | hwp
    · obtain ⟨p, hp, rfl⟩ := Option.map_eq_some_iff.mp (Option.mem_toList.mp hwp)
      exact hnew p hp
    · exact hs wp hwp
  have hload {e : Execution F} {β : Type} {o : Option β}
      (he : e.row.toRequestColumns = s.attempt.execution.row.toRequestColumns) (p : DispatchPackage F)
      (hp : (o.map fun _ => e.loadDispatchPackage) = some p) :
      Describes p s.attempt.execution.row.toRequestColumns := by
    obtain ⟨_, -, rfl⟩ := Option.map_eq_some_iff.mp hp
    exact he ▸ describes_load e
  cases h with
  | claimForDispatch h => exact hand hcols (hload hcols)
  | retryMissingSandbox h => exact hand hcols (hload hcols)
  | markRunning => exact hand hcols nofun
  | renewLease h => exact hand hcols nofun
  | deferInfrastructureRetry held => exact hand hcols nofun
  | reacquireExpiredExecution h =>
      refine hand hcols fun p hp => ?_
      subst hp
      exact reacquireExpiredExecution_describes h
  | cancel h => exact hand hcols nofun
  | persistObservation held h =>
      intro wp hwp
      rw [hcols]
      exact hs wp hwp

theorem finalizeSubmission_graded {evaluator : Evaluator F} {package : DispatchPackage F}
    {p : TrustedExecutionProjection F} {clock : Clock} {s t : System F}
    (h : finalizeSubmission evaluator package p clock s.attempt.submission s.attempt.session
      = .ok (t.attempt.submission, t.attempt.session)) (hs : s.submissionResults.length ≤ 1) :
    t.submissionResults.length ≤ 1 := by
  rw [System.submissionResults] at hs ⊢
  rcases finalizeSubmission_ok h with ⟨hsame, -, -⟩ | ⟨_, sub, sub', -, -, -, hnone, hres, hsub, -⟩
  · rw [hsame]; exact hs
  · rw [hsub]
    obtain ⟨-, -, hlen, -⟩ := resolveSubmission_ok hres
    change sub'.results.length ≤ 1
    rw [hlen, hnone]
    exact Nat.le_refl 1

theorem Step.inv {evaluator : Evaluator F} {s t : System F} {a : Action F × Clock}
    (h : Step evaluator s a t) (hs : s.Inv) : t.Inv := by
  rcases h.moved_or_persisted with ⟨hmoved, hsub, -, -⟩
    | ⟨package, workerId, compare, p, -, -, -, -, hactive, hpersist, hfinal⟩
  · refine ⟨hmoved.fenced hs.fenced, fun hterm => ?_, ?_, ?_⟩
    · refine hmoved.publicWrites.trans (hs.unwritten fun hsterm => hterm ?_)
      rw [System.state, hmoved.terminal hsterm]
      exact hsterm
    · rw [System.publicWrites, hmoved.publicWrites]
      exact hs.written
    · rw [System.submissionResults, hsub]
      exact hs.graded
  · obtain ⟨-, hstate, -, -, -, hwrites, howner, hdeadline⟩ :=
      persistTerminalResult_ok hactive hpersist
    have hterm : t.attempt.execution.state.IsTerminal := hstate ▸ p.status_terminal
    refine ⟨.of_terminal hterm howner hdeadline, fun h => absurd hterm h, ?_,
      finalizeSubmission_graded hfinal hs.graded⟩
    have hnil : s.attempt.execution.publicWrites = [] := hs.unwritten hactive.not_terminal
    rw [System.publicWrites, hwrites, hnil]
    exact Nat.le_refl 1

theorem Step.terminal {evaluator : Evaluator F} {s t : System F} {a : Action F × Clock}
    (h : Step evaluator s a t) (hs : s.state.IsTerminal) : t.attempt = s.attempt := by
  rcases h.moved_or_persisted with ⟨hmoved, hsub, hsession, -⟩ | ⟨_, _, _, _, -, -, -, -, hactive, -, -⟩
  · exact Attempt.ext (hmoved.terminal hs) hsub hsession
  · exact absurd hs hactive.not_terminal

theorem Step.writes {evaluator : Evaluator F} {s t : System F} {a : Action F × Clock}
    (h : Step evaluator s a t)
    (hwrite : t.publicWrites ≠ s.publicWrites ∨ t.submissionResults ≠ s.submissionResults) :
    ∃ package workerId compare, a.1 = .persistObservation package workerId compare
      ∧ (workerId, package) ∈ s.packages
      ∧ s.attempt.execution.row.attemptCount = package.attemptCount
      ∧ s.attempt.execution.Leased workerId a.2.database := by
  rcases h.moved_or_persisted with ⟨hmoved, hsub, -, -⟩
    | ⟨package, workerId, compare, _, hlabel, held, hattempt, hleased, -, -, -⟩
  · rcases hwrite with hwrite | hwrite
    · exact absurd hmoved.publicWrites hwrite
    · rw [System.submissionResults, hsub] at hwrite
      exact absurd rfl hwrite
  · exact ⟨package, workerId, compare, hlabel, held, hattempt, hleased⟩

/-- Over every run from a fresh execution: it becomes terminal at most once
and is then left alone; its public result and the result of its submission
are written at most once; and only by the worker that holds the lease, for
a package of the current attempt. -/
theorem fencing {evaluator : Evaluator F} {s t : System F}
    {trace : List (Taken (System F) (Action F × Clock))} (hfresh : s.Fresh)
    (h : Run (Step evaluator) s trace t) :
    entries (fun s : System F => s.state.IsTerminal) trace ≤ 1
      ∧ (∀ x ∈ trace, x.source.state.IsTerminal → x.target.attempt = x.source.attempt)
      ∧ t.publicWrites.length ≤ 1 ∧ t.submissionResults.length ≤ 1
      ∧ ∀ x ∈ trace, x.target.publicWrites ≠ x.source.publicWrites
            ∨ x.target.submissionResults ≠ x.source.submissionResults →
          ∃ package workerId compare, x.label.1 = .persistObservation package workerId compare
            ∧ (workerId, package) ∈ x.source.packages
            ∧ x.source.attempt.execution.row.attemptCount = package.attemptCount
            ∧ x.source.attempt.execution.Leased workerId x.label.2.database := by
  have hstep : ∀ x : Taken (System F) (Action F × Clock), x.source.Inv →
      Step evaluator x.source x.label x.target → x.target.Inv := fun _ hs hx => hx.inv hs
  have hinv := h.invariant hstep hfresh.inv
  refine ⟨h.entries_le_one hstep (fun x _ hx hterm => ?_) hfresh.inv, ?_, hinv.written,
    hinv.graded, ?_⟩
  · rw [System.state, hx.terminal hterm]; exact hterm
  · exact h.forall_taken hstep (fun _ _ hx => hx.terminal) hfresh.inv
  · exact h.forall_taken hstep (fun _ _ hx => hx.writes) hfresh.inv

/-! ## A run -/

def queuedRow : ExecutionRow Rat where
  id := "execution-1"
  organizationId := none
  candidateId := "candidate-1"
  practiceSessionId := "session-1"
  submissionId := some "submission-1"
  questionVersionId := "version-1"
  executionType := .submit
  runtime := "python3.13"
  language := "python"
  idempotencyKey := "submit:key-0001"
  requestHash := []
  limits := []
  queuedAt := 0
  traceId := "trace-1"
  state := .queued
  attemptCount := 0
  leaseOwner := none
  leaseExpiresAt := none
  kubernetesNamespace := none
  kubernetesJobName := none
  dispatchStartedAt := none
  runningAt := none
  startedAt := none
  completedAt := none
  runtimeMs := none
  exitCode := none
  errorCategory := none
  resultReference := none

def queuedSubmission : Submission Rat where
  id := "submission-1"
  organizationId := none
  candidateId := "candidate-1"
  practiceSessionId := "session-1"
  questionVersionId := "version-1"
  runtime := "python3.13"
  submittedSource := "x = 1"
  status := .queued
  idempotencyKey := "key-0001"
  publicTestResults := []
  hiddenTestSummary := none
  errorCategory := none
  executionDurationMs := none
  startedAt := none
  completedAt := none
  results := []
  evaluations := []

def submittedSession : PracticeSession Rat where
  id := "session-1"
  candidateId := "candidate-1"
  questionVersionId := "version-1"
  runtime := "python3.13"
  state := .submitted
  draftCode := "x = 1"
  hintCount := 0
  runCount := 0
  submissionCount := 1
  startedAt := some 0
  pausedAt := none
  submittedAt := some 0
  completedAt := none
  events := []

def queuedSystem : System Rat where
  attempt :=
    { execution := ⟨queuedRow, ⟨"x = 1", []⟩, [⟨0, .queued, .queued 0 "trace-1"⟩], []⟩
      submission := some queuedSubmission
      session := submittedSession }
  packages := []

theorem queuedSystem_fresh : queuedSystem.Fresh := ⟨rfl, rfl, rfl, rfl, rfl, rfl, rfl⟩

def zeroEvaluator : Evaluator Rat where
  sourceQualitySignals _ := []
  scores _ _ := (0, 0, 0, 0, 0, 0)

def zeroClock : Clock := ⟨0, 0⟩

/-- A projection of a run without tests. -/
def emptyProjection : TrustedExecutionProjection Rat where
  executionStatus := .completed
  status_ok := TrustedExecutionProjection.completed_ok
  runtimeMs := 5
  exitCode := 0
  errorCategory := none
  publicResults := []
  hiddenTotal := 0
  hiddenPassed := 0
  stdout := []
  stderr := []
  candidateMessage := "Execution completed."

/-- A worker claims the execution, starts it and persists its result. -/
theorem queuedSystem_completes : ∃ trace t, Run (Step zeroEvaluator) queuedSystem trace t
    ∧ t.state = .completed ∧ t.submissionResults.length = 1 := by
  refine ⟨_, _, .cons (a := (.claimForDispatch "worker-1" 60, zeroClock)) (.claimForDispatch rfl)
    (.cons (a := (.markRunning "worker-1" "sandboxes" "execution-execution-1", zeroClock))
      .markRunning
      (.cons (a := (.persistObservation _ "worker-1" (.ok emptyProjection), zeroClock))
        (.persistObservation (List.mem_cons_self ..) rfl) (.nil _))), rfl, rfl⟩

theorem fencing_queuedSystem : ∃ trace t, Run (Step zeroEvaluator) queuedSystem trace t
    ∧ t.state = .completed
    ∧ entries (fun s : System Rat => s.state.IsTerminal) trace ≤ 1
    ∧ (∀ x ∈ trace, x.source.state.IsTerminal → x.target.attempt = x.source.attempt)
    ∧ t.publicWrites.length ≤ 1 ∧ t.submissionResults.length ≤ 1
    ∧ ∀ x ∈ trace, x.target.publicWrites ≠ x.source.publicWrites
          ∨ x.target.submissionResults ≠ x.source.submissionResults →
        ∃ package workerId compare, x.label.1 = .persistObservation package workerId compare
          ∧ (workerId, package) ∈ x.source.packages
          ∧ x.source.attempt.execution.row.attemptCount = package.attemptCount
          ∧ x.source.attempt.execution.Leased workerId x.label.2.database := by
  obtain ⟨trace, t, hrun, hstate, -⟩ := queuedSystem_completes
  exact ⟨trace, t, hrun, hstate, fencing queuedSystem_fresh hrun⟩

end Rigor
