import Rigor.ExecutionClaims

/-!
# Terminal results

`persist_terminal_result`, `finalize_submission` and the transactions of
the controller that call them: the execution, its public result, its
submission and its practice session change together. What
`source_quality_signals` and the floating-point scores of `_evaluation`
compute is a parameter.
-/

namespace Rigor

open Py

variable {F : Type}

inductive PracticeSessionState where
  | created | inProgress | paused | submitted | evaluating | completed | abandoned
  deriving DecidableEq

def PracticeSessionState.value : PracticeSessionState → Str
  | .created => "CREATED"
  | .inProgress => "IN_PROGRESS"
  | .paused => "PAUSED"
  | .submitted => "SUBMITTED"
  | .evaluating => "EVALUATING"
  | .completed => "COMPLETED"
  | .abandoned => "ABANDONED"

structure PracticeSessionEvent (F : Type) where
  sequenceNumber : Int
  eventType : Str
  payload : Dict F

/-- A row of `practice_sessions` and its events. -/
structure PracticeSession (F : Type) where
  id : Uuid
  candidateId : Uuid
  questionVersionId : Uuid
  runtime : Str
  state : PracticeSessionState
  draftCode : Str
  hintCount : Nat
  runCount : Nat
  submissionCount : Nat
  startedAt : Option Time
  pausedAt : Option Time
  submittedAt : Option Time
  completedAt : Option Time
  events : List (PracticeSessionEvent F)

/-- `COALESCE(max(sequence_number), 0) + 1`. -/
def PracticeSession.appendEvent (eventType : Str) (payload : Dict F) (s : PracticeSession F) :
    PracticeSession F :=
  { s with events := s.events ++
      [⟨(s.events.map PracticeSessionEvent.sequenceNumber).foldl max 0 + 1, eventType, payload⟩] }

inductive SubmissionStatus where
  | queued | running | passed | failed | error
  deriving DecidableEq

structure DeterministicSignals where
  publicTotal : Nat
  publicPassed : Nat
  hiddenTotal : Nat
  hiddenPassed : Nat
  executionStatus : ExecutionStatus

/-- A row of `submission_evaluations`. -/
structure SubmissionEvaluation (F : Type) where
  correctnessScore : F
  complexityScore : F
  codeQualityScore : F
  testingScore : F
  robustnessScore : F
  overallScore : F
  evaluatorVersion : Str
  deterministicSignals : DeterministicSignals
  sourceQuality : Dict F

/-- A row of `submission_results`. -/
structure SubmissionResult (F : Type) where
  status : Str
  publicResults : List (PublicTestResult F)
  hiddenTotal : Nat
  hiddenPassed : Nat
  runtimeMs : Int
  errorCategory : Option Str
  candidateMessage : Str
  qualitySignals : Dict F

/-- A row of `submissions` with the results and the evaluation inserted for it. -/
structure Submission (F : Type) where
  id : Uuid
  organizationId : Option Uuid
  candidateId : Uuid
  practiceSessionId : Uuid
  questionVersionId : Uuid
  runtime : Str
  submittedSource : Str
  status : SubmissionStatus
  idempotencyKey : Str
  publicTestResults : List (PublicTestResult F)
  hiddenTestSummary : Option (Nat × Nat)
  errorCategory : Option Str
  executionDurationMs : Option Int
  startedAt : Option Time
  completedAt : Option Time
  results : List (SubmissionResult F)
  evaluations : List (SubmissionEvaluation F)

/-- What the evaluator computes besides counting: the quality signals of a
source text and the six scores. -/
structure Evaluator (F : Type) where
  sourceQualitySignals : Str → Dict F
  scores : Str → DeterministicSignals → F × F × F × F × F × F

def evaluatorVersion : Str := "deterministic-python-async-v1"

/-- `_legacy_status`. -/
def legacyStatus (p : TrustedExecutionProjection F) : SubmissionStatus × Str :=
  if p.executionStatus = .completed then
    if p.allTestsPassed then (.passed, "PASSED") else (.failed, "FAILED")
  else (.error, "ERROR")

/-- `_evaluation`. -/
def evaluation (evaluator : Evaluator F) (package : DispatchPackage F)
    (p : TrustedExecutionProjection F) : SubmissionEvaluation F :=
  let signals : DeterministicSignals :=
    ⟨p.publicResults.length, p.publicPassed, p.hiddenTotal, p.hiddenPassed, p.executionStatus⟩
  let (correctness, complexity, codeQuality, testing, robustness, overall) :=
    evaluator.scores package.sourceCode signals
  ⟨correctness, complexity, codeQuality, testing, robustness, overall, evaluatorVersion, signals,
    evaluator.sourceQualitySignals package.sourceCode⟩

/-- An execution with its submission, if it has one, and its practice session. -/
@[ext] structure Attempt (F : Type) where
  execution : Execution F
  submission : Option (Submission F)
  session : PracticeSession F

/-! ## `persist_terminal_result` -/

/-- The insert into `execution_public_results`, with its check constraint. -/
def writePublicResult (p : TrustedExecutionProjection F) (e : Execution F) :
    Except Failure (Execution F) :=
  if p.hiddenPassed > p.hiddenTotal then
    .error (.integrity "ck_execution_public_results_hidden_counts")
  else
    .ok { e with publicWrites := e.publicWrites ++ [⟨p.publicResults, p.hiddenTotal,
      p.hiddenPassed, p.stdout, p.stderr, p.candidateMessage⟩] }

def persistTerminalResult (p : TrustedExecutionProjection F) (clock : Clock) (e : Execution F) :
    Except Failure (Execution F × ExecutionStatus) :=
  if e.state.IsTerminal then .ok (e, e.state)
  else
    match transition p.executionStatus
      (fun source target => .result source target p.runtimeMs (p.errorCategory.getD [])) clock e with
    -- the row is locked: read again, it is still not terminal
    | .error failure => .error failure
    | .ok e' =>
        if p.runtimeMs < 0 then .error (.integrity "ck_execution_runtime_metrics")
        else
          (writePublicResult p { e' with row := { e'.row with
            runtimeMs := some p.runtimeMs
            exitCode := some p.exitCode
            errorCategory := p.errorCategory
            resultReference := some ("db://execution-public-results/" ++ e.row.id)
            leaseOwner := none
            leaseExpiresAt := none } }).map fun e'' => (e'', p.executionStatus)

/-! ## `finalize_submission` -/

/-- The rows of the submission that `finalize_submission` writes. -/
def resolveSubmission (evaluator : Evaluator F) (package : DispatchPackage F)
    (p : TrustedExecutionProjection F) (clock : Clock) (s : Submission F) :
    Except Failure (Submission F) :=
  if p.hiddenPassed > p.hiddenTotal then .error (.integrity "ck_submission_hidden_summary")
  else if s.evaluations ≠ [] then .error (.integrity "submission_evaluations_submission_id_key")
  else
    .ok { s with
      status := (legacyStatus p).1
      publicTestResults := p.publicResults
      hiddenTestSummary := some (p.hiddenTotal, p.hiddenPassed)
      errorCategory := p.errorCategory
      executionDurationMs := some p.runtimeMs
      startedAt := s.startedAt <|> some clock.database
      completedAt := some clock.database
      results := s.results ++ [⟨(legacyStatus p).2, p.publicResults, p.hiddenTotal, p.hiddenPassed,
        p.runtimeMs, p.errorCategory, p.candidateMessage,
        evaluator.sourceQualitySignals package.sourceCode⟩]
      evaluations := s.evaluations ++ [evaluation evaluator package p] }

/-- The practice session completes if it waits for the submission. -/
def completeSession (evaluator : Evaluator F) (package : DispatchPackage F) (submissionId : Uuid)
    (p : TrustedExecutionProjection F) (clock : Clock) (s : PracticeSession F) :
    PracticeSession F :=
  if s.state = .submitted ∨ s.state = .evaluating then
    { s with state := .completed, completedAt := some clock.database }.appendEvent
      "EVALUATION_COMPLETED"
      [("submission_id", .str submissionId), ("execution_id", .str package.executionId),
        ("overall_score", .float (evaluation evaluator package p).overallScore)]
  else s

def finalizeSubmission (evaluator : Evaluator F) (package : DispatchPackage F)
    (p : TrustedExecutionProjection F) (clock : Clock) (submission : Option (Submission F))
    (session : PracticeSession F) :
    Except Failure (Option (Submission F) × PracticeSession F) :=
  match package.submissionId, package.executionType with
  | some submissionId, .submit =>
      match submission with
      -- the foreign key of `submission_results`
      | none => .error (.integrity "submission_results_submission_id_fkey")
      | some s =>
          if s.results ≠ [] then .ok (some s, session)
          else
            (resolveSubmission evaluator package p clock s).map fun s' =>
              (some s', completeSession evaluator package submissionId p clock session)
  | _, _ => .ok (submission, session)

/-! ## The persisting transactions -/

/-- Ownership is checked under the row lock, then the projection is made
and stored; `none` tells that the attempt is not the worker's. -/
def persistObservation (evaluator : Evaluator F) (package : DispatchPackage F) (workerId : Str)
    (compare : Except Failure (TrustedExecutionProjection F)) (clock : Clock) (a : Attempt F) :
    Except Failure (Attempt F × Option ExecutionStatus) :=
  if lockOwnedAttempt workerId package.attemptCount clock a.execution = false then .ok (a, none)
  else do
    let p ← compare
    let (execution, terminal) ← persistTerminalResult p clock a.execution
    if terminal = p.executionStatus then
      let (submission, session) ←
        finalizeSubmission evaluator package p clock a.submission a.session
      .ok (⟨execution, submission, session⟩, some terminal)
    else .ok ({ a with execution := execution }, some terminal)

/-- `_persist_projection`: the projection is there before the transaction starts. -/
def persistProjection (evaluator : Evaluator F) (package : DispatchPackage F) (workerId : Str)
    (p : TrustedExecutionProjection F) (clock : Clock) (a : Attempt F) :
    Except Failure (Attempt F × Option ExecutionStatus) :=
  persistObservation evaluator package workerId (.ok p) clock a

/-! ## What they write -/

theorem persistTerminalResult_ok {p : TrustedExecutionProjection F} {clock : Clock}
    {e e' : Execution F} {status : ExecutionStatus} (hactive : e.state.IsActive)
    (h : persistTerminalResult p clock e = .ok (e', status)) :
    status = p.executionStatus ∧ e'.state = p.executionStatus
      ∧ p.executionStatus ∈ legalExecutionTransitions e.state
      ∧ e'.row.toRequestColumns = e.row.toRequestColumns ∧ e'.payload = e.payload
      ∧ e'.publicWrites.length = e.publicWrites.length + 1
      ∧ e'.row.leaseOwner = none ∧ e'.row.leaseExpiresAt = none := by
  rw [persistTerminalResult, if_neg hactive.not_terminal] at h
  split at h
  · cases h
  · rename_i moved hmoved
    obtain ⟨hlegal, hstate, hcols, hpay, hwrites, -, -, -⟩ := transition_ok hmoved
    split_ifs at h
    obtain ⟨e'', hwrite, heq⟩ := map_eq_ok h
    cases heq
    rw [writePublicResult] at hwrite
    split_ifs at hwrite
    cases hwrite
    refine ⟨rfl, hstate, hlegal, hcols, hpay, ?_, rfl, rfl⟩
    rw [List.length_append, hwrites]
    rfl

/-- A row that is not terminal is terminal now, and its lease is given up. -/
theorem persistTerminalResult_terminal {p : TrustedExecutionProjection F} {clock : Clock}
    {e e' : Execution F} {status : ExecutionStatus} (hterm : ¬e.state.IsTerminal)
    (h : persistTerminalResult p clock e = .ok (e', status)) :
    e'.state.IsTerminal ∧ e'.row.leaseOwner = none ∧ e'.row.leaseExpiresAt = none := by
  rw [persistTerminalResult, if_neg hterm] at h
  split at h
  · cases h
  · rename_i moved hmoved
    obtain ⟨-, hstate, -⟩ := transition_ok hmoved
    split_ifs at h
    obtain ⟨written, hwrite, heq⟩ := map_eq_ok h
    cases heq
    rw [writePublicResult] at hwrite
    split_ifs at hwrite
    cases hwrite
    have hended : moved.state.IsTerminal := hstate ▸ p.status_terminal
    exact ⟨hended, rfl, rfl⟩

theorem persistTerminalResult_legal {p : TrustedExecutionProjection F} {clock : Clock}
    {e : Execution F} (hactive : e.state.IsActive)
    (hlegal : p.executionStatus ∈ legalExecutionTransitions e.state) (hruntime : 0 ≤ p.runtimeMs)
    (hhidden : p.hiddenPassed ≤ p.hiddenTotal) :
    ∃ e', persistTerminalResult p clock e = .ok (e', p.executionStatus) := by
  rw [persistTerminalResult, if_neg hactive.not_terminal, transition, validateExecutionTransition,
    if_pos hlegal]
  dsimp only
  rw [if_neg (Int.not_lt.mpr hruntime), writePublicResult, if_neg (Nat.not_lt.mpr hhidden)]
  exact ⟨_, rfl⟩

theorem persistTerminalResult_illegal {p : TrustedExecutionProjection F} {clock : Clock}
    {e : Execution F} (hactive : e.state.IsActive)
    (hlegal : p.executionStatus ∉ legalExecutionTransitions e.state) :
    ∃ failure, persistTerminalResult p clock e = .error failure := by
  rw [persistTerminalResult, if_neg hactive.not_terminal, transition, validateExecutionTransition,
    if_neg hlegal]
  exact ⟨_, rfl⟩

/-- What the constraints of a stored result say. -/
theorem persistTerminalResult_counts {p : TrustedExecutionProjection F} {clock : Clock}
    {e e' : Execution F} {status : ExecutionStatus} (hactive : e.state.IsActive)
    (h : persistTerminalResult p clock e = .ok (e', status)) :
    0 ≤ p.runtimeMs ∧ p.hiddenPassed ≤ p.hiddenTotal := by
  rw [persistTerminalResult, if_neg hactive.not_terminal] at h
  split at h
  · cases h
  · split_ifs at h with hruntime
    obtain ⟨written, hwrite, -⟩ := map_eq_ok h
    rw [writePublicResult] at hwrite
    split_ifs at hwrite with hhidden
    exact ⟨Int.not_lt.mp hruntime, Nat.not_lt.mp hhidden⟩

theorem legacyStatus_resolved (p : TrustedExecutionProjection F) :
    (legacyStatus p).1 ≠ .queued ∧ (legacyStatus p).1 ≠ .running := by
  rw [legacyStatus]
  split_ifs <;> exact ⟨nofun, nofun⟩

/-- The submission is resolved, with one result and one evaluation more. -/
theorem resolveSubmission_ok {evaluator : Evaluator F} {package : DispatchPackage F}
    {p : TrustedExecutionProjection F} {clock : Clock} {s s' : Submission F}
    (h : resolveSubmission evaluator package p clock s = .ok s') :
    s'.status ≠ .queued ∧ s'.status ≠ .running ∧ s'.results.length = s.results.length + 1
      ∧ s'.evaluations ≠ [] ∧ s'.id = s.id ∧ s'.questionVersionId = s.questionVersionId
      ∧ s'.practiceSessionId = s.practiceSessionId := by
  rw [resolveSubmission] at h
  split_ifs at h
  cases h
  exact ⟨(legacyStatus_resolved p).1, (legacyStatus_resolved p).2, List.length_append,
    List.append_ne_nil_of_right_ne_nil _ (List.cons_ne_nil _ _), rfl, rfl, rfl⟩

theorem finalizeSubmission_ok {evaluator : Evaluator F} {package : DispatchPackage F}
    {p : TrustedExecutionProjection F} {clock : Clock} {submission submission' : Option (Submission F)}
    {session session' : PracticeSession F}
    (h : finalizeSubmission evaluator package p clock submission session
      = .ok (submission', session')) :
    (submission' = submission ∧ session' = session
        ∧ (package.submissionId = none ∨ package.executionType ≠ .submit
          ∨ ∃ s, submission = some s ∧ s.results ≠ []))
      ∨ ∃ submissionId s s', package.submissionId = some submissionId
          ∧ package.executionType = .submit ∧ submission = some s ∧ s.results = []
          ∧ resolveSubmission evaluator package p clock s = .ok s' ∧ submission' = some s'
          ∧ session' = completeSession evaluator package submissionId p clock session := by
  rw [finalizeSubmission] at h
  split at h
  · rename_i submissionId hid htype
    cases submission with
    | none => cases h
    | some s =>
        dsimp only at h
        split_ifs at h with hresults
        · cases h
          exact .inl ⟨rfl, rfl, .inr (.inr ⟨s, rfl, hresults⟩)⟩
        · obtain ⟨s', hs', heq⟩ := map_eq_ok h
          cases heq
          exact .inr ⟨submissionId, s, s', hid, htype, rfl, not_not.mp hresults, hs', rfl, rfl⟩
  · rename_i hother
    cases h
    refine .inl ⟨rfl, rfl, ?_⟩
    cases hid : package.submissionId with
    | none => exact .inl rfl
    | some submissionId => exact .inr (.inl fun htype => hother submissionId hid htype)

/-- A persisting transaction changes something only for the worker that
holds the lease of the package's attempt. -/
theorem persistObservation_ok {evaluator : Evaluator F} {package : DispatchPackage F}
    {workerId : Str} {compare : Except Failure (TrustedExecutionProjection F)} {clock : Clock}
    {a a' : Attempt F} {status : Option ExecutionStatus}
    (h : persistObservation evaluator package workerId compare clock a = .ok (a', status)) :
    a' = a
      ∨ a.execution.row.attemptCount = package.attemptCount
        ∧ a.execution.Leased workerId clock.database ∧ a.execution.state.IsActive
        ∧ ∃ p, compare = .ok p
          ∧ persistTerminalResult p clock a.execution = .ok (a'.execution, p.executionStatus)
          ∧ finalizeSubmission evaluator package p clock a.submission a.session
            = .ok (a'.submission, a'.session) := by
  rw [persistObservation] at h
  split_ifs at h with hlock
  · cases h; exact .inl rfl
  · obtain ⟨-, hattempt, hleased, hactive⟩ :=
      lockOwnedAttempt_iff.mp (Bool.not_eq_false _ ▸ hlock)
    obtain ⟨p, hp, h⟩ := bind_eq_ok h
    obtain ⟨⟨execution, terminal⟩, hpersist, h⟩ := bind_eq_ok h
    obtain rfl := (persistTerminalResult_ok hactive hpersist).1
    dsimp only at h
    rw [if_pos rfl] at h
    obtain ⟨⟨submission, session⟩, hfinal, h⟩ := bind_eq_ok h
    cases h
    exact .inr ⟨hattempt, hleased, hactive, p, hp, hpersist, hfinal⟩

end Rigor
