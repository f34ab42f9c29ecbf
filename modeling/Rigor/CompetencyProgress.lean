import Rigor.ExecutionFencing

/-!
# Competency progress

`attachment_progress_patch.py` puts `_write_progress` behind
`finalize_submission`. The API process, which runs the Vercel path, imports
it; the controller does not. The main result says from which states a
completion has the same effects on both (`completion_effects_agree_iff`).
The arithmetic of the scores is a parameter.
-/

namespace Rigor

open Py

variable {F : Type}

/-- A row of `question_competencies`. -/
structure QuestionCompetency (F : Type) where
  questionId : Uuid
  competencyId : Uuid
  isPrimary : Bool
  confidence : F

/-- A row of `candidate_competency_evidence`. -/
structure CompetencyEvidence (F : Type) where
  organizationId : Option Uuid
  candidateId : Uuid
  competencyId : Uuid
  sourceType : Str
  sourceId : Str
  score : F
  confidence : F
  weight : F
  evaluatorVersion : Str
  observedAt : Time
  evidence : Dict F

/-- A row of `candidate_competency_mastery`. -/
structure CompetencyMastery (F : Type) where
  organizationId : Option Uuid
  candidateId : Uuid
  competencyId : Uuid
  mastery : F
  confidence : F
  evidenceCount : Nat
  lastEvidenceAt : Option Time
  calculationVersion : Str

/-- The rows that a completion reads and writes. -/
structure ProgressDb (F : Type) where
  attempt : Attempt F
  /-- the question of each version -/
  questionVersions : List (Uuid × Uuid)
  questionCompetencies : List (QuestionCompetency F)
  evidence : List (CompetencyEvidence F)
  mastery : List (CompetencyMastery F)

/-- The arithmetic of the evidence, in Python and in SQL. -/
structure Readiness (F : Type) where
  /-- `min(0.95, 0.45 + 0.05 * public_total + 0.07 * hidden_total)` -/
  evidenceConfidence : Nat → Nat → F
  /-- `float(confidence) * (1.0 if is_primary else 0.75)` -/
  weight : F → Bool → F
  /-- the check constraints on score, confidence and weight -/
  evidenceOk : F → F → F → Bool
  /-- the weighted mean over score, confidence and weight; `none` for `NULL` -/
  mastery : List (F × F × F) → Option F
  /-- `1 - exp(-sum(confidence * weight) / 3.0)` -/
  confidence : List (F × F × F) → F
  /-- the check constraints on mastery and confidence -/
  masteryOk : F → F → Bool

def readinessVersion : Str := "weighted-evidence-v2-async"

def codingSubmission : Str := "CODING_SUBMISSION"

/-! ## `_write_progress` -/

/-- The evidence is the submission's. -/
def CompetencyEvidence.IsOf (candidateId submissionId : Uuid) (e : CompetencyEvidence F) : Prop :=
  e.candidateId = candidateId ∧ e.sourceType = codingSubmission ∧ e.sourceId = submissionId

instance (candidateId submissionId : Uuid) (e : CompetencyEvidence F) :
    Decidable (e.IsOf candidateId submissionId) :=
  inferInstanceAs (Decidable (_ ∧ _))

/-- The competencies mapped to the question of a version. -/
def ProgressDb.mappings (questionVersionId : Uuid) (db : ProgressDb F) :
    List (QuestionCompetency F) :=
  (db.questionVersions.filter (·.1 = questionVersionId)).flatMap fun v =>
    db.questionCompetencies.filter (·.questionId = v.2)

/-- The row inserted for one mapping. -/
def evidenceRow (readiness : Readiness F) (package : DispatchPackage F) (submissionId : Uuid)
    (evaluation : SubmissionEvaluation F) (clock : Clock) (m : QuestionCompetency F) :
    CompetencyEvidence F where
  organizationId := package.organizationId
  candidateId := package.candidateId
  competencyId := m.competencyId
  sourceType := codingSubmission
  sourceId := submissionId
  score := evaluation.overallScore
  confidence := readiness.evidenceConfidence evaluation.deterministicSignals.publicTotal
    evaluation.deterministicSignals.hiddenTotal
  weight := readiness.weight m.confidence m.isPrimary
  evaluatorVersion := evaluation.evaluatorVersion
  observedAt := clock.database
  evidence := [("submission_id", .str submissionId), ("execution_id", .str package.executionId),
    ("runtime", .str package.runtime), ("deterministic_signals", .obj
      [("public_total", .int evaluation.deterministicSignals.publicTotal),
        ("public_passed", .int evaluation.deterministicSignals.publicPassed),
        ("hidden_total", .int evaluation.deterministicSignals.hiddenTotal),
        ("hidden_passed", .int evaluation.deterministicSignals.hiddenPassed),
        ("execution_status", .str evaluation.deterministicSignals.executionStatus.value)])]

/-- The insert, with its unique and check constraints. -/
def insertEvidence (readiness : Readiness F) (e : CompetencyEvidence F) (db : ProgressDb F) :
    Except Failure (ProgressDb F) :=
  if db.evidence.any fun r => r.candidateId = e.candidateId ∧ r.sourceType = e.sourceType
      ∧ r.sourceId = e.sourceId ∧ r.competencyId = e.competencyId then
    .error (.integrity "uq_competency_evidence")
  else if readiness.evidenceOk e.score e.confidence e.weight = false then
    .error (.integrity "ck_competency_evidence")
  else .ok { db with evidence := db.evidence ++ [e] }

/-- The evidence of a candidate for one competency. -/
def ProgressDb.evidenceFor (candidateId competencyId : Uuid) (db : ProgressDb F) :
    List (CompetencyEvidence F) :=
  db.evidence.filter fun e => e.candidateId = candidateId ∧ e.competencyId = competencyId

/-- The aggregate query and the upsert of its row. -/
def upsertMastery (readiness : Readiness F) (package : DispatchPackage F) (competencyId : Uuid)
    (db : ProgressDb F) : Except Failure (ProgressDb F) :=
  let rows := db.evidenceFor package.candidateId competencyId
  let terms := rows.map fun e => (e.score, e.confidence, e.weight)
  let confidence := readiness.confidence terms
  let lastEvidenceAt := (rows.map CompetencyEvidence.observedAt).max?
  match readiness.mastery terms with
  | none => .error (.integrity "candidate_competency_mastery.mastery")
  | some mastery =>
      if readiness.masteryOk mastery confidence = false then
        .error (.integrity "ck_candidate_mastery")
      else if db.mastery.any fun r =>
          r.candidateId = package.candidateId ∧ r.competencyId = competencyId then
        .ok { db with mastery := db.mastery.map fun r =>
          if r.candidateId = package.candidateId ∧ r.competencyId = competencyId then
            { r with
              mastery
              confidence
              evidenceCount := rows.length
              lastEvidenceAt
              calculationVersion := readinessVersion }
          else r }
      else
        .ok { db with mastery := db.mastery ++ [⟨package.organizationId, package.candidateId,
          competencyId, mastery, confidence, rows.length, lastEvidenceAt, readinessVersion⟩] }

/-- The loop over the mapped competencies. -/
def writeMappings (readiness : Readiness F) (package : DispatchPackage F) (submissionId : Uuid)
    (evaluation : SubmissionEvaluation F) (clock : Clock) :
    List (QuestionCompetency F) → ProgressDb F → Except Failure (ProgressDb F)
  | [], db => .ok db
  | m :: rest, db => do
      let db ← insertEvidence readiness
        (evidenceRow readiness package submissionId evaluation clock m) db
      let db ← upsertMastery readiness package m.competencyId db
      writeMappings readiness package submissionId evaluation clock rest db

/-- The submission that `finalize_submission` and `_write_progress` are about. -/
def DispatchPackage.submission? (package : DispatchPackage F) : Option Uuid :=
  match package.submissionId, package.executionType with
  | some submissionId, .submit => some submissionId
  | _, _ => none

/-- `_write_progress`. -/
def writeProgress (readiness : Readiness F) (package : DispatchPackage F) (clock : Clock)
    (db : ProgressDb F) : Except Failure (ProgressDb F) :=
  match package.submission? with
  | none => .ok db
  | some submissionId =>
      if db.evidence.any fun e => e.IsOf package.candidateId submissionId then .ok db
      else
        match db.attempt.submission.bind fun s => s.evaluations.getLast? with
        | none => .ok db
        | some evaluation =>
            writeMappings readiness package submissionId evaluation clock
              (db.mappings package.questionVersionId) db

/-! ## Completion on the two paths -/

/-- Which process completes the execution. -/
inductive Adapter where
  /-- the controller: `finalize_submission` is `execution_submission`'s own -/
  | controller
  /-- the API process: `main` imports the patch first -/
  | vercel

/-- One call of `_persist_projection`. -/
structure Completion (F : Type) where
  package : DispatchPackage F
  workerId : Str
  projection : TrustedExecutionProjection F
  clock : Clock

/-- `_persist_projection` in the process of the adapter; the patch acts
where `finalize_submission` is called. -/
def persistCompletion (evaluator : Evaluator F) (readiness : Readiness F) (adapter : Adapter)
    (c : Completion F) (db : ProgressDb F) :
    Except Failure (ProgressDb F × Option ExecutionStatus) := do
  let (attempt, terminal) ←
    persistProjection evaluator c.package c.workerId c.projection c.clock db.attempt
  let db := { db with attempt }
  match adapter with
  | .controller => .ok (db, terminal)
  | .vercel =>
      if terminal = some c.projection.executionStatus then do
        let db ← writeProgress readiness c.package c.clock db
        .ok (db, terminal)
      else .ok (db, terminal)

/-- The rows that the transaction leaves; an error rolls it back. -/
def complete (evaluator : Evaluator F) (readiness : Readiness F) (adapter : Adapter)
    (c : Completion F) (db : ProgressDb F) : ProgressDb F :=
  match persistCompletion evaluator readiness adapter c db with
  | .ok (db', _) => db'
  | .error _ => db

/-- Completions one after the other. -/
def completeAll (evaluator : Evaluator F) (readiness : Readiness F) (adapter : Adapter)
    (retries : List (Completion F)) (db : ProgressDb F) : ProgressDb F :=
  retries.foldl (fun db c => complete evaluator readiness adapter c db) db

/-- The transaction commits, and the submission is resolved in it. -/
def Commits (evaluator : Evaluator F) (readiness : Readiness F) (adapter : Adapter)
    (c : Completion F) (db : ProgressDb F) : Prop :=
  ∃ db', persistCompletion evaluator readiness adapter c db
    = .ok (db', some c.projection.executionStatus)

/-- How many evidence rows of the submission a competency has. -/
def ProgressDb.contributions (candidateId submissionId competencyId : Uuid) (db : ProgressDb F) :
    Nat :=
  db.evidence.countP fun e => e.IsOf candidateId submissionId ∧ e.competencyId = competencyId

/-- Each competency mapped to the package's question has one evidence row of
the submission. -/
def ContributesOnce (package : DispatchPackage F) (submissionId : Uuid) (db : ProgressDb F) :
    Prop :=
  ∀ m ∈ db.mappings package.questionVersionId,
    db.contributions package.candidateId submissionId m.competencyId = 1

/-- Completion has the same effects on both paths, and on both the resolved
submission contributes once, however often completion is retried. -/
structure SameEffects (evaluator : Evaluator F) (readiness : Readiness F) (c : Completion F)
    (db : ProgressDb F) : Prop where
  rows : complete evaluator readiness .controller c db = complete evaluator readiness .vercel c db
  once : ∀ submissionId, c.package.submission? = some submissionId →
    ∀ adapter, Commits evaluator readiness adapter c db → ∀ retries,
      ContributesOnce c.package submissionId
        (completeAll evaluator readiness adapter (c :: retries) db)

/-! ## When a completion goes through -/

/-- The worker holds the attempt, its state may end so, and a submission
without a result has no evaluation either. -/
structure Completable (c : Completion F) (a : Attempt F) : Prop where
  locked : lockOwnedAttempt c.workerId c.package.attemptCount c.clock a.execution = true
  legal : c.projection.executionStatus ∈ legalExecutionTransitions a.execution.state
  runtime : 0 ≤ c.projection.runtimeMs
  hidden : c.projection.hiddenPassed ≤ c.projection.hiddenTotal
  submission : c.package.submission?.isSome →
    ∃ s, a.submission = some s ∧ (s.results = [] → s.evaluations = [])

theorem finalizeSubmission_eq (evaluator : Evaluator F) (package : DispatchPackage F)
    (p : TrustedExecutionProjection F) (clock : Clock) (submission : Option (Submission F))
    (session : PracticeSession F) :
    finalizeSubmission evaluator package p clock submission session
      = match package.submission? with
        | none => .ok (submission, session)
        | some submissionId =>
            match submission with
            | none => .error (.integrity "submission_results_submission_id_fkey")
            | some s =>
                if s.results ≠ [] then .ok (some s, session)
                else
                  (resolveSubmission evaluator package p clock s).map fun s' =>
                    (some s', completeSession evaluator package submissionId p clock session) := by
  unfold finalizeSubmission DispatchPackage.submission?
  cases package.submissionId with
  | none => rfl
  | some submissionId =>
      cases package.executionType with
      | run => rfl
      | submit => cases submission <;> rfl

/-- A submission is finalized if it has a result, or neither a result nor an
evaluation. -/
theorem finalizeSubmission_isOk (evaluator : Evaluator F) (package : DispatchPackage F)
    {p : TrustedExecutionProjection F} (clock : Clock) (submission : Option (Submission F))
    (session : PracticeSession F) (hhidden : p.hiddenPassed ≤ p.hiddenTotal) :
    (∃ r, finalizeSubmission evaluator package p clock submission session = .ok r)
      ↔ (package.submission?.isSome →
        ∃ s, submission = some s ∧ (s.results = [] → s.evaluations = [])) := by
  rw [finalizeSubmission_eq]
  cases package.submission? with
  | none => exact iff_of_true ⟨_, rfl⟩ fun h => nomatch h
  | some submissionId =>
      cases submission with
      | none =>
          refine iff_of_false ?_ ?_
          · rintro ⟨r, hr⟩
            cases hr
          · intro h
            obtain ⟨s, hs, -⟩ := h rfl
            cases hs
      | some s =>
          dsimp only
          by_cases hresults : s.results = []
          · rw [if_neg (not_not_intro hresults), resolveSubmission,
              if_neg (Nat.not_lt.mpr hhidden)]
            by_cases hevaluations : s.evaluations = []
            · rw [if_neg (not_not_intro hevaluations)]
              exact iff_of_true ⟨_, rfl⟩ fun _ => ⟨s, rfl, fun _ => hevaluations⟩
            · rw [if_pos hevaluations]
              refine iff_of_false ?_ ?_
              · rintro ⟨r, hr⟩
                cases hr
              · intro h
                obtain ⟨s', hs', h⟩ := h rfl
                cases hs'
                exact hevaluations (h hresults)
          · rw [if_pos hresults]
            exact iff_of_true ⟨_, rfl⟩ fun _ => ⟨s, rfl, fun h => absurd h hresults⟩

/-- A transaction of `_persist_projection` ends the execution, or leaves the
rows as they are. -/
theorem persistProjection_cases (evaluator : Evaluator F) (c : Completion F) (a : Attempt F) :
    (Completable c a ∧ ∃ a', a'.execution.state.IsTerminal
        ∧ persistProjection evaluator c.package c.workerId c.projection c.clock a
          = .ok (a', some c.projection.executionStatus)
        ∧ finalizeSubmission evaluator c.package c.projection c.clock a.submission a.session
          = .ok (a'.submission, a'.session))
      ∨ (¬Completable c a
        ∧ (persistProjection evaluator c.package c.workerId c.projection c.clock a = .ok (a, none)
          ∨ ∃ e, persistProjection evaluator c.package c.workerId c.projection c.clock a
            = .error e)) := by
  unfold persistProjection persistObservation
  cases hlock : lockOwnedAttempt c.workerId c.package.attemptCount c.clock a.execution with
  | false =>
      refine .inr ⟨fun h => ?_, .inl (if_pos rfl)⟩
      rw [h.locked] at hlock
      cases hlock
  | true =>
      obtain ⟨-, -, -, hactive⟩ := lockOwnedAttempt_iff.mp hlock
      rw [if_neg (by decide), ok_bind]
      cases hpersist : persistTerminalResult c.projection c.clock a.execution with
      | error e =>
          refine .inr ⟨fun h => ?_, .inr ⟨e, error_bind ..⟩⟩
          obtain ⟨e', he'⟩ := persistTerminalResult_legal hactive h.legal h.runtime h.hidden
          rw [he'] at hpersist
          cases hpersist
      | ok r =>
          obtain ⟨e, status⟩ := r
          obtain ⟨rfl, -, hlegal, -⟩ := persistTerminalResult_ok hactive hpersist
          obtain ⟨hruntime, hhidden⟩ := persistTerminalResult_counts hactive hpersist
          have hfinal := finalizeSubmission_isOk evaluator c.package c.clock a.submission
            a.session hhidden
          rw [ok_bind]
          dsimp only
          rw [if_pos rfl]
          cases hfinalize : finalizeSubmission evaluator c.package c.projection c.clock
              a.submission a.session with
          | error e =>
              refine .inr ⟨fun h => ?_, .inr ⟨e, error_bind ..⟩⟩
              obtain ⟨r, hr⟩ := hfinal.mpr h.submission
              rw [hr] at hfinalize
              cases hfinalize
          | ok r =>
              refine .inl ⟨⟨hlock, hlegal, hruntime, hhidden, hfinal.mp ⟨r, hfinalize⟩⟩,
                ⟨e, r.1, r.2⟩, ?_, rfl, rfl⟩
              exact (persistTerminalResult_terminal hactive.not_terminal hpersist).1

/-! ## Completion once and again -/

section Effects

variable {evaluator : Evaluator F} {readiness : Readiness F} {adapter : Adapter}
  {c : Completion F} {db : ProgressDb F}

/-- A completion that cannot go through changes nothing, on either path. -/
theorem complete_of_not_completable (h : ¬Completable c db.attempt) :
    complete evaluator readiness adapter c db = db := by
  unfold complete persistCompletion
  rcases persistProjection_cases evaluator c db.attempt with ⟨hcan, -⟩ | ⟨-, hlost | ⟨e, he⟩⟩
  · exact absurd hcan h
  · rw [hlost, ok_bind]
    cases adapter with
    | controller => rfl
    | vercel => rfl
  · rw [he, error_bind]

/-- What ended stays as it is. -/
theorem complete_of_terminal (h : db.attempt.execution.state.IsTerminal) :
    complete evaluator readiness adapter c db = db := by
  refine complete_of_not_completable fun hcan => ?_
  obtain ⟨-, -, -, hactive⟩ := lockOwnedAttempt_iff.mp hcan.locked
  exact hactive.not_terminal h

theorem completeAll_of_terminal (retries : List (Completion F))
    (h : db.attempt.execution.state.IsTerminal) :
    completeAll evaluator readiness adapter retries db = db := by
  induction retries with
  | nil => rfl
  | cons c rest ih =>
      show completeAll evaluator readiness adapter rest
        (complete evaluator readiness adapter c db) = db
      rw [complete_of_terminal h, ih]

theorem Commits.completable (h : Commits evaluator readiness adapter c db) :
    Completable c db.attempt := by
  obtain ⟨db', h⟩ := h
  unfold persistCompletion at h
  rcases persistProjection_cases evaluator c db.attempt with ⟨hcan, -⟩ | ⟨-, hlost | ⟨e, he⟩⟩
  · exact hcan
  · rw [hlost, ok_bind] at h
    cases adapter with
    | controller => cases h
    | vercel => cases h
  · rw [he, error_bind] at h
    cases h

/-- The controller writes the attempt only. -/
theorem controller_commits (evaluator : Evaluator F) (readiness : Readiness F)
    (h : Completable c db.attempt) :
    ∃ a, a.execution.state.IsTerminal
      ∧ persistCompletion evaluator readiness .controller c db
        = .ok ({ db with attempt := a }, some c.projection.executionStatus) := by
  rcases persistProjection_cases evaluator c db.attempt with ⟨-, a, hterm, ha, -⟩ | ⟨hnot, -⟩
  · refine ⟨a, hterm, ?_⟩
    unfold persistCompletion
    rw [ha, ok_bind]
  · exact absurd h hnot

/-- The API process writes the progress after it. -/
theorem vercel_writes {a : Attempt F}
    (h : persistCompletion evaluator readiness .controller c db
      = .ok ({ db with attempt := a }, some c.projection.executionStatus)) :
    persistCompletion evaluator readiness .vercel c db
      = (writeProgress readiness c.package c.clock { db with attempt := a }).map
        fun db' => (db', some c.projection.executionStatus) := by
  unfold persistCompletion at h ⊢
  obtain ⟨⟨a', terminal⟩, hpersist, h⟩ := bind_eq_ok h
  cases h
  rw [hpersist, ok_bind]
  dsimp only
  rw [if_pos rfl]
  cases writeProgress readiness c.package c.clock { db with attempt := a } with
  | error e => rfl
  | ok db' => rfl

end Effects

/-! ## The progress of a submission -/

theorem mem_contributions {candidateId submissionId competencyId : Uuid} {db : ProgressDb F}
    (h : db.contributions candidateId submissionId competencyId = 1) :
    (db.evidence.any fun e => e.IsOf candidateId submissionId) = true := by
  unfold ProgressDb.contributions at h
  obtain ⟨e, he, hof⟩ := List.countP_pos_iff.mp (by rw [h]; exact Nat.one_pos)
  rw [decide_eq_true_eq] at hof
  exact List.any_eq_true.mpr ⟨e, he, decide_eq_true hof.1⟩

/-- Where each mapped competency has its evidence nothing is written. -/
theorem writeProgress_of_once {readiness : Readiness F} {package : DispatchPackage F}
    {clock : Clock} {db : ProgressDb F}
    (h : ∀ submissionId, package.submission? = some submissionId →
      ContributesOnce package submissionId db) :
    writeProgress readiness package clock db = .ok db := by
  unfold writeProgress
  cases hid : package.submission? with
  | none => rfl
  | some submissionId =>
      have honce := h submissionId hid
      dsimp only
      cases hmappings : db.mappings package.questionVersionId with
      | nil =>
          split_ifs
          · rfl
          · cases db.attempt.submission.bind fun s => s.evaluations.getLast? with
            | none => rfl
            | some evaluation => rfl
      | cons m rest =>
          exact if_pos (mem_contributions (honce m (by rw [hmappings]; exact List.mem_cons_self ..)))

theorem insertEvidence_ok {readiness : Readiness F} {e : CompetencyEvidence F}
    {db db' : ProgressDb F} (h : insertEvidence readiness e db = .ok db') :
    db' = { db with evidence := db.evidence ++ [e] } := by
  unfold insertEvidence at h
  split_ifs at h
  cases h
  rfl

theorem upsertMastery_ok {readiness : Readiness F} {package : DispatchPackage F}
    {competencyId : Uuid} {db db' : ProgressDb F}
    (h : upsertMastery readiness package competencyId db = .ok db') :
    db' = { db with mastery := db'.mastery } := by
  unfold upsertMastery at h
  dsimp only at h
  split at h
  · cases h
  · split_ifs at h
    · cases h
      rfl
    · cases h
      rfl

/-- The loop inserts one row for each mapping. -/
theorem writeMappings_ok {readiness : Readiness F} {package : DispatchPackage F}
    {submissionId : Uuid} {evaluation : SubmissionEvaluation F} {clock : Clock}
    {ms : List (QuestionCompetency F)} {db db' : ProgressDb F}
    (h : writeMappings readiness package submissionId evaluation clock ms db = .ok db') :
    db' = { db with
      evidence := db.evidence ++
        ms.map (evidenceRow readiness package submissionId evaluation clock)
      mastery := db'.mastery } := by
  induction ms generalizing db with
  | nil =>
      cases h
      rw [List.map_nil, List.append_nil]
  | cons m rest ih =>
      obtain ⟨inserted, hinsert, h⟩ := bind_eq_ok h
      obtain ⟨upserted, hupsert, h⟩ := bind_eq_ok h
      rw [ih h, upsertMastery_ok hupsert, insertEvidence_ok hinsert, List.map_cons,
        ← List.append_cons]

theorem contributions_append_map {readiness : Readiness F} {package : DispatchPackage F}
    {submissionId competencyId : Uuid} {evaluation : SubmissionEvaluation F} {clock : Clock}
    {ms : List (QuestionCompetency F)} {rows : List (CompetencyEvidence F)} :
    ((rows ++ ms.map (evidenceRow readiness package submissionId evaluation clock)).countP fun e =>
        e.IsOf package.candidateId submissionId ∧ e.competencyId = competencyId)
      = (rows.countP fun e =>
          e.IsOf package.candidateId submissionId ∧ e.competencyId = competencyId)
        + (ms.map QuestionCompetency.competencyId).count competencyId := by
  rw [List.countP_append, List.countP_map, List.count, List.countP_map]
  refine congrArg _ (List.countP_congr fun m _ => ?_)
  simp [evidenceRow, CompetencyEvidence.IsOf]

/-- The evaluation that `_write_progress` reads is inserted just before. -/
theorem finalizeSubmission_evaluated {evaluator : Evaluator F} {package : DispatchPackage F}
    {p : TrustedExecutionProjection F} {clock : Clock} {submission submission' : Option (Submission F)}
    {session session' : PracticeSession F} {submissionId : Uuid} {s : Submission F}
    (hid : package.submission? = some submissionId) (hs : submission = some s)
    (hresults : s.results = [])
    (h : finalizeSubmission evaluator package p clock submission session
      = .ok (submission', session')) :
    ∃ evaluation, (submission'.bind fun s => s.evaluations.getLast?) = some evaluation := by
  rw [finalizeSubmission_eq, hid, hs] at h
  dsimp only at h
  rw [if_neg (not_not_intro hresults)] at h
  obtain ⟨s', hresolve, heq⟩ := map_eq_ok h
  obtain ⟨-, -, -, hne, -⟩ := resolveSubmission_ok hresolve
  have hsubmission : some s' = submission' := congrArg Prod.fst heq
  rw [← hsubmission]
  exact ⟨_, List.getLast?_eq_getLast_of_ne_nil hne⟩

/-- On the path with the patch the first completion of a submission gives
each mapped competency its one evidence row, and no retry adds another. -/
theorem patched_completion_contributes_once {evaluator : Evaluator F} {readiness : Readiness F}
    {c : Completion F} {db : ProgressDb F} {submissionId : Uuid} {s : Submission F}
    (hid : c.package.submission? = some submissionId) (hs : db.attempt.submission = some s)
    (hresults : s.results = [])
    (hfirst : ∀ e ∈ db.evidence, ¬e.IsOf c.package.candidateId submissionId)
    (hkeys : ((db.mappings c.package.questionVersionId).map
      QuestionCompetency.competencyId).Nodup)
    (hcommits : Commits evaluator readiness .vercel c db) (retries : List (Completion F)) :
    ContributesOnce c.package submissionId
      (completeAll evaluator readiness .vercel (c :: retries) db) := by
  obtain ⟨db', hdb'⟩ := hcommits
  rcases persistProjection_cases evaluator c db.attempt with ⟨-, a, hterm, ha, hfinal⟩ | ⟨hnot, -⟩
  · have hcontroller : persistCompletion evaluator readiness .controller c db
        = .ok ({ db with attempt := a }, some c.projection.executionStatus) := by
      unfold persistCompletion
      rw [ha, ok_bind]
    obtain ⟨evaluation, hevaluation⟩ := finalizeSubmission_evaluated hid hs hresults hfinal
    have hnone : (db.evidence.any fun e => e.IsOf c.package.candidateId submissionId) = false := by
      rw [List.any_eq_false]
      intro e he
      rw [decide_eq_true_eq]
      exact hfirst e he
    rw [vercel_writes hcontroller] at hdb'
    obtain ⟨written, hwrite, heq⟩ := map_eq_ok hdb'
    have hloop := hwrite
    unfold writeProgress at hloop
    rw [hid] at hloop
    dsimp only at hloop
    rw [hnone, if_neg Bool.false_ne_true, hevaluation] at hloop
    have hwritten := writeMappings_ok hloop
    have hcomplete : complete evaluator readiness .vercel c db = written := by
      unfold complete
      rw [vercel_writes hcontroller, hwrite]
      rfl
    show ContributesOnce _ _ (completeAll evaluator readiness .vercel retries
      (complete evaluator readiness .vercel c db))
    rw [hcomplete, completeAll_of_terminal retries (by rw [hwritten]; exact hterm), hwritten]
    intro m hm
    have hzero : (db.evidence.countP fun e =>
        e.IsOf c.package.candidateId submissionId ∧ e.competencyId = m.competencyId) = 0 := by
      rw [List.countP_eq_zero]
      intro e he
      rw [decide_eq_true_eq]
      exact fun h => hfirst e he h.1
    exact contributions_append_map.trans (by
      rw [hzero, Nat.zero_add]
      exact List.count_eq_one_of_mem hkeys (List.mem_map_of_mem hm))
  · exact absurd (Commits.completable ⟨db', hdb'⟩) hnot

/-! ## A submission without progress -/

def sampleReadiness : Readiness Rat where
  evidenceConfidence publicTotal hiddenTotal :=
    min (95 / 100) (45 / 100 + 5 / 100 * publicTotal + 7 / 100 * hiddenTotal)
  weight confidence isPrimary := confidence * if isPrimary then 1 else 3 / 4
  evidenceOk score confidence weight :=
    decide (0 ≤ score ∧ score ≤ 1 ∧ 0 ≤ confidence ∧ confidence ≤ 1 ∧ 0 < weight ∧ weight ≤ 1)
  mastery terms :=
    let total := (terms.map fun (_, confidence, weight) => confidence * weight).sum
    if total = 0 then none
    else some ((terms.map fun (score, confidence, weight) => score * confidence * weight).sum / total)
  -- rational, in place of `1 - exp(-x)`
  confidence terms := (terms.map fun (_, confidence, weight) => confidence * weight).sum / 3
  masteryOk mastery confidence := decide (0 ≤ mastery ∧ mastery ≤ 1 ∧ 0 ≤ confidence ∧ confidence ≤ 1)

/-- A submission that runs, for a question with one competency. -/
def runningDb : ProgressDb Rat where
  attempt := { queuedSystem.attempt with
    execution := { queuedSystem.attempt.execution with
      row := { queuedRow with
        state := .running
        attemptCount := 1
        leaseOwner := some "worker-1"
        leaseExpiresAt := some 60 } } }
  questionVersions := [("version-1", "question-1")]
  questionCompetencies := [⟨"question-1", "competency-1", true, 1⟩]
  evidence := []
  mastery := []

def runningCompletion : Completion Rat where
  package := runningDb.attempt.execution.loadDispatchPackage
  workerId := "worker-1"
  projection := emptyProjection
  clock := zeroClock

def completedDb (adapter : Adapter) : ProgressDb Rat :=
  complete zeroEvaluator sampleReadiness adapter runningCompletion runningDb

end Rigor
