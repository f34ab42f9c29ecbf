import Rigor.CompetencyProgress
import Rigor.PracticeStore
import Rigor.SerialTransactions

/-!
# Evidence and mastery, statement by statement

`_write_mastery` of the mock interviews and `_write_progress` of the coding
submissions add evidence of a candidate for a competency, read its aggregate
and store that in the candidate's mastery row: three statements each time.
-/

namespace Rigor

open Py Transactions

variable {F : Type}

/-- `candidate_competency_evidence` and `candidate_competency_mastery`. -/
structure MasteryRows (F : Type) where
  evidence : List (CompetencyEvidence F)
  mastery : List (CompetencyMastery F)

/-- What the aggregate query answers. -/
structure Aggregate (F : Type) where
  mastery : Option F
  confidence : F
  evidenceCount : Nat
  lastEvidenceAt : Option Time

/-- The constraint `uq_competency_evidence`. -/
def CompetencyEvidence.SameKey (e e' : CompetencyEvidence F) : Prop :=
  e.candidateId = e'.candidateId ∧ e.sourceType = e'.sourceType ∧ e.sourceId = e'.sourceId
    ∧ e.competencyId = e'.competencyId

instance (e e' : CompetencyEvidence F) : Decidable (e.SameKey e') :=
  inferInstanceAs (Decidable (_ ∧ _))

/-- What an insert does where its key is taken. -/
inductive OnConflict where
  | raise
  | doNothing

namespace MasteryRows

def evidenceFor (candidateId competencyId : Uuid) (rows : MasteryRows F) :
    List (CompetencyEvidence F) :=
  rows.evidence.filter fun e => e.candidateId = candidateId ∧ e.competencyId = competencyId

def masteryFor (candidateId competencyId : Uuid) (rows : MasteryRows F) :
    Option (CompetencyMastery F) :=
  rows.mastery.find? fun r => r.candidateId = candidateId ∧ r.competencyId = competencyId

/-- The aggregate of some evidence. -/
def aggregateOf (readiness : Readiness F) (evidence : List (CompetencyEvidence F)) : Aggregate F :=
  let terms := evidence.map fun e => (e.score, e.confidence, e.weight)
  ⟨readiness.mastery terms, readiness.confidence terms, evidence.length,
    (evidence.map CompetencyEvidence.observedAt).max?⟩

def insert (readiness : Readiness F) (conflict : OnConflict) (e : CompetencyEvidence F)
    (rows : MasteryRows F) : Except Failure ((MasteryRows F → MasteryRows F) × Unit) :=
  if rows.evidence.any fun r => r.SameKey e then
    match conflict with
    | .raise => .error (.integrity "uq_competency_evidence")
    | .doNothing => .ok (id, ())
  else if readiness.evidenceOk e.score e.confidence e.weight = false then
    .error (.integrity "ck_competency_evidence")
  else .ok (fun rows => { rows with evidence := rows.evidence ++ [e] }, ())

/-- `ON CONFLICT (candidate_id, competency_id) DO UPDATE`. -/
def store (row : CompetencyMastery F) (rows : MasteryRows F) : MasteryRows F :=
  if (rows.masteryFor row.candidateId row.competencyId).isSome then
    { rows with
      mastery := rows.mastery.map fun r =>
        if r.candidateId = row.candidateId ∧ r.competencyId = row.competencyId then
          { r with
            mastery := row.mastery
            confidence := row.confidence
            evidenceCount := row.evidenceCount
            lastEvidenceAt := row.lastEvidenceAt
            calculationVersion := row.calculationVersion }
        else r }
  else { rows with mastery := rows.mastery ++ [row] }

/-- The row that is stored for an aggregate. -/
def upsert (readiness : Readiness F) (e : CompetencyEvidence F) (version : Str) (a : Aggregate F) :
    Except Failure ((MasteryRows F → MasteryRows F) × Unit) :=
  match a.mastery with
  | none => .error (.integrity "candidate_competency_mastery.mastery")
  | some mastery =>
      if readiness.masteryOk mastery a.confidence = false then
        .error (.integrity "ck_candidate_mastery")
      else
        .ok (store ⟨e.organizationId, e.candidateId, e.competencyId, mastery, a.confidence,
          a.evidenceCount, a.lastEvidenceAt, version⟩, ())

end MasteryRows

/-- The insert, the aggregate and the upsert. -/
def recordEvidenceTx (readiness : Readiness F) (conflict : OnConflict) (version : Str)
    (e : CompetencyEvidence F) : Tx (MasteryRows F) Failure Unit := do
  Tx.execute (MasteryRows.insert readiness conflict e)
  let aggregate ← Tx.read fun rows =>
    .ok (MasteryRows.aggregateOf readiness (rows.evidenceFor e.candidateId e.competencyId))
  Tx.execute fun _ => MasteryRows.upsert readiness e version aggregate

/-! ## `_write_mastery` -/

def mockInterview : Str := "MOCK_INTERVIEW"

def mockEvaluatorVersion : Str := "mock-interview-rubric-v1"

def mockReadinessVersion : Str := "weighted-evidence-v2-mock-interview"

/-- The arithmetic of the mock interviews' evidence. -/
structure MockReadiness (F : Type) extends Readiness F where
  /-- `min(0.9, 0.55 + 0.05 * phase_count)` -/
  mockConfidence : Nat → F
  /-- `0.75` -/
  mockWeight : F

/-- A report of a mock interview, as evidence for one competency. -/
def mockEvidence (readiness : MockReadiness F) (principal : Principal) (sessionId : Uuid)
    (score : F) (phaseCount : Nat) (clock : Clock) (competencyId : Uuid) :
    CompetencyEvidence F where
  organizationId := principal.organizationId
  candidateId := principal.userId
  competencyId := competencyId
  sourceType := mockInterview
  sourceId := sessionId
  score := score
  confidence := readiness.mockConfidence phaseCount
  weight := readiness.mockWeight
  evaluatorVersion := mockEvaluatorVersion
  observedAt := clock.database
  evidence := [("session_id", .str sessionId), ("phase_count", .int phaseCount),
    ("rubric", .str mockEvaluatorVersion)]

/-- `_write_mastery`; `competencies` is the table, from slug to id. -/
def writeMasteryTx (readiness : MockReadiness F) (competencies : List (Str × Uuid))
    (principal : Principal) (sessionId : Uuid) (score : F) (phaseCount : Nat) (clock : Clock)
    (competencySlug : Str) : Tx (MasteryRows F) Failure Unit :=
  match competencies.lookup competencySlug with
  | none => pure ()
  | some competencyId =>
      recordEvidenceTx readiness.toReadiness .doNothing mockReadinessVersion
        (mockEvidence readiness principal sessionId score phaseCount clock competencyId)

/-- The loop over the competencies of a template. -/
def writeAllMasteryTx (readiness : MockReadiness F) (competencies : List (Str × Uuid))
    (principal : Principal) (sessionId : Uuid) (score : F) (phaseCount : Nat) (clock : Clock) :
    List Str → Tx (MasteryRows F) Failure Unit
  | [] => pure ()
  | slug :: rest => do
      writeMasteryTx readiness competencies principal sessionId score phaseCount clock slug
      writeAllMasteryTx readiness competencies principal sessionId score phaseCount clock rest

/-! ## `_write_progress` -/

/-- The loop over the mapped competencies. -/
def writeMappingsTx (readiness : Readiness F) (package : DispatchPackage F) (submissionId : Uuid)
    (evaluation : SubmissionEvaluation F) (clock : Clock) :
    List (QuestionCompetency F) → Tx (MasteryRows F) Failure Unit
  | [] => pure ()
  | m :: rest => do
      recordEvidenceTx readiness .raise readinessVersion
        (evidenceRow readiness package submissionId evaluation clock m)
      writeMappingsTx readiness package submissionId evaluation clock rest

/-- `_write_progress` of a submission with an evaluation; `mappings` are the
competencies of its question. -/
def writeProgressTx (readiness : Readiness F) (package : DispatchPackage F) (submissionId : Uuid)
    (evaluation : SubmissionEvaluation F) (clock : Clock) (mappings : List (QuestionCompetency F)) :
    Tx (MasteryRows F) Failure Unit := do
  let existing ← Tx.read fun rows =>
    .ok (rows.evidence.any fun e => e.IsOf package.candidateId submissionId)
  if existing then pure ()
  else writeMappingsTx readiness package submissionId evaluation clock mappings

end Rigor
