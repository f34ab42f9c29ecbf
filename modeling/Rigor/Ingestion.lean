import Rigor.ContentImports
import Rigor.PublicationPointer

/-!
# Content ingestion

`import_upload`: every record of an upload goes through the stages of the
pipeline in a transaction of its own, and what passes becomes a draft. The
checks of a record are made before the database is asked for its track, its
slug and its version, so that the loop can stop in the middle.
-/

namespace Rigor

open Py

variable {P C : Type}

/-! ## Questions -/

inductive Difficulty where
  | foundational | intermediate | advanced | staff | principal
  deriving DecidableEq

structure DimensionProfile where
  conceptual : Nat
  implementation : Nat
  scale : Nat
  ambiguity : Nat
  prerequisiteDepth : Nat

inductive RightsBasis where
  | original | organizationOwned | licensed
  deriving DecidableEq

/-- The fields of a parsed question that the pipeline reads. -/
structure UniversalQuestion (C : Type) where
  id : Str
  version : Str
  slug : Str
  primaryTrack : Str
  difficulty : Difficulty
  dimensions : DimensionProfile
  relatedQuestionIds : List Str
  referenceSolution : Str
  certificationEvidence : List Str
  sourceUri : Option Str
  rightsBasis : RightsBasis
  expirationDate : Option Int
  /-- `_sha256(_canonical_json(normalized))`. -/
  normalizedHash : Str
  body : C

/-- The errors of a `ValidationError`, of which there is at least one. -/
structure ValidationErrors where
  messages : List Str
  nonempty : messages ≠ []

inductive RecordKind where
  | complete | metadataDraft
  deriving DecidableEq

structure SourceRecord (P : Type) where
  payload : P
  kind : RecordKind

/-- `similarity_action`. -/
inductive SimilarityAction where
  | normalProcessing | reviewerWarning | mandatoryOriginalityReview | publicationBlock
  deriving DecidableEq

def SimilarityAction.value : SimilarityAction → Str
  | .normalProcessing => "normal_processing"
  | .reviewerWarning => "reviewer_warning"
  | .mandatoryOriginalityReview => "mandatory_originality_review"
  | .publicationBlock => "publication_block"

/-- What the pipeline takes from outside: pydantic's validation of a payload
and its `id` and `slug`, the scores against the catalogue, the sandbox that
runs the reference solution, `str.casefold`, `UUID`, the day, and the rows
that PostgreSQL accepts. -/
structure Pipeline (P C : Type) where
  validate : P → Except ValidationErrors (UniversalQuestion C)
  externalId : P → Option Str
  slug : P → Option Str
  similarity : UniversalQuestion C → Catalogue C → SimilarityAction
  execute : UniversalQuestion C → List Str
  casefold : Str → Str
  parseUuid : Str → Option Uuid
  today : Int
  acceptsItem : P → Bool
  acceptsDraft : UniversalQuestion C → Bool

/-- An upload whose import has been opened. -/
structure Upload where
  importId : Uuid
  actor : Subject
  sourceMethod : Str
  dryRun : Bool
  visibility : Str
  organizationId : Option Uuid

/-! ## The stages -/

def pipelineStages : List Str :=
  ["file_safety", "schema_parsing", "normalization", "provenance_validation", "license_validation",
    "identity_validation", "reference_validation", "duplicate_detection", "semantic_similarity",
    "executable_solution_validation", "rubric_validation", "difficulty_check", "security_check",
    "draft_creation"]

/-- `value in text`. -/
def contains (value text : Str) : Bool := text.tails.any fun t => value.isPrefixOf t

/-- A stage that fails on its findings. -/
def checkedStage (stage : Str) (findings : List Str) : StageResult :=
  ⟨stage, if findings = [] then .passed else .failed, findings⟩

def provenanceFindings (q : UniversalQuestion C) : List Str :=
  if q.certificationEvidence = [] then ["provenance certification evidence is required"] else []

def prohibitedHosts : List Str := ["leetcode.", "hackerrank.", "interviewbit."]

def licenseFindings (p : Pipeline P C) (q : UniversalQuestion C) : List Str :=
  (if q.expirationDate.any fun day => decide (day < p.today) then ["content license is expired"]
    else [])
  ++ if q.rightsBasis = .original
      ∧ prohibitedHosts.any fun host => contains host (p.casefold (q.sourceUri.getD [])) then
    ["original certification conflicts with a third-party source URI"]
  else []

/-- The duplicates in the upload. -/
def identityFindings (batchIds batchSlugs : List Str) (q : UniversalQuestion C) : List Str :=
  (if q.id ∈ batchIds then [("duplicate ID in import: " : Str) ++ q.id] else [])
  ++ if q.slug ∈ batchSlugs then [("duplicate slug in import: " : Str) ++ q.slug] else []

/-- `_reference_findings`, with the empty manifest of the API. -/
def referenceFindings (batchIds : List Str) (q : UniversalQuestion C) : List Str :=
  (q.relatedQuestionIds.filter fun related => related ∉ batchIds).map fun related =>
    ("related question is absent from manifest/import: " : Str) ++ related

def difficultyFindings (q : UniversalQuestion C) : List Str :=
  let d := q.dimensions
  if (q.difficulty = .staff ∨ q.difficulty = .principal)
      ∧ max d.scale (max d.ambiguity d.prerequisiteDepth) < 4 then
    ["staff/principal difficulty lacks scale, ambiguity, or prerequisite depth"]
  else if q.difficulty = .foundational ∧ max d.conceptual d.implementation > 3 then
    ["foundational difficulty has unexpectedly high implementation dimensions"]
  else []

def forbiddenPrimitives : List Str := ["subprocess", "os.system", "socket.", "eval(", "exec("]

def securityFindings (p : Pipeline P C) (q : UniversalQuestion C) : List Str :=
  (forbiddenPrimitives.filter fun value => contains value (p.casefold q.referenceSolution)).map
    fun value => ("reference solution contains blocked primitive: " : Str) ++ value

/-- The `[value for value in errors if "duplicate" in value]` of the rights and
identity findings. -/
def identityErrors (errors : List Str) : List Str := errors.filter (contains "duplicate")

def similarityWarnings : SimilarityAction → List Str
  | .publicationBlock => ["Similarity >= 0.95 blocks publication pending originality review"]
  | .normalProcessing => []
  | action => [("Similarity action required: " : Str) ++ action.value]

def duplicateStatus : SimilarityAction → StageStatus
  | .publicationBlock => .failed
  | .normalProcessing => .passed
  | _ => .warning

/-! ## A record -/

/-- The library between two records, with the sets of the identifiers and
slugs seen in the upload. -/
structure Batch (C : Type) where
  library : Library C
  ids : List Str
  slugs : List Str

/-- The findings and stages of a question up to its draft. -/
structure Checked where
  errors : List Str
  warnings : List Str
  stages : List StageResult

def checkQuestion (p : Pipeline P C) (q : UniversalQuestion C) (batch : Batch C) : Checked :=
  let rights := provenanceFindings q ++ licenseFindings p q
  let identified := rights ++ identityFindings batch.ids batch.slugs q
  let references := referenceFindings (q.id :: batch.ids) q
  let action := p.similarity q batch.library.catalogue
  let executable := p.execute q
  let difficulty := difficultyFindings q
  let security := securityFindings p q
  { errors := identified ++ references ++ executable ++ security
    warnings := similarityWarnings action ++ difficulty
    stages := [⟨"file_safety", .passed, []⟩, ⟨"schema_parsing", .passed, []⟩,
      ⟨"normalization", .passed, []⟩, checkedStage "provenance_validation" (provenanceFindings q),
      checkedStage "license_validation" (licenseFindings p q),
      checkedStage "identity_validation" (identityErrors identified),
      checkedStage "reference_validation" references,
      ⟨"duplicate_detection", duplicateStatus action, [action.value]⟩,
      ⟨"semantic_similarity", duplicateStatus action, [action.value]⟩,
      checkedStage "executable_solution_validation" executable,
      ⟨"rubric_validation", .passed, []⟩,
      ⟨"difficulty_check", if difficulty = [] then .passed else .warning, difficulty⟩,
      checkedStage "security_check" security] }

/-- The question that `_create_draft` inserts. -/
def UniversalQuestion.questionRow (u : Upload) (q : UniversalQuestion C) (trackId newId : Uuid) :
    QuestionRow where
  id := newId
  externalId := q.id
  slug := q.slug
  primaryTrackId := trackId
  visibility := u.visibility
  organizationId := u.organizationId
  currentPublishedVersionId := none
  archivedAt := none
  competencies := []

def importedState (sourceMethod : Str) : ContentState :=
  if sourceMethod ∈ (["generation", "json", "jsonl", "zip"] : List Str) then .generated else .draft

def UniversalQuestion.versionRow (u : Upload) (q : UniversalQuestion C) (questionId newId : Uuid) :
    VersionRow C where
  id := newId
  questionId := questionId
  version := q.version
  state := importedState u.sourceMethod
  contentHash := q.normalizedHash
  sourceRevision := importRevision u.importId
  body := q.body
  author := some u.actor
  validation := some ("passed" : Str)
  assignment := fun _ => none

/-- The columns that `ON CONFLICT (external_id) DO UPDATE` sets. -/
def UniversalQuestion.overwrite (u : Upload) (q : UniversalQuestion C) (trackId : Uuid)
    (row : QuestionRow) : QuestionRow :=
  { row with
    slug := q.slug
    primaryTrackId := trackId
    visibility := u.visibility
    organizationId := u.organizationId }

def Catalogue.questionBySlug (slug : Str) (db : Catalogue C) : Option QuestionRow :=
  Tables.find QuestionRow.slug slug db.questions

/-- `_create_draft`. -/
def createDraft (p : Pipeline P C) (u : Upload) (q : UniversalQuestion C) (ids : CatalogueIds)
    (db : Catalogue C) : Except ImportFailure (Catalogue C × Uuid) :=
  match db.tracks.lookup q.primaryTrack with
  | none => .error (.ingestion ⟨422, ("Unknown primary track: " : Str) ++ q.primaryTrack⟩)
  | some trackId =>
      if (db.questionBySlug q.slug).any fun owner => owner.externalId ≠ q.id then
        .error (.ingestion ⟨409, "Question slug already belongs to another ID"⟩)
      else do
        let (upserted, questionId) ← (upsertQuestion (q.questionRow u trackId ids.questionId)
          (q.overwrite u trackId) db).mapError .database
        match upserted.versionOf questionId q.version with
        | some existing =>
            if existing.contentHash = q.normalizedHash then .ok (upserted, existing.id)
            else .error (.ingestion ⟨409, "Changed content must use a new semantic version"⟩)
        | none =>
            if p.acceptsDraft q = false then .error (.database (.value "StringDataRightTruncation"))
            else if (upserted.version ids.versionId).isSome then
              .error (.database (.integrity "question_versions_pkey"))
            else
              .ok ({ upserted with versions := upserted.versions
                ++ [q.versionRow u questionId ids.versionId] }, ids.versionId)

/-- `_persist_item`. -/
def persistItem (p : Pipeline P C) (record : SourceRecord P) (item : ImportItem) (lib : Library C) :
    Except ImportFailure (Library C) :=
  if p.acceptsItem record.payload = false then
    .error (.database (.value "StringDataRightTruncation"))
  else .ok { lib with items := lib.items ++ [item] }

def skippedStages (finding : Str) : List StageResult :=
  (pipelineStages.drop 2).map fun stage => ⟨stage, .skipped, [finding]⟩

def Batch.persist (p : Pipeline P C) (record : SourceRecord P) (item : ImportItem)
    (batch : Batch C) : Batch C × Except ImportFailure ImportItem :=
  match persistItem p record item batch.library with
  | .error e => (batch, .error e)
  | .ok lib => ({ batch with library := lib }, .ok item)

/-- The item of a record that is stored without having been parsed. -/
def unparsedItem (p : Pipeline P C) (u : Upload) (ordinal : Nat) (record : SourceRecord P)
    (status : ItemStatus) (errors warnings : List Str) (stages : List StageResult) : ImportItem where
  importId := u.importId
  ordinal := ordinal
  externalId := p.externalId record.payload
  slug := p.slug record.payload
  status := status
  errors := errors
  warnings := warnings
  questionVersionId := none
  stages := ⟨"file_safety", .passed, []⟩ :: stages

/-- The item of a question, behind its last stage. -/
def questionItem (u : Upload) (ordinal : Nat) (q : UniversalQuestion C) (checked : Checked)
    (status : ItemStatus) (versionId : Option Uuid) (creation : StageResult) : ImportItem where
  importId := u.importId
  ordinal := ordinal
  externalId := some q.id
  slug := some q.slug
  status := status
  errors := checked.errors
  warnings := checked.warnings
  questionVersionId := versionId
  stages := checked.stages ++ [creation]

def Checked.status (checked : Checked) : ItemStatus :=
  if checked.warnings = [] then .accepted else .warning

def Batch.see (q : UniversalQuestion C) (batch : Batch C) : Batch C :=
  { batch with ids := q.id :: batch.ids, slugs := q.slug :: batch.slugs }

/-- `_process_record`: the batch behind it, and the item or what was raised.
The draft and the item are two transactions. -/
def processRecord (p : Pipeline P C) (u : Upload) (ids : CatalogueIds) (batch : Batch C)
    (ordinal : Nat) (record : SourceRecord P) : Batch C × Except ImportFailure ImportItem :=
  match record.kind with
  | .metadataDraft =>
      batch.persist p record (unparsedItem p u ordinal record .draft []
        ["CSV metadata was stored as an incomplete draft and cannot be published"]
        (⟨"schema_parsing", .warning, ["CSV metadata creates a draft only"]⟩
          :: skippedStages "Awaiting complete package"))
  | .complete =>
      match p.validate record.payload with
      | .error e =>
          batch.persist p record (unparsedItem p u ordinal record .rejected e.messages []
            (⟨"schema_parsing", .failed, e.messages⟩ :: skippedStages "Schema parsing failed"))
      | .ok q =>
          let checked := checkQuestion p q batch
          if checked.errors ≠ [] then
            (batch.see q).persist p record (questionItem u ordinal q checked .rejected none
              ⟨"draft_creation", .skipped, ["Validation failed"]⟩)
          else if u.dryRun = true then
            (batch.see q).persist p record (questionItem u ordinal q checked checked.status none
              ⟨"draft_creation", .skipped, ["Dry run"]⟩)
          else
            match createDraft p u q ids batch.library.catalogue with
            | .error e => (batch.see q, .error e)
            | .ok (db, versionId) =>
                { batch.see q with library := { batch.library with catalogue := db } }.persist p record
                  (questionItem u ordinal q checked checked.status (some versionId)
                    ⟨"draft_creation", .passed, []⟩)

/-! ## An upload -/

/-- The loop of `import_upload`: what is raised leaves the records before it
where they are. -/
def processRecords (p : Pipeline P C) (u : Upload) (ids : Nat → CatalogueIds) :
    Batch C → Nat → List (SourceRecord P) → Batch C × Except ImportFailure (List ImportItem)
  | batch, _, [] => (batch, .ok [])
  | batch, ordinal, record :: rest =>
      match processRecord p u (ids ordinal) batch ordinal record with
      | (batch, .error e) => (batch, .error e)
      | (batch, .ok item) =>
          match processRecords p u ids batch (ordinal + 1) rest with
          | (batch, .error e) => (batch, .error e)
          | (batch, .ok items) => (batch, .ok (item :: items))

/-- The arguments of `import_upload` besides the records. -/
structure UploadRequest where
  actor : Subject
  organization : Option Str
  sourceMethod : Str
  dryRun : Bool
  visibility : Str

/-- `_organization_id`. -/
def UploadRequest.organizationId (p : Pipeline P C) (r : UploadRequest) :
    Except IngestionError (Option Uuid) :=
  if r.visibility = "public" then .ok none
  else
    match r.organization.filter fun organization => organization ≠ [] with
    | none => .error ⟨403, "Private-library imports require an organization identity"⟩
    | some organization =>
        match p.parseUuid organization with
        | none => .error ⟨422, "Organization ID must be a UUID"⟩
        | some id => .ok (some id)

def UploadRequest.upload (r : UploadRequest) (importId : Uuid) (organizationId : Option Uuid) :
    Upload :=
  ⟨importId, r.actor, r.sourceMethod, r.dryRun, r.visibility, organizationId⟩

structure ImportResult where
  importId : Uuid
  status : ImportStatus
  questionCount : Nat
  acceptedCount : Nat
  rejectedCount : Nat
  warningCount : Nat
  items : List ImportItem

/-- The counts of an upload, and its last status. -/
def importResult (importId : Uuid) (questionCount : Nat) (items : List ImportItem) : ImportResult :=
  let accepted : Nat := items.countP fun i =>
    decide (i.status = .accepted ∨ i.status = .draft ∨ i.status = .warning)
  let rejected : Nat := items.countP fun i => decide (i.status = .rejected)
  let warnings : Nat := (items.map fun i => i.warnings.length).sum
  let status : ImportStatus := if accepted = 0 then .failed
    else if warnings ≠ 0 ∨ rejected ≠ 0 then .completedWithWarnings
    else .completed
  ⟨importId, status, questionCount, accepted, rejected, warnings, items⟩

/-- `SELECT EXISTS (… WHERE source_revision=:source_revision)`. -/
def hasImported (importId : Uuid) (db : Catalogue C) : Bool :=
  db.versions.any fun v => decide (v.sourceRevision = importRevision importId)

def ContentImport.finish (result : ImportResult) (rollbackAvailable : Bool) (row : ContentImport) :
    ContentImport :=
  { row with
    status := result.status
    acceptedCount := result.acceptedCount
    rejectedCount := result.rejectedCount
    warningCount := result.warningCount
    rollbackAvailable := rollbackAvailable }

/-- The row that `import_upload` inserts first. -/
def openedImport (u : Upload) (questionCount : Nat) : ContentImport where
  id := u.importId
  status := .processing
  dryRun := u.dryRun
  questionCount := questionCount
  acceptedCount := 0
  rejectedCount := 0
  warningCount := 0
  rollbackAvailable := false

/-- `import_upload`, behind the parser. -/
def importUpload (p : Pipeline P C) (r : UploadRequest) (importId : Uuid) (ids : Nat → CatalogueIds)
    (records : List (SourceRecord P)) (lib : Library C) :
    Library C × Except ImportFailure ImportResult :=
  if records = [] then (lib, .error (.ingestion ⟨422, "Import contains no records"⟩))
  else if records.length > 1000 then
    (lib, .error (.ingestion ⟨413, "A single import may contain at most 1,000 records"⟩))
  else
    match r.organizationId p with
    | .error e => (lib, .error (.ingestion e))
    | .ok organizationId =>
        let u := r.upload importId organizationId
        let opened := { lib with imports := lib.imports ++ [openedImport u records.length] }
        match processRecords p u ids ⟨opened, [], []⟩ 1 records with
        | (batch, .error e) => (batch.library, .error e)
        | (batch, .ok items) =>
            let result := importResult importId records.length items
            (batch.library.updateImport importId
              (ContentImport.finish result (hasImported importId batch.library.catalogue)),
              .ok result)

end Rigor
