import Rigor.PracticeStore

/-!
# The question catalogue

Questions, their versions with everything that is deleted along with a
version, the reviews of a version and its publication events. Users are
named by their `identity_subject`, which is unique. What a version holds
besides the columns that the workflow reads (title, structured content,
solution, rubric, skills, tags, objectives) is its `body`.
-/

namespace Rigor

open Py

inductive ReviewKind where
  | technical | editorial
  deriving DecidableEq

def ReviewKind.value : ReviewKind → Str
  | .technical => "technical"
  | .editorial => "editorial"

/-- `kind.value.title()`. -/
def ReviewKind.title : ReviewKind → Str
  | .technical => "Technical"
  | .editorial => "Editorial"

def ReviewKind.other : ReviewKind → ReviewKind
  | .technical => .editorial
  | .editorial => .technical

inductive ReviewOutcome where
  | approved | changesRequested | rejected
  deriving DecidableEq

def ReviewOutcome.value : ReviewOutcome → Str
  | .approved => "approved"
  | .changesRequested => "changes_requested"
  | .rejected => "rejected"

/-- A user, by `identity_subject`. -/
abbrev Subject := Str

/-- A row of `review_decisions`. -/
structure ReviewDecision where
  reviewer : Subject
  outcome : ReviewOutcome
  reason : Str

/-- A row of `review_assignments` with its decisions, oldest first. -/
structure ReviewAssignment where
  reviewer : Subject
  completedAt : Option Time
  decisions : List ReviewDecision

/-- A row of `question_versions`, with the author of its provenance record,
the status of its latest validation run and its assignments of each kind. -/
structure VersionRow (C : Type) where
  id : Uuid
  questionId : Uuid
  version : Str
  state : ContentState
  contentHash : Str
  sourceRevision : Str
  body : C
  author : Option Subject
  validation : Option Str
  assignment : ReviewKind → Option ReviewAssignment

structure QuestionRow where
  id : Uuid
  externalId : Str
  slug : Str
  primaryTrackId : Uuid
  visibility : Str
  organizationId : Option Uuid
  currentPublishedVersionId : Option Uuid
  archivedAt : Option Time
  /-- `question_competencies`: the competency, and whether it is the primary one. -/
  competencies : List (Uuid × Bool)

def VersionRow.inState {C : Type} (state : ContentState) (v : VersionRow C) :
    VersionRow C :=
  { v with state := state }

def QuestionRow.pointTo (versionId : Uuid) (q : QuestionRow) : QuestionRow :=
  { q with currentPublishedVersionId := some versionId }

def QuestionRow.restoreTo (versionId : Uuid) (q : QuestionRow) : QuestionRow :=
  { q.pointTo versionId with archivedAt := none }

/-- `UPDATE questions SET current_published_version_id=NULL, archived_at=CASE …
WHERE … AND current_published_version_id=:version_id`. -/
def QuestionRow.unpoint (versionId : Uuid) (target : ContentState) (now : Time) (q : QuestionRow) :
    QuestionRow :=
  if q.currentPublishedVersionId = some versionId then
    { q with
      currentPublishedVersionId := none
      archivedAt := if target = .archived then some now else q.archivedAt }
  else q

structure PublicationEvent where
  questionVersionId : Uuid
  publishedBy : Subject
  idempotencyKey : Str
  sourceRevision : Str
  contentHash : Str

structure Catalogue (C : Type) where
  questions : List QuestionRow
  versions : List (VersionRow C)
  publications : List PublicationEvent
  /-- `user_roles`. -/
  roles : List (Subject × Str)
  /-- The identifiers of the seeded tracks and competencies, by slug. -/
  tracks : List (Str × Uuid)
  competencies : List (Str × Uuid)

namespace Catalogue

variable {C : Type}

def question (id : Uuid) (db : Catalogue C) : Option QuestionRow :=
  Tables.find QuestionRow.id id db.questions

def questionByExternalId (externalId : Str) (db : Catalogue C) : Option QuestionRow :=
  Tables.find QuestionRow.externalId externalId db.questions

def version (id : Uuid) (db : Catalogue C) : Option (VersionRow C) :=
  Tables.find VersionRow.id id db.versions

def versionOf (questionId : Uuid) (version : Str) (db : Catalogue C) : Option (VersionRow C) :=
  db.versions.find? fun v => v.questionId = questionId ∧ v.version = version

def publication (idempotencyKey : Str) (db : Catalogue C) : Option PublicationEvent :=
  Tables.find PublicationEvent.idempotencyKey idempotencyKey db.publications

/-- `EXISTS (SELECT 1 FROM publication_events …)`. -/
def WasPublished (versionId : Uuid) (db : Catalogue C) : Prop :=
  versionId ∈ db.publications.map PublicationEvent.questionVersionId

instance (versionId : Uuid) (db : Catalogue C) : Decidable (db.WasPublished versionId) :=
  inferInstanceAs (Decidable (_ ∈ _))

def updateVersion (id : Uuid) (f : VersionRow C → VersionRow C) (db : Catalogue C) :
    Catalogue C :=
  { db with versions := Tables.update VersionRow.id id f db.versions }

def updateQuestion (id : Uuid) (f : QuestionRow → QuestionRow) (db : Catalogue C) : Catalogue C :=
  { db with questions := Tables.update QuestionRow.id id f db.questions }

variable {db : Catalogue C} {id key : Uuid}

theorem version_update {f : VersionRow C → VersionRow C} (hf : ∀ v, (f v).id = v.id) :
    (db.updateVersion id f).version key
      = (db.version key).map fun v => if v.id = id then f v else v := Tables.find_update hf

theorem question_update {f : QuestionRow → QuestionRow} (hf : ∀ q, (f q).id = q.id) :
    (db.updateQuestion id f).question key
      = (db.question key).map fun q => if q.id = id then f q else q := Tables.find_update hf

theorem version_inState (state : ContentState) :
    (db.updateVersion id (VersionRow.inState state)).version key
      = (db.version key).map fun v => if v.id = id then v.inState state else v :=
  version_update fun _ => rfl

theorem question_pointTo (versionId : Uuid) :
    (db.updateQuestion id (QuestionRow.pointTo versionId)).question key
      = (db.question key).map fun q => if q.id = id then q.pointTo versionId else q :=
  question_update fun _ => rfl

theorem question_restoreTo (versionId : Uuid) :
    (db.updateQuestion id (QuestionRow.restoreTo versionId)).question key
      = (db.question key).map fun q => if q.id = id then q.restoreTo versionId else q :=
  question_update fun _ => rfl

theorem id_unpoint (versionId : Uuid) (target : ContentState) (now : Time) (q : QuestionRow) :
    (q.unpoint versionId target now).id = q.id := by
  unfold QuestionRow.unpoint
  split_ifs <;> rfl

theorem question_unpoint (versionId : Uuid) (target : ContentState) (now : Time) :
    (db.updateQuestion id (QuestionRow.unpoint versionId target now)).question key
      = (db.question key).map fun q => if q.id = id then q.unpoint versionId target now else q :=
  question_update (id_unpoint versionId target now)

@[simp] theorem version_updateQuestion (f : QuestionRow → QuestionRow) :
    (db.updateQuestion id f).version key = db.version key := rfl

@[simp] theorem question_updateVersion (f : VersionRow C → VersionRow C) :
    (db.updateVersion id f).question key = db.question key := rfl

theorem id_of_version {v : VersionRow C} (h : db.version id = some v) : v.id = id :=
  Tables.key_of_find h

theorem id_of_question {q : QuestionRow} (h : db.question id = some q) : q.id = id :=
  Tables.key_of_find h

end Catalogue

end Rigor
