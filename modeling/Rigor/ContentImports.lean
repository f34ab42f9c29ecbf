import Rigor.ContentSync

/-!
# Content imports

The tables of an upload, and its rollback: what an import has added is
deleted, unless it was reviewed since.
-/

namespace Rigor

open Py

variable {C : Type}

/-! ## Tables -/

inductive ImportStatus where
  | processing | completed | completedWithWarnings | failed | rolledBack
  deriving DecidableEq

inductive StageStatus where
  | passed | warning | failed | skipped
  deriving DecidableEq

structure StageResult where
  stage : Str
  status : StageStatus
  findings : List Str
  deriving DecidableEq

inductive ItemStatus where
  | accepted | rejected | warning | draft | rolledBack
  deriving DecidableEq

/-- A row of `content_import_items` with its stage results. -/
structure ImportItem where
  importId : Uuid
  ordinal : Nat
  externalId : Option Str
  slug : Option Str
  status : ItemStatus
  errors : List Str
  warnings : List Str
  questionVersionId : Option Uuid
  stages : List StageResult
  deriving DecidableEq

structure ContentImport where
  id : Uuid
  status : ImportStatus
  dryRun : Bool
  questionCount : Nat
  acceptedCount : Nat
  rejectedCount : Nat
  warningCount : Nat
  rollbackAvailable : Bool
  deriving DecidableEq

/-- The catalogue with the imports that went into it. -/
structure Library (C : Type) where
  catalogue : Catalogue C
  imports : List ContentImport
  items : List ImportItem

structure IngestionError where
  statusCode : Nat
  message : Str
  deriving DecidableEq

inductive ImportFailure where
  | ingestion (e : IngestionError)
  | database (e : Failure)

namespace Library

def contentImport (importId : Uuid) (lib : Library C) : Option ContentImport :=
  Tables.find ContentImport.id importId lib.imports

def updateImport (importId : Uuid) (f : ContentImport → ContentImport) (lib : Library C) :
    Library C :=
  { lib with imports := Tables.update ContentImport.id importId f lib.imports }

end Library

/-! ## Rollback -/

/-- The `source_revision` of the versions that an import inserts. -/
def importRevision (importId : Uuid) : Str := "import:" ++ importId

/-- The states whose versions an import cannot take back. -/
def protectedStates : List ContentState := [.approved, .published, .deprecated]

/-- `SELECT … FROM content_import_items i JOIN question_versions v … FOR UPDATE OF v`. -/
def importedVersions (importId : Uuid) (lib : Library C) : List (VersionRow C) :=
  (lib.items.filter fun i => i.importId = importId).filterMap fun i =>
    i.questionVersionId.bind fun id => (lib.catalogue.version id).filter fun v =>
      v.sourceRevision = importRevision importId

/-- `DELETE FROM question_versions`, and from `questions` those that have no
version left. -/
def deleteVersions (ids questionIds : List Uuid) (db : Catalogue C) : Catalogue C :=
  let versions := db.versions.filter fun v => v.id ∉ ids
  { db with
    versions := versions
    questions := db.questions.filter fun q =>
      q.id ∉ questionIds ∨ q.id ∈ versions.map VersionRow.questionId }

def ImportItem.unlink (ids : List Uuid) (i : ImportItem) : ImportItem :=
  { i with questionVersionId := i.questionVersionId.filter fun id => id ∉ ids }

def ImportItem.rollBack (importId : Uuid) (i : ImportItem) : ImportItem :=
  if i.importId = importId then { i with status := .rolledBack } else i

def ContentImport.rollBack (i : ContentImport) : ContentImport :=
  { i with status := .rolledBack, rollbackAvailable := false }

/-- `ContentImportRepository.rollback`: the library behind it, and
`rolled_back_versions`. A publication event keeps its version from being
deleted. -/
def rollbackImport (importId : Uuid) (lib : Library C) : Except ImportFailure (Library C × Nat) :=
  match lib.contentImport importId with
  | none => .error (.ingestion ⟨404, "Content import not found"⟩)
  | some row =>
      if row.status = .rolledBack then .ok (lib, 0)
      else if row.rollbackAvailable = false then
        .error (.ingestion ⟨409, "This import has no rollback-eligible database changes"⟩)
      else
        let rows := importedVersions importId lib
        let reviewed := rows.filter fun v => v.state ∈ protectedStates
        let ids := rows.map VersionRow.id
        if reviewed ≠ [] then
          .error (.ingestion ⟨409,
            ("Import contains reviewed or published versions and cannot be rolled back: " : Str)
              ++ List.intercalate (", " : Str) (reviewed.map VersionRow.id)⟩)
        else if ids = [] then .ok (lib.updateImport importId ContentImport.rollBack, 0)
        else if ∃ id ∈ ids, lib.catalogue.WasPublished id then
          .error (.database (.integrity "publication_events_question_version_id_fkey"))
        else
          let deleted : Library C := { lib with
            catalogue := deleteVersions ids (rows.map VersionRow.questionId) lib.catalogue
            items := lib.items.map fun i => (i.unlink ids).rollBack importId }
          .ok (deleted.updateImport importId ContentImport.rollBack, ids.length)

/-! ## What it does -/

/-- The versions of an import are deleted: none was reviewed or published. -/
structure RollsBackImport (importId : Uuid) (lib : Library C) : Prop where
  unprotected : ∀ v ∈ importedVersions importId lib, v.state ∉ protectedStates
  unpublished : ∀ v ∈ importedVersions importId lib, ¬lib.catalogue.WasPublished v.id

theorem rollbackImport_ok {importId : Uuid} {lib lib' : Library C} {count : Nat}
    (h : rollbackImport importId lib = .ok (lib', count)) :
    (lib'.catalogue = lib.catalogue ∧ count = 0)
      ∨ RollsBackImport importId lib
        ∧ lib'.catalogue = deleteVersions ((importedVersions importId lib).map VersionRow.id)
          ((importedVersions importId lib).map VersionRow.questionId) lib.catalogue := by
  unfold rollbackImport at h
  split at h
  · cases h
  · split at h
    · cases h
      exact .inl ⟨rfl, rfl⟩
    · split at h
      · cases h
      · dsimp only at h
        split at h
        · cases h
        rename_i hreviewed
        split at h
        · cases h
          exact .inl ⟨rfl, rfl⟩
        · split at h
          · cases h
          · rename_i hpublished
            cases h
            refine .inr ⟨⟨fun v hv hstate => ?_, fun v hv hpub => ?_⟩, rfl⟩
            · exact hreviewed (List.ne_nil_of_mem (List.mem_filter.mpr ⟨hv, decide_eq_true hstate⟩))
            · exact hpublished ⟨v.id, List.mem_map_of_mem hv, hpub⟩

theorem version_deleteVersions (ids questionIds : List Uuid) (db : Catalogue C) (key : Uuid) :
    (deleteVersions ids questionIds db).version key = if key ∈ ids then none else db.version key := by
  unfold deleteVersions Catalogue.version Tables.find
  dsimp only
  rw [List.find?_filter]
  split_ifs with hkey
  · refine List.find?_eq_none.mpr fun v _ hv => ?_
    simp only [decide_eq_true_eq] at hv
    exact hv.1 (hv.2 ▸ hkey)
  · refine congrArg (fun f => List.find? f db.versions) (funext fun v => ?_)
    by_cases hv : v.id = key
    · simp only [hv, hkey, not_false_eq_true, decide_true, and_self]
    · simp only [hv, decide_false, Bool.false_eq_true, and_false]

end Rigor
