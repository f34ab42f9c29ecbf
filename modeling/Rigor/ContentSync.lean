import Rigor.Reviews
import Rigor.Runs

/-!
# Content synchronization

`ContentSynchronizer` writes the packages of a content tree into the
catalogue, and takes a question back to a version that was published
before. With the transactions of the reviews these are the steps of the
publication workflow.
-/

namespace Rigor

open Py Runs

variable {C : Type}

/-! ## Packages -/

/-- What `load_package` hands over: the question's columns, the author of
its provenance, and everything else that is stored with the version. -/
structure LoadedContentPackage (C : Type) where
  id : Str
  slug : Str
  version : Str
  primaryTrack : Str
  secondarySkills : List Str
  contentHash : Str
  authorId : Str
  body : C

inductive SyncStatus where
  | valid | invalid | inserted | updated | unchanged | rolledBack
  deriving DecidableEq

structure PackageSyncResult where
  questionId : Str
  version : Str
  status : SyncStatus
  contentHash : Option Str
  findings : List Str
  deriving DecidableEq

/-- The identifiers that `gen_random_uuid` would give. -/
structure CatalogueIds where
  questionId : Uuid
  versionId : Uuid

/-! ## The synchronizer -/

/-- `INSERT INTO questions … ON CONFLICT (external_id) DO UPDATE`: a question
that is found takes the changes of `f`, else `row` is inserted. -/
def upsertQuestion (row : QuestionRow) (f : QuestionRow → QuestionRow) (db : Catalogue C) :
    Except Failure (Catalogue C × Uuid) :=
  match db.questionByExternalId row.externalId with
  | some q =>
      if ∃ other ∈ db.questions, other.id ≠ q.id ∧ other.slug = row.slug then
        .error (.integrity "questions_slug_key")
      else .ok (db.updateQuestion q.id f, q.id)
  | none =>
      if row.slug ∈ db.questions.map QuestionRow.slug then .error (.integrity "questions_slug_key")
      else if (db.question row.id).isSome then .error (.integrity "questions_pkey")
      else .ok ({ db with questions := db.questions ++ [row] }, row.id)

/-- `dict.fromkeys([primary_track, *secondary_skills])`, as a set. -/
def LoadedContentPackage.competencySlugs (p : LoadedContentPackage C) : List Str :=
  p.primaryTrack :: p.secondarySkills

/-- `_replace_question_competencies`. -/
def LoadedContentPackage.questionCompetencies (p : LoadedContentPackage C) (db : Catalogue C) :
    List (Uuid × Bool) :=
  (db.competencies.filter fun c => c.1 ∈ p.competencySlugs).map fun c =>
    (c.2, decide (c.1 = p.primaryTrack))

def LoadedContentPackage.author (p : LoadedContentPackage C) : Subject :=
  "content-author:" ++ p.authorId

/-- The question that a package inserts. -/
def LoadedContentPackage.questionRow (p : LoadedContentPackage C) (trackId newId : Uuid) :
    QuestionRow where
  id := newId
  externalId := p.id
  slug := p.slug
  primaryTrackId := trackId
  visibility := "public"
  organizationId := none
  currentPublishedVersionId := none
  archivedAt := none
  competencies := []

/-- `_upsert_version` and `_replace_sidecars` on a version that exists. -/
def LoadedContentPackage.overwrite (p : LoadedContentPackage C) (sourceRevision : Str)
    (v : VersionRow C) : VersionRow C :=
  { v with
    state := .awaitingTechnicalReview
    contentHash := p.contentHash
    sourceRevision := sourceRevision
    body := p.body
    author := some p.author
    validation := some ("passed" : Str) }

def LoadedContentPackage.versionRow (p : LoadedContentPackage C) (sourceRevision : Str)
    (questionId newId : Uuid) : VersionRow C where
  id := newId
  questionId := questionId
  version := p.version
  state := .awaitingTechnicalReview
  contentHash := p.contentHash
  sourceRevision := sourceRevision
  body := p.body
  author := some p.author
  validation := some ("passed" : Str)
  assignment := fun _ => none

/-- The states whose versions `_synchronize_package` leaves alone. -/
def immutableStates : List ContentState := [.approved, .published]

def LoadedContentPackage.result (p : LoadedContentPackage C) (status : SyncStatus)
    (findings : List Str) : PackageSyncResult :=
  ⟨p.id, p.version, status, some p.contentHash, findings⟩

/-- The statements of `_synchronize_package` on the question: the version it
finds is read behind them. -/
def synchronizeQuestion (p : LoadedContentPackage C) (trackId newId : Uuid) (db : Catalogue C) :
    Except Failure (Catalogue C × Uuid) := do
  let (upserted, questionId) ← upsertQuestion (p.questionRow trackId newId)
    (fun q => { q with slug := p.slug, primaryTrackId := trackId }) db
  .ok (upserted.updateQuestion questionId fun q =>
    { q with competencies := p.questionCompetencies db }, questionId)

def synchronizePackage (sourceRevision : Str) (p : LoadedContentPackage C) (ids : CatalogueIds)
    (db : Catalogue C) : Except Failure (Catalogue C × PackageSyncResult) :=
  match db.tracks.lookup p.primaryTrack with
  | none => .ok (db, p.result .invalid ["primary track is not seeded"])
  | some trackId => do
      let (synced, questionId) ← synchronizeQuestion p trackId ids.questionId db
      match synced.versionOf questionId p.version with
      | some existing =>
          if existing.contentHash = p.contentHash then .ok (synced, p.result .unchanged [])
          else if existing.state ∈ immutableStates then
            .ok (synced, p.result .invalid
              ["approved or published versions are immutable; create a new version"])
          else
            .ok (synced.updateVersion existing.id (p.overwrite sourceRevision),
              p.result .updated [])
      | none =>
          if (synced.version ids.versionId).isSome then .error (.integrity "question_versions_pkey")
          else
            .ok ({ synced with versions := synced.versions
                ++ [p.versionRow sourceRevision questionId ids.versionId] },
              p.result .inserted [])

/-- The version that is current gives way to one that was published before. -/
def rolledBack (db : Catalogue C) (q : QuestionRow) (v : VersionRow C) : Catalogue C :=
  let replaced := match q.currentPublishedVersionId with
    | none => db
    | some current => db.updateVersion current (VersionRow.inState .deprecated)
  (replaced.updateVersion v.id (VersionRow.inState .published)).updateQuestion q.id
    (QuestionRow.restoreTo v.id)

/-- `ContentSynchronizer.rollback`. -/
def rollbackPublication (externalId version : Str) (db : Catalogue C) :
    Catalogue C × PackageSyncResult :=
  let invalid := (db, ⟨externalId, version, .invalid, none,
    ["rollback target is not a previously published version"]⟩)
  match db.questionByExternalId externalId with
  | none => invalid
  | some q =>
      match db.versionOf q.id version with
      | none => invalid
      | some v =>
          if ¬db.WasPublished v.id then invalid
          else if q.currentPublishedVersionId = some v.id then
            (db, ⟨externalId, version, .unchanged, some v.contentHash, []⟩)
          else
            (rolledBack db q v,
              ⟨externalId, version, .rolledBack, some v.contentHash, []⟩)

/-! ## What they do -/

/-- The question of a package has been written: no pointer has changed, and
a question that is new has none. -/
structure QuestionSynced (db synced : Catalogue C) (questionId : Uuid) : Prop where
  versions : synced.versions = db.versions
  publications : synced.publications = db.publications
  kept : ∀ key q, db.question key = some q → ∃ q', synced.question key = some q'
    ∧ q'.currentPublishedVersionId = q.currentPublishedVersionId ∧ q'.archivedAt = q.archivedAt
  back : ∀ key q', synced.question key = some q' →
    (∃ q, db.question key = some q ∧ q'.currentPublishedVersionId = q.currentPublishedVersionId
      ∧ q'.archivedAt = q.archivedAt)
    ∨ db.question key = none ∧ q'.currentPublishedVersionId = none ∧ q'.archivedAt = none
  found : ∃ q, synced.question questionId = some q
  ids : (db.questions.map QuestionRow.id).Nodup → (synced.questions.map QuestionRow.id).Nodup

section

variable {db db' : Catalogue C} {p : LoadedContentPackage C}

theorem question_append (row : QuestionRow) (key : Uuid) :
    ({ db with questions := db.questions ++ [row] } : Catalogue C).question key
      = (db.question key).or (if row.id = key then some row else none) := by
  unfold Catalogue.question Tables.find
  rw [List.find?_append, List.find?_singleton]
  simp only [decide_eq_true_eq]

theorem version_append (row : VersionRow C) (key : Uuid) :
    ({ db with versions := db.versions ++ [row] } : Catalogue C).version key
      = (db.version key).or (if row.id = key then some row else none) := by
  unfold Catalogue.version Tables.find
  rw [List.find?_append, List.find?_singleton]
  simp only [decide_eq_true_eq]

theorem QuestionSynced.update (db : Catalogue C) {id : Uuid} {f : QuestionRow → QuestionRow}
    (hid : ∀ q, (f q).id = q.id)
    (hf : ∀ q, (f q).currentPublishedVersionId = q.currentPublishedVersionId
      ∧ (f q).archivedAt = q.archivedAt) {q : QuestionRow} (hq : db.question id = some q) :
    QuestionSynced db (db.updateQuestion id f) id where
  versions := rfl
  publications := rfl
  kept key q hq := by
    refine ⟨_, (Catalogue.question_update hid).trans (congrArg (Option.map _) hq), ?_⟩
    dsimp only
    split_ifs
    · exact hf q
    · exact ⟨rfl, rfl⟩
  back key q' hq' := by
    rw [Catalogue.question_update hid] at hq'
    obtain ⟨q, hq, rfl⟩ := Option.map_eq_some_iff.mp hq'
    refine .inl ⟨q, hq, ?_⟩
    split_ifs
    · exact hf q
    · exact ⟨rfl, rfl⟩
  found := ⟨_, (Catalogue.question_update hid).trans (congrArg (Option.map _) hq)⟩
  ids h := by
    unfold Catalogue.updateQuestion
    rw [Tables.map_update fun q _ _ => hid q]
    exact h

theorem QuestionSynced.trans {db₁ db₂ : Catalogue C} {id₁ id₂ : Uuid}
    (h : QuestionSynced db db₁ id₁) (h' : QuestionSynced db₁ db₂ id₂) :
    QuestionSynced db db₂ id₂ where
  versions := h'.versions.trans h.versions
  publications := h'.publications.trans h.publications
  kept key q hq := by
    obtain ⟨q₁, hq₁, hcurrent, harchived⟩ := h.kept key q hq
    obtain ⟨q₂, hq₂, hcurrent', harchived'⟩ := h'.kept key q₁ hq₁
    exact ⟨q₂, hq₂, hcurrent'.trans hcurrent, harchived'.trans harchived⟩
  back key q₂ hq₂ := by
    rcases h'.back key q₂ hq₂ with ⟨q₁, hq₁, hcurrent, harchived⟩ | ⟨hnone, hcurrent, harchived⟩
    · rcases h.back key q₁ hq₁ with ⟨q, hq, hcurrent', harchived'⟩ | ⟨hnone, hcurrent', harchived'⟩
      · exact .inl ⟨q, hq, hcurrent.trans hcurrent', harchived.trans harchived'⟩
      · exact .inr ⟨hnone, hcurrent.trans hcurrent', harchived.trans harchived'⟩
    · refine .inr ⟨?_, hcurrent, harchived⟩
      cases hq : db.question key with
      | none => rfl
      | some q =>
          obtain ⟨q', hq', -⟩ := h.kept key q hq
          exact nomatch hnone.symm.trans hq'
  found := h'.found
  ids hids := h'.ids (h.ids hids)

theorem question_of_externalId {externalId : Str} {q : QuestionRow}
    (h : db.questionByExternalId externalId = some q) : ∃ q', db.question q.id = some q' :=
  Tables.find_isSome_of_mem QuestionRow.id (Tables.mem_of_find h)

theorem upsertQuestion_ok {row : QuestionRow} {f : QuestionRow → QuestionRow} {questionId : Uuid}
    (hrow : row.currentPublishedVersionId = none ∧ row.archivedAt = none)
    (hid : ∀ q, (f q).id = q.id)
    (hf : ∀ q, (f q).currentPublishedVersionId = q.currentPublishedVersionId
      ∧ (f q).archivedAt = q.archivedAt)
    (h : upsertQuestion row f db = .ok (db', questionId)) : QuestionSynced db db' questionId := by
  unfold upsertQuestion at h
  split at h
  · rename_i q hq
    split_ifs at h
    cases h
    obtain ⟨q', hq'⟩ := question_of_externalId hq
    exact .update db hid hf hq'
  · split_ifs at h with _ hfresh
    cases h
    have hnone : db.question row.id = none := by simpa using hfresh
    constructor
    · rfl
    · rfl
    · intro key q hq
      rw [question_append, hq]
      exact ⟨q, rfl, rfl, rfl⟩
    · intro key q' hq'
      rw [question_append] at hq'
      cases hq : db.question key with
      | some q =>
          rw [hq] at hq'
          cases hq'
          exact .inl ⟨_, rfl, rfl, rfl⟩
      | none =>
          rw [hq, Option.none_or] at hq'
          split_ifs at hq'
          cases hq'
          exact .inr ⟨rfl, hrow⟩
    · rw [question_append, hnone, if_pos rfl]
      exact ⟨row, rfl⟩
    · intro hids
      rw [List.map_append]
      refine List.Nodup.append hids (List.nodup_singleton _) fun key hkey hnew => ?_
      obtain ⟨q, hq, rfl⟩ := List.mem_map.mp hkey
      obtain ⟨q', hq'⟩ := Tables.find_isSome_of_mem QuestionRow.id hq
      rw [List.mem_singleton.mp hnew] at hq'
      exact nomatch hnone.symm.trans hq'

theorem synchronizeQuestion_ok {trackId newId questionId : Uuid}
    (h : synchronizeQuestion p trackId newId db = .ok (db', questionId)) :
    QuestionSynced db db' questionId := by
  unfold synchronizeQuestion at h
  obtain ⟨⟨upserted, qid⟩, hupsert, h⟩ := bind_eq_ok h
  cases h
  have hsynced : QuestionSynced db upserted questionId := by
    refine upsertQuestion_ok ⟨rfl, rfl⟩ ?_ ?_ hupsert
    · exact fun _ => rfl
    · exact fun _ => ⟨rfl, rfl⟩
  obtain ⟨q, hq⟩ := hsynced.found
  exact hsynced.trans (.update upserted (fun _ => rfl) (fun _ => ⟨rfl, rfl⟩) hq)

/-- What `_synchronize_package` has written. -/
inductive Synced (db : Catalogue C) (sourceRevision : Str) (p : LoadedContentPackage C)
    (ids : CatalogueIds) : Catalogue C → PackageSyncResult → Prop where
  | untracked (h : db.tracks.lookup p.primaryTrack = none) :
      Synced db sourceRevision p ids db (p.result .invalid ["primary track is not seeded"])
  | unchanged {synced : Catalogue C} {questionId : Uuid} {v : VersionRow C}
      (hq : QuestionSynced db synced questionId) (hv : db.versionOf questionId p.version = some v)
      (hhash : v.contentHash = p.contentHash) :
      Synced db sourceRevision p ids synced (p.result .unchanged [])
  | immutable {synced : Catalogue C} {questionId : Uuid} {v : VersionRow C}
      (hq : QuestionSynced db synced questionId) (hv : db.versionOf questionId p.version = some v)
      (hhash : v.contentHash ≠ p.contentHash) (hstate : v.state ∈ immutableStates) :
      Synced db sourceRevision p ids synced (p.result .invalid
        ["approved or published versions are immutable; create a new version"])
  | updated {synced : Catalogue C} {questionId : Uuid} {v : VersionRow C}
      (hq : QuestionSynced db synced questionId) (hv : db.versionOf questionId p.version = some v)
      (hhash : v.contentHash ≠ p.contentHash) (hstate : v.state ∉ immutableStates) :
      Synced db sourceRevision p ids (synced.updateVersion v.id (p.overwrite sourceRevision))
        (p.result .updated [])
  | inserted {synced : Catalogue C} {questionId : Uuid} (hq : QuestionSynced db synced questionId)
      (hv : db.versionOf questionId p.version = none) (hid : db.version ids.versionId = none) :
      Synced db sourceRevision p ids
        { synced with versions := synced.versions
            ++ [p.versionRow sourceRevision questionId ids.versionId] } (p.result .inserted [])

theorem synchronizePackage_ok {sourceRevision : Str} {ids : CatalogueIds} {result : PackageSyncResult}
    (h : synchronizePackage sourceRevision p ids db = .ok (db', result)) :
    Synced db sourceRevision p ids db' result := by
  unfold synchronizePackage at h
  split at h
  · rename_i hnone
    cases h
    exact .untracked hnone
  · obtain ⟨⟨synced, questionId⟩, hquestion, h⟩ := bind_eq_ok h
    have hq := synchronizeQuestion_ok hquestion
    have hversions : synced.versionOf questionId p.version = db.versionOf questionId p.version := by
      unfold Catalogue.versionOf
      rw [hq.versions]
    dsimp only at h
    split at h
    · rename_i v hv
      rw [hversions] at hv
      split_ifs at h with hhash hstate
      · cases h
        exact .unchanged hq hv hhash
      · cases h
        exact .immutable hq hv hhash hstate
      · cases h
        exact .updated hq hv hhash hstate
    · rename_i hv
      rw [hversions] at hv
      split_ifs at h with hid
      cases h
      refine .inserted hq hv ?_
      unfold Catalogue.version at hid ⊢
      rw [← hq.versions]
      simpa using hid

/-- The version that `ContentSynchronizer.rollback` makes the current one. -/
structure RollsBack (db : Catalogue C) (externalId version : Str) (q : QuestionRow)
    (v : VersionRow C) : Prop where
  question : db.questionByExternalId externalId = some q
  version : db.versionOf q.id version = some v
  published : db.WasPublished v.id
  other : q.currentPublishedVersionId ≠ some v.id

theorem rollbackPublication_cases (db : Catalogue C) (externalId version : Str) :
    (rollbackPublication externalId version db).1 = db
      ∨ ∃ q v, RollsBack db externalId version q v
        ∧ (rollbackPublication externalId version db).1 = rolledBack db q v := by
  unfold rollbackPublication
  dsimp only
  split
  · exact .inl rfl
  · rename_i q hq
    split
    · exact .inl rfl
    · rename_i v hv
      split_ifs with hpublished hcurrent
      · exact .inl rfl
      · exact .inr ⟨q, v, ⟨hq, hv, hpublished, hcurrent⟩, rfl⟩
      · exact .inl rfl

end

/-! ## The workflow -/

inductive WorkflowAction (C : Type) where
  | sync (sourceRevision : Str) (p : LoadedContentPackage C) (ids : CatalogueIds)
  | assign (versionId : Uuid) (kind : ReviewKind) (reviewer : Subject)
  | decide (reviewer : Subject) (versionId : Uuid) (kind : ReviewKind) (outcome : ReviewOutcome)
      (reason : Str) (now : Time)
  | publish (publisher : Subject) (versionId : Uuid) (idempotencyKey : Str)
  | transition (versionId : Uuid) (target : ContentState) (now : Time)
  | rollback (externalId version : Str)

/-- One transaction of the workflow that commits. -/
inductive WorkflowStep : Catalogue C → WorkflowAction C → Catalogue C → Prop where
  | sync {db db' : Catalogue C} {sourceRevision : Str} {p : LoadedContentPackage C}
      {ids : CatalogueIds} {result : PackageSyncResult}
      (h : synchronizePackage sourceRevision p ids db = .ok (db', result)) :
      WorkflowStep db (.sync sourceRevision p ids) db'
  | assign {db db' : Catalogue C} {versionId : Uuid} {kind : ReviewKind} {reviewer : Subject}
      {result : ReviewActionResult} (h : assign versionId kind reviewer db = .ok (db', result)) :
      WorkflowStep db (.assign versionId kind reviewer) db'
  | decide {db db' : Catalogue C} {reviewer : Subject} {versionId : Uuid} {kind : ReviewKind}
      {outcome : ReviewOutcome} {reason : Str} {now : Time} {result : ReviewActionResult}
      (h : decideReview reviewer versionId kind outcome reason now db = .ok (db', result)) :
      WorkflowStep db (.decide reviewer versionId kind outcome reason now) db'
  | publish {db db' : Catalogue C} {publisher : Subject} {versionId : Uuid} {key : Str}
      {result : ReviewActionResult}
      (h : publishVersion publisher versionId key db = .ok (db', result)) :
      WorkflowStep db (.publish publisher versionId key) db'
  | transition {db db' : Catalogue C} {versionId : Uuid} {target : ContentState} {now : Time}
      {result : ReviewActionResult}
      (h : transitionVersion versionId target now db = .ok (db', result)) :
      WorkflowStep db (.transition versionId target now) db'
  | rollback {db : Catalogue C} {externalId version : Str} :
      WorkflowStep db (.rollback externalId version) (rollbackPublication externalId version db).1

/-- No question has been written yet. -/
structure Catalogue.Empty (db : Catalogue C) : Prop where
  questions : db.questions = []
  versions : db.versions = []
  publications : db.publications = []

end Rigor
