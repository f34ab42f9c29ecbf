import Rigor.ContentTree

/-!
# The report of a synchronization

What a package writes, told by the question that it names: the rows of every
other question stay. A run tells the truth when each package is looked up as
itself and finds its track, its slug, and a version that is either its own
or may still be changed (`sync_report`).
-/

namespace Rigor

open Py

variable {C : Type}

/-! ## The rows of a question -/

/-- The question of an identifier with its versions. -/
def Catalogue.rowsOf (externalId : Str) (db : Catalogue C) :
    Option (QuestionRow × List (VersionRow C)) :=
  (db.questionByExternalId externalId).map fun q =>
    (q, db.versions.filter fun v => v.questionId = q.id)

/-- The keys of the tables, with the unique slugs. -/
structure Catalogue.Consistent (db : Catalogue C) : Prop extends db.Keyed where
  slugs : (db.questions.map QuestionRow.slug).Nodup

/-- The question carries the columns of the package, and its version the
content. -/
structure InSync (p : LoadedContentPackage C) (db : Catalogue C) (q : QuestionRow)
    (v : VersionRow C) : Prop where
  question : db.questionByExternalId p.id = some q
  slug : q.slug = p.slug
  track : db.tracks.lookup p.primaryTrack = some q.primaryTrackId
  competencies : q.competencies = p.questionCompetencies db
  version : db.versionOf q.id p.version = some v
  contentHash : v.contentHash = p.contentHash
  body : v.body = p.body

def LoadedContentPackage.Stored (p : LoadedContentPackage C) (db : Catalogue C) : Prop :=
  ∃ q v, InSync p db q v

/-- The package is known to the track, its slug is its own, and its version is
the one that is stored or may be written. -/
structure PackageFits (p : LoadedContentPackage C) (ids : CatalogueIds) (db : Catalogue C) :
    Prop where
  track : ∃ trackId, db.tracks.lookup p.primaryTrack = some trackId
  slug : ∀ other ∈ db.questions, other.slug = p.slug → other.externalId = p.id
  newQuestion : db.questionByExternalId p.id = none → db.question ids.questionId = none
  newVersion : (∀ q, db.questionByExternalId p.id = some q → db.versionOf q.id p.version = none) →
    db.version ids.versionId = none
  same : ∀ q v, db.questionByExternalId p.id = some q → db.versionOf q.id p.version = some v →
    v.contentHash = p.contentHash → v.body = p.body
  mutable : ∀ q v, db.questionByExternalId p.id = some q → db.versionOf q.id p.version = some v →
    v.contentHash ≠ p.contentHash → v.state ∉ immutableStates

/-- The columns that a package writes over its question. -/
def LoadedContentPackage.writeQuestion (p : LoadedContentPackage C) (trackId : Uuid)
    (db : Catalogue C) (q : QuestionRow) : QuestionRow :=
  { q with slug := p.slug, primaryTrackId := trackId, competencies := p.questionCompetencies db }

section

variable {p : LoadedContentPackage C} {db db' : Catalogue C} {sourceRevision : Str}
  {ids : CatalogueIds} {r : PackageSyncResult}

theorem questionByExternalId_updateQuestion {f : QuestionRow → QuestionRow} (id : Uuid)
    (externalId : Str) (hf : ∀ q, (f q).externalId = q.externalId) :
    (db.updateQuestion id f).questionByExternalId externalId
      = (db.questionByExternalId externalId).map fun q => if q.id = id then f q else q := by
  unfold Catalogue.questionByExternalId Catalogue.updateQuestion Tables.find Tables.update
  dsimp only
  rw [List.find?_map]
  refine congrArg _ (congrArg (List.find? · db.questions) (funext fun q => ?_))
  show decide ((if q.id = id then f q else q).externalId = externalId) = _
  split_ifs
  · rw [hf]
  · rfl

theorem versionOf_updateVersion {f : VersionRow C → VersionRow C} (id questionId : Uuid)
    (version : Str) (hf : ∀ v, (f v).questionId = v.questionId ∧ (f v).version = v.version) :
    (db.updateVersion id f).versionOf questionId version
      = (db.versionOf questionId version).map fun v => if v.id = id then f v else v := by
  unfold Catalogue.versionOf Catalogue.updateVersion Tables.update
  dsimp only
  rw [List.find?_map]
  refine congrArg _ (congrArg (List.find? · db.versions) (funext fun v => ?_))
  show decide ((if v.id = id then f v else v).questionId = questionId
    ∧ (if v.id = id then f v else v).version = version) = _
  split_ifs
  · rw [(hf v).1, (hf v).2]
  · rfl

theorem mem_of_versionOf {questionId : Uuid} {version : Str} {v : VersionRow C}
    (h : db.versionOf questionId version = some v) :
    v ∈ db.versions ∧ v.questionId = questionId ∧ v.version = version := by
  have hkey := List.find?_some h
  simp only [decide_eq_true_eq] at hkey
  exact ⟨List.mem_of_find?_eq_some h, hkey⟩

/-- What `_synchronize_package` writes. -/
inductive PackageWrites (p : LoadedContentPackage C) (sourceRevision : Str) (ids : CatalogueIds)
    (db : Catalogue C) : Catalogue C → PackageSyncResult → Prop where
  | untracked (htrack : db.tracks.lookup p.primaryTrack = none) :
      PackageWrites p sourceRevision ids db db (p.result .invalid ["primary track is not seeded"])
  | unchanged {q : QuestionRow} {v : VersionRow C} {trackId : Uuid}
      (htrack : db.tracks.lookup p.primaryTrack = some trackId)
      (hq : db.questionByExternalId p.id = some q) (hv : db.versionOf q.id p.version = some v)
      (hhash : v.contentHash = p.contentHash) :
      PackageWrites p sourceRevision ids db (db.updateQuestion q.id (p.writeQuestion trackId db))
        (p.result .unchanged [])
  | immutable {q : QuestionRow} {v : VersionRow C} {trackId : Uuid}
      (htrack : db.tracks.lookup p.primaryTrack = some trackId)
      (hq : db.questionByExternalId p.id = some q) (hv : db.versionOf q.id p.version = some v)
      (hhash : v.contentHash ≠ p.contentHash) (hstate : v.state ∈ immutableStates) :
      PackageWrites p sourceRevision ids db (db.updateQuestion q.id (p.writeQuestion trackId db))
        (p.result .invalid ["approved or published versions are immutable; create a new version"])
  | updated {q : QuestionRow} {v : VersionRow C} {trackId : Uuid}
      (htrack : db.tracks.lookup p.primaryTrack = some trackId)
      (hq : db.questionByExternalId p.id = some q) (hv : db.versionOf q.id p.version = some v)
      (hhash : v.contentHash ≠ p.contentHash) (hstate : v.state ∉ immutableStates) :
      PackageWrites p sourceRevision ids db
        ((db.updateQuestion q.id (p.writeQuestion trackId db)).updateVersion v.id
          (p.overwrite sourceRevision))
        (p.result .updated [])
  | added {q : QuestionRow} {trackId : Uuid}
      (htrack : db.tracks.lookup p.primaryTrack = some trackId)
      (hq : db.questionByExternalId p.id = some q) (hv : db.versionOf q.id p.version = none)
      (hid : db.version ids.versionId = none) :
      PackageWrites p sourceRevision ids db
        { db.updateQuestion q.id (p.writeQuestion trackId db) with
          versions := db.versions ++ [p.versionRow sourceRevision q.id ids.versionId] }
        (p.result .inserted [])
  | created {trackId : Uuid} (htrack : db.tracks.lookup p.primaryTrack = some trackId)
      (hq : db.questionByExternalId p.id = none) (hquestion : db.question ids.questionId = none)
      (hid : db.version ids.versionId = none) :
      PackageWrites p sourceRevision ids db
        { db with
          questions := db.questions
            ++ [p.writeQuestion trackId db (p.questionRow trackId ids.questionId)]
          versions := db.versions ++ [p.versionRow sourceRevision ids.questionId ids.versionId] }
        (p.result .inserted [])

theorem synchronizeQuestion_cases {trackId newId questionId : Uuid} {synced : Catalogue C}
    (h : synchronizeQuestion p trackId newId db = .ok (synced, questionId)) :
    (∃ q, db.questionByExternalId p.id = some q ∧ questionId = q.id
        ∧ synced = db.updateQuestion q.id (p.writeQuestion trackId db))
      ∨ db.questionByExternalId p.id = none ∧ db.question newId = none ∧ questionId = newId
        ∧ synced = { db with questions := db.questions
            ++ [p.writeQuestion trackId db (p.questionRow trackId newId)] } := by
  unfold synchronizeQuestion at h
  obtain ⟨⟨upserted, id⟩, hupsert, h⟩ := bind_eq_ok h
  cases h
  unfold upsertQuestion at hupsert
  split at hupsert
  · rename_i q hq
    split_ifs at hupsert
    cases hupsert
    refine .inl ⟨q, hq, rfl, ?_⟩
    have hid (r : QuestionRow) :
        ({ r with slug := p.slug, primaryTrackId := trackId } : QuestionRow).id = r.id := rfl
    unfold Catalogue.updateQuestion
    dsimp only
    rw [Tables.update_update hid]
    rfl
  · rename_i hq
    split_ifs at hupsert with hslug hid
    cases hupsert
    have hnew : db.question newId = none := Option.not_isSome_iff_eq_none.mp hid
    refine .inr ⟨hq, hnew, rfl, ?_⟩
    unfold Catalogue.updateQuestion Tables.update
    dsimp only
    rw [List.map_append]
    have hold : (db.questions.map fun q => if q.id = newId then
        { q with competencies := p.questionCompetencies db } else q) = db.questions := by
      refine (List.map_congr_left fun q hq => ?_).trans (List.map_id _)
      have hne : q.id ≠ newId := fun heq =>
        not_mem_of_question_none hnew (heq ▸ List.mem_map_of_mem hq)
      rw [if_neg hne]
      rfl
    exact congrArg (fun questions => { db with questions := questions })
      (congrArg₂ (· ++ ·) hold (congrArg (fun q => [q]) (if_pos rfl)))

theorem synchronizePackage_writes (hkeyed : db.Keyed)
    (h : synchronizePackage sourceRevision p ids db = .ok (db', r)) :
    PackageWrites p sourceRevision ids db db' r := by
  unfold synchronizePackage at h
  split at h
  · rename_i hnone
    cases h
    exact .untracked hnone
  · rename_i trackId htrack
    obtain ⟨⟨synced, questionId⟩, hquestion, h⟩ := bind_eq_ok h
    dsimp only at h
    rcases synchronizeQuestion_cases hquestion with ⟨q, hq, rfl, rfl⟩ | ⟨hq, hnew, rfl, rfl⟩
    · have hversions : (db.updateQuestion q.id (p.writeQuestion trackId db)).versionOf q.id p.version
          = db.versionOf q.id p.version := rfl
      rw [hversions] at h
      split at h
      · rename_i v hv
        split_ifs at h with hhash hstate
        · cases h
          exact .unchanged htrack hq hv hhash
        · cases h
          exact .immutable htrack hq hv hhash hstate
        · cases h
          exact .updated htrack hq hv hhash hstate
      · rename_i hv
        split_ifs at h with hid
        cases h
        exact .added htrack hq hv (Option.not_isSome_iff_eq_none.mp hid)
    · split at h
      · rename_i v hv
        obtain ⟨hmem, hid, -⟩ := mem_of_versionOf hv
        have hmem : v.questionId ∈ db.questions.map QuestionRow.id := hkeyed.versionQuestion v hmem
        rw [hid] at hmem
        exact absurd hmem (not_mem_of_question_none hnew)
      · split_ifs at h with hid
        cases h
        exact .created htrack hq hnew (Option.not_isSome_iff_eq_none.mp hid)

theorem Catalogue.Keyed.update_version (h : db.Keyed) (id : Uuid) {f : VersionRow C → VersionRow C}
    (hf : ∀ v, (f v).id = v.id ∧ (f v).questionId = v.questionId) : (db.updateVersion id f).Keyed := by
  have hids : (db.updateVersion id f).versions.map VersionRow.id = db.versions.map VersionRow.id :=
    Tables.map_update fun v _ _ => (hf v).1
  refine ⟨h.questionIds, h.externalIds, hids ▸ h.versionIds, fun v hv => ?_,
    hids ▸ h.publicationVersion⟩
  rcases Tables.mem_update hv with ⟨hv, -⟩ | ⟨w, hw, -, rfl⟩
  · exact h.versionQuestion v hv
  · rw [(hf w).2]
    exact h.versionQuestion w hw

theorem PackageWrites.keyed (h : PackageWrites p sourceRevision ids db db' r) (hkeyed : db.Keyed) :
    db'.Keyed := by
  have hquestion (q : QuestionRow) (trackId : Uuid) :
      (db.updateQuestion q.id (p.writeQuestion trackId db)).Keyed :=
    hkeyed.update_question q.id (fun _ => rfl) fun _ => rfl
  cases h with
  | untracked htrack => exact hkeyed
  | unchanged htrack hq hv hhash => exact hquestion _ _
  | immutable htrack hq hv hhash hstate => exact hquestion _ _
  | updated htrack hq hv hhash hstate =>
      exact (hquestion _ _).update_version _ fun _ => ⟨rfl, rfl⟩
  | added htrack hq hv hid =>
      rename_i q trackId
      refine (hquestion q trackId).append_version
        (v := p.versionRow sourceRevision q.id ids.versionId) hid ?_
      have hids : (db.updateQuestion q.id (p.writeQuestion trackId db)).questions.map QuestionRow.id
          = db.questions.map QuestionRow.id := Tables.map_update fun _ _ _ => rfl
      exact hids ▸ List.mem_map_of_mem (mem_of_externalId hq).1
  | created htrack hq hnew hid =>
      rename_i trackId
      have happended := @Catalogue.Keyed.append_question C db hkeyed
        (p.writeQuestion trackId db (p.questionRow trackId ids.questionId)) hnew hq
      refine happended.append_version
        (v := p.versionRow sourceRevision ids.questionId ids.versionId) hid ?_
      exact List.mem_map_of_mem (f := QuestionRow.id)
        (List.mem_append_right _ (List.mem_singleton_self _))

theorem PackageWrites.tables (h : PackageWrites p sourceRevision ids db db' r) :
    db'.tracks = db.tracks ∧ db'.competencies = db.competencies := by
  cases h <;> exact ⟨rfl, rfl⟩

/-- The rows of a question, where the question and its versions stay. -/
theorem rowsOf_congr {externalId : Str}
    (hquestion : db'.questionByExternalId externalId = db.questionByExternalId externalId)
    (hversions : ∀ w, db.questionByExternalId externalId = some w →
      (db'.versions.filter fun v => v.questionId = w.id)
        = db.versions.filter fun v => v.questionId = w.id) :
    db'.rowsOf externalId = db.rowsOf externalId := by
  unfold Catalogue.rowsOf
  rw [hquestion]
  cases hw : db.questionByExternalId externalId with
  | none => rfl
  | some w => rw [Option.map_some, Option.map_some, hversions w hw]

/-- The rows of the other questions stay. -/
theorem PackageWrites.rowsOf (h : PackageWrites p sourceRevision ids db db' r) (hkeyed : db.Keyed)
    {externalId : Str} (hother : externalId ≠ p.id) : db'.rowsOf externalId = db.rowsOf externalId := by
  have hquestion {q : QuestionRow} (hq : db.questionByExternalId p.id = some q) (trackId : Uuid) :
      (db.updateQuestion q.id (p.writeQuestion trackId db)).questionByExternalId externalId
        = db.questionByExternalId externalId := by
    have hexternal (r : QuestionRow) : (p.writeQuestion trackId db r).externalId = r.externalId := rfl
    rw [questionByExternalId_updateQuestion q.id externalId hexternal]
    cases hfound : db.questionByExternalId externalId with
    | none => rfl
    | some w =>
        rw [Option.map_some, if_neg]
        intro hid
        obtain ⟨hmem, hexternal⟩ := mem_of_externalId hfound
        rw [hkeyed.row_eq hmem (mem_of_externalId hq).1 hid] at hexternal
        exact hother (hexternal.symm.trans (mem_of_externalId hq).2)
  -- a version of another question is not the one that is written
  have hversions {q w : QuestionRow} (hq : db.questionByExternalId p.id = some q)
      (hw : db.questionByExternalId externalId = some w) {v : VersionRow C}
      (hv : v.questionId = q.id) : v.questionId ≠ w.id := by
    intro heq
    have hsame := hkeyed.row_eq (mem_of_externalId hq).1 (mem_of_externalId hw).1 (hv.symm.trans heq)
    exact hother ((mem_of_externalId hw).2.symm.trans
      ((congrArg QuestionRow.externalId hsame).symm.trans (mem_of_externalId hq).2))
  cases h with
  | untracked htrack => rfl
  | unchanged htrack hq hv hhash => exact rowsOf_congr (hquestion hq _) fun _ _ => rfl
  | immutable htrack hq hv hhash hstate => exact rowsOf_congr (hquestion hq _) fun _ _ => rfl
  | updated htrack hq hv hhash hstate =>
      rename_i q v trackId
      have hsame : ((db.updateQuestion q.id (p.writeQuestion trackId db)).updateVersion v.id
          (p.overwrite sourceRevision)).questionByExternalId externalId
          = db.questionByExternalId externalId := hquestion hq trackId
      refine rowsOf_congr hsame fun w hw => ?_
      unfold Catalogue.updateVersion Tables.update
      dsimp only
      rw [List.filter_map]
      have hkeep : ∀ u ∈ db.versions.filter
          ((fun v => decide (v.questionId = w.id)) ∘ fun u =>
            if u.id = v.id then p.overwrite sourceRevision u else u),
          (if u.id = v.id then p.overwrite sourceRevision u else u) = u := by
        intro u hu
        obtain ⟨hmem, hquestionId⟩ := List.mem_filter.mp hu
        refine if_neg fun hid => ?_
        have hsame : u = v := List.inj_on_of_nodup_map hkeyed.versionIds hmem
          (mem_of_versionOf hv).1 hid
        rw [Function.comp, if_pos hid] at hquestionId
        rw [hsame] at hquestionId
        exact hversions hq hw (mem_of_versionOf hv).2.1 (of_decide_eq_true hquestionId)
      refine (List.map_congr_left hkeep).trans ((List.map_id _).trans ?_)
      refine congrArg (fun f => List.filter f db.versions) (funext fun u => ?_)
      rw [Function.comp]
      split_ifs <;> rfl
  | added htrack hq hv hid =>
      rename_i q trackId
      have hsame : Catalogue.questionByExternalId externalId
          ({ db.updateQuestion q.id (p.writeQuestion trackId db) with
            versions := db.versions ++ [p.versionRow sourceRevision q.id ids.versionId] }
            : Catalogue C) = db.questionByExternalId externalId := hquestion hq trackId
      refine rowsOf_congr hsame fun w hw => ?_
      have hnone : ([p.versionRow sourceRevision q.id ids.versionId].filter fun v =>
          v.questionId = w.id) = [] := by
        refine List.filter_eq_nil_iff.mpr fun v hv => ?_
        rw [List.mem_singleton.mp hv, decide_eq_true_eq]
        exact hversions hq hw (v := p.versionRow sourceRevision q.id ids.versionId) rfl
      rw [List.filter_append, hnone, List.append_nil]
  | created htrack hq hnew hid =>
      rename_i trackId
      have hsame : Catalogue.questionByExternalId externalId
          ({ db with
            questions := db.questions
              ++ [p.writeQuestion trackId db (p.questionRow trackId ids.questionId)]
            versions := db.versions ++ [p.versionRow sourceRevision ids.questionId ids.versionId] }
            : Catalogue C) = db.questionByExternalId externalId := by
        unfold Catalogue.questionByExternalId Tables.find
        dsimp only
        rw [List.find?_append, List.find?_singleton, if_neg, Option.or_none]
        rw [decide_eq_true_eq]
        exact fun heq => hother heq.symm
      refine rowsOf_congr hsame fun w hw => ?_
      have hnone : ([p.versionRow sourceRevision ids.questionId ids.versionId].filter fun v =>
          v.questionId = w.id) = [] := by
        refine List.filter_eq_nil_iff.mpr fun v hv => ?_
        rw [List.mem_singleton.mp hv, decide_eq_true_eq]
        intro heq
        have hid : ids.questionId = w.id := heq
        exact not_mem_of_question_none hnew (hid ▸ List.mem_map_of_mem (mem_of_externalId hw).1)
      rw [List.filter_append, hnone, List.append_nil]

theorem result_of_ok (hkeyed : db.Keyed)
    (h : synchronizePackage sourceRevision p ids db = .ok (db', r)) :
    r.contentHash = some p.contentHash ∧ r.questionId = p.id ∧ r.version = p.version := by
  cases synchronizePackage_writes hkeyed h <;> exact ⟨rfl, rfl, rfl⟩

/-! ## When a package is synchronized -/

/-- A question with the slug of the package is its own. -/
theorem synchronizePackage_slug {trackId : Uuid}
    (htrack : db.tracks.lookup p.primaryTrack = some trackId)
    (h : synchronizePackage sourceRevision p ids db = .ok (db', r)) :
    ∀ other ∈ db.questions, other.slug = p.slug →
      ∃ q, db.questionByExternalId p.id = some q ∧ other.id = q.id := by
  unfold synchronizePackage at h
  rw [htrack] at h
  obtain ⟨⟨synced, questionId⟩, hquestion, -⟩ := bind_eq_ok h
  unfold synchronizeQuestion at hquestion
  obtain ⟨_, hupsert, -⟩ := bind_eq_ok hquestion
  exact ((upsertQuestion_isOk _ _).mp ⟨_, hupsert⟩).1

theorem slugs_nodup_update (hkeyed : db.Keyed) (hslugs : (db.questions.map QuestionRow.slug).Nodup)
    {q : QuestionRow} {f : QuestionRow → QuestionRow} {slug : Str} (hf : ∀ r, (f r).slug = slug)
    (hown : ∀ other ∈ db.questions, other.slug = slug → other.id = q.id) :
    ((db.updateQuestion q.id f).questions.map QuestionRow.slug).Nodup := by
  unfold Catalogue.updateQuestion Tables.update
  rw [List.map_map]
  refine List.Nodup.map_on (fun x hx y hy heq => ?_) hkeyed.questionIds.of_map
  dsimp only [Function.comp] at heq
  split_ifs at heq with hxq hyq hyq
  · exact hkeyed.row_eq hx hy (hxq.trans hyq.symm)
  · rw [hf] at heq
    exact absurd (hown y hy heq.symm) hyq
  · rw [hf] at heq
    exact absurd (hown x hx heq) hxq
  · exact List.inj_on_of_nodup_map hslugs hx hy heq

theorem PackageWrites.consistent (h : PackageWrites p sourceRevision ids db db' r)
    (hconsistent : db.Consistent) (hok : synchronizePackage sourceRevision p ids db = .ok (db', r)) :
    db'.Consistent := by
  refine ⟨h.keyed hconsistent.toKeyed, ?_⟩
  have hquestion {q : QuestionRow} {trackId : Uuid}
      (htrack : db.tracks.lookup p.primaryTrack = some trackId)
      (hq : db.questionByExternalId p.id = some q) :
      ((db.updateQuestion q.id (p.writeQuestion trackId db)).questions.map QuestionRow.slug).Nodup := by
    refine slugs_nodup_update hconsistent.toKeyed hconsistent.slugs (fun _ => rfl) ?_
    intro other hother hslug
    obtain ⟨found, hfound, hid⟩ := synchronizePackage_slug htrack hok other hother hslug
    cases hq.symm.trans hfound
    exact hid
  cases h with
  | untracked htrack => exact hconsistent.slugs
  | unchanged htrack hq hv hhash => exact hquestion htrack hq
  | immutable htrack hq hv hhash hstate => exact hquestion htrack hq
  | updated htrack hq hv hhash hstate => exact hquestion htrack hq
  | added htrack hq hv hid => exact hquestion htrack hq
  | created htrack hq hnew hid =>
      rw [List.map_append]
      refine List.Nodup.append hconsistent.slugs (List.nodup_singleton _)
        (List.disjoint_singleton.mpr fun hmem => ?_)
      obtain ⟨other, hother, hslug⟩ := List.mem_map.mp hmem
      obtain ⟨found, hfound, -⟩ := synchronizePackage_slug htrack hok other hother hslug
      exact nomatch hq.symm.trans hfound

/-- The question that a package has written over. -/
theorem writeQuestion_found {q : QuestionRow} (hq : db.questionByExternalId p.id = some q)
    (trackId : Uuid) :
    (db.updateQuestion q.id (p.writeQuestion trackId db)).questionByExternalId p.id
      = some (p.writeQuestion trackId db q) := by
  have hexternal (r : QuestionRow) : (p.writeQuestion trackId db r).externalId = r.externalId := rfl
  rw [questionByExternalId_updateQuestion q.id p.id hexternal, hq, Option.map_some, if_pos rfl]

theorem synchronizePackage_stored (hkeyed : db.Keyed) (hfits : PackageFits p ids db) :
    ∃ db' status, synchronizePackage sourceRevision p ids db = .ok (db', p.result status [])
      ∧ status ≠ .invalid ∧ p.Stored db' := by
  obtain ⟨trackId, htrack⟩ := hfits.track
  obtain ⟨⟨upserted, questionId⟩, hupsert⟩ := (upsertQuestion_isOk
      (p.questionRow trackId ids.questionId)
      (fun q => { q with slug := p.slug, primaryTrackId := trackId })).mpr
    ⟨fun other hother hslug => by
      have hexternal := hfits.slug other hother hslug
      obtain ⟨found, hfound⟩ := Tables.find_isSome_of_mem QuestionRow.externalId hother
      rw [hexternal] at hfound
      refine ⟨found, hfound, ?_⟩
      rw [hkeyed.row_eq_of_externalId hother (Tables.mem_of_find hfound)
        (hexternal.trans (Tables.key_of_find hfound).symm)], hfits.newQuestion⟩
  have hquestion : synchronizeQuestion p trackId ids.questionId db
      = .ok (upserted.updateQuestion questionId fun q =>
        { q with competencies := p.questionCompetencies db }, questionId) := by
    unfold synchronizeQuestion
    rw [hupsert]
    rfl
  unfold synchronizePackage
  rw [htrack]
  dsimp only
  rw [hquestion]
  simp only [ok_bind]
  rcases synchronizeQuestion_cases hquestion with ⟨q, hq, rfl, hsynced⟩ | ⟨hq, hnew, rfl, hsynced⟩
  · rw [hsynced]
    have hfound := writeQuestion_found hq trackId
    have hversions : (db.updateQuestion q.id (p.writeQuestion trackId db)).versionOf q.id p.version
        = db.versionOf q.id p.version := rfl
    rw [hversions]
    cases hv : db.versionOf q.id p.version with
    | some v =>
        dsimp only
        by_cases hhash : v.contentHash = p.contentHash
        · rw [if_pos hhash]
          exact ⟨_, _, rfl, nofun, _, v, hfound, rfl, htrack, rfl, hv, hhash,
            hfits.same q v hq hv hhash⟩
        · rw [if_neg hhash, if_neg (hfits.mutable q v hq hv hhash)]
          refine ⟨_, _, rfl, nofun, _, p.overwrite sourceRevision v, hfound, rfl, htrack, rfl, ?_, rfl,
            rfl⟩
          have hkey (v : VersionRow C) : (p.overwrite sourceRevision v).questionId = v.questionId
              ∧ (p.overwrite sourceRevision v).version = v.version := ⟨rfl, rfl⟩
          show (Catalogue.updateVersion v.id (p.overwrite sourceRevision) _).versionOf q.id p.version
            = _
          rw [versionOf_updateVersion v.id q.id p.version hkey, hversions, hv, Option.map_some,
            if_pos rfl]
    | none =>
        have hid : db.version ids.versionId = none := hfits.newVersion fun q' hq' => by
          cases hq.symm.trans hq'
          exact hv
        dsimp only
        rw [if_neg]
        · refine ⟨_, _, rfl, nofun, _, p.versionRow sourceRevision q.id ids.versionId, hfound, rfl,
            htrack, rfl, ?_, rfl, rfl⟩
          unfold Catalogue.versionOf at hv ⊢
          show List.find? _ (db.versions ++ [_]) = _
          rw [List.find?_append]
          have hnone : db.versions.find? (fun v => decide (v.questionId = q.id
              ∧ v.version = p.version)) = none := hv
          show (List.find? (fun v => decide (v.questionId = q.id ∧ v.version = p.version))
            db.versions).or _ = _
          rw [hnone, Option.none_or, List.find?_singleton, if_pos (decide_eq_true ⟨rfl, rfl⟩)]
        · show ¬(db.version ids.versionId).isSome
          rw [hid]
          exact Bool.false_ne_true
  · rw [hsynced]
    have hid : db.version ids.versionId = none :=
      hfits.newVersion fun q' hq' => nomatch hq.symm.trans hq'
    have hnone : db.versions.find? (fun v => decide (v.questionId = ids.questionId
        ∧ v.version = p.version)) = none := by
      refine List.find?_eq_none.mpr fun v hv hkey => ?_
      rw [decide_eq_true_eq] at hkey
      exact not_mem_of_question_none hnew (hkey.1 ▸ hkeyed.versionQuestion v hv)
    have hversion : Catalogue.versionOf ids.questionId p.version
        ({ db with questions := db.questions
            ++ [p.writeQuestion trackId db (p.questionRow trackId ids.questionId)] }
          : Catalogue C) = none := hnone
    rw [hversion]
    dsimp only
    rw [if_neg]
    · refine ⟨_, _, rfl, nofun, p.writeQuestion trackId db (p.questionRow trackId ids.questionId),
        p.versionRow sourceRevision ids.questionId ids.versionId, ?_, rfl, htrack, rfl, ?_, rfl, rfl⟩
      · have hmissing : db.questions.find? (fun q => decide (q.externalId = p.id)) = none := hq
        show List.find? (fun q => decide (q.externalId = p.id)) (db.questions ++ [_]) = _
        rw [List.find?_append, hmissing, Option.none_or, List.find?_singleton]
        exact if_pos (decide_eq_true rfl)
      · show List.find? (fun v => decide (v.questionId = ids.questionId ∧ v.version = p.version))
          (db.versions ++ [_]) = _
        rw [List.find?_append, hnone, Option.none_or, List.find?_singleton,
          if_pos (decide_eq_true ⟨rfl, rfl⟩)]
    · show ¬(db.version ids.versionId).isSome
      rw [hid]
      exact Bool.false_ne_true

/-- A package that is stored behind its synchronization has fitted. -/
theorem fits_of_stored (hkeyed : db.Keyed)
    (hok : synchronizePackage sourceRevision p ids db = .ok (db', r)) (hstored : p.Stored db') :
    PackageFits p ids db := by
  have hwrites := synchronizePackage_writes hkeyed hok
  obtain ⟨q', v', hsync⟩ := hstored
  obtain ⟨htracks, -⟩ := hwrites.tables
  have htrack := hsync.track
  rw [htracks] at htrack
  have hslug := synchronizePackage_slug htrack hok
  have hown : ∀ other ∈ db.questions, other.slug = p.slug → other.externalId = p.id := by
    intro other hother heq
    obtain ⟨q, hq, hid⟩ := hslug other hother heq
    rw [hkeyed.row_eq hother (mem_of_externalId hq).1 hid]
    exact (mem_of_externalId hq).2
  cases hwrites with
  | untracked hnone => exact nomatch hnone.symm.trans htrack
  | unchanged htrack' hq hv hhash =>
      rename_i q v trackId
      refine ⟨⟨_, htrack⟩, hown, fun h => (nomatch h.symm.trans hq), fun h => ?_, ?_, ?_⟩
      · exact nomatch (h _ hq).symm.trans hv
      · intro w u hw hu _
        cases hq.symm.trans hw
        cases hv.symm.trans hu
        cases (writeQuestion_found hq trackId).symm.trans hsync.question
        have hversion : db.versionOf q.id p.version = some v' := hsync.version
        cases hv.symm.trans hversion
        exact hsync.body
      · intro w u hw hu hne
        cases hq.symm.trans hw
        cases hv.symm.trans hu
        exact absurd hhash hne
  | immutable htrack' hq hv hhash hstate =>
      rename_i q v trackId
      cases (writeQuestion_found hq trackId).symm.trans hsync.question
      have hversion : db.versionOf q.id p.version = some v' := hsync.version
      cases hv.symm.trans hversion
      exact absurd hsync.contentHash hhash
  | updated htrack' hq hv hhash hstate =>
      refine ⟨⟨_, htrack⟩, hown, fun h => (nomatch h.symm.trans hq), fun h => ?_, ?_, ?_⟩
      · exact nomatch (h _ hq).symm.trans hv
      · intro w u hw hu heq
        cases hq.symm.trans hw
        cases hv.symm.trans hu
        exact absurd heq hhash
      · intro w u hw hu _
        cases hq.symm.trans hw
        cases hv.symm.trans hu
        exact hstate
  | added htrack' hq hv hid =>
      refine ⟨⟨_, htrack⟩, hown, fun h => (nomatch h.symm.trans hq), fun _ => hid, ?_, ?_⟩
      · intro w u hw hu
        cases hq.symm.trans hw
        exact nomatch hv.symm.trans hu
      · intro w u hw hu
        cases hq.symm.trans hw
        exact nomatch hv.symm.trans hu
  | created htrack' hq hnew hid =>
      exact ⟨⟨_, htrack⟩, hown, fun _ => hnew, fun _ => hid, fun w _ hw => (nomatch hq.symm.trans hw),
        fun w _ hw => (nomatch hq.symm.trans hw)⟩

/-- A package that is stored is left as it is. -/
theorem synchronizePackage_unchanged (hconsistent : db.Consistent) (hstored : p.Stored db) :
    synchronizePackage sourceRevision p ids db = .ok (db, p.result .unchanged []) := by
  obtain ⟨q, v, hsync⟩ := hstored
  have hfits : PackageFits p ids db := by
    refine ⟨⟨_, hsync.track⟩, fun other hother hslug => ?_, fun h => (nomatch h.symm.trans hsync.question),
      fun h => (nomatch (h q hsync.question).symm.trans hsync.version), ?_, ?_⟩
    · obtain ⟨hmem, hexternal⟩ := mem_of_externalId hsync.question
      rw [List.inj_on_of_nodup_map hconsistent.slugs hother hmem (hslug.trans hsync.slug.symm)]
      exact hexternal
    · intro w u hw hu _
      cases hsync.question.symm.trans hw
      cases hsync.version.symm.trans hu
      exact hsync.body
    · intro w u hw hu hne
      cases hsync.question.symm.trans hw
      cases hsync.version.symm.trans hu
      exact absurd hsync.contentHash hne
  obtain ⟨db', status, hok, hstatus, -⟩ :=
    @synchronizePackage_stored C p db sourceRevision ids hconsistent.toKeyed hfits
  rw [hok]
  generalize hresult : p.result status [] = r at hok
  cases synchronizePackage_writes hconsistent.toKeyed hok with
  | untracked hnone => exact nomatch hnone.symm.trans hsync.track
  | unchanged htrack hq hv hhash =>
      rename_i w u trackId
      cases hsync.question.symm.trans hq
      cases hsync.track.symm.trans htrack
      have hsame : p.writeQuestion q.primaryTrackId db q = q := by
        unfold LoadedContentPackage.writeQuestion
        rw [← hsync.slug, ← hsync.competencies]
      have hrows : (db.updateQuestion q.id (p.writeQuestion q.primaryTrackId db)) = db := by
        have hquestions : Tables.update QuestionRow.id q.id (p.writeQuestion q.primaryTrackId db)
            db.questions = db.questions := by
          refine (List.map_congr_left fun r hr => ?_).trans (List.map_id _)
          by_cases hid : r.id = q.id
          · rw [hconsistent.row_eq hr (mem_of_externalId hsync.question).1 hid, if_pos rfl, hsame]
            rfl
          · rw [if_neg hid]
            rfl
        unfold Catalogue.updateQuestion
        rw [hquestions]
      rw [hrows]
  | immutable htrack hq hv hhash hstate =>
      cases hsync.question.symm.trans hq
      cases hsync.version.symm.trans hv
      exact absurd hsync.contentHash hhash
  | updated htrack hq hv hhash hstate =>
      cases hsync.question.symm.trans hq
      cases hsync.version.symm.trans hv
      exact absurd hsync.contentHash hhash
  | added htrack hq hv hid =>
      cases hsync.question.symm.trans hq
      exact nomatch hsync.version.symm.trans hv
  | created htrack hq hnew hid => exact nomatch hsync.question.symm.trans hq

end

/-! ## A run -/

def SyncItem.loaded : SyncItem C → Option (LoadedPackage C)
  | .package p => some p
  | _ => none

/-- The packages that are synchronized. -/
def planned (items : List (SyncItem C)) : List (LoadedPackage C) := items.filterMap SyncItem.loaded

/-- Every package of a run fits the state in which it is reached. -/
def ItemsFit (sourceRevision : Str) (ids : Nat → CatalogueIds) :
    Nat → List (SyncItem C) → Catalogue C → Prop
  | _, [], _ => True
  | _, .missing _ :: _, _ => False
  | n, .report _ :: rest, db => ItemsFit sourceRevision ids (n + 1) rest db
  | n, .package p :: rest, db => PackageFits p.package (ids n) db
      ∧ ∀ db' r, synchronizePackage sourceRevision p.package (ids n) db = .ok (db', r) →
        ItemsFit sourceRevision ids (n + 1) rest db'

/-- A package at its turn: its rows are those from before the run, and what it
leaves is there at the end. -/
structure Turn (sourceRevision : Str) (db db' : Catalogue C) (p : LoadedPackage C)
    (r : PackageSyncResult) (before after : Catalogue C) (ids : CatalogueIds) : Prop where
  consistent : before.Consistent
  ok : synchronizePackage sourceRevision p.package ids before = .ok (after, r)
  rowsBefore : before.rowsOf p.package.id = db.rowsOf p.package.id
  rowsAfter : db'.rowsOf p.package.id = after.rowsOf p.package.id
  tables : before.tracks = db.tracks ∧ before.competencies = db.competencies

/-- What a run leaves alone. -/
structure RunKeeps (items : List (SyncItem C)) (db db' : Catalogue C) : Prop where
  consistent : db'.Consistent
  tables : db'.tracks = db.tracks ∧ db'.competencies = db.competencies
  rows : ∀ externalId, externalId ∉ (planned items).map (fun p => p.package.id) →
    db'.rowsOf externalId = db.rowsOf externalId

section

variable {db db' : Catalogue C} {sourceRevision : Str} {ids : Nat → CatalogueIds} {n : Nat}
  {items : List (SyncItem C)} {results : List PackageSyncResult}

theorem syncItems_report_ok {r : PackageSyncResult}
    (h : syncItems sourceRevision ids n (.report r :: items) db = (db', .ok results)) :
    ∃ later, syncItems sourceRevision ids (n + 1) items db = (db', .ok later)
      ∧ results = r :: later := by
  unfold syncItems at h
  dsimp only at h
  cases hrest : syncItems sourceRevision ids (n + 1) items db with
  | mk db₁ rest =>
      rw [hrest] at h
      cases rest with
      | error e => cases h
      | ok later =>
          cases h
          exact ⟨later, rfl, rfl⟩

theorem syncItems_package_ok {p : LoadedPackage C}
    (h : syncItems sourceRevision ids n (.package p :: items) db = (db', .ok results)) :
    ∃ db₁ r later, synchronizePackage sourceRevision p.package (ids n) db = .ok (db₁, r)
      ∧ syncItems sourceRevision ids (n + 1) items db₁ = (db', .ok later)
      ∧ results = r :: later := by
  unfold syncItems at h
  split at h
  · cases h
  · rename_i db₁ r hok
    dsimp only at h
    cases hrest : syncItems sourceRevision ids (n + 1) items db₁ with
    | mk db₂ rest =>
        rw [hrest] at h
        cases rest with
        | error e => cases h
        | ok later =>
            cases h
            exact ⟨db₁, r, later, hok, hrest, rfl⟩

theorem syncItems_keeps (hconsistent : db.Consistent)
    (h : syncItems sourceRevision ids n items db = (db', .ok results)) : RunKeeps items db db' := by
  induction items generalizing n db results with
  | nil =>
      cases h
      exact ⟨hconsistent, ⟨rfl, rfl⟩, fun _ _ => rfl⟩
  | cons item rest ih =>
      cases item with
      | missing questionId => cases h
      | report r =>
          obtain ⟨later, hrest, -⟩ := syncItems_report_ok h
          obtain ⟨hlast, htables, hrows⟩ := ih hconsistent hrest
          exact ⟨hlast, htables, hrows⟩
      | package p =>
          obtain ⟨db₁, r, later, hok, hrest, -⟩ := syncItems_package_ok h
          have hwrites := synchronizePackage_writes hconsistent.toKeyed hok
          obtain ⟨hlast, htables, hrows⟩ := ih (hwrites.consistent hconsistent hok) hrest
          refine ⟨hlast, ⟨htables.1.trans hwrites.tables.1, htables.2.trans hwrites.tables.2⟩, ?_⟩
          intro externalId hout
          obtain ⟨hne, hout⟩ := not_or.mp fun h => hout (List.mem_cons.mpr h)
          exact (hrows externalId hout).trans (hwrites.rowsOf hconsistent.toKeyed hne)

theorem Turn.of_later {p q : LoadedPackage C} {r r' : PackageSyncResult} {db₁ before after : Catalogue C}
    {idsp : CatalogueIds} (hkeyed : db.Keyed)
    (hok : synchronizePackage sourceRevision q.package (ids n) db = .ok (db₁, r'))
    (hne : p.package.id ≠ q.package.id) (h : Turn sourceRevision db₁ db' p r before after idsp) :
    Turn sourceRevision db db' p r before after idsp := by
  have hwrites := synchronizePackage_writes hkeyed hok
  exact ⟨h.consistent, h.ok, h.rowsBefore.trans (hwrites.rowsOf hkeyed hne), h.rowsAfter,
    h.tables.1.trans hwrites.tables.1, h.tables.2.trans hwrites.tables.2⟩

/-- Every package has its turn, and every result is a report or of a turn. -/
theorem syncItems_turns (hconsistent : db.Consistent)
    (hids : ((planned items).map fun p => p.package.id).Nodup)
    (h : syncItems sourceRevision ids n items db = (db', .ok results)) :
    (∀ p ∈ planned items, ∃ r ∈ results, ∃ before after idsp,
        Turn sourceRevision db db' p r before after idsp)
      ∧ ∀ r ∈ results, .report r ∈ items ∨ ∃ p ∈ planned items, ∃ before after idsp,
        Turn sourceRevision db db' p r before after idsp := by
  induction items generalizing n db results with
  | nil =>
      cases h
      exact ⟨fun _ h => (nomatch h), fun _ h => (nomatch h)⟩
  | cons item rest ih =>
      cases item with
      | missing questionId => cases h
      | report r =>
          obtain ⟨later, hrest, rfl⟩ := syncItems_report_ok h
          obtain ⟨hturns, hresults⟩ := ih hconsistent hids hrest
          refine ⟨fun p hp => ?_, fun r' hr' => ?_⟩
          · obtain ⟨r', hr', hturn⟩ := hturns p hp
            exact ⟨r', List.mem_cons_of_mem _ hr', hturn⟩
          · rcases List.mem_cons.mp hr' with rfl | hr'
            · exact .inl (List.mem_cons_self ..)
            · exact (hresults r' hr').imp_left (List.mem_cons_of_mem _)
      | package p =>
          obtain ⟨db₁, r, later, hok, hrest, rfl⟩ := syncItems_package_ok h
          have hwrites := synchronizePackage_writes hconsistent.toKeyed hok
          have hconsistent₁ := hwrites.consistent hconsistent hok
          have hids : (p.package.id :: (planned rest).map fun p => p.package.id).Nodup := hids
          obtain ⟨hfresh, hids⟩ := List.nodup_cons.mp hids
          obtain ⟨hturns, hresults⟩ := ih hconsistent₁ hids hrest
          have hkeeps := syncItems_keeps hconsistent₁ hrest
          have hturn : Turn sourceRevision db db' p r db db₁ (ids n) :=
            ⟨hconsistent, hok, rfl, hkeeps.rows _ hfresh, rfl, rfl⟩
          have hother {q : LoadedPackage C} (hq : q ∈ planned rest) :
              q.package.id ≠ p.package.id := fun heq =>
            hfresh (heq ▸ List.mem_map_of_mem (f := fun p : LoadedPackage C => p.package.id) hq)
          refine ⟨fun q hq => ?_, fun r' hr' => ?_⟩
          · have hq : q ∈ p :: planned rest := hq
            rcases List.mem_cons.mp hq with rfl | hq
            · exact ⟨r, List.mem_cons_self .., _, _, _, hturn⟩
            · obtain ⟨r', hr', before, after, idsq, hlater⟩ := hturns q hq
              exact ⟨r', List.mem_cons_of_mem _ hr', before, after, idsq,
                hlater.of_later hconsistent.toKeyed hok (hother hq)⟩
          · rcases List.mem_cons.mp hr' with rfl | hr'
            · exact .inr ⟨p, List.mem_cons_self .., _, _, _, hturn⟩
            · rcases hresults r' hr' with hreport | ⟨q, hq, before, after, idsq, hlater⟩
              · exact .inl (List.mem_cons_of_mem _ hreport)
              · exact .inr ⟨q, List.mem_cons_of_mem _ hq, before, after, idsq,
                  hlater.of_later hconsistent.toKeyed hok (hother hq)⟩

theorem versionOf_eq_filter (db : Catalogue C) (questionId : Uuid) (version : Str) :
    db.versionOf questionId version
      = (db.versions.filter fun v => v.questionId = questionId).find? fun v => v.version = version := by
  unfold Catalogue.versionOf
  rw [List.find?_filter]
  refine congrArg (List.find? · db.versions) (funext fun v => ?_)
  simp only [decide_eq_true_eq]

theorem rowsOf_question {externalId : Str} (h : db'.rowsOf externalId = db.rowsOf externalId) :
    db'.questionByExternalId externalId = db.questionByExternalId externalId := by
  have hfst := congrArg (Option.map Prod.fst) h
  unfold Catalogue.rowsOf at hfst
  rw [Option.map_map, Option.map_map] at hfst
  have hrow : Option.map id (db'.questionByExternalId externalId)
      = Option.map id (db.questionByExternalId externalId) := hfst
  simpa using hrow

theorem rowsOf_version {externalId version : Str} {q : QuestionRow}
    (h : db'.rowsOf externalId = db.rowsOf externalId)
    (hq : db.questionByExternalId externalId = some q) :
    db'.versionOf q.id version = db.versionOf q.id version := by
  have hq' := (rowsOf_question h).trans hq
  unfold Catalogue.rowsOf at h
  rw [hq, hq', Option.map_some, Option.map_some] at h
  have hversions : (db'.versions.filter fun v => v.questionId = q.id)
      = db.versions.filter fun v => v.questionId = q.id := congrArg Prod.snd (Option.some.inj h)
  rw [versionOf_eq_filter, versionOf_eq_filter, hversions]

/-- Whether a package is stored is told by the rows of its question. -/
theorem LoadedContentPackage.Stored.of_rows {p : LoadedContentPackage C}
    (hrows : db'.rowsOf p.id = db.rowsOf p.id)
    (htables : db'.tracks = db.tracks ∧ db'.competencies = db.competencies)
    (h : p.Stored db) : p.Stored db' := by
  obtain ⟨q, v, hsync⟩ := h
  refine ⟨q, v, (rowsOf_question hrows).trans hsync.question, hsync.slug, htables.1 ▸ hsync.track, ?_,
    (rowsOf_version hrows hsync.question).trans hsync.version, hsync.contentHash, hsync.body⟩
  unfold LoadedContentPackage.questionCompetencies
  rw [htables.2]
  exact hsync.competencies

theorem syncItems_stored (hconsistent : db.Consistent)
    (hids : ((planned items).map fun p => p.package.id).Nodup)
    (hfits : ItemsFit sourceRevision ids n items db) :
    ∃ db' results, syncItems sourceRevision ids n items db = (db', .ok results)
      ∧ db'.Consistent ∧ (∀ p ∈ planned items, p.package.Stored db')
      ∧ ∀ r ∈ results, r.status = .invalid → .report r ∈ items := by
  induction items generalizing n db with
  | nil => exact ⟨db, [], rfl, hconsistent, fun _ h => (nomatch h), fun _ h => (nomatch h)⟩
  | cons item rest ih =>
      cases item with
      | missing questionId => exact hfits.elim
      | report r =>
          obtain ⟨db', later, hrest, hlast, hstored, hinvalid⟩ := ih hconsistent hids hfits
          refine ⟨db', r :: later, ?_, hlast, hstored, fun r' hr' hstatus => ?_⟩
          · unfold syncItems
            rw [hrest]
            rfl
          · rcases List.mem_cons.mp hr' with rfl | hr'
            · exact List.mem_cons_self ..
            · exact List.mem_cons_of_mem _ (hinvalid r' hr' hstatus)
      | package p =>
          have hids : (p.package.id :: (planned rest).map fun p => p.package.id).Nodup := hids
          obtain ⟨hfresh, hids⟩ := List.nodup_cons.mp hids
          obtain ⟨hfirst, hfits⟩ := hfits
          obtain ⟨db₁, status, hok, hstatus, hstored₁⟩ :=
            @synchronizePackage_stored C p.package db sourceRevision (ids n) hconsistent.toKeyed hfirst
          have hwrites := synchronizePackage_writes hconsistent.toKeyed hok
          have hconsistent₁ := hwrites.consistent hconsistent hok
          obtain ⟨db', later, hrest, hlast, hstored, hinvalid⟩ :=
            ih hconsistent₁ hids (hfits db₁ _ hok)
          have hkeeps := syncItems_keeps hconsistent₁ hrest
          refine ⟨db', p.package.result status [] :: later, ?_, hlast, fun q hq => ?_, ?_⟩
          · unfold syncItems
            rw [hok]
            dsimp only
            rw [hrest]
            rfl
          · have hq : q ∈ p :: planned rest := hq
            rcases List.mem_cons.mp hq with rfl | hq
            · exact hstored₁.of_rows (hkeeps.rows _ hfresh) hkeeps.tables
            · exact hstored q hq
          · intro r' hr' hinvalid'
            rcases List.mem_cons.mp hr' with rfl | hr'
            · exact absurd hinvalid' hstatus
            · exact List.mem_cons_of_mem _ (hinvalid r' hr' hinvalid')

theorem itemsFit_of_stored (hconsistent : db.Consistent)
    (hids : ((planned items).map fun p => p.package.id).Nodup)
    (h : syncItems sourceRevision ids n items db = (db', .ok results))
    (hstored : ∀ p ∈ planned items, p.package.Stored db') :
    ItemsFit sourceRevision ids n items db := by
  induction items generalizing n db results with
  | nil => trivial
  | cons item rest ih =>
      cases item with
      | missing questionId => cases h
      | report r =>
          obtain ⟨later, hrest, -⟩ := syncItems_report_ok h
          exact ih hconsistent hids hrest hstored
      | package p =>
          obtain ⟨db₁, r, later, hok, hrest, -⟩ := syncItems_package_ok h
          have hids : (p.package.id :: (planned rest).map fun p => p.package.id).Nodup := hids
          obtain ⟨hfresh, hids⟩ := List.nodup_cons.mp hids
          have hconsistent₁ :=
            (synchronizePackage_writes hconsistent.toKeyed hok).consistent hconsistent hok
          have hkeeps := syncItems_keeps hconsistent₁ hrest
          have hstored₁ : p.package.Stored db₁ :=
            (hstored p (List.mem_cons_self ..)).of_rows (hkeeps.rows _ hfresh).symm
              ⟨hkeeps.tables.1.symm, hkeeps.tables.2.symm⟩
          refine ⟨fits_of_stored hconsistent.toKeyed hok hstored₁, fun db₁' r' hok' => ?_⟩
          cases hok.symm.trans hok'
          exact ih hconsistent₁ hids hrest fun q hq => hstored q (List.mem_cons_of_mem _ hq)

/-- A run over packages that are stored changes nothing. -/
theorem syncItems_unchanged (hconsistent : db.Consistent)
    (hstored : ∀ p ∈ planned items, p.package.Stored db)
    (hfound : ∀ questionId, .missing questionId ∉ items) :
    ∃ results, syncItems sourceRevision ids n items db = (db, .ok results)
      ∧ ∀ p ∈ planned items, p.package.result .unchanged [] ∈ results := by
  induction items generalizing n with
  | nil => exact ⟨[], rfl, fun _ h => (nomatch h)⟩
  | cons item rest ih =>
      have hfound' (questionId : Str) : .missing questionId ∉ rest := fun h =>
        hfound questionId (List.mem_cons_of_mem _ h)
      cases item with
      | missing questionId => exact absurd (List.mem_cons_self ..) (hfound questionId)
      | report r =>
          obtain ⟨results, hrest, hunchanged⟩ := @ih (n + 1) hstored hfound'
          refine ⟨r :: results, ?_, fun p hp => List.mem_cons_of_mem _ (hunchanged p hp)⟩
          unfold syncItems
          rw [hrest]
          rfl
      | package p =>
          obtain ⟨results, hrest, hunchanged⟩ :=
            @ih (n + 1) (fun q hq => hstored q (List.mem_cons_of_mem _ hq)) hfound'
          refine ⟨p.package.result .unchanged [] :: results, ?_, fun q hq => ?_⟩
          · unfold syncItems
            rw [synchronizePackage_unchanged hconsistent (hstored p (List.mem_cons_self ..))]
            dsimp only
            rw [hrest]
            rfl
          · have hq : q ∈ p :: planned rest := hq
            rcases List.mem_cons.mp hq with rfl | hq
            · exact List.mem_cons_self ..
            · exact List.mem_cons_of_mem _ (hunchanged q hq)

theorem mem_results_of_report {r : PackageSyncResult} (hr : .report r ∈ items)
    (h : syncItems sourceRevision ids n items db = (db', .ok results)) : r ∈ results := by
  induction items generalizing n db results with
  | nil => cases hr
  | cons item rest ih =>
      cases item with
      | missing questionId => cases h
      | report r' =>
          obtain ⟨later, hrest, rfl⟩ := syncItems_report_ok h
          rcases List.mem_cons.mp hr with heq | hr
          · cases heq
            exact List.mem_cons_self ..
          · exact List.mem_cons_of_mem _ (ih hr hrest)
      | package p =>
          obtain ⟨db₁, r', later, hok, hrest, rfl⟩ := syncItems_package_ok h
          rcases List.mem_cons.mp hr with heq | hr
          · cases heq
          · exact List.mem_cons_of_mem _ (ih hr hrest)

theorem ItemsFit.found {questionId : Str} (h : ItemsFit sourceRevision ids n items db)
    (hok : syncItems sourceRevision ids n items db = (db', .ok results)) :
    .missing questionId ∉ items := by
  intro hmem
  induction items generalizing n db results with
  | nil => cases hmem
  | cons item rest ih =>
      cases item with
      | missing _ => exact h
      | report r =>
          obtain ⟨later, hrest, -⟩ := syncItems_report_ok hok
          exact ih h hrest ((List.mem_cons.mp hmem).resolve_left nofun)
      | package p =>
          obtain ⟨db₁, r, later, hfirst, hrest, -⟩ := syncItems_package_ok hok
          exact ih (h.2 db₁ r hfirst) hrest ((List.mem_cons.mp hmem).resolve_left nofun)

end

/-! ## The packages of a tree -/

section

variable {l : Loader C} {tree : ContentTree} {selectedIds : List Str}

theorem loadPackage_directory {d : PackageDirectory} {p : LoadedPackage C}
    (h : loadPackage l d = .ok p) : p.directory = d := by
  unfold loadPackage at h
  split at h
  · cases h
  · split at h
    · cases h
    · dsimp only at h
      split_ifs at h
      cases h
      rfl

theorem loadAll_ok {directories : List PackageDirectory} {failed : List PackageSyncResult}
    {loaded : List (LoadedPackage C)} (h : loadAll l directories = .ok (failed, loaded)) :
    (loaded.map LoadedPackage.directory).Sublist directories ∧ ∀ r ∈ failed, r.status = .invalid := by
  induction directories generalizing failed loaded with
  | nil =>
      cases h
      exact ⟨List.Sublist.refl _, fun _ h => (nomatch h)⟩
  | cons d rest ih =>
      unfold loadAll at h
      split at h
      · cases h
      · obtain ⟨⟨failed', loaded'⟩, hrest, h⟩ := bind_eq_ok h
        cases h
        obtain ⟨hsub, hinvalid⟩ := ih hrest
        refine ⟨hsub.cons _, fun r hr => ?_⟩
        rcases List.mem_cons.mp hr with rfl | hr
        · rfl
        · exact hinvalid r hr
      · rename_i p hp
        obtain ⟨⟨failed', loaded'⟩, hrest, h⟩ := bind_eq_ok h
        cases h
        obtain ⟨hsub, hinvalid⟩ := ih hrest
        refine ⟨?_, hinvalid⟩
        rw [List.map_cons, loadPackage_directory hp]
        exact hsub.cons_cons _

/-- The packages of the tree that pass their checks. -/
def validPackages (l : Loader C) (tree : ContentTree) (selectedIds : List Str) :
    List (LoadedPackage C) :=
  match validateAll l tree selectedIds with
  | .ok (_, loaded) => loaded.filter fun p => packageFindings l tree loaded p = []
  | .error _ => []

/-- The packages that a run looks up. -/
def plannedPackages (l : Loader C) (tree : ContentTree) (selectedIds : List Str) :
    List (LoadedPackage C) :=
  match syncPlan l tree selectedIds with
  | .ok items => planned items
  | .error _ => []

theorem nodup_of_filterMap {α β : Type} {f : α → Option β} {xs : List α}
    (hlength : (xs.filterMap f).length = xs.length) (h : (xs.filterMap f).Nodup) : xs.Nodup := by
  induction xs with
  | nil => exact List.nodup_nil
  | cons x xs ih =>
      have hle := List.length_filterMap_le f xs
      cases hx : f x with
      | none =>
          rw [List.filterMap_cons_none hx, List.length_cons] at hlength
          omega
      | some y =>
          rw [List.filterMap_cons_some hx] at hlength h
          obtain ⟨hy, h⟩ := List.nodup_cons.mp h
          refine List.nodup_cons.mpr ⟨fun hmem => hy ?_, ih (Nat.succ.inj hlength) h⟩
          exact List.mem_filterMap.mpr ⟨x, hmem, hx⟩

/-- The plan of a run, behind its validation. -/
structure PlanOf (l : Loader C) (tree : ContentTree) (selectedIds : List Str)
    (items : List (SyncItem C)) : Prop where
  reports : ∀ r, .report r ∈ items → r.status = .invalid
  nodup : (validPackages l tree selectedIds).Nodup
  lookups : ∃ (keys : List Str) (find : Str → Option (LoadedPackage C)),
    keys.Perm ((validPackages l tree selectedIds).map fun p => p.package.id)
      ∧ planned items = keys.filterMap find

theorem syncPlan_ok {items : List (SyncItem C)} (h : syncPlan l tree selectedIds = .ok items) :
    PlanOf l tree selectedIds items := by
  unfold syncPlan at h
  obtain ⟨⟨validation, loaded⟩, hvalidate, h⟩ := bind_eq_ok h
  obtain ⟨byId, -, h⟩ := bind_eq_ok h
  cases h
  have hvalid : validPackages l tree selectedIds
      = loaded.filter fun p => packageFindings l tree loaded p = [] := by
    unfold validPackages
    rw [hvalidate]
  unfold validateAll at hvalidate
  obtain ⟨⟨failed, loaded'⟩, hload, hvalidate⟩ := bind_eq_ok hvalidate
  cases hvalidate
  obtain ⟨hsub, hfailed⟩ := loadAll_ok hload
  have hperm : (List.insertionSort (fun a b : PackageSyncResult => a.questionId ≤ b.questionId)
      (failed ++ loaded.map fun p => validationResult p (packageFindings l tree loaded p))).Perm
      (failed ++ loaded.map fun p => validationResult p (packageFindings l tree loaded p)) :=
    List.perm_insertionSort _ _
  generalize List.insertionSort (fun a b : PackageSyncResult => a.questionId ≤ b.questionId)
    (failed ++ loaded.map fun p => validationResult p (packageFindings l tree loaded p))
      = validation at hperm ⊢
  have hstatus (p : LoadedPackage C) :
      (validationResult p (packageFindings l tree loaded p)).status = .valid
        ↔ packageFindings l tree loaded p = [] := by
    unfold validationResult LoadedContentPackage.result
    dsimp only
    split_ifs with hfindings
    · exact iff_of_true rfl hfindings
    · exact iff_of_false nofun hfindings
  refine ⟨fun r hr => ?_, ?_, ?_⟩
  · obtain ⟨r', hr', heq⟩ := List.mem_map.mp hr
    unfold syncItem at heq
    split_ifs at heq with hvalid'
    · split at heq <;> cases heq
    · cases heq
      rcases List.mem_append.mp (hperm.mem_iff.mp hr') with hfail | hload'
      · exact hfailed r hfail
      · obtain ⟨p, hp, rfl⟩ := List.mem_map.mp hload'
        unfold validationResult LoadedContentPackage.result at hvalid' ⊢
        dsimp only at hvalid' ⊢
        split_ifs at hvalid' ⊢ with hfindings
        · exact absurd rfl hvalid'
        · rfl
  · rw [hvalid]
    have hselected : (tree.selected selectedIds).Nodup := tree.distinct.of_map.filter _
    exact (hselected.sublist hsub).of_map.filter _
  · refine ⟨(validation.filter fun r => r.status = .valid).map PackageSyncResult.questionId,
      (List.lookup · byId), ?_, ?_⟩
    · rw [hvalid]
      refine ((hperm.filter fun r => r.status = .valid).map PackageSyncResult.questionId).trans ?_
      have hnone : (failed.filter fun r => r.status = .valid) = [] :=
        List.filter_eq_nil_iff.mpr fun r hr => by
          rw [hfailed r hr]
          exact of_decide_eq_false rfl
      rw [List.filter_append, hnone, List.nil_append, List.filter_map, List.map_map]
      refine List.Perm.of_eq (congrArg (List.map _) (List.filter_congr fun p _ => ?_))
      exact decide_eq_decide.mpr (hstatus p)
    · unfold planned
      rw [List.filterMap_map, List.filterMap_map, List.filterMap_filter]
      refine List.filterMap_congr fun r _ => ?_
      dsimp only [Function.comp]
      unfold syncItem
      by_cases hvalid' : r.status = .valid
      · rw [if_pos hvalid', if_pos (decide_eq_true hvalid')]
        cases byId.lookup r.questionId <;> rfl
      · rw [if_neg hvalid', if_neg (by simpa using hvalid')]
        rfl

theorem PlanOf.ids_nodup {items : List (SyncItem C)} (h : PlanOf l tree selectedIds items)
    (honce : (planned items).Perm (validPackages l tree selectedIds)) :
    ((planned items).map fun p => p.package.id).Nodup := by
  obtain ⟨keys, find, hkeys, hplanned⟩ := h.lookups
  have hlength : (keys.filterMap find).length = keys.length := by
    rw [← hplanned, honce.length_eq, hkeys.length_eq, List.length_map]
  have hnodup : (keys.filterMap find).Nodup := hplanned ▸ honce.nodup_iff.mpr h.nodup
  have hkeysNodup := nodup_of_filterMap hlength hnodup
  exact ((honce.map fun p => p.package.id).nodup_iff).mpr (hkeys.nodup_iff.mp hkeysNodup)

end

/-! ## The report -/

/-- The stored version is the one of the package on disk. -/
def LoadedContentPackage.HoldsContent (p : LoadedContentPackage C) (db : Catalogue C) : Prop :=
  ∃ q v, db.questionByExternalId p.id = some q ∧ db.versionOf q.id p.version = some v
    ∧ v.contentHash = p.contentHash ∧ v.body = p.body

section

variable (l : Loader C) (tree : ContentTree) (selectedIds : List Str) (sourceRevision : Str)
  (ids : Nat → CatalogueIds) (db : Catalogue C)

/-- What the report of a run says is so. -/
structure SyncTruthful : Prop where
  completes : ∃ results, (runSync l tree selectedIds sourceRevision ids db).2 = .ok results
  once : (plannedPackages l tree selectedIds).Perm (validPackages l tree selectedIds)
  stored : ∀ results, (runSync l tree selectedIds sourceRevision ids db).2 = .ok results →
    ∀ r ∈ results, r.status = .inserted ∨ r.status = .updated ∨ r.status = .unchanged →
      ∀ p ∈ validPackages l tree selectedIds, p.package.id = r.questionId →
        p.package.version = r.version →
          p.package.HoldsContent (runSync l tree selectedIds sourceRevision ids db).1
  kept : ∀ results, (runSync l tree selectedIds sourceRevision ids db).2 = .ok results →
    ∀ r ∈ results, r.status = .invalid →
      (runSync l tree selectedIds sourceRevision ids db).1.rowsOf r.questionId
        = db.rowsOf r.questionId
  again : ∀ ids', ∃ results,
    runSync l tree selectedIds sourceRevision ids'
        (runSync l tree selectedIds sourceRevision ids db).1
      = ((runSync l tree selectedIds sourceRevision ids db).1, .ok results)
    ∧ ∀ p ∈ validPackages l tree selectedIds, p.package.result .unchanged [] ∈ results

/-- The tree loads, the names of its directories lead to its valid packages,
one each, and each of these fits the catalogue. No invalid package has the
identifier of a valid one that is not stored yet. -/
structure SyncFits : Prop where
  loads : ∃ items, syncPlan l tree selectedIds = .ok items
  once : (plannedPackages l tree selectedIds).Perm (validPackages l tree selectedIds)
  fits : ∀ items, syncPlan l tree selectedIds = .ok items →
    ItemsFit sourceRevision ids 0 items db
  apart : ∀ items, syncPlan l tree selectedIds = .ok items → ∀ r, .report r ∈ items →
    ∀ p ∈ planned items, p.package.id = r.questionId → p.package.Stored db

end

section

variable {l : Loader C} {tree : ContentTree} {selectedIds : List Str} {sourceRevision : Str}
  {ids : Nat → CatalogueIds} {db : Catalogue C}

theorem runSync_eq {items : List (SyncItem C)} (h : syncPlan l tree selectedIds = .ok items)
    (ids : Nat → CatalogueIds) (db : Catalogue C) :
    runSync l tree selectedIds sourceRevision ids db = syncItems sourceRevision ids 0 items db := by
  unfold runSync
  rw [h]

theorem plannedPackages_eq {items : List (SyncItem C)}
    (h : syncPlan l tree selectedIds = .ok items) : plannedPackages l tree selectedIds = planned items := by
  unfold plannedPackages
  rw [h]

theorem SyncFits.truthful (hconsistent : db.Consistent)
    (h : SyncFits l tree selectedIds sourceRevision ids db) :
    SyncTruthful l tree selectedIds sourceRevision ids db := by
  obtain ⟨items, hplan⟩ := h.loads
  have honce := h.once
  rw [plannedPackages_eq hplan] at honce
  have hplanOf := syncPlan_ok hplan
  have hids := hplanOf.ids_nodup honce
  have hfits := h.fits items hplan
  obtain ⟨db', results, hrun, hlast, hstored, hinvalid⟩ := syncItems_stored hconsistent hids hfits
  have hrunSync : runSync l tree selectedIds sourceRevision ids db = (db', .ok results) :=
    (runSync_eq hplan ids db).trans hrun
  constructor
  · rw [hrunSync]
    exact ⟨results, rfl⟩
  · exact h.once
  · intro results' hresults r hr _ p hp _ _
    rw [hrunSync]
    obtain ⟨q, v, hsync⟩ := hstored p (honce.mem_iff.mpr hp)
    exact ⟨q, v, hsync.question, hsync.version, hsync.contentHash, hsync.body⟩
  · intro results' hresults r hr hstatus
    rw [hrunSync] at hresults ⊢
    cases hresults
    have hreport := hinvalid r hr hstatus
    by_cases hmem : r.questionId ∈ (planned items).map fun p => p.package.id
    · obtain ⟨p, hp, hid⟩ := List.mem_map.mp hmem
      -- the valid package of this identifier is left as it is
      obtain ⟨r', -, before, after, idsp, hturn⟩ := (syncItems_turns hconsistent hids hrun).1 p hp
      have hbefore : p.package.Stored before :=
        (h.apart items hplan r hreport p hp hid).of_rows hturn.rowsBefore hturn.tables
      cases (synchronizePackage_unchanged hturn.consistent hbefore).symm.trans hturn.ok
      rw [← hid]
      exact hturn.rowsAfter.trans hturn.rowsBefore
    · exact (syncItems_keeps hconsistent hrun).rows _ hmem
  · intro ids'
    obtain ⟨results', hagain, hunchanged⟩ :=
      @syncItems_unchanged C db' sourceRevision ids' 0 items hlast hstored fun _ => hfits.found hrun
    rw [hrunSync]
    refine ⟨results', (runSync_eq hplan ids' db').trans hagain, fun p hp => ?_⟩
    exact hunchanged p (honce.mem_iff.mpr hp)

/-- A package that is reported `unchanged` by a run that changes nothing has its
columns and its hash in the catalogue. -/
theorem columns_of_unchanged {p : LoadedContentPackage C} {before after : Catalogue C}
    {idsp : CatalogueIds} (hkeyed : before.Keyed)
    (h : synchronizePackage sourceRevision p idsp before = .ok (after, p.result .unchanged [])) :
    ∃ q v, after.questionByExternalId p.id = some q ∧ q.slug = p.slug
      ∧ after.tracks.lookup p.primaryTrack = some q.primaryTrackId
      ∧ q.competencies = p.questionCompetencies after ∧ after.versionOf q.id p.version = some v
      ∧ v.contentHash = p.contentHash := by
  generalize hresult : p.result .unchanged [] = r at h
  cases synchronizePackage_writes hkeyed h with
  | unchanged htrack hq hv hhash =>
      rename_i q v trackId
      exact ⟨p.writeQuestion trackId before q, v, writeQuestion_found hq trackId, rfl, htrack, rfl, hv,
        hhash⟩
  | _ => cases hresult

/-- What the first run has reported for a package that the second one finds
unchanged. -/
theorem status_of_unchanged {p : LoadedContentPackage C} {before after : Catalogue C}
    {idsp : CatalogueIds} {r : PackageSyncResult} (hkeyed : before.Keyed)
    (h : synchronizePackage sourceRevision p idsp before = .ok (after, r)) {q : QuestionRow}
    {v : VersionRow C} (htrack : ∃ trackId, after.tracks.lookup p.primaryTrack = some trackId)
    (hq : after.questionByExternalId p.id = some q) (hv : after.versionOf q.id p.version = some v)
    (hhash : v.contentHash = p.contentHash) :
    (r.status = .inserted ∨ r.status = .updated ∨ r.status = .unchanged)
      ∧ r.questionId = p.id ∧ r.version = p.version := by
  cases synchronizePackage_writes hkeyed h with
  | untracked hnone =>
      obtain ⟨trackId, htrack⟩ := htrack
      exact nomatch hnone.symm.trans htrack
  | unchanged => exact ⟨.inr (.inr rfl), rfl, rfl⟩
  | immutable htrack' hq' hv' hhash' hstate =>
      rename_i q' v' trackId
      cases (writeQuestion_found hq' trackId).symm.trans hq
      have hversion : before.versionOf q'.id p.version = some v := hv
      cases hv'.symm.trans hversion
      exact absurd hhash hhash'
  | updated => exact ⟨.inr (.inl rfl), rfl, rfl⟩
  | added => exact ⟨.inl rfl, rfl, rfl⟩
  | created => exact ⟨.inl rfl, rfl, rfl⟩

theorem SyncTruthful.fits (hconsistent : db.Consistent)
    (h : SyncTruthful l tree selectedIds sourceRevision ids db) :
    SyncFits l tree selectedIds sourceRevision ids db := by
  obtain ⟨results, hcompletes⟩ := h.completes
  cases hplan : syncPlan l tree selectedIds with
  | error e =>
      unfold runSync at hcompletes
      rw [hplan] at hcompletes
      cases hcompletes
  | ok items =>
      have honce := h.once
      rw [plannedPackages_eq hplan] at honce
      have hplanOf := syncPlan_ok hplan
      have hids := hplanOf.ids_nodup honce
      cases hrun : syncItems sourceRevision ids 0 items db with
      | mk db' outcome =>
          have hrunSync : runSync l tree selectedIds sourceRevision ids db = (db', outcome) :=
            (runSync_eq hplan ids db).trans hrun
          rw [hrunSync] at hcompletes
          cases hcompletes
          have hkeeps := syncItems_keeps hconsistent hrun
          obtain ⟨hturns, -⟩ := syncItems_turns hconsistent hids hrun
          have hstored : ∀ p ∈ planned items, p.package.Stored db' := by
            intro p hp
            have hvalid := honce.mem_iff.mp hp
            obtain ⟨results', hagain, hunchanged⟩ := h.again ids
            rw [hrunSync] at hagain
            have hagain := (runSync_eq hplan ids db').symm.trans hagain
            -- the second run's result is the one of the package's turn
            obtain ⟨-, hresults⟩ := syncItems_turns hkeeps.consistent hids hagain
            rcases hresults _ (hunchanged p hvalid) with hreport | ⟨q, hq, before, after, idsq, hturn⟩
            · cases hplanOf.reports _ hreport
            have hid : p.package.id = q.package.id := by
              obtain ⟨-, hid, -⟩ := result_of_ok hturn.consistent.toKeyed hturn.ok
              exact hid
            have hsame : p = q := List.inj_on_of_nodup_map hids hp hq hid
            subst hsame
            obtain ⟨w, v, hw, hslug, htrack, hcompetencies, hv, hhash⟩ :=
              columns_of_unchanged hturn.consistent.toKeyed hturn.ok
            have htables := (synchronizePackage_writes hturn.consistent.toKeyed hturn.ok).tables
            have hw' := (rowsOf_question hturn.rowsAfter).trans hw
            have hv' := (rowsOf_version hturn.rowsAfter hw).trans hv
            -- the first run has reported it, and its content with it
            obtain ⟨r₁, hr₁, before₁, after₁, ids₁, hturn₁⟩ := hturns p hp
            have htracks : after₁.tracks = db'.tracks := by
              rw [(synchronizePackage_writes hturn₁.consistent.toKeyed hturn₁.ok).tables.1,
                hturn₁.tables.1, hkeeps.tables.1]
            have hw₁ := (rowsOf_question hturn₁.rowsAfter).symm.trans hw'
            have hv₁ := (rowsOf_version hturn₁.rowsAfter hw₁).symm.trans hv'
            have htrack' : db'.tracks.lookup p.package.primaryTrack = some w.primaryTrackId := by
              rw [← hturn.tables.1, ← htables.1]
              exact htrack
            obtain ⟨hstatus, hquestionId, hversion⟩ :=
              status_of_unchanged hturn₁.consistent.toKeyed hturn₁.ok
                ⟨_, htracks ▸ htrack'⟩ hw₁ hv₁ hhash
            obtain ⟨w', v₂, hw₂, hv₂, -, hbody⟩ := h.stored results (by rw [hrunSync]) r₁ hr₁ hstatus p
              hvalid hquestionId.symm hversion.symm
            rw [hrunSync] at hw₂ hv₂
            cases hw'.symm.trans hw₂
            cases hv'.symm.trans hv₂
            refine ⟨w, v, hw', hslug, htrack', ?_, hv', hhash, hbody⟩
            unfold LoadedContentPackage.questionCompetencies at hcompetencies ⊢
            rw [hcompetencies, htables.2, hturn.tables.2]
          refine ⟨⟨items, hplan⟩, h.once, fun items' hitems => ?_, fun items' hitems r hr p hp hid => ?_⟩
          · cases hplan.symm.trans hitems
            exact itemsFit_of_stored hconsistent hids hrun hstored
          · cases hplan.symm.trans hitems
            have hkept := h.kept results (by rw [hrunSync]) r (mem_results_of_report hr hrun)
              (hplanOf.reports r hr)
            rw [hrunSync, ← hid] at hkept
            exact (hstored p hp).of_rows hkept.symm ⟨hkeeps.tables.1.symm, hkeeps.tables.2.symm⟩

end

/-! ## Two trees -/

/-- A loader that stores the rubric of one question. -/
def rubricLoader : Loader Bytes where
  parse _ sidecars := .ok {
    id := "SQL-001"
    slug := "join-basics"
    version := "1.0.0"
    title := "Join basics"
    primaryTrack := "sql-analytics"
    secondarySkills := []
    relatedQuestionIds := []
    authorId := "ann"
    tests := none
    provenanceHash := "sha256:h1"
    solutionHash := "sha256:h1"
    solutionQuestionId := "SQL-001"
    solutionVersion := "1.0.0"
    body := sidecars.rubric }
  sha256 _ := "h1"
  casefold text := text

def rubricTree (rubric : Bytes) : ContentTree where
  directories := [⟨"questions/sql/SQL-001", "SQL-001", [],
    ⟨some [], some rubric, some [], some [], some []⟩, some true⟩]
  manifestIds := ["SQL-001"]
  distinct := List.nodup_singleton _

def trackedCatalogue : Catalogue Bytes where
  questions := []
  versions := []
  publications := []
  roles := []
  tracks := [("sql-analytics", "track-1")]
  competencies := []

theorem trackedCatalogue_consistent : trackedCatalogue.Consistent :=
  ⟨⟨List.nodup_nil, List.nodup_nil, List.nodup_nil, fun _ h => (nomatch h), fun _ h => (nomatch h)⟩,
    List.nodup_nil⟩

def firstIds (_ : Nat) : CatalogueIds := ⟨"question-1", "version-1"⟩

end Rigor
