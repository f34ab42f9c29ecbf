import Rigor.ImportAccounting

/-!
# Taking an import back

The rollback of an import deletes the versions that it has inserted and the
questions that are left without any. What the upsert of a draft wrote over a
question that was there before stays, and a question that was there without
a version goes with its first one (`import_undone`).
-/

namespace Rigor

open Py

variable {P C : Type} {p : Pipeline P C} {u : Upload}

/-! ## What a draft writes -/

/-- The keys of the tables. -/
structure Catalogue.Keyed (db : Catalogue C) : Prop where
  questionIds : (db.questions.map QuestionRow.id).Nodup
  externalIds : (db.questions.map QuestionRow.externalId).Nodup
  versionIds : (db.versions.map VersionRow.id).Nodup
  versionQuestion : ∀ v ∈ db.versions, v.questionId ∈ db.questions.map QuestionRow.id
  publicationVersion : ∀ e ∈ db.publications, e.questionVersionId ∈ db.versions.map VersionRow.id

inductive Drafted (u : Upload) (q : UniversalQuestion C) (ids : CatalogueIds) (db : Catalogue C) :
    Catalogue C → Uuid → Prop where
  | reused {row : QuestionRow} {v : VersionRow C} {trackId : Uuid}
      (htrack : db.tracks.lookup q.primaryTrack = some trackId)
      (hrow : db.questionByExternalId q.id = some row)
      (hv : db.versionOf row.id q.version = some v) :
      Drafted u q ids db (db.updateQuestion row.id (q.overwrite u trackId)) v.id
  | added {row : QuestionRow} {trackId : Uuid}
      (htrack : db.tracks.lookup q.primaryTrack = some trackId)
      (hrow : db.questionByExternalId q.id = some row)
      (hv : db.versionOf row.id q.version = none) (hid : db.version ids.versionId = none) :
      Drafted u q ids db { db.updateQuestion row.id (q.overwrite u trackId) with
        versions := db.versions ++ [q.versionRow u row.id ids.versionId] } ids.versionId
  | created {trackId : Uuid} (htrack : db.tracks.lookup q.primaryTrack = some trackId)
      (hnone : db.questionByExternalId q.id = none) (hquestion : db.question ids.questionId = none)
      (hid : db.version ids.versionId = none) :
      Drafted u q ids db { db with
        questions := db.questions ++ [q.questionRow u trackId ids.questionId]
        versions := db.versions ++ [q.versionRow u ids.questionId ids.versionId] } ids.versionId

section

variable {q : UniversalQuestion C} {ids : CatalogueIds} {db db' : Catalogue C} {versionId : Uuid}

theorem not_mem_of_question_none {id : Uuid} (h : db.question id = none) :
    id ∉ db.questions.map QuestionRow.id := by
  intro hmem
  obtain ⟨q, hq, rfl⟩ := List.mem_map.mp hmem
  obtain ⟨q', hq'⟩ := Tables.find_isSome_of_mem QuestionRow.id hq
  exact nomatch h.symm.trans hq'

theorem not_mem_of_version_none {id : Uuid} (h : db.version id = none) :
    id ∉ db.versions.map VersionRow.id := by
  intro hmem
  obtain ⟨v, hv, rfl⟩ := List.mem_map.mp hmem
  obtain ⟨v', hv'⟩ := Tables.find_isSome_of_mem VersionRow.id hv
  exact nomatch h.symm.trans hv'

theorem createDraft_ok (hkeyed : db.Keyed)
    (h : createDraft p u q ids db = .ok (db', versionId)) : Drafted u q ids db db' versionId := by
  unfold createDraft at h
  split at h
  · cases h
  · rename_i trackId htrack
    split at h
    · cases h
    obtain ⟨⟨upserted, questionId⟩, hupsert, h⟩ := bind_eq_ok h
    have hupsert := mapError_eq_ok hupsert
    dsimp only at h
    unfold upsertQuestion at hupsert
    split at hupsert
    · rename_i row hrow
      split_ifs at hupsert
      cases hupsert
      split at h
      · rename_i v hv
        split_ifs at h
        cases h
        exact .reused htrack hrow hv
      · rename_i hv
        split_ifs at h with _ hid
        cases h
        exact .added htrack hrow hv (Option.not_isSome_iff_eq_none.mp hid)
    · rename_i hnone
      split_ifs at hupsert with _ hquestion
      cases hupsert
      have hquestion : db.question ids.questionId = none :=
        Option.not_isSome_iff_eq_none.mp hquestion
      split at h
      · rename_i v hv
        have hkey := List.find?_some hv
        simp only [decide_eq_true_eq] at hkey
        have hmem := hkeyed.versionQuestion v (List.mem_of_find?_eq_some hv)
        rw [show v.questionId = ids.questionId from hkey.1] at hmem
        exact absurd hmem (not_mem_of_question_none hquestion)
      · split_ifs at h with _ hid
        cases h
        exact .created htrack hnone hquestion (Option.not_isSome_iff_eq_none.mp hid)

end

/-! ## What the loop writes -/

/-- What a record that goes through does to the batch. -/
inductive RecordWrites (p : Pipeline P C) (u : Upload) (ids : CatalogueIds) (batch : Batch C)
    (record : SourceRecord P) : Batch C → Prop where
  | noted (seen slugs : List Str) (item : ImportItem) (hseen : batch.ids ⊆ seen)
      (hnone : ∀ q, ¬Drafts p u batch record q) :
      RecordWrites p u ids batch record ⟨{ batch.library with
        items := batch.library.items ++ [item] }, seen, slugs⟩
  | drafted (q : UniversalQuestion C) (db : Catalogue C) (versionId : Uuid) (item : ImportItem)
      (slugs : List Str) (hdrafts : Drafts p u batch record q) (hnew : q.id ∉ batch.ids)
      (hdrafted : Drafted u q ids batch.library.catalogue db versionId)
      (himport : item.importId = u.importId) (hitem : item.questionVersionId = some versionId) :
      RecordWrites p u ids batch record ⟨{ batch.library with
        catalogue := db, items := batch.library.items ++ [item] }, q.id :: batch.ids, slugs⟩

section

variable {ids : CatalogueIds} {batch batch' : Batch C} {ordinal : Nat} {record : SourceRecord P}
  {item : ImportItem}

theorem persist_ok {item' : ImportItem} (h : batch.persist p record item = (batch', .ok item')) :
    batch' = { batch with library := { batch.library with items := batch.library.items ++ [item] } }
      ∧ item' = item := by
  unfold Batch.persist persistItem at h
  split at h
  · cases h
  · rename_i hok
    split_ifs at hok
    cases hok
    cases h
    exact ⟨rfl, rfl⟩

/-- A question whose identifier was seen before has an error. -/
theorem not_mem_of_passed {q : UniversalQuestion C} (h : (checkQuestion p q batch).errors = []) :
    q.id ∉ batch.ids := by
  intro hmem
  unfold checkQuestion identityFindings at h
  dsimp only at h
  rw [if_pos hmem] at h
  simp only [List.append_eq_nil_iff, List.cons_ne_nil, false_and, and_false] at h

theorem processRecord_writes (hkeyed : batch.library.catalogue.Keyed)
    (h : processRecord p u ids batch ordinal record = (batch', .ok item)) :
    RecordWrites p u ids batch record batch' := by
  unfold processRecord at h
  cases hkind : record.kind with
  | metadataDraft =>
      rw [hkind] at h
      obtain ⟨rfl, -⟩ := persist_ok h
      exact .noted _ _ _ (List.Subset.refl _) fun q hq => nomatch hkind.symm.trans hq.complete
  | complete =>
      rw [hkind] at h
      dsimp only at h
      cases hparsed : p.validate record.payload with
      | error e =>
          rw [hparsed] at h
          obtain ⟨rfl, -⟩ := persist_ok h
          exact .noted _ _ _ (List.Subset.refl _) fun q hq => nomatch hparsed.symm.trans hq.parsed
      | ok q =>
          rw [hparsed] at h
          dsimp only at h
          have hdrafts (q' : UniversalQuestion C) (h : Drafts p u batch record q') : q' = q :=
            (Except.ok.inj (hparsed.symm.trans h.parsed)).symm
          by_cases herrors : (checkQuestion p q batch).errors = []
          · rw [if_neg (not_not.mpr herrors)] at h
            by_cases hdry : u.dryRun = true
            · rw [if_pos hdry] at h
              obtain ⟨rfl, -⟩ := persist_ok h
              exact .noted _ _ _ (List.subset_cons_self ..) fun q' hq' =>
                absurd hdry (by rw [hq'.wet]; decide)
            · rw [if_neg hdry] at h
              cases hcreate : createDraft p u q ids batch.library.catalogue with
              | error e =>
                  rw [hcreate] at h
                  cases h
              | ok r =>
                  obtain ⟨db, versionId⟩ := r
                  rw [hcreate] at h
                  obtain ⟨rfl, -⟩ := persist_ok h
                  exact .drafted q db versionId _ _
                    ⟨hkind, hparsed, herrors, by simpa using hdry⟩ (not_mem_of_passed herrors)
                    (createDraft_ok hkeyed hcreate) rfl rfl
          · rw [if_pos herrors] at h
            obtain ⟨rfl, -⟩ := persist_ok h
            refine .noted _ _ _ (List.subset_cons_self ..) fun q' hq' => ?_
            cases hdrafts q' hq'
            exact herrors hq'.passed

end

/-! ## The catalogue behind the loop -/

/-- A version that the import has inserted, and that an item of it refers to. -/
structure AddedBy (u : Upload) (lib : Library C) (v : VersionRow C) : Prop where
  revision : v.sourceRevision = importRevision u.importId
  state : v.state = importedState u.sourceMethod
  item : ∃ i ∈ lib.items, i.importId = u.importId ∧ i.questionVersionId = some v.id

/-- The catalogue is `db₀` with more versions, and with other rows for the
questions that the upload has named. -/
structure Imported (db₀ : Catalogue C) (u : Upload) (batch : Batch C) : Prop where
  keyed : batch.library.catalogue.Keyed
  unseen : ∀ w, w.externalId ∉ batch.ids →
    (w ∈ batch.library.catalogue.questions ↔ w ∈ db₀.questions)
  versions : ∃ added, batch.library.catalogue.versions = db₀.versions ++ added
    ∧ ∀ v ∈ added, AddedBy u batch.library v
  rest : { batch.library.catalogue with questions := db₀.questions, versions := db₀.versions } = db₀

section

variable {db₀ db db' : Catalogue C} {q : UniversalQuestion C} {ids : CatalogueIds}
  {versionId : Uuid}

theorem Catalogue.Keyed.row_eq (h : db.Keyed) {r row : QuestionRow} (hr : r ∈ db.questions)
    (hrow : row ∈ db.questions) (hid : r.id = row.id) : r = row :=
  List.inj_on_of_nodup_map h.questionIds hr hrow hid

theorem Catalogue.Keyed.row_eq_of_externalId (h : db.Keyed) {r row : QuestionRow}
    (hr : r ∈ db.questions) (hrow : row ∈ db.questions) (hid : r.externalId = row.externalId) :
    r = row :=
  List.inj_on_of_nodup_map h.externalIds hr hrow hid

theorem mem_of_externalId {externalId : Str} {row : QuestionRow}
    (h : db.questionByExternalId externalId = some row) :
    row ∈ db.questions ∧ row.externalId = externalId :=
  ⟨Tables.mem_of_find h, Tables.key_of_find h⟩

/-- A version more, of a question that is there. -/
theorem Catalogue.Keyed.append_version (h : db.Keyed) {v : VersionRow C}
    (hid : db.version v.id = none) (hquestion : v.questionId ∈ db.questions.map QuestionRow.id) :
    Catalogue.Keyed { db with versions := db.versions ++ [v] } where
  questionIds := h.questionIds
  externalIds := h.externalIds
  versionIds := by
    rw [List.map_append]
    exact List.Nodup.append h.versionIds (List.nodup_singleton _)
      (List.disjoint_singleton.mpr (not_mem_of_version_none hid))
  versionQuestion w hw := by
    rcases List.mem_append.mp hw with hw | hw
    · exact h.versionQuestion w hw
    · rw [List.mem_singleton.mp hw]
      exact hquestion
  publicationVersion e he := by
    rw [List.map_append]
    exact List.mem_append_left _ (h.publicationVersion e he)

theorem Catalogue.Keyed.update_question (h : db.Keyed) (id : Uuid) {f : QuestionRow → QuestionRow}
    (hid : ∀ r, (f r).id = r.id) (hexternal : ∀ r, (f r).externalId = r.externalId) :
    (db.updateQuestion id f).Keyed := by
  have hids : (db.updateQuestion id f).questions.map QuestionRow.id
      = db.questions.map QuestionRow.id := Tables.map_update fun r _ _ => hid r
  have hexternals : (db.updateQuestion id f).questions.map QuestionRow.externalId
      = db.questions.map QuestionRow.externalId := Tables.map_update fun r _ _ => hexternal r
  exact ⟨hids ▸ h.questionIds, hexternals ▸ h.externalIds, h.versionIds,
    hids ▸ h.versionQuestion, h.publicationVersion⟩

theorem Catalogue.Keyed.append_question (h : db.Keyed) {row : QuestionRow}
    (hid : db.question row.id = none) (hexternal : db.questionByExternalId row.externalId = none) :
    Catalogue.Keyed { db with questions := db.questions ++ [row] } where
  questionIds := by
    rw [List.map_append]
    exact List.Nodup.append h.questionIds (List.nodup_singleton _)
      (List.disjoint_singleton.mpr (not_mem_of_question_none hid))
  externalIds := by
    rw [List.map_append]
    refine List.Nodup.append h.externalIds (List.nodup_singleton _)
      (List.disjoint_singleton.mpr fun hmem => ?_)
    obtain ⟨r, hr, heq⟩ := List.mem_map.mp hmem
    obtain ⟨r', hr'⟩ := Tables.find_isSome_of_mem QuestionRow.externalId hr
    rw [heq] at hr'
    exact nomatch hexternal.symm.trans hr'
  versionIds := h.versionIds
  versionQuestion w hw := by
    rw [List.map_append]
    exact List.mem_append_left _ (h.versionQuestion w hw)
  publicationVersion := h.publicationVersion

theorem Drafted.keyed (h : Drafted u q ids db db' versionId) (hkeyed : db.Keyed) : db'.Keyed := by
  cases h with
  | reused htrack hrow hv =>
      exact hkeyed.update_question _ (f := q.overwrite u _) (fun _ => rfl) fun _ => rfl
  | added htrack hrow hv hid =>
      rename_i row trackId
      have hupdated := hkeyed.update_question row.id (f := q.overwrite u trackId) (fun _ => rfl)
        fun _ => rfl
      refine hupdated.append_version (v := q.versionRow u row.id ids.versionId) hid ?_
      have hids : (db.updateQuestion row.id (q.overwrite u trackId)).questions.map QuestionRow.id
          = db.questions.map QuestionRow.id := Tables.map_update fun _ _ _ => rfl
      exact hids ▸ List.mem_map_of_mem (mem_of_externalId hrow).1
  | created htrack hnone hquestion hid =>
      rename_i trackId
      have happended := @Catalogue.Keyed.append_question C db hkeyed
        (q.questionRow u trackId ids.questionId) hquestion hnone
      refine happended.append_version (v := q.versionRow u ids.questionId ids.versionId) hid ?_
      exact List.mem_map_of_mem (f := QuestionRow.id)
        (List.mem_append_right _ (List.mem_singleton_self _))

/-- Rows of other questions are as they were. -/
theorem Drafted.mem_other (h : Drafted u q ids db db' versionId) (hkeyed : db.Keyed)
    {w : QuestionRow} (hother : w.externalId ≠ q.id) : w ∈ db'.questions ↔ w ∈ db.questions := by
  have hupdate {row : QuestionRow} {trackId : Uuid} (hrow : db.questionByExternalId q.id = some row) :
      w ∈ Tables.update QuestionRow.id row.id (q.overwrite u trackId) db.questions
        ↔ w ∈ db.questions := by
    obtain ⟨hmem, hexternal⟩ := mem_of_externalId hrow
    constructor
    · intro hw
      rcases Tables.mem_update hw with ⟨hw, -⟩ | ⟨r, hr, hid, rfl⟩
      · exact hw
      · cases hkeyed.row_eq hr hmem hid
        exact absurd hexternal hother
    · intro hw
      refine Tables.mem_update_of_ne hw fun hid => hother ?_
      rw [hkeyed.row_eq hw hmem hid]
      exact hexternal
  cases h with
  | reused htrack hrow hv => exact hupdate hrow
  | added htrack hrow hv hid => exact hupdate hrow
  | created htrack hnone hquestion hid =>
      rename_i trackId
      refine ⟨fun hw => ?_, fun hw => List.mem_append_left _ hw⟩
      rcases List.mem_append.mp hw with hw | hw
      · exact hw
      · rw [List.mem_singleton.mp hw] at hother
        exact absurd rfl hother

/-- The versions are those from before, and perhaps the one of the draft. -/
theorem Drafted.versions (h : Drafted u q ids db db' versionId) :
    db'.versions = db.versions ∨ ∃ questionId,
      db'.versions = db.versions ++ [q.versionRow u questionId versionId] := by
  cases h with
  | reused => exact .inl rfl
  | added => exact .inr ⟨_, rfl⟩
  | created => exact .inr ⟨_, rfl⟩

/-- The row that a draft writes over a question, which has a version then. -/
theorem Drafted.overwrites (h : Drafted u q ids db db' versionId) {row : QuestionRow}
    (hrow : db.questionByExternalId q.id = some row) :
    ∃ trackId, db.tracks.lookup q.primaryTrack = some trackId
      ∧ q.overwrite u trackId row ∈ db'.questions ∧ ∃ v ∈ db'.versions, v.questionId = row.id := by
  cases h with
  | reused htrack hrow' hv =>
      cases hrow.symm.trans hrow'
      refine ⟨_, htrack, Tables.mem_update_of_eq (mem_of_externalId hrow).1 rfl, _,
        List.mem_of_find?_eq_some hv, ?_⟩
      have hkey := List.find?_some hv
      simp only [decide_eq_true_eq] at hkey
      exact hkey.1
  | added htrack hrow' hv hid =>
      cases hrow.symm.trans hrow'
      exact ⟨_, htrack, Tables.mem_update_of_eq (mem_of_externalId hrow).1 rfl, _,
        List.mem_append_right _ (List.mem_singleton_self _), rfl⟩
  | created htrack hnone hquestion hid => exact nomatch hnone.symm.trans hrow

theorem Drafted.rest (h : Drafted u q ids db db' versionId) (questions : List QuestionRow)
    (versions : List (VersionRow C)) :
    { db' with questions := questions, versions := versions }
      = { db with questions := questions, versions := versions } := by
  cases h <;> rfl

theorem AddedBy.mono {lib lib' : Library C} {v : VersionRow C} (h : AddedBy u lib v)
    (hitems : lib.items ⊆ lib'.items) : AddedBy u lib' v := by
  obtain ⟨i, hi, himport, hversion⟩ := h.item
  exact ⟨h.revision, h.state, i, hitems hi, himport, hversion⟩

theorem RecordWrites.imported {batch batch' : Batch C} {record : SourceRecord P}
    (hw : RecordWrites p u ids batch record batch') (h : Imported db₀ u batch) :
    Imported db₀ u batch' := by
  obtain ⟨added, hversions, hadded⟩ := h.versions
  cases hw with
  | noted seen slugs item hseen hnone =>
      refine ⟨h.keyed, fun w hw => h.unseen w fun hmem => hw (hseen hmem), ⟨added, hversions, ?_⟩,
        h.rest⟩
      exact fun v hv => (hadded v hv).mono (List.subset_append_left ..)
  | drafted q db versionId item slugs hdrafts hnew hdrafted himport hitem =>
      refine ⟨hdrafted.keyed h.keyed, fun w hw => ?_, ?_, ?_⟩
      · obtain ⟨hother, hunseen⟩ := not_or.mp fun h => hw (List.mem_cons.mpr h)
        exact (hdrafted.mem_other h.keyed hother).trans (h.unseen w hunseen)
      · have hold : ∀ v ∈ added, AddedBy u { batch.library with
            catalogue := db, items := batch.library.items ++ [item] } v :=
          fun v hv => (hadded v hv).mono (List.subset_append_left ..)
        rcases hdrafted.versions with hsame | ⟨questionId, hone⟩
        · exact ⟨added, hsame.trans hversions, hold⟩
        · refine ⟨added ++ [q.versionRow u questionId versionId], ?_, fun v hv => ?_⟩
          · dsimp only
            rw [hone, hversions, List.append_assoc]
          · rcases List.mem_append.mp hv with hv | hv
            · exact hold v hv
            · rw [List.mem_singleton.mp hv]
              exact ⟨rfl, rfl, item, List.mem_append_right _ (List.mem_singleton_self _), himport,
                hitem⟩
      · exact (hdrafted.rest _ _).trans h.rest

end

/-! ## What later records leave alone -/

/-- The rows of the questions that were seen, and the versions, stay. -/
structure Later (batch batch' : Batch C) : Prop where
  ids : batch.ids ⊆ batch'.ids
  seen : ∀ w, w.externalId ∈ batch.ids →
    (w ∈ batch'.library.catalogue.questions ↔ w ∈ batch.library.catalogue.questions)
  versions : batch.library.catalogue.versions ⊆ batch'.library.catalogue.versions

theorem Later.trans {batch₁ batch₂ batch₃ : Batch C} (h : Later batch₁ batch₂)
    (h' : Later batch₂ batch₃) : Later batch₁ batch₃ where
  ids := List.Subset.trans h.ids h'.ids
  seen w hw := (h'.seen w (h.ids hw)).trans (h.seen w hw)
  versions := List.Subset.trans h.versions h'.versions

section

variable {db₀ : Catalogue C} {ids : CatalogueIds} {batch batch' : Batch C}
  {record : SourceRecord P}

theorem RecordWrites.later (hw : RecordWrites p u ids batch record batch')
    (hkeyed : batch.library.catalogue.Keyed) : Later batch batch' := by
  cases hw with
  | noted seen slugs item hseen hnone => exact ⟨hseen, fun _ _ => Iff.rfl, List.Subset.refl _⟩
  | drafted q db versionId item slugs hdrafts hnew hdrafted himport hitem =>
      refine ⟨List.subset_cons_self .., fun w hw => ?_, ?_⟩
      · exact hdrafted.mem_other hkeyed fun heq => hnew (heq ▸ hw)
      · rcases hdrafted.versions with hsame | ⟨questionId, hone⟩
        · exact hsame ▸ List.Subset.refl _
        · exact hone ▸ List.subset_append_left ..

/-- A question that the upload has not named is the one from before. -/
theorem Imported.questionByExternalId (h : Imported db₀ u batch) (hkeyed : db₀.Keyed)
    {externalId : Str} (hunseen : externalId ∉ batch.ids) (row : QuestionRow) :
    batch.library.catalogue.questionByExternalId externalId = some row
      ↔ db₀.questionByExternalId externalId = some row := by
  constructor
  · intro hrow
    obtain ⟨hmem, rfl⟩ := mem_of_externalId hrow
    exact Tables.find_of_mem hkeyed.externalIds ((h.unseen row hunseen).mp hmem)
  · intro hrow
    obtain ⟨hmem, rfl⟩ := mem_of_externalId hrow
    exact Tables.find_of_mem h.keyed.externalIds ((h.unseen row hunseen).mpr hmem)

theorem Imported.tracks (h : Imported db₀ u batch) :
    batch.library.catalogue.tracks = db₀.tracks := by
  have htracks := congrArg Catalogue.tracks h.rest
  exact htracks

end

/-! ## When nothing is lost -/

/-- The draft leaves the columns of its question as they are, and the
question has a version of its own. -/
structure KeepsQuestion (u : Upload) (q : UniversalQuestion C) (row : QuestionRow)
    (db : Catalogue C) : Prop where
  slug : q.slug = row.slug
  track : db.tracks.lookup q.primaryTrack = some row.primaryTrackId
  visibility : u.visibility = row.visibility
  organization : u.organizationId = row.organizationId
  version : row.id ∈ db.versions.map VersionRow.questionId

/-- Every draft whose question was in `db` before the import keeps it. -/
def BatchKeeps (p : Pipeline P C) (u : Upload) (ids : Nat → CatalogueIds) (db : Catalogue C) :
    Batch C → Nat → List (SourceRecord P) → Prop
  | _, _, [] => True
  | batch, ordinal, record :: rest =>
      (∀ q, Drafts p u batch record q → ∀ row, db.questionByExternalId q.id = some row →
        KeepsQuestion u q row db)
      ∧ BatchKeeps p u ids db (processRecord p u (ids ordinal) batch ordinal record).1 (ordinal + 1)
        rest

/-- What was added has come with its versions, and no version was added to a
question that had none. -/
def Restorable (db₀ db : Catalogue C) : Prop :=
  ∃ new added, db.questions = db₀.questions ++ new ∧ db.versions = db₀.versions ++ added
    ∧ (∀ r ∈ new, r.id ∈ added.map VersionRow.questionId)
    ∧ ∀ v ∈ added, v.questionId ∈ db₀.questions.map QuestionRow.id →
      v.questionId ∈ db₀.versions.map VersionRow.questionId

section

variable {db₀ db db' : Catalogue C} {ids : CatalogueIds} {batch batch' : Batch C}
  {record : SourceRecord P} {q : UniversalQuestion C} {versionId : Uuid}

theorem KeepsQuestion.update (hkeyed : db.Keyed) {row : QuestionRow} {trackId : Uuid}
    (hrow : db.questionByExternalId q.id = some row)
    (htrack : db₀.tracks.lookup q.primaryTrack = some trackId) (h : KeepsQuestion u q row db₀) :
    db.updateQuestion row.id (q.overwrite u trackId) = db := by
  have hsame : q.overwrite u trackId row = row := by
    unfold UniversalQuestion.overwrite
    rw [h.slug, h.visibility, h.organization, Option.some.inj (htrack.symm.trans h.track)]
  have hrows : Tables.update QuestionRow.id row.id (q.overwrite u trackId) db.questions
      = db.questions := by
    refine (List.map_congr_left fun r hr => ?_).trans (List.map_id _)
    by_cases hid : r.id = row.id
    · rw [hkeyed.row_eq hr (mem_of_externalId hrow).1 hid, if_pos rfl, hsame]
      rfl
    · rw [if_neg hid]
      rfl
  unfold Catalogue.updateQuestion
  rw [hrows]

theorem Restorable.append_version (h : Restorable db₀ db) {v : VersionRow C}
    (hv : v.questionId ∈ db₀.versions.map VersionRow.questionId) :
    Restorable db₀ { db with versions := db.versions ++ [v] } := by
  obtain ⟨new, added, hquestions, hversions, hnew, hadded⟩ := h
  refine ⟨new, added ++ [v], hquestions, ?_, fun r hr => ?_, fun w hw hquestion => ?_⟩
  · dsimp only
    rw [hversions, List.append_assoc]
  · rw [List.map_append]
    exact List.mem_append_left _ (hnew r hr)
  · rcases List.mem_append.mp hw with hw | hw
    · exact hadded w hw hquestion
    · rw [List.mem_singleton.mp hw]
      exact hv

theorem Restorable.append_question (h : Restorable db₀ db) {row : QuestionRow} {v : VersionRow C}
    (hid : db.question row.id = none) (hv : v.questionId = row.id) :
    Restorable db₀ { db with
      questions := db.questions ++ [row]
      versions := db.versions ++ [v] } := by
  obtain ⟨new, added, hquestions, hversions, hnew, hadded⟩ := h
  refine ⟨new ++ [row], added ++ [v], ?_, ?_, fun r hr => ?_, fun w hw hquestion => ?_⟩
  · dsimp only
    rw [hquestions, List.append_assoc]
  · dsimp only
    rw [hversions, List.append_assoc]
  · rw [List.map_append]
    rcases List.mem_append.mp hr with hr | hr
    · exact List.mem_append_left _ (hnew r hr)
    · rw [List.mem_singleton.mp hr, ← hv]
      exact List.mem_append_right _ (List.mem_singleton_self _)
  · rcases List.mem_append.mp hw with hw | hw
    · exact hadded w hw hquestion
    · rw [List.mem_singleton.mp hw, hv] at hquestion
      refine absurd ?_ (not_mem_of_question_none hid)
      rw [hquestions, List.map_append]
      exact List.mem_append_left _ hquestion

theorem RecordWrites.restorable (hw : RecordWrites p u ids batch record batch')
    (hkeyed : db₀.Keyed) (himported : Imported db₀ u batch)
    (hkeeps : ∀ q, Drafts p u batch record q → ∀ row, db₀.questionByExternalId q.id = some row →
      KeepsQuestion u q row db₀)
    (h : Restorable db₀ batch.library.catalogue) : Restorable db₀ batch'.library.catalogue := by
  cases hw with
  | noted => exact h
  | drafted q db versionId item slugs hdrafts hnew hdrafted himport hitem =>
      have hkeep (row : QuestionRow)
          (hrow : batch.library.catalogue.questionByExternalId q.id = some row) :
          KeepsQuestion u q row db₀ :=
        hkeeps q hdrafts row ((himported.questionByExternalId hkeyed hnew row).mp hrow)
      cases hdrafted with
      | reused htrack hrow hv =>
          rw [himported.tracks] at htrack
          show Restorable db₀ (batch.library.catalogue.updateQuestion _ _)
          rw [(hkeep _ hrow).update himported.keyed hrow htrack]
          exact h
      | added htrack hrow hv hid =>
          rw [himported.tracks] at htrack
          have hsame := (hkeep _ hrow).update himported.keyed hrow htrack
          have happended := h.append_version
            (v := q.versionRow u _ ids.versionId) (hkeep _ hrow).version
          rw [← hsame] at happended
          exact happended
      | created htrack hnone hquestion hid => exact h.append_question hquestion rfl

end

/-! ## The loop -/

section

variable {db₀ : Catalogue C} {ids : Nat → CatalogueIds} {batch batch' : Batch C} {ordinal : Nat}
  {records : List (SourceRecord P)} {items : List ImportItem}

theorem processRecords_cons_ok {record : SourceRecord P}
    (h : processRecords p u ids batch ordinal (record :: records) = (batch', .ok items)) :
    ∃ batch₁ item rest, processRecord p u (ids ordinal) batch ordinal record = (batch₁, .ok item)
      ∧ processRecords p u ids batch₁ (ordinal + 1) records = (batch', .ok rest) := by
  unfold processRecords at h
  split at h
  · cases h
  · rename_i batch₁ item hrecord
    split at h
    · cases h
    · rename_i batch₂ rest hrest
      cases h
      exact ⟨batch₁, item, rest, hrecord, hrest⟩

theorem processRecords_imported
    (h : processRecords p u ids batch ordinal records = (batch', .ok items))
    (himported : Imported db₀ u batch) : Imported db₀ u batch' ∧ Later batch batch' := by
  induction records generalizing batch ordinal items with
  | nil =>
      cases h
      exact ⟨himported, List.Subset.refl _, fun _ _ => Iff.rfl, List.Subset.refl _⟩
  | cons record rest ih =>
      obtain ⟨batch₁, item, later, hrecord, hrest⟩ := processRecords_cons_ok h
      have hwrites := processRecord_writes himported.keyed hrecord
      obtain ⟨hlast, hlater⟩ := ih hrest (hwrites.imported himported)
      exact ⟨hlast, (hwrites.later himported.keyed).trans hlater⟩

theorem processRecords_restorable (hkeyed : db₀.Keyed)
    (h : processRecords p u ids batch ordinal records = (batch', .ok items))
    (himported : Imported db₀ u batch) (hrestorable : Restorable db₀ batch.library.catalogue)
    (hkeeps : BatchKeeps p u ids db₀ batch ordinal records) :
    Restorable db₀ batch'.library.catalogue := by
  induction records generalizing batch ordinal items with
  | nil =>
      cases h
      exact hrestorable
  | cons record rest ih =>
      obtain ⟨batch₁, item, later, hrecord, hrest⟩ := processRecords_cons_ok h
      have hwrites := processRecord_writes himported.keyed hrecord
      obtain ⟨hkeep, hkeeps⟩ := hkeeps
      rw [hrecord] at hkeeps
      exact ih hrest (hwrites.imported himported)
        (hwrites.restorable hkeyed himported hkeep hrestorable) hkeeps

end

/-! ## The rollback -/

/-- The catalogue behind a rollback: one that raises changes nothing. -/
def restoredCatalogue (importId : Uuid) (lib : Library C) : Catalogue C :=
  match rollbackImport importId lib with
  | .ok (lib', _) => lib'.catalogue
  | .error _ => lib.catalogue

/-- The questions that keep a version when `added` is deleted, or had got none of it. -/
def keptQuestions (db : Catalogue C) (added : List (VersionRow C)) (questions : List QuestionRow) :
    List QuestionRow :=
  questions.filter fun r => r.id ∉ added.map VersionRow.questionId
    ∨ r.id ∈ db.versions.map VersionRow.questionId

/-- No version carries the revision of the import. -/
def FreshRevision (importId : Uuid) (db : Catalogue C) : Prop :=
  ∀ v ∈ db.versions, v.sourceRevision ≠ importRevision importId

section

variable {db₀ : Catalogue C} {lib : Library C} {batch : Batch C}

theorem importedVersions_revision {importId : Uuid} {v : VersionRow C}
    (h : v ∈ importedVersions importId lib) : v.sourceRevision = importRevision importId := by
  obtain ⟨i, -, hv⟩ := List.mem_filterMap.mp h
  obtain ⟨id, -, hv⟩ := Option.bind_eq_some_iff.mp hv
  exact of_decide_eq_true (Option.filter_eq_some_iff.mp hv).2

/-- The versions of the import are those that the loop has added. -/
theorem Imported.mem_importedVersions (h : Imported db₀ u batch)
    (hfresh : FreshRevision u.importId db₀) {added : List (VersionRow C)}
    (hversions : batch.library.catalogue.versions = db₀.versions ++ added) (v : VersionRow C) :
    v ∈ importedVersions u.importId batch.library ↔ v ∈ added := by
  unfold importedVersions
  constructor
  · intro hv
    obtain ⟨i, -, hv⟩ := List.mem_filterMap.mp hv
    obtain ⟨id, -, hv⟩ := Option.bind_eq_some_iff.mp hv
    obtain ⟨hfind, hrevision⟩ := Option.filter_eq_some_iff.mp hv
    have hmem : v ∈ db₀.versions ++ added := hversions ▸ Tables.mem_of_find hfind
    rcases List.mem_append.mp hmem with hold | hnew
    · exact absurd (of_decide_eq_true hrevision) (hfresh v hold)
    · exact hnew
  · intro hv
    obtain ⟨added', hversions', hadded⟩ := h.versions
    obtain rfl : added' = added := List.append_cancel_left (hversions'.symm.trans hversions)
    have hadded := hadded v hv
    obtain ⟨i, hi, himport, hitem⟩ := hadded.item
    have hmem : v ∈ batch.library.catalogue.versions := hversions ▸ List.mem_append_right _ hv
    have hfind : batch.library.catalogue.version v.id = some v :=
      Tables.find_of_mem h.keyed.versionIds hmem
    refine List.mem_filterMap.mpr ⟨i, List.mem_filter.mpr ⟨hi, decide_eq_true himport⟩, ?_⟩
    rw [hitem]
    show (batch.library.catalogue.version v.id).filter _ = _
    rw [hfind]
    exact Option.filter_eq_some_iff.mpr ⟨rfl, decide_eq_true hadded.revision⟩

theorem deleteVersions_nil (db : Catalogue C) : deleteVersions [] [] db = db := by
  unfold deleteVersions
  simp only [List.not_mem_nil, not_false_eq_true, decide_true, true_or, List.filter_true]

/-- A rollback deletes the versions of the import, also where it raises
because there are none. -/
theorem restoredCatalogue_eq {importId : Uuid} {row : ContentImport}
    (hrow : lib.contentImport importId = some row) (hstatus : row.status ≠ .rolledBack)
    (hnone : row.rollbackAvailable = false → importedVersions importId lib = [])
    (hrolls : RollsBackImport importId lib) :
    restoredCatalogue importId lib
      = deleteVersions ((importedVersions importId lib).map VersionRow.id)
        ((importedVersions importId lib).map VersionRow.questionId) lib.catalogue := by
  unfold restoredCatalogue rollbackImport
  rw [hrow]
  dsimp only
  rw [if_neg hstatus]
  by_cases havailable : row.rollbackAvailable = false
  · rw [if_pos havailable, hnone havailable]
    exact (deleteVersions_nil _).symm
  rw [if_neg havailable]
  have hreviewed : ((importedVersions importId lib).filter fun v => v.state ∈ protectedStates) = [] :=
    List.filter_eq_nil_iff.mpr fun v hv => by simpa using hrolls.unprotected v hv
  rw [if_neg (not_not.mpr hreviewed)]
  by_cases hempty : (importedVersions importId lib).map VersionRow.id = []
  · rw [if_pos hempty, List.map_eq_nil_iff.mp hempty]
    exact (deleteVersions_nil _).symm
  have hunpublished : ¬∃ id ∈ (importedVersions importId lib).map VersionRow.id,
      lib.catalogue.WasPublished id := by
    rintro ⟨id, hid, hpublished⟩
    obtain ⟨v, hv, rfl⟩ := List.mem_map.mp hid
    exact hrolls.unpublished v hv hpublished
  rw [if_neg hempty, if_neg hunpublished]
  rfl

/-- The import is `rolled_back` behind a rollback. -/
theorem rollbackImport_again {importId : Uuid} {lib' : Library C} {count : Nat}
    (h : rollbackImport importId lib = .ok (lib', count)) :
    rollbackImport importId lib' = .ok (lib', 0) := by
  have hfinished {lib₁ lib₂ : Library C} {row : ContentImport}
      (hrow : lib₁.contentImport importId = some row) (himports : lib₂.imports = lib₁.imports) :
      rollbackImport importId (lib₂.updateImport importId ContentImport.rollBack)
        = .ok (lib₂.updateImport importId ContentImport.rollBack, 0) := by
    have hfound : (lib₂.updateImport importId ContentImport.rollBack).contentImport importId
        = some row.rollBack := by
      have hkey (row : ContentImport) : row.rollBack.id = row.id := rfl
      unfold Library.contentImport Library.updateImport at *
      rw [Tables.find_update hkey, himports, hrow, Option.map_some, if_pos (Tables.key_of_find hrow)]
    unfold rollbackImport
    rw [hfound]
    rfl
  unfold rollbackImport at h
  split at h
  · cases h
  · rename_i row hrow
    split_ifs at h with hstatus
    · cases h
      unfold rollbackImport
      rw [hrow]
      exact if_pos hstatus
    · dsimp only at h
      split_ifs at h
      · cases h
        exact hfinished hrow rfl
      · cases h
        exact hfinished hrow rfl

/-- The versions are those from before; the questions are those that keep a
version or never got one. -/
theorem deleteVersions_imported (h : Imported db₀ u batch) (hfresh : FreshRevision u.importId db₀)
    {added : List (VersionRow C)}
    (hversions : batch.library.catalogue.versions = db₀.versions ++ added) :
    deleteVersions ((importedVersions u.importId batch.library).map VersionRow.id)
        ((importedVersions u.importId batch.library).map VersionRow.questionId)
        batch.library.catalogue
      = { db₀ with questions := keptQuestions db₀ added batch.library.catalogue.questions } := by
  have hmap {β : Type} (f : VersionRow C → β) (b : β) :
      b ∈ (importedVersions u.importId batch.library).map f ↔ b ∈ added.map f := by
    simp only [List.mem_map, h.mem_importedVersions hfresh hversions]
  have hnodup := h.keyed.versionIds
  rw [hversions, List.map_append] at hnodup
  have hkept : (batch.library.catalogue.versions.filter fun v =>
      v.id ∉ (importedVersions u.importId batch.library).map VersionRow.id) = db₀.versions := by
    simp only [hmap]
    rw [hversions, List.filter_append]
    have hold : (db₀.versions.filter fun v => v.id ∉ added.map VersionRow.id) = db₀.versions :=
      List.filter_eq_self.mpr fun v hv => decide_eq_true fun hadded =>
        List.disjoint_of_nodup_append hnodup (List.mem_map_of_mem hv) hadded
    have hnew : (added.filter fun v => v.id ∉ added.map VersionRow.id) = [] :=
      List.filter_eq_nil_iff.mpr fun v hv => by simpa using ⟨v, hv, rfl⟩
    rw [hold, hnew, List.append_nil]
  unfold deleteVersions keptQuestions
  rw [hkept]
  dsimp only
  simp only [hmap]
  have hrest := h.rest
  rw [← hrest]

/-- What was restorable is restored. -/
theorem Restorable.keptQuestions_eq {db : Catalogue C} (hkeyed₀ : db₀.Keyed) (hkeyed : db.Keyed)
    (h : Restorable db₀ db) : ∃ added, db.versions = db₀.versions ++ added
      ∧ keptQuestions db₀ added db.questions = db₀.questions := by
  obtain ⟨new, added, hquestions, hversions, hnew, hadded⟩ := h
  have hnodup := hkeyed.questionIds
  rw [hquestions, List.map_append] at hnodup
  refine ⟨added, hversions, ?_⟩
  have hold : keptQuestions db₀ added db₀.questions = db₀.questions := by
    refine List.filter_eq_self.mpr fun r hr => decide_eq_true ?_
    by_cases hid : r.id ∈ added.map VersionRow.questionId
    · obtain ⟨v, hv, heq⟩ := List.mem_map.mp hid
      exact .inr (heq ▸ hadded v hv (heq ▸ List.mem_map_of_mem hr))
    · exact .inl hid
  have hgone : keptQuestions db₀ added new = [] := by
    refine List.filter_eq_nil_iff.mpr fun r hr => ?_
    rw [decide_eq_true_eq]
    rintro (hid | hid)
    · exact hid (hnew r hr)
    · obtain ⟨v, hv, heq⟩ := List.mem_map.mp hid
      refine List.disjoint_of_nodup_append hnodup ?_ (List.mem_map_of_mem hr)
      exact heq ▸ hkeyed₀.versionQuestion v hv
  unfold keptQuestions at *
  rw [hquestions, List.filter_append, hold, hgone, List.append_nil]

/-- A draft over a question from before shows in the end. -/
theorem RecordWrites.keepsQuestion {ids : CatalogueIds} {record : SourceRecord P}
    {batch₁ batch' : Batch C} {added : List (VersionRow C)}
    (hw : RecordWrites p u ids batch record batch₁) (hkeyed : db₀.Keyed)
    (himported : Imported db₀ u batch) (hlater : Later batch₁ batch')
    (hlast : Imported db₀ u batch')
    (hversions : batch'.library.catalogue.versions = db₀.versions ++ added)
    (hquestions : keptQuestions db₀ added batch'.library.catalogue.questions = db₀.questions)
    {q : UniversalQuestion C} (hq : Drafts p u batch record q) {row : QuestionRow}
    (hrow : db₀.questionByExternalId q.id = some row) : KeepsQuestion u q row db₀ := by
  cases hw with
  | noted seen slugs item hseen hnone => exact absurd hq (hnone q)
  | drafted q' db versionId item slugs hdrafts hnew hdrafted himport hitem =>
      obtain rfl : q = q' := Except.ok.inj (hq.parsed.symm.trans hdrafts.parsed)
      have hfound := (himported.questionByExternalId hkeyed hnew row).mpr hrow
      obtain ⟨trackId, htrack, hwritten, v, hv, hvrow⟩ := hdrafted.overwrites hfound
      rw [himported.tracks] at htrack
      have hkept : q.overwrite u trackId row ∈ batch'.library.catalogue.questions :=
        (hlater.seen _ ((mem_of_externalId hrow).2 ▸ List.mem_cons_self ..)).mpr hwritten
      have hmem : row ∈ db₀.questions := (mem_of_externalId hrow).1
      rw [← hquestions] at hmem
      obtain ⟨hstays, hid⟩ := List.mem_filter.mp hmem
      have hsame : q.overwrite u trackId row = row := hlast.keyed.row_eq hkept hstays rfl
      have hversion : v ∈ db₀.versions ++ added := hversions ▸ hlater.versions hv
      refine ⟨congrArg QuestionRow.slug hsame, ?_, congrArg QuestionRow.visibility hsame,
        congrArg QuestionRow.organizationId hsame, ?_⟩
      · rw [htrack]
        exact congrArg (some ∘ QuestionRow.primaryTrackId) hsame
      · rcases List.mem_append.mp hversion with hv | hv
        · exact hvrow ▸ List.mem_map_of_mem hv
        · refine (of_decide_eq_true hid).resolve_left fun h => h ?_
          exact hvrow ▸ List.mem_map_of_mem hv

theorem processRecords_keeps {ids : Nat → CatalogueIds} {ordinal : Nat} {batch' : Batch C}
    {records : List (SourceRecord P)} {items : List ImportItem} {added : List (VersionRow C)}
    (hkeyed : db₀.Keyed)
    (h : processRecords p u ids batch ordinal records = (batch', .ok items))
    (himported : Imported db₀ u batch)
    (hversions : batch'.library.catalogue.versions = db₀.versions ++ added)
    (hquestions : keptQuestions db₀ added batch'.library.catalogue.questions = db₀.questions) :
    BatchKeeps p u ids db₀ batch ordinal records := by
  induction records generalizing batch ordinal items with
  | nil => trivial
  | cons record rest ih =>
      obtain ⟨batch₁, item, later, hrecord, hrest⟩ := processRecords_cons_ok h
      have hwrites := processRecord_writes himported.keyed hrecord
      have himported₁ := hwrites.imported himported
      obtain ⟨hlast, hlater⟩ := processRecords_imported hrest himported₁
      refine ⟨fun q hq row hrow => ?_, ?_⟩
      · exact hwrites.keepsQuestion hkeyed himported hlater hlast hversions hquestions hq hrow
      · rw [hrecord]
        exact ih hrest himported₁

end

/-! ## Import and rollback -/

/-- The rollback brings the catalogue back, and a second one does nothing. -/
structure ImportUndone (importId : Uuid) (lib lib' : Library C) : Prop where
  restored : restoredCatalogue importId lib' = lib.catalogue
  again : ∀ lib'' count, rollbackImport importId lib' = .ok (lib'', count) →
    rollbackImport importId lib'' = .ok (lib'', 0)

/-- Every draft of the upload whose question was there keeps it. -/
def UploadKeeps (p : Pipeline P C) (r : UploadRequest) (importId : Uuid)
    (ids : Nat → CatalogueIds) (records : List (SourceRecord P)) (lib : Library C) : Prop :=
  ∀ organizationId, r.organizationId p = .ok organizationId →
    let u := r.upload importId organizationId
    BatchKeeps p u ids lib.catalogue ⟨openedLibrary u records lib, [], []⟩ 1 records

/-- What the loop has left of an upload that was imported. -/
theorem importUpload_ok {r : UploadRequest} {importId : Uuid} {ids : Nat → CatalogueIds}
    {records : List (SourceRecord P)} {lib lib' : Library C} {result : ImportResult}
    (h : importUpload p r importId ids records lib = (lib', .ok result)) :
    ∃ organizationId batch items, r.organizationId p = .ok organizationId
      ∧ processRecords p (r.upload importId organizationId) ids
        ⟨openedLibrary (r.upload importId organizationId) records lib, [], []⟩ 1 records
        = (batch, .ok items)
      ∧ result = importResult importId records.length items
      ∧ lib' = batch.library.updateImport importId
        (ContentImport.finish result (hasImported importId batch.library.catalogue)) := by
  unfold importUpload at h
  split_ifs at h
  · cases h
  · cases h
  split at h
  · cases h
  · rename_i organizationId horganization
    dsimp only at h
    split at h
    · cases h
    · rename_i batch items hloop
      cases h
      exact ⟨organizationId, batch, items, horganization, hloop, rfl, rfl⟩

theorem importResult_unrolled (importId : Uuid) (questionCount : Nat) (items : List ImportItem) :
    (importResult importId questionCount items).status ≠ .rolledBack := by
  unfold importResult
  dsimp only
  split_ifs <;> decide

theorem importedState_unprotected (sourceMethod : Str) :
    importedState sourceMethod ∉ protectedStates := by
  unfold importedState
  split_ifs <;> decide

/-- Nothing that the loop has added was reviewed or published. -/
theorem Imported.rollsBack {db₀ : Catalogue C} {batch : Batch C} (h : Imported db₀ u batch)
    (hkeyed : db₀.Keyed) (hfresh : FreshRevision u.importId db₀) :
    RollsBackImport u.importId batch.library := by
  obtain ⟨added, hversions, hadded⟩ := h.versions
  have hmem := h.mem_importedVersions hfresh hversions
  constructor
  · intro v hv
    rw [(hadded v ((hmem v).mp hv)).state]
    exact importedState_unprotected _
  · intro v hv hpublished
    have hpublications : batch.library.catalogue.publications = db₀.publications := by
      have hrest := congrArg Catalogue.publications h.rest
      exact hrest
    obtain ⟨e, he, hid⟩ := List.mem_map.mp hpublished
    rw [hpublications] at he
    have hold := hkeyed.publicationVersion e he
    have hnodup := h.keyed.versionIds
    rw [hversions, List.map_append] at hnodup
    rw [hid] at hold
    exact List.disjoint_of_nodup_append hnodup hold (List.mem_map_of_mem ((hmem v).mp hv))

/-- **A rollback takes an import back** exactly when no draft has written over
a question and no question had been without a version. -/
theorem import_undone {r : UploadRequest} {importId : Uuid} {ids : Nat → CatalogueIds}
    {records : List (SourceRecord P)} {lib lib' : Library C} {result : ImportResult}
    (hfresh : FreshImport importId lib) (hrevision : FreshRevision importId lib.catalogue)
    (hkeyed : lib.catalogue.Keyed)
    (himport : importUpload p r importId ids records lib = (lib', .ok result)) :
    ImportUndone importId lib lib' ↔ UploadKeeps p r importId ids records lib := by
  obtain ⟨organizationId, batch, items, horganization, hloop, rfl, rfl⟩ := importUpload_ok himport
  have hstart : Imported lib.catalogue (r.upload importId organizationId)
      ⟨openedLibrary (r.upload importId organizationId) records lib, [], []⟩ :=
    ⟨hkeyed, fun _ _ => Iff.rfl, ⟨[], (List.append_nil _).symm, fun _ h => nomatch h⟩, rfl⟩
  obtain ⟨hlast, -⟩ := processRecords_imported hloop hstart
  obtain ⟨added, hversions, -⟩ := hlast.versions
  have hrestored : restoredCatalogue importId (batch.library.updateImport importId
      (ContentImport.finish (importResult importId records.length items)
        (hasImported importId batch.library.catalogue)))
      = { lib.catalogue with
        questions := keptQuestions lib.catalogue added batch.library.catalogue.questions } := by
    have himports : batch.library.imports
        = (openedLibrary (r.upload importId organizationId) records lib).imports := by
      rcases processRecords_outcome (p := p) (u := r.upload importId organizationId) ids records _ 1
        with ⟨-, items', -, hdone⟩ | ⟨-, ⟨e, he⟩, -⟩
      · rw [hloop] at hdone
        exact hdone.imports
      · rw [hloop] at he
        cases he
    have hopened := contentImport_opened (u := r.upload importId organizationId) hfresh.imports
      himports
    have hrow := contentImport_finished hopened (importResult importId records.length items)
      (hasImported importId batch.library.catalogue)
    obtain ⟨hunprotected, hunpublished⟩ := hlast.rollsBack hkeyed hrevision
    refine (restoredCatalogue_eq hrow (importResult_unrolled importId records.length items)
      (fun havailable => ?_) ⟨hunprotected, hunpublished⟩).trans
      (deleteVersions_imported hlast hrevision hversions)
    have hnone : hasImported importId batch.library.catalogue = false := havailable
    refine List.eq_nil_iff_forall_not_mem.mpr fun v hv => ?_
    have hmem : v ∈ importedVersions importId batch.library := hv
    have hadded := (hlast.mem_importedVersions hrevision hversions v).mp hmem
    refine (List.any_eq_false.mp hnone) v ?_ (decide_eq_true (importedVersions_revision hmem))
    exact hversions ▸ List.mem_append_right _ hadded
  constructor
  · rintro ⟨hsame, -⟩ organizationId' horganization'
    cases horganization.symm.trans horganization'
    have hquestions := congrArg Catalogue.questions (hrestored.symm.trans hsame)
    exact processRecords_keeps hkeyed hloop hstart hversions hquestions
  · intro hkeeps
    have hrestorable : Restorable lib.catalogue batch.library.catalogue :=
      processRecords_restorable hkeyed hloop hstart
        ⟨[], [], (List.append_nil _).symm, (List.append_nil _).symm, nofun, nofun⟩
        (hkeeps organizationId horganization)
    obtain ⟨added', hversions', hquestions⟩ := hrestorable.keptQuestions_eq hkeyed hlast.keyed
    obtain rfl : added' = added := List.append_cancel_left (hversions'.symm.trans hversions)
    refine ⟨hrestored.trans ?_, fun lib'' count h => rollbackImport_again h⟩
    rw [hquestions]

/-! ## Two imports -/

theorem seededCatalogue_keyed : seededCatalogue.Keyed :=
  ⟨List.nodup_nil, List.nodup_nil, List.nodup_nil, fun _ h => (nomatch h), fun _ h => (nomatch h)⟩

theorem import_undone_draft : ImportUndone "import-1" seededLibrary
    (importUpload parsedPipeline publicUpload "import-1" draftIds [joinRecord] seededLibrary).1 := by
  have hfresh : FreshImport "import-1" seededLibrary := ⟨rfl, fun _ h => nomatch h⟩
  have hrevision : FreshRevision "import-1" seededLibrary.catalogue := fun _ h => nomatch h
  have himport : importUpload parsedPipeline publicUpload "import-1" draftIds [joinRecord]
      seededLibrary = (_, .ok _) := rfl
  refine (import_undone hfresh hrevision seededCatalogue_keyed himport).mpr ?_
  exact fun _ _ => ⟨fun _ _ _ hrow => (nomatch hrow), trivial⟩

def draftedLibrary : Library Unit :=
  (importUpload parsedPipeline publicUpload "import-1" draftIds [joinRecord] seededLibrary).1

/-- A new version of the same question, under another slug. -/
def renamedRecord : SourceRecord (UniversalQuestion Unit) :=
  ⟨universalQuestion "SQL-0001" "join-essentials" "1.1.0" "sql-analytics", .complete⟩

/-- The rollback deletes the new version and leaves the new slug. -/
theorem renamed_import_not_undone : ∃ lib' result,
    importUpload parsedPipeline publicUpload "import-2" (fun ordinal => draftIds (ordinal + 1))
      [renamedRecord] draftedLibrary = (lib', .ok result)
    ∧ ¬ImportUndone "import-2" draftedLibrary lib' := by
  refine ⟨_, _, rfl, fun h => ?_⟩
  have hslugs := congrArg (fun db => db.questions.map QuestionRow.slug) h.restored
  exact absurd hslugs (by decide)

end Rigor
