import Rigor.ContentImports
import Rigor.PublicationPointer

/-!
# Published content

`_synchronize_package` reads the version with one statement and writes it
with another; it has locked the row of the question before, so that no
transaction that writes this row commits in between. A version that was
published is kept by `immutableStates` while it is `published`, and by
nothing once it has been deprecated (`published_content`).
-/

namespace Rigor

open Py Runs

variable {C : Type}

/-! ## A synchronization in two statements -/

/-- A package whose question row is locked, with the snapshot that the
`SELECT` of its version has seen. -/
structure PendingSync (C : Type) where
  sourceRevision : Str
  package : LoadedContentPackage C
  ids : CatalogueIds
  questionId : Uuid
  snapshot : Catalogue C

/-- The version that was read. -/
def PendingSync.existing (s : PendingSync C) : Option (VersionRow C) :=
  s.snapshot.versionOf s.questionId s.package.version

/-- The statements of `_synchronize_package` up to the `SELECT` of the version. -/
def readVersion (sourceRevision : Str) (p : LoadedContentPackage C) (ids : CatalogueIds)
    (trackId : Uuid) (db : Catalogue C) : Except Failure (PendingSync C) := do
  let (synced, questionId) ← synchronizeQuestion p trackId ids.questionId db
  .ok ⟨sourceRevision, p, ids, questionId, synced⟩

/-- The statements behind it, and the commit. The solution of a version that
is gone cannot be inserted. -/
def PendingSync.write (s : PendingSync C) (trackId : Uuid) (db : Catalogue C) :
    Except Failure (Catalogue C × PackageSyncResult) := do
  let (synced, questionId) ← synchronizeQuestion s.package trackId s.ids.questionId db
  match s.existing with
  | some existing =>
      if existing.contentHash = s.package.contentHash then
        .ok (synced, s.package.result .unchanged [])
      else if existing.state ∈ immutableStates then
        .ok (synced, s.package.result .invalid
          ["approved or published versions are immutable; create a new version"])
      else if (synced.version existing.id).isNone then
        .error (.integrity "solutions_question_version_id_fkey")
      else
        .ok (synced.updateVersion existing.id (s.package.overwrite s.sourceRevision),
          s.package.result .updated [])
  | none =>
      if (synced.versionOf questionId s.package.version).isSome then
        .error (.integrity "uq_question_versions_version")
      else if (synced.version s.ids.versionId).isSome then
        .error (.integrity "question_versions_pkey")
      else
        .ok ({ synced with versions := synced.versions
            ++ [s.package.versionRow s.sourceRevision questionId s.ids.versionId] },
          s.package.result .inserted [])

/-- With nothing between its statements, it is `synchronizePackage`. -/
theorem synchronizePackage_eq_write {sourceRevision : Str} {p : LoadedContentPackage C}
    {ids : CatalogueIds} {trackId : Uuid} {db : Catalogue C} {s : PendingSync C}
    (htrack : db.tracks.lookup p.primaryTrack = some trackId)
    (hread : readVersion sourceRevision p ids trackId db = .ok s) :
    synchronizePackage sourceRevision p ids db = s.write trackId db := by
  unfold readVersion at hread
  obtain ⟨⟨synced, questionId⟩, hquestion, hread⟩ := bind_eq_ok hread
  cases hread
  unfold synchronizePackage PendingSync.write PendingSync.existing
  simp only [htrack, hquestion, ok_bind]
  cases hv : synced.versionOf questionId p.version with
  | some v =>
      have hmem : v ∈ synced.versions := List.mem_of_find?_eq_some hv
      obtain ⟨w, hw⟩ := Tables.find_isSome_of_mem VersionRow.id hmem
      have hfound : (synced.version v.id).isNone = false := by
        unfold Catalogue.version
        rw [hw]
        rfl
      simp only [hfound, Bool.false_eq_true, if_false]
  | none => rfl

/-! ## The system -/

structure ContentServer (C : Type) where
  library : Library C
  pending : List (PendingSync C)

/-- One of two transactions waits for the other at the row of the question. -/
def PendingSync.Blocks (s t : PendingSync C) : Prop :=
  s.package.id = t.package.id ∨ s.questionId = t.questionId

/-- The action writes the row of the question. -/
def WorkflowAction.Writes (questionId : Uuid) (db : Catalogue C) : WorkflowAction C → Prop
  | .sync .. => True
  | .assign .. => False
  | .decide .. => False
  | .publish _ versionId key =>
      db.publication key = none ∧ (db.version versionId).map VersionRow.questionId = some questionId
  | .transition versionId _ _ =>
      (db.version versionId).map VersionRow.questionId = some questionId
        ∧ (db.question questionId).bind QuestionRow.currentPublishedVersionId = some versionId
  | .rollback externalId _ =>
      (db.questionByExternalId externalId).map QuestionRow.id = some questionId

inductive ContentAction (C : Type) where
  | read (s : PendingSync C)
  | write (s : PendingSync C)
  | abort (s : PendingSync C)
  | review (a : WorkflowAction C)
  | rollbackImport (importId : Uuid)

/-- The transactions of the workflow, with the two statements of a
synchronization as steps of their own. The identifier of a version that is
inserted is not one that somebody has read. -/
inductive ContentStep : ContentServer C → ContentAction C → ContentServer C → Prop where
  | read {sys : ContentServer C} {sourceRevision : Str} {p : LoadedContentPackage C}
      {ids : CatalogueIds} {trackId : Uuid} {s : PendingSync C}
      (htrack : sys.library.catalogue.tracks.lookup p.primaryTrack = some trackId)
      (h : readVersion sourceRevision p ids trackId sys.library.catalogue = .ok s)
      (hfree : ∀ t ∈ sys.pending, ¬t.Blocks s) :
      ContentStep sys (.read s) { sys with pending := s :: sys.pending }
  | write {sys : ContentServer C} {db : Catalogue C} {s : PendingSync C} {trackId : Uuid}
      {before later : List (PendingSync C)} {result : PackageSyncResult}
      (hs : sys.pending = before ++ s :: later)
      (htrack : sys.library.catalogue.tracks.lookup s.package.primaryTrack = some trackId)
      (h : s.write trackId sys.library.catalogue = .ok (db, result))
      (hfresh : ∀ t ∈ before ++ later, ∀ v, t.existing = some v → v.id ≠ s.ids.versionId) :
      ContentStep sys (.write s)
        { library := { sys.library with catalogue := db }, pending := before ++ later }
  | abort {sys : ContentServer C} {s : PendingSync C} {before later : List (PendingSync C)}
      (hs : sys.pending = before ++ s :: later) :
      ContentStep sys (.abort s) { sys with pending := before ++ later }
  | review {sys : ContentServer C} {db : Catalogue C} {a : WorkflowAction C}
      (h : WorkflowStep sys.library.catalogue a db)
      (hfree : ∀ s ∈ sys.pending, ¬a.Writes s.questionId sys.library.catalogue)
      (hreview : ∀ sourceRevision p ids, a ≠ .sync sourceRevision p ids) :
      ContentStep sys (.review a) { sys with library := { sys.library with catalogue := db } }
  | rollbackImport {sys : ContentServer C} {library : Library C} {importId : Uuid} {count : Nat}
      (h : rollbackImport importId sys.library = .ok (library, count))
      (hfree : ∀ s ∈ sys.pending, library.catalogue.question s.questionId
        = sys.library.catalogue.question s.questionId) :
      ContentStep sys (.rollbackImport importId) { sys with library := library }

abbrev ContentTaken (C : Type) := Taken (ContentServer C) (ContentAction C)

/-! ## What a step does to the content -/

/-- What sessions and submissions are pinned to. -/
def VersionRow.content (v : VersionRow C) : Uuid × Uuid × C × Str :=
  (v.id, v.questionId, v.body, v.contentHash)

/-- No version is inserted, deleted or given another content. -/
def ContentSame (db db' : Catalogue C) : Prop :=
  db'.versions.map VersionRow.content = db.versions.map VersionRow.content

section

variable {db db' : Catalogue C} {key : Uuid}

theorem ContentSame.version (h : ContentSame db db') (key : Uuid) :
    (db'.version key).map VersionRow.content = (db.version key).map VersionRow.content := by
  have hfind (db : Catalogue C) : (db.version key).map VersionRow.content
      = (db.versions.map VersionRow.content).find? fun c => c.1 = key := by
    rw [List.find?_map]
    rfl
  rw [hfind, hfind, h]

theorem ContentSame.version_some (h : ContentSame db db') {v : VersionRow C}
    (hv : db'.version key = some v) : ∃ w, db.version key = some w ∧ v.content = w.content := by
  have hsame := h.version key
  rw [hv] at hsame
  obtain ⟨w, hw, hcontent⟩ := Option.map_eq_some_iff.mp hsame.symm
  exact ⟨w, hw, hcontent.symm⟩

theorem ContentSame.ids (h : ContentSame db db') :
    db'.versions.map VersionRow.id = db.versions.map VersionRow.id := by
  have hids := congrArg (List.map Prod.fst) h
  rw [List.map_map, List.map_map] at hids
  exact hids

theorem contentSame_update (db : Catalogue C) (id : Uuid) {f : VersionRow C → VersionRow C}
    (hf : ∀ v, (f v).content = v.content) : ContentSame db (db.updateVersion id f) :=
  Tables.map_update fun v _ _ => hf v

theorem contentSame_rolledBack (db : Catalogue C) (q : QuestionRow) (v : VersionRow C) :
    ContentSame db (rolledBack db q v) := by
  have hlast (db : Catalogue C) : ContentSame db
      ((db.updateVersion v.id (VersionRow.inState .published)).updateQuestion q.id
        (QuestionRow.restoreTo v.id)) :=
    contentSame_update db v.id (f := VersionRow.inState .published) fun _ => rfl
  unfold rolledBack
  dsimp only
  cases q.currentPublishedVersionId with
  | none => exact hlast db
  | some current =>
      exact (hlast _).trans
        (contentSame_update db current (f := VersionRow.inState .deprecated) fun _ => rfl)

theorem publications_rolledBack (db : Catalogue C) (q : QuestionRow) (v : VersionRow C) :
    (rolledBack db q v).publications = db.publications := by
  unfold rolledBack
  cases q.currentPublishedVersionId <;> rfl

/-- A transaction of the reviews writes no content. -/
theorem WorkflowStep.contentSame {a : WorkflowAction C} (h : WorkflowStep db a db')
    (hreview : ∀ sourceRevision p ids, a ≠ .sync sourceRevision p ids) : ContentSame db db' := by
  cases h with
  | sync h => exact absurd rfl (hreview _ _ _)
  | assign h =>
      obtain ⟨v, -, rfl⟩ := assign_ok h
      exact contentSame_update db _ fun _ => rfl
  | decide h =>
      obtain ⟨v, -, -, rfl⟩ := decideReview_ok h
      exact contentSame_update db _ fun _ => rfl
  | publish h =>
      obtain ⟨v, hv, ⟨_, -, -, rfl, -⟩ | ⟨-, -, -, rfl⟩⟩ := publishVersion_ok h
      · rfl
      · exact contentSame_update _ _ (f := VersionRow.inState .published) fun _ => rfl
  | transition h =>
      obtain ⟨v, -, -, rfl⟩ := transitionVersion_ok h
      exact contentSame_update db _ (f := VersionRow.inState _) fun _ => rfl
  | rollback =>
      rename_i externalId version
      rcases rollbackPublication_cases db externalId version with hsame | ⟨q, v, -, heq⟩
      · rw [hsame]
        rfl
      · rw [heq]
        exact contentSame_rolledBack db q v

theorem wasPublished_append (db : Catalogue C) (e : PublicationEvent) :
    ({ db with publications := db.publications ++ [e] } : Catalogue C).WasPublished key
      ↔ db.WasPublished key ∨ e.questionVersionId = key := by
  unfold Catalogue.WasPublished
  rw [List.map_append, List.mem_append, List.map_singleton, List.mem_singleton, eq_comm (a := key)]

/-- It publishes at most a version whose question it writes. -/
theorem WorkflowStep.wasPublished {a : WorkflowAction C} (h : WorkflowStep db a db')
    (hreview : ∀ sourceRevision p ids, a ≠ .sync sourceRevision p ids) :
    db'.WasPublished key ↔ db.WasPublished key
      ∨ db'.WasPublished key ∧ ∃ v, db.version key = some v ∧ a.Writes v.questionId db := by
  have hkept {db' : Catalogue C} (hsame : db'.publications = db.publications) :
      db'.WasPublished key ↔ db.WasPublished key
        ∨ db'.WasPublished key ∧ ∃ v, db.version key = some v ∧ a.Writes v.questionId db := by
    unfold Catalogue.WasPublished
    rw [hsame]
    exact ⟨.inl, fun h => h.elim id And.left⟩
  cases h with
  | sync h => exact absurd rfl (hreview _ _ _)
  | assign h =>
      obtain ⟨v, -, rfl⟩ := assign_ok h
      exact hkept rfl
  | decide h =>
      obtain ⟨v, -, -, rfl⟩ := decideReview_ok h
      exact hkept rfl
  | publish h =>
      rename_i publisher versionId idempotencyKey _
      obtain ⟨v, hv, ⟨_, -, -, rfl, -⟩ | ⟨hkey, -, -, rfl⟩⟩ := publishVersion_ok h
      · exact hkept rfl
      · have happend := @wasPublished_append C key db
          ⟨versionId, publisher, idempotencyKey, v.sourceRevision, v.contentHash⟩
        constructor
        · intro hpublished
          rcases happend.mp hpublished with hold | rfl
          · exact .inl hold
          · exact .inr ⟨hpublished, v, hv, hkey, congrArg (Option.map _) hv⟩
        · rintro (hold | ⟨hpublished, -⟩)
          · exact happend.mpr (.inl hold)
          · exact hpublished
  | transition h =>
      obtain ⟨v, -, -, rfl⟩ := transitionVersion_ok h
      exact hkept rfl
  | rollback =>
      rename_i externalId version
      rcases rollbackPublication_cases db externalId version with hsame | ⟨q, v, -, heq⟩
      · rw [hsame]
        exact hkept rfl
      · rw [heq]
        exact hkept (publications_rolledBack db q v)

/-- What the second statement has written. -/
inductive Written (db : Catalogue C) (s : PendingSync C) : Catalogue C → Prop where
  | kept {synced : Catalogue C} {questionId : Uuid} {v : VersionRow C}
      (hq : QuestionSynced db synced questionId) (hv : s.existing = some v)
      (hkept : v.contentHash = s.package.contentHash ∨ v.state ∈ immutableStates) :
      Written db s synced
  | overwritten {synced : Catalogue C} {questionId : Uuid} {v w : VersionRow C}
      (hq : QuestionSynced db synced questionId) (hv : s.existing = some v)
      (hhash : v.contentHash ≠ s.package.contentHash) (hstate : v.state ∉ immutableStates)
      (hw : db.version v.id = some w) :
      Written db s (synced.updateVersion v.id (s.package.overwrite s.sourceRevision))
  | inserted {synced : Catalogue C} {questionId : Uuid} (hq : QuestionSynced db synced questionId)
      (hv : s.existing = none) (hid : db.version s.ids.versionId = none) :
      Written db s { synced with versions := synced.versions
        ++ [s.package.versionRow s.sourceRevision questionId s.ids.versionId] }

theorem write_ok {s : PendingSync C} {trackId : Uuid} {result : PackageSyncResult}
    (h : s.write trackId db = .ok (db', result)) : Written db s db' := by
  unfold PendingSync.write at h
  obtain ⟨⟨synced, questionId⟩, hquestion, h⟩ := bind_eq_ok h
  have hq := synchronizeQuestion_ok hquestion
  dsimp only at h
  split at h
  · rename_i v hv
    split_ifs at h with hhash hstate hgone
    · cases h
      exact .kept hq hv (.inl hhash)
    · cases h
      exact .kept hq hv (.inr hstate)
    · cases h
      rw [hq.version] at hgone
      obtain ⟨w, hw⟩ := Option.ne_none_iff_exists'.mp (by simpa using hgone)
      exact .overwritten hq hv hhash hstate hw
  · rename_i hv
    split_ifs at h with hnumber hid
    cases h
    rw [hq.version] at hid
    exact .inserted hq hv (by simpa using hid)

end

/-! ## The invariant -/

/-- Between its statements, a synchronization can rely on the version that
it has read: nobody else has written its content, or published it. -/
structure ContentServer.Locked (sys : ContentServer C) : Prop where
  ids : (sys.library.catalogue.versions.map VersionRow.id).Nodup
  apart : sys.pending.Pairwise fun s t => s.questionId ≠ t.questionId
  row : ∀ s ∈ sys.pending, ∀ e, s.existing = some e → ∀ v,
    sys.library.catalogue.version e.id = some v →
      v.questionId = s.questionId ∧ v.contentHash = e.contentHash
  published : ∀ s ∈ sys.pending, ∀ e, s.existing = some e →
    (sys.library.catalogue.WasPublished e.id ↔ s.snapshot.WasPublished e.id)

section

variable {sys : ContentServer C} {db : Catalogue C}

/-- The rows of a pending synchronization are as they were. -/
theorem ContentServer.Locked.of_rows (h : sys.Locked) {library : Library C}
    {pending : List (PendingSync C)} (hids : (library.catalogue.versions.map VersionRow.id).Nodup)
    (hsub : pending.Sublist sys.pending)
    (hrow : ∀ s ∈ pending, ∀ e, s.existing = some e → ∀ v,
      library.catalogue.version e.id = some v → ∃ w,
        sys.library.catalogue.version e.id = some w ∧ v.questionId = w.questionId
          ∧ v.contentHash = w.contentHash)
    (hpublished : ∀ s ∈ pending, ∀ e, s.existing = some e →
      (library.catalogue.WasPublished e.id ↔ sys.library.catalogue.WasPublished e.id)) :
    ContentServer.Locked ⟨library, pending⟩ where
  ids := hids
  apart := h.apart.sublist hsub
  row s hs e he v hv := by
    obtain ⟨w, hw, hquestion, hhash⟩ := hrow s hs e he v hv
    obtain ⟨hquestion', hhash'⟩ := h.row s (hsub.subset hs) e he w hw
    exact ⟨hquestion.trans hquestion', hhash.trans hhash'⟩
  published s hs e he :=
    (hpublished s hs e he).trans (h.published s (hsub.subset hs) e he)

theorem readVersion_ok {sourceRevision : Str} {p : LoadedContentPackage C} {ids : CatalogueIds}
    {trackId : Uuid} {s : PendingSync C} (h : readVersion sourceRevision p ids trackId db = .ok s) :
    s.snapshot.versions = db.versions ∧ s.snapshot.publications = db.publications := by
  unfold readVersion at h
  obtain ⟨⟨synced, questionId⟩, hquestion, h⟩ := bind_eq_ok h
  cases h
  have hq := synchronizeQuestion_ok hquestion
  exact ⟨hq.versions, hq.publications⟩

theorem ContentServer.Locked.read (h : sys.Locked) {s : PendingSync C}
    (hversions : s.snapshot.versions = sys.library.catalogue.versions)
    (hpublications : s.snapshot.publications = sys.library.catalogue.publications)
    (hfree : ∀ t ∈ sys.pending, ¬t.Blocks s) :
    ContentServer.Locked { sys with pending := s :: sys.pending } where
  ids := h.ids
  apart := List.pairwise_cons.mpr
    ⟨fun t ht heq => hfree t ht (.inr heq.symm), h.apart⟩
  row t ht e he v hv := by
    rcases List.mem_cons.mp ht with rfl | ht
    · unfold PendingSync.existing Catalogue.versionOf at he
      rw [hversions] at he
      have hkey := List.find?_some he
      simp only [decide_eq_true_eq] at hkey
      have hfound := Tables.find_of_mem h.ids (List.mem_of_find?_eq_some he)
      cases hfound.symm.trans hv
      exact ⟨hkey.1, rfl⟩
    · exact h.row t ht e he v hv
  published t ht e he := by
    rcases List.mem_cons.mp ht with rfl | ht
    · unfold Catalogue.WasPublished
      rw [hpublications]
    · exact h.published t ht e he

theorem sublist_around (before later : List (PendingSync C)) (s : PendingSync C) :
    (before ++ later).Sublist (before ++ s :: later) :=
  (List.Sublist.refl before).append (List.sublist_cons_self s later)

theorem ContentServer.Locked.write (h : sys.Locked) {s : PendingSync C}
    {before later : List (PendingSync C)} (hs : sys.pending = before ++ s :: later)
    (hw : Written sys.library.catalogue s db)
    (hfresh : ∀ t ∈ before ++ later, ∀ v, t.existing = some v → v.id ≠ s.ids.versionId) :
    ContentServer.Locked
      { library := { sys.library with catalogue := db }, pending := before ++ later } := by
  have hsub : (before ++ later).Sublist sys.pending := hs ▸ sublist_around before later s
  have happart (t : PendingSync C) (ht : t ∈ before ++ later) : t.questionId ≠ s.questionId := by
    have hpairs := h.apart
    rw [hs, List.pairwise_append, List.pairwise_cons] at hpairs
    rcases List.mem_append.mp ht with ht | ht
    · exact hpairs.2.2 t ht s (List.mem_cons_self ..)
    · exact (hpairs.2.1.1 t ht).symm
  have hmem : s ∈ sys.pending := hs ▸ List.mem_append_right before (List.mem_cons_self ..)
  cases hw with
  | kept hq =>
      refine h.of_rows (by rw [hq.versions]; exact h.ids) hsub ?_ ?_
      · intro t ht e he v hv
        rw [hq.version] at hv
        exact ⟨v, hv, rfl, rfl⟩
      · intro t ht e he
        unfold Catalogue.WasPublished
        rw [hq.publications]
  | overwritten hq hv hhash hstate hw =>
      rename_i synced questionId e w
      have hids : ((synced.updateVersion e.id (s.package.overwrite s.sourceRevision)).versions.map
          VersionRow.id) = sys.library.catalogue.versions.map VersionRow.id := by
        rw [← hq.versions]
        exact Tables.map_update fun _ _ _ => rfl
      refine h.of_rows (hids ▸ h.ids) hsub ?_ ?_
      · intro t ht e' he' v hv'
        have hne : e'.id ≠ e.id := by
          intro heq
          have hquestion := (h.row t (hsub.subset ht) e' he' w (heq ▸ hw)).1
          exact happart t ht (hquestion.symm.trans (h.row s hmem e hv w hw).1)
        rw [Catalogue.version_update (f := s.package.overwrite s.sourceRevision) fun _ => rfl,
          hq.version] at hv'
        obtain ⟨w', hw', heq⟩ := Option.map_eq_some_iff.mp hv'
        rw [if_neg fun hid => hne ((Catalogue.id_of_version hw').symm.trans hid)] at heq
        exact ⟨w', hw', congrArg VersionRow.questionId heq.symm,
          congrArg VersionRow.contentHash heq.symm⟩
      · intro t ht e' he'
        show e'.id ∈ synced.publications.map _ ↔ _
        rw [hq.publications]
        rfl
  | inserted hq hv hid =>
      rename_i synced questionId
      refine h.of_rows ?_ hsub ?_ ?_
      · rw [List.map_append, hq.versions]
        refine List.Nodup.append h.ids (List.nodup_singleton _) fun key hkey hnew => ?_
        obtain ⟨v, hmem, rfl⟩ := List.mem_map.mp hkey
        obtain ⟨w, hw⟩ := Tables.find_isSome_of_mem VersionRow.id hmem
        rw [List.mem_singleton.mp hnew] at hw
        exact nomatch hid.symm.trans hw
      · intro t ht e he v hv
        have hother : (s.package.versionRow s.sourceRevision questionId s.ids.versionId).id ≠ e.id :=
          (hfresh t ht e he).symm
        rw [version_append, if_neg hother, Option.or_none, hq.version] at hv
        exact ⟨v, hv, rfl, rfl⟩
      · intro t ht e he
        show e.id ∈ synced.publications.map _ ↔ _
        rw [hq.publications]
        rfl

theorem ContentServer.Locked.review (h : sys.Locked) {a : WorkflowAction C}
    (hstep : WorkflowStep sys.library.catalogue a db)
    (hfree : ∀ s ∈ sys.pending, ¬a.Writes s.questionId sys.library.catalogue)
    (hreview : ∀ sourceRevision p ids, a ≠ .sync sourceRevision p ids) :
    ContentServer.Locked { sys with library := { sys.library with catalogue := db } } := by
  have hsame := hstep.contentSame hreview
  refine h.of_rows (hsame.ids ▸ h.ids) (.refl _) ?_ ?_
  · intro s hs e he v hv
    obtain ⟨w, hw, hcontent⟩ := hsame.version_some hv
    exact ⟨w, hw, congrArg (fun c => c.2.1) hcontent, congrArg (fun c => c.2.2.2) hcontent⟩
  · intro s hs e he
    rw [hstep.wasPublished hreview]
    refine or_iff_left ?_
    rintro ⟨-, v, hv, hwrites⟩
    exact hfree s hs ((h.row s hs e he v hv).1 ▸ hwrites)

theorem ContentServer.Locked.rollbackImport (h : sys.Locked) {library : Library C}
    {importId : Uuid} {count : Nat}
    (hstep : rollbackImport importId sys.library = .ok (library, count)) :
    ContentServer.Locked { sys with library := library } := by
  rcases rollbackImport_ok hstep with ⟨hsame, -⟩ | ⟨-, heq⟩
  · refine h.of_rows (hsame ▸ h.ids) (.refl _) ?_ ?_ <;> rw [hsame]
    · exact fun s _ e _ v hv => ⟨v, hv, rfl, rfl⟩
    · exact fun _ _ _ _ => Iff.rfl
  · refine h.of_rows ?_ (.refl _) ?_ ?_ <;> rw [heq]
    · exact h.ids.sublist (List.filter_sublist.map _)
    · intro s _ e _ v hv
      rw [version_deleteVersions] at hv
      split_ifs at hv
      exact ⟨v, hv, rfl, rfl⟩
    · exact fun _ _ _ _ => Iff.rfl

theorem ContentStep.locked {sys' : ContentServer C} {a : ContentAction C}
    (hstep : ContentStep sys a sys') (h : sys.Locked) : sys'.Locked := by
  cases hstep with
  | read _ hread hfree =>
      obtain ⟨hversions, hpublications⟩ := readVersion_ok hread
      exact h.read hversions hpublications hfree
  | write hs _ hwrite hfresh => exact h.write hs (write_ok hwrite) hfresh
  | abort hs =>
      refine h.of_rows h.ids (hs ▸ sublist_around ..) ?_ fun _ _ _ _ => Iff.rfl
      exact fun _ _ e _ v hv => ⟨v, hv, rfl, rfl⟩
  | review hreview hfree hother => exact h.review hreview hfree hother
  | rollbackImport hrollback => exact h.rollbackImport hrollback

end

/-! ## Immutability -/

/-- No version with a publication event is deleted or given another content. -/
def ContentKept (x : ContentTaken C) : Prop :=
  ∀ key v, x.source.library.catalogue.version key = some v →
    x.source.library.catalogue.WasPublished key →
      ∃ w, x.target.library.catalogue.version key = some w ∧ w.body = v.body
        ∧ w.contentHash = v.contentHash

/-- The version that was read has a publication event and another hash than
the package, and is neither approved nor published any more. -/
def PendingSync.OverwritesPublished (s : PendingSync C) : Prop :=
  ∃ v, s.existing = some v ∧ v.contentHash ≠ s.package.contentHash
    ∧ v.state ∉ immutableStates ∧ s.snapshot.WasPublished v.id

section

variable {sys sys' : ContentServer C} {trace : List (ContentTaken C)}

theorem contentKept_of_same {x : ContentTaken C}
    (h : ContentSame x.source.library.catalogue x.target.library.catalogue) : ContentKept x := by
  intro key v hv _
  have hsame := h.version key
  rw [hv] at hsame
  obtain ⟨w, hw, hcontent⟩ := Option.map_eq_some_iff.mp hsame
  exact ⟨w, hw, congrArg (fun c => c.2.2.1) hcontent, congrArg (fun c => c.2.2.2) hcontent⟩

theorem contentKept_write {db : Catalogue C} {s : PendingSync C} {pending : List (PendingSync C)}
    (h : sys.Locked) (hs : s ∈ sys.pending) (hw : Written sys.library.catalogue s db) :
    ContentKept ⟨sys, .write s, ⟨{ sys.library with catalogue := db }, pending⟩⟩
      ↔ ¬s.OverwritesPublished := by
  cases hw with
  | kept hq hv hkept =>
      refine iff_of_true (contentKept_of_same ?_) ?_
      · exact congrArg (List.map VersionRow.content) hq.versions
      · rintro ⟨v', hv', hhash, hstate, -⟩
        cases hv.symm.trans hv'
        exact hkept.elim hhash hstate
  | overwritten hq hv hhash hstate hw =>
      rename_i synced questionId e w
      have hversion (key : Uuid) : (synced.updateVersion e.id
          (s.package.overwrite s.sourceRevision)).version key
            = (sys.library.catalogue.version key).map fun v =>
              if v.id = e.id then s.package.overwrite s.sourceRevision v else v := by
        rw [Catalogue.version_update (f := s.package.overwrite s.sourceRevision) fun _ => rfl,
          hq.version]
      constructor
      · rintro hkept ⟨v', hv', -, -, hpublished⟩
        cases hv.symm.trans hv'
        obtain ⟨w', hw', -, hsame⟩ := hkept e.id w hw ((h.published s hs e hv).mpr hpublished)
        dsimp only at hw'
        rw [hversion, hw, Option.map_some, if_pos (Catalogue.id_of_version hw)] at hw'
        cases hw'
        exact hhash ((h.row s hs e hv w hw).2.symm.trans hsame.symm)
      · intro hnot key v hkey hpublished
        refine ⟨v, ?_, rfl, rfl⟩
        show (synced.updateVersion e.id (s.package.overwrite s.sourceRevision)).version key = some v
        rw [hversion, hkey, Option.map_some, if_neg]
        intro hid
        refine hnot ⟨e, hv, hhash, hstate, (h.published s hs e hv).mp ?_⟩
        exact hid ▸ (Catalogue.id_of_version hkey).symm ▸ hpublished
  | inserted hq hv hid =>
      rename_i synced questionId
      refine iff_of_true ?_ ?_
      · intro key v hkey _
        refine ⟨v, ?_, rfl, rfl⟩
        show Catalogue.version key _ = some v
        rw [version_append, hq.version, hkey]
        rfl
      · rintro ⟨v', hv', -⟩
        exact nomatch hv.symm.trans hv'

theorem contentKept_rollbackImport {library : Library C} {importId : Uuid} {count : Nat}
    (hstep : rollbackImport importId sys.library = .ok (library, count)) :
    ContentKept ⟨sys, .rollbackImport importId, { sys with library := library }⟩ := by
  rcases rollbackImport_ok hstep with ⟨hsame, -⟩ | ⟨hrolls, heq⟩
  · exact contentKept_of_same
      (congrArg (fun db : Catalogue C => db.versions.map VersionRow.content) hsame)
  · intro key v hkey hpublished
    refine ⟨v, ?_, rfl, rfl⟩
    dsimp only
    rw [heq, version_deleteVersions, if_neg, hkey]
    intro hmem
    obtain ⟨w, hw, rfl⟩ := List.mem_map.mp hmem
    exact hrolls.unpublished w hw hpublished

/-- A transition keeps the content that was published, unless it writes a
package over a version that was published when it was read. -/
theorem ContentStep.contentKept {a : ContentAction C} (hstep : ContentStep sys a sys')
    (h : sys.Locked) :
    ContentKept ⟨sys, a, sys'⟩ ↔ ∀ s, a = .write s → ¬s.OverwritesPublished := by
  cases hstep with
  | read => exact iff_of_true (contentKept_of_same rfl) fun _ hlabel => nomatch hlabel
  | write hs _ hwrite _ =>
      rw [contentKept_write h (hs ▸ List.mem_append_right _ (List.mem_cons_self ..))
        (write_ok hwrite)]
      constructor
      · rintro hnot _ ⟨⟩
        exact hnot
      · exact fun hnot => hnot _ rfl
  | abort => exact iff_of_true (contentKept_of_same rfl) fun _ hlabel => nomatch hlabel
  | review hreview _ hother =>
      exact iff_of_true (contentKept_of_same (hreview.contentSame hother))
        fun _ hlabel => nomatch hlabel
  | rollbackImport hrollback =>
      exact iff_of_true (contentKept_rollbackImport hrollback) fun _ hlabel => nomatch hlabel

/-- **Published content is immutable**, in every interleaving, exactly when
no synchronization goes through that has read a version behind its
deprecation. -/
theorem published_content (hids : (sys.library.catalogue.versions.map VersionRow.id).Nodup)
    (hidle : sys.pending = []) (hrun : Run ContentStep sys trace sys') :
    (∀ x ∈ trace, ContentKept x)
      ↔ ∀ x ∈ trace, ∀ s, x.label = .write s → ¬s.OverwritesPublished := by
  have hstart : sys.Locked := by
    refine ⟨hids, ?_, ?_, ?_⟩ <;> rw [hidle]
    · exact List.Pairwise.nil
    · exact fun _ hs => nomatch hs
    · exact fun _ hs => nomatch hs
  have hiff := hrun.forall_taken (I := ContentServer.Locked)
    (Q := fun x => ContentKept x ↔ ∀ s, x.label = .write s → ¬s.OverwritesPublished)
    (fun x h hstep => hstep.locked h) (fun x h hstep => hstep.contentKept h) hstart
  exact forall₂_congr hiff

end

/-! ## Runs -/

def seededServer : ContentServer Unit := ⟨⟨seededCatalogue, [], []⟩, []⟩

/-- A version is published, and its package synchronized with another content. -/
theorem published_content_kept : ∃ trace sys,
    Run ContentStep seededServer trace sys ∧ trace.length = 9
      ∧ ∀ x ∈ trace, ContentKept x := by
  obtain ⟨trace, sys, hrun, hlength, hwrites⟩ : ∃ trace sys,
      Run ContentStep seededServer trace sys ∧ trace.length = 9
        ∧ ∀ x ∈ trace, ∀ s, x.label = .write s → ¬s.OverwritesPublished := by
    refine Run.exists_cons (.read _) (@ContentStep.read _ _ "main" (joinPackage "1.0.0" "hash-1")
      ⟨"question-1", "version-1"⟩ "track-1" _ rfl rfl nofun) ?_
    refine Run.exists_cons (.write _) (@ContentStep.write _ _ _ _ "track-1" [] [] _ rfl rfl rfl nofun) ?_
    refine Run.exists_cons (.review (.assign "version-1" .technical "ada"))
      (.review (.assign rfl) nofun nofun) ?_
    refine Run.exists_cons (.review (.assign "version-1" .editorial "bob"))
      (.review (.assign rfl) nofun nofun) ?_
    refine Run.exists_cons (.review (.decide "ada" "version-1" .technical .approved
      "The reference solution is right." 1)) (.review (.decide rfl) nofun nofun) ?_
    refine Run.exists_cons (.review (.decide "bob" "version-1" .editorial .approved
      "The wording is clear." 2)) (.review (.decide rfl) nofun nofun) ?_
    refine Run.exists_cons (.review (.publish "root" "version-1" "publication-1"))
      (.review (.publish rfl) nofun nofun) ?_
    refine Run.exists_cons (.read _) (@ContentStep.read _ _ "main" (joinPackage "1.0.0" "hash-2")
      ⟨"question-2", "version-2"⟩ "track-1" _ rfl rfl nofun) ?_
    refine Run.exists_cons (.write _) (@ContentStep.write _ _ _ _ "track-1" [] [] _ rfl rfl rfl nofun) ?_
    refine Run.exists_nil ⟨rfl, fun x hx s hlabel => ?_⟩
    simp only [List.mem_cons, List.not_mem_nil, or_false] at hx
    rcases hx with rfl | rfl | rfl | rfl | rfl | rfl | rfl | rfl | rfl <;> cases hlabel
    · rintro ⟨v, hv, -⟩
      cases hv
    · rintro ⟨v, hv, -, hstate, -⟩
      cases hv
      exact hstate (by decide)
  exact ⟨trace, sys, hrun, hlength,
    (@published_content Unit seededServer _ _ List.nodup_nil rfl hrun).mpr hwrites⟩

/-- A version is published and deprecated, and its package synchronized with
another content. -/
theorem deprecated_content_overwritten : ∃ trace sys,
    Run ContentStep seededServer trace sys ∧ ¬∀ x ∈ trace, ContentKept x := by
  refine Run.exists_cons (.read _) (@ContentStep.read _ _ "main" (joinPackage "1.0.0" "hash-1")
    ⟨"question-1", "version-1"⟩ "track-1" _ rfl rfl nofun) ?_
  refine Run.exists_cons (.write _) (@ContentStep.write _ _ _ _ "track-1" [] [] _ rfl rfl rfl nofun) ?_
  refine Run.exists_cons (.review (.assign "version-1" .technical "ada"))
    (.review (.assign rfl) nofun nofun) ?_
  refine Run.exists_cons (.review (.assign "version-1" .editorial "bob"))
    (.review (.assign rfl) nofun nofun) ?_
  refine Run.exists_cons (.review (.decide "ada" "version-1" .technical .approved
    "The reference solution is right." 1)) (.review (.decide rfl) nofun nofun) ?_
  refine Run.exists_cons (.review (.decide "bob" "version-1" .editorial .approved
    "The wording is clear." 2)) (.review (.decide rfl) nofun nofun) ?_
  refine Run.exists_cons (.review (.publish "root" "version-1" "publication-1"))
    (.review (.publish rfl) nofun nofun) ?_
  refine Run.exists_cons (.review (.transition "version-1" .deprecated 3))
    (.review (.transition rfl) nofun nofun) ?_
  refine Run.exists_cons (.read _) (@ContentStep.read _ _ "main" (joinPackage "1.0.0" "hash-2")
    ⟨"question-2", "version-2"⟩ "track-1" _ rfl rfl nofun) ?_
  refine Run.exists_cons (.write _) (@ContentStep.write _ _ _ _ "track-1" [] [] _ rfl rfl rfl nofun) ?_
  refine Run.exists_nil fun hkept => ?_
  obtain ⟨w, hw, -, hhash⟩ := hkept _ (List.mem_of_getElem? (i := 9) rfl) "version-1" _ rfl
    (by decide)
  cases hw
  exact absurd hhash (by decide)

end Rigor
