import Rigor.Ingestion

/-!
# What an import leaves behind

An upload whose loop runs to its end is accounted for, item by item and
stage by stage. One that is stopped in the middle, by a conflict that only
the database shows, leaves the drafts of the records before it, and the
row of an import that is `processing` for good (`import_accounted`).
-/

namespace Rigor

open Py

variable {P C : Type} {p : Pipeline P C} {u : Upload}

/-! ## When a record goes through -/

/-- The question that the draft belongs to. -/
def draftQuestionId (q : UniversalQuestion C) (ids : CatalogueIds) (db : Catalogue C) : Uuid :=
  ((db.questionByExternalId q.id).map QuestionRow.id).getD ids.questionId

/-- The track is known, the slug is nobody else's, and a version of this
number has this content; the identifiers are new and the texts fit. -/
structure CreatesDraft (p : Pipeline P C) (q : UniversalQuestion C) (ids : CatalogueIds)
    (db : Catalogue C) : Prop where
  track : ∃ trackId, db.tracks.lookup q.primaryTrack = some trackId
  slugOwner : ∀ owner, db.questionBySlug q.slug = some owner → owner.externalId = q.id
  slugUnique : ∀ other ∈ db.questions, other.slug = q.slug →
    ∃ row, db.questionByExternalId q.id = some row ∧ other.id = row.id
  newQuestion : db.questionByExternalId q.id = none → db.question ids.questionId = none
  content : ∀ v, db.versionOf (draftQuestionId q ids db) q.version = some v →
    v.contentHash = q.normalizedHash
  newVersion : db.versionOf (draftQuestionId q ids db) q.version = none →
    p.acceptsDraft q = true ∧ db.version ids.versionId = none

/-- The record becomes the draft of `q`. -/
structure Drafts (p : Pipeline P C) (u : Upload) (batch : Batch C) (record : SourceRecord P)
    (q : UniversalQuestion C) : Prop where
  complete : record.kind = .complete
  parsed : p.validate record.payload = .ok q
  passed : (checkQuestion p q batch).errors = []
  wet : u.dryRun = false

structure RecordFits (p : Pipeline P C) (u : Upload) (ids : CatalogueIds) (batch : Batch C)
    (record : SourceRecord P) : Prop where
  item : p.acceptsItem record.payload = true
  draft : ∀ q, Drafts p u batch record q → CreatesDraft p q ids batch.library.catalogue

/-- Every record goes through, in the state that the records before it leave. -/
def BatchFits (p : Pipeline P C) (u : Upload) (ids : Nat → CatalogueIds) :
    Batch C → Nat → List (SourceRecord P) → Prop
  | _, _, [] => True
  | batch, ordinal, record :: rest => RecordFits p u (ids ordinal) batch record
      ∧ BatchFits p u ids (processRecord p u (ids ordinal) batch ordinal record).1 (ordinal + 1) rest

section

variable {q : UniversalQuestion C} {ids : CatalogueIds} {db db' : Catalogue C}

theorem upsertQuestion_eq (row : QuestionRow) (f : QuestionRow → QuestionRow)
    {upserted : Catalogue C} {questionId : Uuid}
    (h : upsertQuestion row f db = .ok (upserted, questionId)) :
    upserted.versions = db.versions
      ∧ questionId = ((db.questionByExternalId row.externalId).map QuestionRow.id).getD row.id := by
  unfold upsertQuestion at h
  split at h
  · rename_i found hfound
    split_ifs at h
    cases h
    rw [hfound]
    exact ⟨rfl, rfl⟩
  · rename_i hfound
    split_ifs at h
    cases h
    rw [hfound]
    exact ⟨rfl, rfl⟩

theorem upsertQuestion_isOk (row : QuestionRow) (f : QuestionRow → QuestionRow) :
    (∃ r, upsertQuestion row f db = .ok r)
      ↔ (∀ other ∈ db.questions, other.slug = row.slug →
          ∃ found, db.questionByExternalId row.externalId = some found ∧ other.id = found.id)
        ∧ (db.questionByExternalId row.externalId = none → db.question row.id = none) := by
  unfold upsertQuestion
  cases hfound : db.questionByExternalId row.externalId with
  | some found =>
      dsimp only
      split_ifs with hslug
      · obtain ⟨other, hother, hne, hsame⟩ := hslug
        refine iff_of_false nofun fun h => ?_
        obtain ⟨found', hfound', hid⟩ := h.1 other hother hsame
        cases hfound'
        exact hne hid
      · refine iff_of_true ⟨_, rfl⟩ ⟨fun other hother hsame => ⟨found, rfl, ?_⟩, nofun⟩
        by_contra hne
        exact hslug ⟨other, hother, hne, hsame⟩
  | none =>
      dsimp only
      split_ifs with hslug hid
      · obtain ⟨other, hother, hsame⟩ := List.mem_map.mp hslug
        refine iff_of_false nofun fun h => ?_
        obtain ⟨_, hfound', -⟩ := h.1 other hother hsame
        cases hfound'
      · refine iff_of_false nofun fun h => ?_
        rw [h.2 rfl] at hid
        cases hid
      · refine iff_of_true ⟨_, rfl⟩ ⟨fun other hother hsame => ?_, fun _ => by simpa using hid⟩
        exact absurd (List.mem_map.mpr ⟨other, hother, hsame⟩) hslug

theorem createDraft_isOk :
    (∃ r, createDraft p u q ids db = .ok r) ↔ CreatesDraft p q ids db := by
  unfold createDraft
  cases htrack : db.tracks.lookup q.primaryTrack with
  | none =>
      refine iff_of_false nofun fun h => ?_
      obtain ⟨_, hsome⟩ := h.track
      exact nomatch htrack.symm.trans hsome
  | some trackId =>
      dsimp only
      by_cases howner : (db.questionBySlug q.slug).any fun owner => owner.externalId ≠ q.id
      · rw [if_pos howner]
        refine iff_of_false nofun fun h => ?_
        cases hslug : db.questionBySlug q.slug with
        | none =>
            rw [hslug] at howner
            cases howner
        | some owner =>
            rw [hslug] at howner
            exact absurd (h.slugOwner owner hslug) (of_decide_eq_true howner)
      rw [if_neg howner]
      have hslug : ∀ owner, db.questionBySlug q.slug = some owner → owner.externalId = q.id := by
        intro owner hslug
        rw [hslug] at howner
        exact not_not.mp fun hne => howner (decide_eq_true hne)
      have hupsert := @upsertQuestion_isOk C db (q.questionRow u trackId ids.questionId)
        (q.overwrite u trackId)
      cases hresult : upsertQuestion (q.questionRow u trackId ids.questionId)
          (q.overwrite u trackId) db with
      | error e =>
          rw [hresult] at hupsert
          refine iff_of_false nofun fun h => ?_
          obtain ⟨_, hok⟩ := hupsert.mpr ⟨h.slugUnique, h.newQuestion⟩
          cases hok
      | ok r =>
          obtain ⟨upserted, questionId⟩ := r
          obtain ⟨hunique, hnew⟩ := hupsert.mp ⟨_, hresult⟩
          obtain ⟨hversions, hid⟩ := upsertQuestion_eq _ _ hresult
          have hversionOf : upserted.versionOf questionId q.version
              = db.versionOf (draftQuestionId q ids db) q.version := by
            unfold Catalogue.versionOf
            rw [hversions, hid]
            rfl
          have hversion : upserted.version ids.versionId = db.version ids.versionId := by
            unfold Catalogue.version
            rw [hversions]
          simp only [Except.mapError, ok_bind, hversionOf, hversion]
          cases hfound : db.versionOf (draftQuestionId q ids db) q.version with
          | some existing =>
              dsimp only
              split_ifs with hhash
              · refine iff_of_true ⟨_, rfl⟩ ⟨⟨_, htrack⟩, hslug, hunique, hnew, ?_, ?_⟩
                · intro v hv
                  cases hfound.symm.trans hv
                  exact hhash
                · exact fun hnone => nomatch hfound.symm.trans hnone
              · exact iff_of_false nofun fun h => hhash (h.content _ hfound)
          | none =>
              dsimp only
              split_ifs with hfits hpresent
              · refine iff_of_false nofun fun h => ?_
                exact absurd (h.newVersion hfound).1 (by rw [hfits]; decide)
              · refine iff_of_false nofun fun h => ?_
                rw [(h.newVersion hfound).2] at hpresent
                cases hpresent
              · refine iff_of_true ⟨_, rfl⟩ ⟨⟨_, htrack⟩, hslug, hunique, hnew, ?_, ?_⟩
                · exact fun v hv => nomatch hfound.symm.trans hv
                · exact fun _ => ⟨by simpa using hfits, by simpa using hpresent⟩

end

/-! ## A record -/

/-- The item says what became of the record, stage by stage. -/
structure Accounts (u : Upload) (ordinal : Nat) (i : ImportItem) : Prop where
  importId : i.importId = u.importId
  ordinal : i.ordinal = ordinal
  stages : i.stages.map StageResult.stage = pipelineStages
  rejected : i.status = .rejected ↔ i.errors ≠ []
  status : i.status ≠ .rolledBack

theorem skippedStages_stage (finding : Str) :
    (skippedStages finding).map StageResult.stage = pipelineStages.drop 2 := by
  unfold skippedStages
  rw [List.map_map]
  exact List.map_id _

theorem unparsedItem_accounts (ordinal : Nat) (record : SourceRecord P) {status : ItemStatus}
    {errors : List Str} (warnings : List Str) (parsing : StageStatus) (findings : List Str)
    (finding : Str) (hstatus : status ≠ .rolledBack)
    (hrejected : status = .rejected ↔ errors ≠ []) :
    Accounts u ordinal (unparsedItem p u ordinal record status errors warnings
      (⟨"schema_parsing", parsing, findings⟩ :: skippedStages finding)) where
  importId := rfl
  ordinal := rfl
  stages := by
    unfold unparsedItem
    dsimp only
    rw [List.map_cons, List.map_cons, skippedStages_stage]
    rfl
  rejected := hrejected
  status := hstatus

theorem checkQuestion_stages (q : UniversalQuestion C) (batch : Batch C) :
    (checkQuestion p q batch).stages.map StageResult.stage = pipelineStages.dropLast := rfl

theorem questionItem_accounts (ordinal : Nat) (q : UniversalQuestion C) (batch : Batch C)
    {status : ItemStatus} (versionId : Option Uuid) (creation : StageStatus) (findings : List Str)
    (hstatus : status ≠ .rolledBack)
    (hrejected : status = .rejected ↔ (checkQuestion p q batch).errors ≠ []) :
    Accounts u ordinal (questionItem u ordinal q (checkQuestion p q batch) status versionId
      ⟨"draft_creation", creation, findings⟩) where
  importId := rfl
  ordinal := rfl
  stages := by
    unfold questionItem
    dsimp only
    rw [List.map_append, checkQuestion_stages]
    rfl
  rejected := hrejected
  status := hstatus

theorem Checked.status_cases (checked : Checked) :
    checked.status ≠ .rolledBack ∧ checked.status ≠ .rejected := by
  unfold Checked.status
  split_ifs <;> decide

/-- The record has left its item, and in a dry run nothing else. -/
structure RecordDone (u : Upload) (ordinal : Nat) (batch batch' : Batch C) (item : ImportItem) :
    Prop where
  accounts : Accounts u ordinal item
  items : batch'.library.items = batch.library.items ++ [item]
  imports : batch'.library.imports = batch.library.imports
  dry : u.dryRun = true → batch'.library.catalogue = batch.library.catalogue

/-- What `_process_record` comes to. -/
def RecordOutcome (p : Pipeline P C) (u : Upload) (ids : CatalogueIds) (batch : Batch C)
    (ordinal : Nat) (record : SourceRecord P) (r : Batch C × Except ImportFailure ImportItem) :
    Prop :=
  (RecordFits p u ids batch record
      ∧ ∃ item, r.2 = .ok item ∧ RecordDone u ordinal batch r.1 item)
    ∨ ¬RecordFits p u ids batch record ∧ (∃ e, r.2 = .error e)
      ∧ r.1.library.imports = batch.library.imports

section

variable {ids : CatalogueIds} {batch : Batch C} {ordinal : Nat} {record : SourceRecord P}

theorem persist_outcome {batch' : Batch C} {item : ImportItem}
    (hdraft : ∀ q, Drafts p u batch record q → CreatesDraft p q ids batch.library.catalogue)
    (hitem : Accounts u ordinal item) (hitems : batch'.library.items = batch.library.items)
    (himports : batch'.library.imports = batch.library.imports)
    (hdry : u.dryRun = true → batch'.library.catalogue = batch.library.catalogue) :
    RecordOutcome p u ids batch ordinal record (batch'.persist p record item) := by
  unfold Batch.persist persistItem
  by_cases haccepts : p.acceptsItem record.payload = false
  · rw [if_pos haccepts]
    refine .inr ⟨fun h => ?_, ⟨_, rfl⟩, himports⟩
    exact absurd h.item (by rw [haccepts]; decide)
  · rw [if_neg haccepts]
    refine .inl ⟨⟨by simpa using haccepts, hdraft⟩, item, rfl, hitem, ?_, himports, hdry⟩
    exact congrArg (· ++ [item]) hitems

theorem processRecord_outcome :
    RecordOutcome p u ids batch ordinal record (processRecord p u ids batch ordinal record) := by
  unfold processRecord
  cases hkind : record.kind with
  | metadataDraft =>
      refine persist_outcome (fun q h => nomatch hkind.symm.trans h.complete) ?_ rfl rfl
        fun _ => rfl
      exact unparsedItem_accounts ordinal record _ _ _ _ (by decide)
        (iff_of_false (by decide) fun h => h rfl)
  | complete =>
      cases hparsed : p.validate record.payload with
      | error e =>
          refine persist_outcome (fun q h => nomatch hparsed.symm.trans h.parsed) ?_ rfl rfl
            fun _ => rfl
          exact unparsedItem_accounts ordinal record _ _ _ _ (by decide)
            (iff_of_true rfl e.nonempty)
      | ok q =>
          dsimp only
          have hdrafts (q' : UniversalQuestion C) (h : Drafts p u batch record q') : q' = q :=
            (Except.ok.inj (hparsed.symm.trans h.parsed)).symm
          have hstatus := (checkQuestion p q batch).status_cases
          by_cases herrors : (checkQuestion p q batch).errors = []
          · rw [if_neg (not_not.mpr herrors)]
            by_cases hdry : u.dryRun = true
            · rw [if_pos hdry]
              refine persist_outcome (fun q' h => ?_) ?_ rfl rfl fun _ => rfl
              · exact absurd hdry (by rw [h.wet]; decide)
              · exact questionItem_accounts ordinal q batch _ _ _ hstatus.1
                  (iff_of_false hstatus.2 (not_not.mpr herrors))
            · rw [if_neg hdry]
              have hwet : u.dryRun = false := by simpa using hdry
              have hiff := @createDraft_isOk P C p u q ids batch.library.catalogue
              cases hcreate : createDraft p u q ids batch.library.catalogue with
              | error e =>
                  rw [hcreate] at hiff
                  refine .inr ⟨fun h => ?_, ⟨e, rfl⟩, rfl⟩
                  obtain ⟨_, hok⟩ := hiff.mpr (h.draft q ⟨hkind, hparsed, herrors, hwet⟩)
                  cases hok
              | ok r =>
                  refine persist_outcome (fun q' h => ?_) ?_ rfl rfl fun h => absurd h hdry
                  · cases hdrafts q' h
                    exact hiff.mp ⟨r, hcreate⟩
                  · exact questionItem_accounts ordinal q batch _ _ _ hstatus.1
                      (iff_of_false hstatus.2 (not_not.mpr herrors))
          · rw [if_pos herrors]
            refine persist_outcome (fun q' h => ?_) ?_ rfl rfl fun _ => rfl
            · cases hdrafts q' h
              exact absurd h.passed herrors
            · exact questionItem_accounts ordinal q batch _ _ _ (by decide)
                (iff_of_true rfl herrors)

end

/-! ## The loop -/

/-- The items of the records from `ordinal` on. -/
structure LoopDone (u : Upload) (ordinal : Nat) (records : List (SourceRecord P))
    (batch batch' : Batch C) (items : List ImportItem) : Prop where
  accounts : ∀ i ∈ items, ∃ n, Accounts u n i
  ordinals : items.map ImportItem.ordinal = List.range' ordinal records.length
  items : batch'.library.items = batch.library.items ++ items
  imports : batch'.library.imports = batch.library.imports
  dry : u.dryRun = true → batch'.library.catalogue = batch.library.catalogue

theorem processRecords_outcome (ids : Nat → CatalogueIds) (records : List (SourceRecord P))
    (batch : Batch C) (ordinal : Nat) :
    (BatchFits p u ids batch ordinal records ∧ ∃ items,
        (processRecords p u ids batch ordinal records).2 = .ok items
        ∧ LoopDone u ordinal records batch (processRecords p u ids batch ordinal records).1 items)
      ∨ ¬BatchFits p u ids batch ordinal records
        ∧ (∃ e, (processRecords p u ids batch ordinal records).2 = .error e)
        ∧ (processRecords p u ids batch ordinal records).1.library.imports
          = batch.library.imports := by
  induction records generalizing batch ordinal with
  | nil =>
      refine .inl ⟨trivial, [], rfl, ⟨?_, rfl, (List.append_nil _).symm, rfl, fun _ => rfl⟩⟩
      exact fun _ h => nomatch h
  | cons record rest ih =>
      unfold processRecords BatchFits
      have hrecord := @processRecord_outcome P C p u (ids ordinal) batch ordinal record
      cases hfirst : processRecord p u (ids ordinal) batch ordinal record with
      | mk batch₁ first =>
          rw [hfirst] at hrecord
          rcases hrecord with ⟨hfits, item, rfl, hdone⟩ | ⟨hfits, ⟨e, rfl⟩, himports⟩
          · have hloop := ih batch₁ (ordinal + 1)
            cases hlater : processRecords p u ids batch₁ (ordinal + 1) rest with
            | mk batch₂ later =>
                rw [hlater] at hloop
                rcases hloop with ⟨hrest, items, rfl, hloop⟩ | ⟨hrest, ⟨e, rfl⟩, himports⟩
                · refine .inl ⟨⟨hfits, hrest⟩, item :: items, ?_⟩
                  dsimp only
                  rw [hlater]
                  refine ⟨rfl, ?_⟩
                  constructor
                  · intro i hi
                    rcases List.mem_cons.mp hi with rfl | hi
                    · exact ⟨ordinal, hdone.accounts⟩
                    · exact hloop.accounts i hi
                  · rw [List.map_cons, hloop.ordinals, hdone.accounts.ordinal]
                    rfl
                  · rw [hloop.items, hdone.items, List.append_assoc]
                    rfl
                  · exact hloop.imports.trans hdone.imports
                  · exact fun hdry => (hloop.dry hdry).trans (hdone.dry hdry)
                · refine .inr ⟨fun h => hrest h.2, ⟨e, ?_⟩, ?_⟩
                  · dsimp only
                    rw [hlater]
                  · dsimp only
                    rw [hlater]
                    exact himports.trans hdone.imports
          · exact .inr ⟨fun h => hfits h.1, ⟨e, rfl⟩, himports⟩

/-! ## The upload -/

/-- `gen_random_uuid` has given an identifier that no row mentions. -/
structure FreshImport (importId : Uuid) (lib : Library C) : Prop where
  imports : lib.contentImport importId = none
  items : ∀ i ∈ lib.items, i.importId ≠ importId

/-- The answer, the row of the import and its items tell the same of every record. -/
structure AccountsFor (r : UploadRequest) (importId : Uuid) (records : List (SourceRecord P))
    (lib lib' : Library C) (result : ImportResult) : Prop where
  row : ∃ row, lib'.contentImport importId = some row ∧ row.status = result.status
    ∧ row.status ≠ .processing ∧ row.questionCount = records.length
    ∧ row.questionCount = row.acceptedCount + row.rejectedCount
  items : (lib'.items.filter fun i => i.importId = importId) = result.items
  ordinals : result.items.map ImportItem.ordinal = List.range' 1 records.length
  stages : ∀ i ∈ result.items, i.stages.map StageResult.stage = pipelineStages
  rejected : ∀ i ∈ result.items, i.status = .rejected ↔ i.errors ≠ []
  dry : r.dryRun = true → lib'.catalogue = lib.catalogue

/-- No draft is left, and no import that is still `processing`. -/
structure LeavesNothing (importId : Uuid) (lib lib' : Library C) : Prop where
  catalogue : lib'.catalogue = lib.catalogue
  settled : ∀ row, lib'.contentImport importId = some row → row.status ≠ .processing

def EndsAccounted (p : Pipeline P C) (r : UploadRequest) (importId : Uuid)
    (ids : Nat → CatalogueIds) (records : List (SourceRecord P)) (lib : Library C) : Prop :=
  match importUpload p r importId ids records lib with
  | (lib', .ok result) => AccountsFor r importId records lib lib' result
  | (lib', .error (.ingestion _)) => LeavesNothing importId lib lib'
  | (_, .error (.database _)) => False

/-- The library in which the loop starts. -/
def openedLibrary (u : Upload) (records : List (SourceRecord P)) (lib : Library C) : Library C :=
  { lib with imports := lib.imports ++ [openedImport u records.length] }

/-- The upload is refused before its import is opened, or all of its records go through. -/
def UploadFits (p : Pipeline P C) (r : UploadRequest) (importId : Uuid)
    (ids : Nat → CatalogueIds) (records : List (SourceRecord P)) (lib : Library C) : Prop :=
  records = [] ∨ records.length > 1000 ∨
    match r.organizationId p with
    | .error _ => True
    | .ok organizationId =>
        let u := r.upload importId organizationId
        BatchFits p u ids ⟨openedLibrary u records lib, [], []⟩ 1 records

theorem LeavesNothing.refl {importId : Uuid} {lib : Library C} (h : FreshImport importId lib) :
    LeavesNothing importId lib lib :=
  ⟨rfl, fun _ hrow => nomatch h.imports.symm.trans hrow⟩

theorem contentImport_opened {u : Upload} {records : List (SourceRecord P)} {lib lib' : Library C}
    (h : lib.contentImport u.importId = none)
    (himports : lib'.imports = (openedLibrary u records lib).imports) :
    lib'.contentImport u.importId = some (openedImport u records.length) := by
  unfold Library.contentImport Tables.find at h ⊢
  rw [himports]
  show List.find? _ (lib.imports ++ [openedImport u records.length]) = _
  rw [List.find?_append, h, Option.none_or, List.find?_singleton]
  exact if_pos (decide_eq_true rfl)

theorem contentImport_finished {importId : Uuid} {lib : Library C} {row : ContentImport}
    (h : lib.contentImport importId = some row) (result : ImportResult) (available : Bool) :
    (lib.updateImport importId (ContentImport.finish result available)).contentImport importId
      = some (row.finish result available) := by
  have hkey (row : ContentImport) : (row.finish result available).id = row.id := rfl
  unfold Library.contentImport Library.updateImport at *
  rw [Tables.find_update hkey, h, Option.map_some, if_pos (Tables.key_of_find h)]

theorem importResult_counts {importId : Uuid} {items : List ImportItem} {ordinals : List Nat}
    (questionCount : Nat) (hordinals : items.map ImportItem.ordinal = ordinals)
    (hstatus : ∀ i ∈ items, i.status ≠ .rolledBack) :
    (importResult importId questionCount items).acceptedCount
      + (importResult importId questionCount items).rejectedCount = ordinals.length := by
  have hrejected : ∀ i ∈ items, (decide (i.status = .rejected) = true
      ↔ (decide ¬decide (i.status = .accepted ∨ i.status = .draft ∨ i.status = .warning) = true)
        = true) := by
    intro i hi
    have hi := hstatus i hi
    cases h : i.status with
    | rolledBack => exact absurd h hi
    | _ => decide
  unfold importResult
  dsimp only
  rw [List.countP_congr hrejected, ← hordinals, List.length_map]
  exact (List.length_eq_countP_add_countP _).symm

theorem importResult_status (importId : Uuid) (questionCount : Nat) (items : List ImportItem) :
    (importResult importId questionCount items).status ≠ .processing := by
  unfold importResult
  dsimp only
  split_ifs <;> decide

/-- A pipeline whose payloads are parsed questions. -/
def parsedPipeline : Pipeline (UniversalQuestion Unit) Unit where
  validate := .ok
  externalId q := some q.id
  slug q := some q.slug
  similarity _ _ := .normalProcessing
  execute _ := []
  casefold text := text
  parseUuid := some
  today := 0
  acceptsItem _ := true
  acceptsDraft _ := true

def universalQuestion (id slug version primaryTrack : Str) : UniversalQuestion Unit where
  id := id
  version := version
  slug := slug
  primaryTrack := primaryTrack
  difficulty := .intermediate
  dimensions := ⟨2, 2, 2, 2, 2⟩
  relatedQuestionIds := []
  referenceSolution := "SELECT 1"
  certificationEvidence := ["signed statement"]
  sourceUri := none
  rightsBasis := .original
  expirationDate := none
  normalizedHash := "hash-1"
  body := ()

def seededLibrary : Library Unit := ⟨seededCatalogue, [], []⟩

def publicUpload : UploadRequest where
  actor := "ann"
  organization := none
  sourceMethod := "json"
  dryRun := false
  visibility := "public"

def draftIds (ordinal : Nat) : CatalogueIds :=
  ⟨("question-" : Str) ++ natText ordinal, ("version-" : Str) ++ natText ordinal⟩

def joinRecord : SourceRecord (UniversalQuestion Unit) :=
  ⟨universalQuestion "SQL-0001" "join-basics" "1.0.0" "sql-analytics", .complete⟩

/-- A record of a track that is not seeded. -/
def strayRecord : SourceRecord (UniversalQuestion Unit) :=
  ⟨universalQuestion "SQL-0002" "window-basics" "1.0.0" "sql-windows", .complete⟩

end Rigor
