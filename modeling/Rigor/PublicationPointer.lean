import Rigor.ContentSync

/-!
# The publication pointer

`questions.current_published_version_id` and the state of the versions are
kept in step by `publish`, `transition`, `rollback` and the synchronizer,
except that `publish` leaves the version that it replaces `published`
(`publication_pointer`). A repeated `publish` answers `published` whatever
has become of the version, and `archived_at` is never set: deprecating the
version has cleared the pointer that archiving it looks for.
-/

namespace Rigor

open Py Runs

variable {C : Type}

/-! ## The rows -/

namespace Catalogue

/-- Keys, and what the pointers point to. -/
structure Pointed (db : Catalogue C) : Prop where
  versionIds : (db.versions.map VersionRow.id).Nodup
  questionIds : (db.questions.map QuestionRow.id).Nodup
  versionQuestion : ∀ key v, db.version key = some v → ∃ q, db.question v.questionId = some q
  current : ∀ key q c, db.question key = some q → q.currentPublishedVersionId = some c →
    ∃ w, db.version c = some w ∧ w.questionId = key ∧ w.state = .published
  notArchived : ∀ key q, db.question key = some q → q.archivedAt = none

/-- A version is published exactly when its question points to it. -/
def PointerAgrees (db : Catalogue C) : Prop :=
  ∀ key v, db.version key = some v → (v.state = .published
    ↔ ∃ q, db.question v.questionId = some q ∧ q.currentPublishedVersionId = some key)

variable {db : Catalogue C}

theorem Empty.version_eq (h : db.Empty) (key : Uuid) : db.version key = none := by
  unfold version
  rw [h.versions]
  rfl

theorem Empty.question_eq (h : db.Empty) (key : Uuid) : db.question key = none := by
  unfold question
  rw [h.questions]
  rfl

theorem Empty.pointed (h : db.Empty) : db.Pointed where
  versionIds := by rw [h.versions]; exact List.nodup_nil
  questionIds := by rw [h.questions]; exact List.nodup_nil
  versionQuestion key v hv := nomatch (h.version_eq key).symm.trans hv
  current key q c hq := nomatch (h.question_eq key).symm.trans hq
  notArchived key q hq := nomatch (h.question_eq key).symm.trans hq

theorem Empty.pointerAgrees (h : db.Empty) : db.PointerAgrees := fun key _ hv =>
  nomatch (h.version_eq key).symm.trans hv

/-- A version that is found by its question and number is the one its key finds. -/
theorem Pointed.version_of_versionOf (h : db.Pointed) {questionId : Uuid} {number : Str}
    {v : VersionRow C} (hv : db.versionOf questionId number = some v) :
    db.version v.id = some v ∧ v.questionId = questionId := by
  have hkey := List.find?_some hv
  simp only [decide_eq_true_eq] at hkey
  exact ⟨Tables.find_of_mem h.versionIds (List.mem_of_find?_eq_some hv), hkey.1⟩

theorem Pointed.question_of_externalId (h : db.Pointed) {externalId : Str} {q : QuestionRow}
    (hq : db.questionByExternalId externalId = some q) : db.question q.id = some q :=
  Tables.find_of_mem h.questionIds (Tables.mem_of_find hq)

/-! ### Writes to a version -/

/-- A version that no question points to takes another state. -/
theorem Pointed.updateVersion (h : db.Pointed) {id : Uuid} {f : VersionRow C → VersionRow C}
    (hid : ∀ v, (f v).id = v.id) (hquestion : ∀ v, (f v).questionId = v.questionId)
    (hf : ∀ v, db.version id = some v → v.state = .published → (f v).state = .published) :
    (db.updateVersion id f).Pointed where
  versionIds := by
    unfold Catalogue.updateVersion
    rw [Tables.map_update fun v _ _ => hid v]
    exact h.versionIds
  questionIds := h.questionIds
  versionQuestion key v hv := by
    rw [version_update hid] at hv
    obtain ⟨w, hw, rfl⟩ := Option.map_eq_some_iff.mp hv
    obtain ⟨q, hq⟩ := h.versionQuestion key w hw
    split_ifs
    · exact ⟨q, (hquestion w).symm ▸ hq⟩
    · exact ⟨q, hq⟩
  current key q c hq hc := by
    obtain ⟨w, hw, hkey, hstate⟩ := h.current key q c hq hc
    refine ⟨_, (version_update hid).trans (congrArg (Option.map _) hw), ?_⟩
    dsimp only
    split_ifs with hwid
    · refine ⟨(hquestion w).trans hkey, hf w ?_ hstate⟩
      rw [← hwid, id_of_version hw]
      exact hw
    · exact ⟨hkey, hstate⟩
  notArchived := h.notArchived

theorem PointerAgrees.updateVersion (h : db.PointerAgrees) {id : Uuid}
    {f : VersionRow C → VersionRow C} (hid : ∀ v, (f v).id = v.id)
    (hquestion : ∀ v, (f v).questionId = v.questionId)
    (hf : ∀ v, db.version id = some v → ((f v).state = .published ↔ v.state = .published)) :
    (db.updateVersion id f).PointerAgrees := by
  intro key v hv
  rw [version_update hid] at hv
  obtain ⟨w, hw, rfl⟩ := Option.map_eq_some_iff.mp hv
  split_ifs with hwid
  · rw [hquestion w, hf w (by rw [← hwid, id_of_version hw]; exact hw)]
    exact h key w hw
  · exact h key w hw

/-- The question with the key takes another pointer. -/
theorem Pointed.updateQuestion (h : db.Pointed) {id : Uuid} {f : QuestionRow → QuestionRow}
    (hid : ∀ q, (f q).id = q.id)
    (hcurrent : ∀ q c, db.question id = some q → (f q).currentPublishedVersionId = some c →
      ∃ w, db.version c = some w ∧ w.questionId = id ∧ w.state = .published)
    (harchived : ∀ q, db.question id = some q → (f q).archivedAt = none) :
    (db.updateQuestion id f).Pointed where
  versionIds := h.versionIds
  questionIds := by
    unfold Catalogue.updateQuestion
    rw [Tables.map_update fun q _ _ => hid q]
    exact h.questionIds
  versionQuestion key v hv := by
    obtain ⟨q, hq⟩ := h.versionQuestion key v hv
    exact ⟨_, (question_update hid).trans (congrArg (Option.map _) hq)⟩
  current key q c hq hc := by
    rw [question_update hid] at hq
    obtain ⟨r, hr, rfl⟩ := Option.map_eq_some_iff.mp hq
    split_ifs at hc with hrid
    · have hkey : key = id := (id_of_question hr).symm.trans hrid
      subst hkey
      exact hcurrent r c hr hc
    · exact h.current key r c hr hc
  notArchived key q hq := by
    rw [question_update hid] at hq
    obtain ⟨r, hr, rfl⟩ := Option.map_eq_some_iff.mp hq
    split_ifs with hrid
    · exact harchived r (by rw [← hrid, id_of_question hr]; exact hr)
    · exact h.notArchived key r hr

end Catalogue

/-! ## The synchronizer -/

section

variable {db db' synced : Catalogue C} {questionId : Uuid}

theorem QuestionSynced.version (hq : QuestionSynced db synced questionId) (key : Uuid) :
    synced.version key = db.version key := by
  unfold Catalogue.version
  rw [hq.versions]

theorem QuestionSynced.pointed (hq : QuestionSynced db synced questionId) (h : db.Pointed) :
    synced.Pointed where
  versionIds := hq.versions ▸ h.versionIds
  questionIds := hq.ids h.questionIds
  versionQuestion key v hv := by
    rw [hq.version] at hv
    obtain ⟨q, hfound⟩ := h.versionQuestion key v hv
    obtain ⟨q', hq', -⟩ := hq.kept _ q hfound
    exact ⟨q', hq'⟩
  current key q' c hq' hc := by
    rw [hq.version]
    rcases hq.back key q' hq' with ⟨q, hfound, hcurrent, -⟩ | ⟨-, hcurrent, -⟩
    · exact h.current key q c hfound (hcurrent.symm.trans hc)
    · exact nomatch hcurrent.symm.trans hc
  notArchived key q' hq' := by
    rcases hq.back key q' hq' with ⟨q, hfound, -, harchived⟩ | ⟨-, -, harchived⟩
    · exact harchived.trans (h.notArchived key q hfound)
    · exact harchived

theorem QuestionSynced.pointerAgrees (hq : QuestionSynced db synced questionId) (hp : db.Pointed)
    (h : db.PointerAgrees) : synced.PointerAgrees := by
  intro key v hv
  rw [hq.version] at hv
  rw [h key v hv]
  obtain ⟨q, hfound⟩ := hp.versionQuestion key v hv
  obtain ⟨q', hq', hcurrent, -⟩ := hq.kept _ q hfound
  rw [hfound, hq']
  constructor
  · rintro ⟨r, hr, hc⟩
    cases hr
    exact ⟨q', rfl, hcurrent.trans hc⟩
  · rintro ⟨r, hr, hc⟩
    cases hr
    exact ⟨q, rfl, hcurrent.symm.trans hc⟩

variable {sourceRevision : Str} {p : LoadedContentPackage C} {ids : CatalogueIds}
  {result : PackageSyncResult}

theorem not_published_of_mutable {state : ContentState} (h : state ∉ immutableStates) :
    state ≠ .published := by
  rintro rfl
  exact h (by decide)

theorem Synced.pointed (hs : Synced db sourceRevision p ids db' result) (h : db.Pointed) :
    db'.Pointed := by
  cases hs with
  | untracked => exact h
  | unchanged hq => exact hq.pointed h
  | immutable hq => exact hq.pointed h
  | updated hq hv hhash hstate =>
      refine (hq.pointed h).updateVersion (fun _ => rfl) (fun _ => rfl) fun w hw hpublished => ?_
      rw [hq.version, (h.version_of_versionOf hv).1] at hw
      cases hw
      exact absurd hpublished (not_published_of_mutable hstate)
  | inserted hq hv hid =>
      have hp := hq.pointed h
      have hfree : ∀ w ∈ db.versions, w.id ≠ ids.versionId := by
        intro w hw heq
        obtain ⟨w', hw'⟩ := Tables.find_isSome_of_mem VersionRow.id hw
        rw [heq] at hw'
        exact nomatch hid.symm.trans hw'
      constructor
      · rw [hq.versions, List.map_append]
        refine List.Nodup.append h.versionIds (List.nodup_singleton _) fun key hkey hnew => ?_
        obtain ⟨w, hw, rfl⟩ := List.mem_map.mp hkey
        exact hfree w hw (List.mem_singleton.mp hnew)
      · exact hp.questionIds
      · intro key v hversion
        rw [version_append] at hversion
        cases hold : Catalogue.version key _ with
        | some w =>
            rw [hold] at hversion
            cases hversion
            exact hp.versionQuestion key _ hold
        | none =>
            rw [hold, Option.none_or] at hversion
            split_ifs at hversion
            cases hversion
            exact hq.found
      · intro key q c hfound hc
        obtain ⟨w, hw, hrest⟩ := hp.current key q c hfound hc
        refine ⟨w, ?_, hrest⟩
        rw [version_append, hw]
        rfl
      · exact hp.notArchived

theorem Synced.pointerAgrees (hs : Synced db sourceRevision p ids db' result) (hp : db.Pointed)
    (h : db.PointerAgrees) : db'.PointerAgrees := by
  cases hs with
  | untracked => exact h
  | unchanged hq => exact hq.pointerAgrees hp h
  | immutable hq => exact hq.pointerAgrees hp h
  | updated hq hv hhash hstate =>
      refine (hq.pointerAgrees hp h).updateVersion (fun _ => rfl) (fun _ => rfl) fun w hw => ?_
      rw [hq.version, (hp.version_of_versionOf hv).1] at hw
      cases hw
      exact iff_of_false nofun (not_published_of_mutable hstate)
  | inserted hq hv hid =>
      intro key v hversion
      rw [version_append] at hversion
      cases hold : Catalogue.version key _ with
      | some w =>
          rw [hold] at hversion
          cases hversion
          exact hq.pointerAgrees hp h key _ hold
      | none =>
          rw [hold, Option.none_or] at hversion
          split_ifs at hversion with hkey
          cases hversion
          refine iff_of_false nofun ?_
          rintro ⟨q, hfound, hc⟩
          obtain ⟨w, hw, -⟩ := (hq.pointed hp).current _ q key hfound hc
          exact nomatch hold.symm.trans hw

end

/-! ## The reviews -/

section

variable {db db' : Catalogue C} {result : ReviewActionResult} {versionId : Uuid}

/-- A version that no question points to is not published by a decision. -/
theorem decided_unpublished {v : VersionRow C} {kind : ReviewKind} {reviewer : Subject}
    (h : Decides v kind reviewer) : v.state ≠ .published := by
  cases kind with
  | technical => rw [checkDecision_technical h.checked]; decide
  | editorial => rw [(checkDecision_editorial h.checked).1]; decide

theorem decidedState_ne_published (kind : ReviewKind) (outcome : ReviewOutcome) :
    decidedState kind outcome ≠ .published := by
  cases kind <;> cases outcome <;> decide

/-- A version is published, and its question points to it. -/
theorem pointed_publish (h : db.Pointed) {v : VersionRow C}
    (hv : db.version versionId = some v) (publications : List PublicationEvent) :
    (({ db with publications := publications } : Catalogue C).updateVersion versionId
      (VersionRow.inState .published)).updateQuestion v.questionId
        (QuestionRow.pointTo versionId) |>.Pointed := by
  have hpublications : ({ db with publications := publications } : Catalogue C).Pointed :=
    ⟨h.versionIds, h.questionIds, h.versionQuestion, h.current, h.notArchived⟩
  have hversion : (({ db with publications := publications } : Catalogue C).updateVersion versionId
      (VersionRow.inState .published)).Pointed :=
    hpublications.updateVersion (fun _ => rfl) (fun _ => rfl) fun _ _ _ => rfl
  refine hversion.updateQuestion (f := QuestionRow.pointTo versionId) (fun _ => rfl) ?_
    fun q hq => h.notArchived _ q hq
  rintro q c - hc
  cases hc
  refine ⟨_, (Catalogue.version_inState _).trans (congrArg (Option.map _) hv), ?_⟩
  dsimp only
  rw [if_pos (Catalogue.id_of_version hv)]
  exact ⟨rfl, rfl⟩

theorem pointerAgrees_publish (hp : db.Pointed) (h : db.PointerAgrees) {v : VersionRow C}
    (hv : db.version versionId = some v)
    (hfree : ∀ q, db.question v.questionId = some q → q.currentPublishedVersionId = none)
    (publications : List PublicationEvent) :
    (({ db with publications := publications } : Catalogue C).updateVersion versionId
      (VersionRow.inState .published)).updateQuestion v.questionId
        (QuestionRow.pointTo versionId) |>.PointerAgrees := by
  intro key w hw
  rw [Catalogue.version_updateQuestion, Catalogue.version_inState] at hw
  rw [Catalogue.question_pointTo, Catalogue.question_updateVersion]
  obtain ⟨u, hu, rfl⟩ := Option.map_eq_some_iff.mp hw
  obtain ⟨q, hq⟩ := hp.versionQuestion key u hu
  have hkey := Catalogue.id_of_version hu
  by_cases hid : u.id = versionId
  · rw [if_pos hid]
    obtain rfl : versionId = key := hid.symm.trans hkey
    cases hv.symm.trans hu
    refine iff_of_true rfl ⟨_, congrArg (Option.map _) hq, ?_⟩
    dsimp only
    rw [if_pos (Catalogue.id_of_question hq)]
    rfl
  · rw [if_neg hid, h key u hu]
    have hne : versionId ≠ key := fun heq => hid (hkey.trans heq.symm)
    constructor
    · rintro ⟨r, hr, hc⟩
      refine ⟨_, congrArg (Option.map _) hr, ?_⟩
      dsimp only
      split_ifs with hrid
      · rw [← hrid, Catalogue.id_of_question hr] at hfree
        exact nomatch (hfree r hr).symm.trans hc
      · exact hc
    · rintro ⟨r', hr', hc⟩
      obtain ⟨r, hr, rfl⟩ := Option.map_eq_some_iff.mp hr'
      refine ⟨r, hr, ?_⟩
      split_ifs at hc with hrid
      · exact absurd (Option.some.inj hc) hne
      · exact hc

theorem transition_state {target : ContentState} {v : VersionRow C}
    (h : target = .deprecated ∧ v.state = .published ∨ target = .archived ∧ v.state ≠ .published) :
    target ≠ .published := by
  rcases h with ⟨rfl, -⟩ | ⟨rfl, -⟩ <;> decide

/-- The version leaves the state, and with it the pointer of its question. -/
theorem pointed_transition (h : db.Pointed) {target : ContentState} {now : Time}
    {v : VersionRow C} (hv : db.version versionId = some v)
    (hstate : target = .deprecated ∧ v.state = .published
      ∨ target = .archived ∧ v.state ≠ .published) :
    (db.updateVersion versionId (VersionRow.inState target)).updateQuestion v.questionId
      (QuestionRow.unpoint versionId target now) |>.Pointed := by
  have hpoints (key : Uuid) (q : QuestionRow) (hq : db.question key = some q)
      (hc : q.currentPublishedVersionId = some versionId) :
      key = v.questionId ∧ v.state = .published := by
    obtain ⟨w, hw, hkey, hpublished⟩ := h.current key q versionId hq hc
    cases hv.symm.trans hw
    exact ⟨hkey.symm, hpublished⟩
  constructor
  · unfold Catalogue.updateVersion Catalogue.updateQuestion
    dsimp only
    rw [Tables.map_update (f := VersionRow.inState target) fun _ _ _ => rfl]
    exact h.versionIds
  · unfold Catalogue.updateQuestion
    dsimp only
    rw [Tables.map_update fun q _ _ => Catalogue.id_unpoint versionId target now q]
    exact h.questionIds
  · intro key w hw
    rw [Catalogue.version_updateQuestion, Catalogue.version_inState] at hw
    obtain ⟨u, hu, rfl⟩ := Option.map_eq_some_iff.mp hw
    obtain ⟨q, hq⟩ := h.versionQuestion key u hu
    have hquestion : (if u.id = versionId then u.inState target else u).questionId
        = u.questionId := by split_ifs <;> rfl
    rw [hquestion]
    exact ⟨_, (Catalogue.question_unpoint versionId target now).trans
      (congrArg (Option.map _) hq)⟩
  · intro key q c hq hc
    rw [Catalogue.question_unpoint, Catalogue.question_updateVersion] at hq
    obtain ⟨r, hr, rfl⟩ := Option.map_eq_some_iff.mp hq
    have hrc : r.currentPublishedVersionId = some c ∧ c ≠ versionId := by
      unfold QuestionRow.unpoint at hc
      split_ifs at hc with hrid hcurrent
      · exact ⟨hc, fun heq => hcurrent (heq ▸ hc)⟩
      · exact ⟨hc, fun heq => hrid ((Catalogue.id_of_question hr).trans
          (hpoints key r hr (heq ▸ hc)).1)⟩
    obtain ⟨w, hw, hkey, hpublished⟩ := h.current key r c hr hrc.1
    refine ⟨w, ?_, hkey, hpublished⟩
    rw [Catalogue.version_updateQuestion, Catalogue.version_inState, hw, Option.map_some, if_neg]
    rw [Catalogue.id_of_version hw]
    exact hrc.2
  · intro key q hq
    rw [Catalogue.question_unpoint, Catalogue.question_updateVersion] at hq
    obtain ⟨r, hr, rfl⟩ := Option.map_eq_some_iff.mp hq
    unfold QuestionRow.unpoint
    split_ifs with hrid hcurrent htarget
    · -- what is archived has been deprecated before, which cleared the pointer
      rcases hstate with ⟨rfl, -⟩ | ⟨-, hunpublished⟩
      · cases htarget
      · exact absurd (hpoints key r hr hcurrent).2 hunpublished
    · exact h.notArchived key r hr
    · exact h.notArchived key r hr
    · exact h.notArchived key r hr

theorem pointerAgrees_transition (h : db.PointerAgrees) {target : ContentState}
    {now : Time} {v : VersionRow C} (hv : db.version versionId = some v)
    (htarget : target ≠ .published) :
    (db.updateVersion versionId (VersionRow.inState target)).updateQuestion v.questionId
      (QuestionRow.unpoint versionId target now) |>.PointerAgrees := by
  intro key w hw
  rw [Catalogue.version_updateQuestion, Catalogue.version_inState] at hw
  rw [Catalogue.question_unpoint, Catalogue.question_updateVersion]
  obtain ⟨u, hu, rfl⟩ := Option.map_eq_some_iff.mp hw
  have hkey := Catalogue.id_of_version hu
  by_cases hid : u.id = versionId
  · rw [if_pos hid]
    obtain rfl : versionId = key := hid.symm.trans hkey
    cases hv.symm.trans hu
    refine iff_of_false htarget ?_
    rintro ⟨q', hq', hc⟩
    obtain ⟨q, hq, rfl⟩ := Option.map_eq_some_iff.mp hq'
    rw [if_pos (show q.id = v.questionId from Catalogue.id_of_question hq)] at hc
    unfold QuestionRow.unpoint at hc
    split_ifs at hc with hcurrent
    exact hcurrent hc
  · rw [if_neg hid, h key u hu]
    have hne : versionId ≠ key := fun heq => hid (hkey.trans heq.symm)
    unfold QuestionRow.unpoint
    constructor
    · rintro ⟨r, hr, hc⟩
      refine ⟨_, congrArg (Option.map _) hr, ?_⟩
      dsimp only
      split_ifs with hrid hcurrent
      · exact absurd (Option.some.inj (hcurrent.symm.trans hc)) hne
      · exact hc
      · exact hc
    · rintro ⟨r', hr', hc⟩
      obtain ⟨r, hr, rfl⟩ := Option.map_eq_some_iff.mp hr'
      refine ⟨r, hr, ?_⟩
      split_ifs at hc with hrid hcurrent
      · exact hc
      · exact hc

/-! ### Rollback -/

theorem version_rolledBack {q : QuestionRow} {v : VersionRow C}
    (hother : q.currentPublishedVersionId ≠ some v.id) (key : Uuid) :
    (rolledBack db q v).version key = (db.version key).map fun w =>
      if w.id = v.id then w.inState .published
      else if q.currentPublishedVersionId = some w.id then w.inState .deprecated else w := by
  unfold rolledBack
  rw [Catalogue.version_updateQuestion, Catalogue.version_inState]
  cases hcurrent : q.currentPublishedVersionId with
  | none =>
      refine congrArg (Option.map · (db.version key)) (funext fun w => ?_)
      rw [if_neg (show ¬none = some w.id from nofun)]
  | some current =>
      dsimp only
      rw [Catalogue.version_inState, Option.map_map]
      refine congrArg (Option.map · (db.version key)) (funext fun w => ?_)
      simp only [Function.comp_apply, Option.some.injEq]
      by_cases hw : w.id = current
      · have hne : w.id ≠ v.id := fun heq =>
          hother (hcurrent.trans (congrArg some (hw.symm.trans heq)))
        rw [if_pos hw, if_neg hne, if_pos hw.symm,
          if_neg (show (w.inState .deprecated).id ≠ v.id from hne)]
      · rw [if_neg hw, if_neg (Ne.symm hw)]

theorem question_rolledBack {q : QuestionRow} {v : VersionRow C} (key : Uuid) :
    (rolledBack db q v).question key
      = (db.question key).map fun r => if r.id = q.id then r.restoreTo v.id else r := by
  unfold rolledBack
  rw [Catalogue.question_restoreTo, Catalogue.question_updateVersion]
  cases q.currentPublishedVersionId <;> rfl

theorem pointed_rolledBack (h : db.Pointed) {q : QuestionRow} {v : VersionRow C}
    (hq : db.question q.id = some q) (hv : db.version v.id = some v) (hvq : v.questionId = q.id)
    (hother : q.currentPublishedVersionId ≠ some v.id) : (rolledBack db q v).Pointed := by
  constructor
  · unfold rolledBack Catalogue.updateQuestion Catalogue.updateVersion
    cases q.currentPublishedVersionId with
    | none =>
        dsimp only
        rw [Tables.map_update (f := VersionRow.inState .published) fun _ _ _ => rfl]
        exact h.versionIds
    | some current =>
        dsimp only
        rw [Tables.map_update (f := VersionRow.inState .published) fun _ _ _ => rfl,
          Tables.map_update (f := VersionRow.inState .deprecated) fun _ _ _ => rfl]
        exact h.versionIds
  · have hquestions : (rolledBack db q v).questions
        = Tables.update QuestionRow.id q.id (QuestionRow.restoreTo v.id) db.questions := by
      unfold rolledBack Catalogue.updateQuestion
      cases q.currentPublishedVersionId <;> rfl
    rw [hquestions, Tables.map_update (f := QuestionRow.restoreTo v.id) fun _ _ _ => rfl]
    exact h.questionIds
  · intro key w hw
    rw [version_rolledBack hother] at hw
    obtain ⟨u, hu, rfl⟩ := Option.map_eq_some_iff.mp hw
    obtain ⟨r, hr⟩ := h.versionQuestion key u hu
    have hquestion : (if u.id = v.id then u.inState .published
        else if q.currentPublishedVersionId = some u.id then u.inState .deprecated
        else u).questionId = u.questionId := by split_ifs <;> rfl
    rw [hquestion]
    exact ⟨_, (question_rolledBack _).trans (congrArg (Option.map _) hr)⟩
  · intro key r c hr hc
    rw [question_rolledBack] at hr
    obtain ⟨r₀, hr₀, rfl⟩ := Option.map_eq_some_iff.mp hr
    rw [version_rolledBack hother]
    split_ifs at hc with hrid
    · cases hc
      refine ⟨_, congrArg (Option.map _) hv, ?_⟩
      dsimp only
      rw [if_pos rfl]
      exact ⟨hvq.trans (hrid.symm.trans (Catalogue.id_of_question hr₀)), rfl⟩
    · obtain ⟨w, hw, hkey, hpublished⟩ := h.current key r₀ c hr₀ hc
      have hne : key ≠ q.id := fun heq => hrid ((Catalogue.id_of_question hr₀).trans heq)
      refine ⟨w, ?_, hkey, hpublished⟩
      rw [hw, Option.map_some, if_neg, if_neg]
      · intro hcurrent
        obtain ⟨w', hw', hkey', -⟩ := h.current q.id q w.id hq hcurrent
        rw [Catalogue.id_of_version hw, hw] at hw'
        cases hw'
        exact hne (hkey.symm.trans hkey')
      · intro heq
        rw [← heq, Catalogue.id_of_version hw, hw] at hv
        cases hv
        exact hne (hkey.symm.trans hvq)
  · intro key r hr
    rw [question_rolledBack] at hr
    obtain ⟨r₀, hr₀, rfl⟩ := Option.map_eq_some_iff.mp hr
    split_ifs
    · rfl
    · exact h.notArchived key r₀ hr₀

theorem pointerAgrees_rolledBack (hp : db.Pointed) (h : db.PointerAgrees) {q : QuestionRow}
    {v : VersionRow C} (hq : db.question q.id = some q) (hv : db.version v.id = some v)
    (hvq : v.questionId = q.id) (hother : q.currentPublishedVersionId ≠ some v.id) :
    (rolledBack db q v).PointerAgrees := by
  intro key w hw
  rw [version_rolledBack hother] at hw
  rw [question_rolledBack]
  obtain ⟨u, hu, rfl⟩ := Option.map_eq_some_iff.mp hw
  have hkey := Catalogue.id_of_version hu
  by_cases hid : u.id = v.id
  · rw [if_pos hid]
    obtain rfl : v.id = key := hid.symm.trans hkey
    cases hv.symm.trans hu
    refine iff_of_true rfl ⟨_, congrArg (Option.map _) (show db.question v.questionId = some q from
      hvq ▸ hq), ?_⟩
    dsimp only
    rw [if_pos rfl]
    rfl
  · have hne : v.id ≠ key := fun heq => hid (hkey.trans heq.symm)
    rw [if_neg hid]
    by_cases hcurrent : q.currentPublishedVersionId = some u.id
    · rw [if_pos hcurrent]
      refine iff_of_false nofun ?_
      rintro ⟨r', hr', hc⟩
      obtain ⟨r, hr, rfl⟩ := Option.map_eq_some_iff.mp hr'
      split_ifs at hc with hrid
      · exact hne (Option.some.inj hc)
      · obtain ⟨w', hw', hkey', -⟩ := hp.current q.id q u.id hq hcurrent
        rw [hkey, hu] at hw'
        cases hw'
        exact hrid ((Catalogue.id_of_question hr).trans hkey')
    · rw [if_neg hcurrent, h key u hu]
      constructor
      · rintro ⟨r, hr, hc⟩
        refine ⟨_, congrArg (Option.map _) hr, ?_⟩
        dsimp only
        split_ifs with hrid
        · rw [← hrid, Catalogue.id_of_question hr, hr] at hq
          cases hq
          exact absurd (hc.trans (congrArg some hkey.symm)) hcurrent
        · exact hc
      · rintro ⟨r', hr', hc⟩
        obtain ⟨r, hr, rfl⟩ := Option.map_eq_some_iff.mp hr'
        refine ⟨r, hr, ?_⟩
        split_ifs at hc with hrid
        · exact absurd (Option.some.inj hc) hne
        · exact hc

end

/-! ## Runs -/

/-- `publish` makes a version current. -/
def Publishes (db : Catalogue C) (a : WorkflowAction C) (v : VersionRow C) : Prop :=
  ∃ publisher versionId key, a = .publish publisher versionId key
    ∧ db.publication key = none ∧ db.version versionId = some v

theorem WorkflowStep.pointed {db db' : Catalogue C} {a : WorkflowAction C}
    (h : WorkflowStep db a db') (hp : db.Pointed) : db'.Pointed := by
  cases h with
  | sync h => exact (synchronizePackage_ok h).pointed hp
  | assign h =>
      obtain ⟨v, -, rfl⟩ := assign_ok h
      exact hp.updateVersion (fun _ => rfl) (fun _ => rfl) fun _ _ hpublished => hpublished
  | decide h =>
      obtain ⟨v, hv, hdecides, rfl⟩ := decideReview_ok h
      refine hp.updateVersion (fun _ => rfl) (fun _ => rfl) fun w hw hpublished => ?_
      cases hv.symm.trans hw
      exact absurd hpublished (decided_unpublished hdecides)
  | publish h =>
      obtain ⟨v, hv, ⟨_, -, -, rfl, -⟩ | ⟨-, -, -, rfl⟩⟩ := publishVersion_ok h
      · exact hp
      · exact pointed_publish hp hv _
  | transition h =>
      obtain ⟨v, hv, hstate, rfl⟩ := transitionVersion_ok h
      exact pointed_transition hp hv hstate
  | rollback =>
      rename_i externalId version
      rcases rollbackPublication_cases db externalId version with hsame | ⟨q, v, hroll, heq⟩
      · rw [hsame]
        exact hp
      · obtain ⟨hv, hvq⟩ := hp.version_of_versionOf hroll.version
        rw [heq]
        exact pointed_rolledBack hp (hp.question_of_externalId hroll.question) hv hvq hroll.other

/-- The pointers agree with the states, unless a version is published over another. -/
theorem WorkflowStep.pointerAgrees {db db' : Catalogue C} {a : WorkflowAction C}
    (h : WorkflowStep db a db') (hp : db.Pointed) (hagrees : db.PointerAgrees)
    (hfree : ∀ v, Publishes db a v → ∀ q, db.question v.questionId = some q →
      q.currentPublishedVersionId = none) : db'.PointerAgrees := by
  cases h with
  | sync h => exact (synchronizePackage_ok h).pointerAgrees hp hagrees
  | assign h =>
      obtain ⟨v, -, rfl⟩ := assign_ok h
      exact hagrees.updateVersion (fun _ => rfl) (fun _ => rfl) fun _ _ => Iff.rfl
  | decide h =>
      obtain ⟨v, hv, hdecides, rfl⟩ := decideReview_ok h
      refine hagrees.updateVersion (fun _ => rfl) (fun _ => rfl) fun w hw => ?_
      cases hv.symm.trans hw
      exact iff_of_false (decidedState_ne_published _ _) (decided_unpublished hdecides)
  | publish h =>
      obtain ⟨v, hv, ⟨_, -, -, rfl, -⟩ | ⟨hkey, -, -, rfl⟩⟩ := publishVersion_ok h
      · exact hagrees
      · exact pointerAgrees_publish hp hagrees hv (hfree v ⟨_, _, _, rfl, hkey, hv⟩) _
  | transition h =>
      obtain ⟨v, hv, hstate, rfl⟩ := transitionVersion_ok h
      exact pointerAgrees_transition hagrees hv (transition_state hstate)
  | rollback =>
      rename_i externalId version
      rcases rollbackPublication_cases db externalId version with hsame | ⟨q, v, hroll, heq⟩
      · rw [hsame]
        exact hagrees
      · obtain ⟨hv, hvq⟩ := hp.version_of_versionOf hroll.version
        rw [heq]
        exact pointerAgrees_rolledBack hp hagrees (hp.question_of_externalId hroll.question) hv hvq
          hroll.other

abbrev WorkflowTaken (C : Type) := Taken (Catalogue C) (WorkflowAction C)

/-- A repeated `publish` answers with the state of the version. -/
def RepliesTruly (x : WorkflowTaken C) : Prop :=
  ∀ publisher versionId key e db' result, x.label = .publish publisher versionId key →
    x.source.publication key = some e →
    publishVersion publisher versionId key x.source = .ok (db', result) →
    ∃ v, x.target.version versionId = some v ∧ v.state = result.state

/-- The version that the question was made to point to, if it was. -/
def pointerSet (questionId : Uuid) (x : WorkflowTaken C) : Option Uuid :=
  let before := (x.source.question questionId).bind QuestionRow.currentPublishedVersionId
  let after := (x.target.question questionId).bind QuestionRow.currentPublishedVersionId
  if after = before then none else after

/-- The last version of the question that was made the current one. -/
def lastPublished (questionId : Uuid) (past : List (WorkflowTaken C)) : Option Uuid :=
  (past.filterMap (pointerSet questionId)).getLast?

/-- The question's last published version is archived; it is not `published`
any more, so it has been deprecated. -/
def ArchivesLast (past : List (WorkflowTaken C)) (x : WorkflowTaken C) (v : VersionRow C) :
    Prop :=
  ∃ now, x.label = .transition v.id .archived now ∧ x.source.version v.id = some v
    ∧ lastPublished v.questionId past = some v.id

/-- The pointers agree in every state, repeated calls tell the truth, and
archiving the last published version archives the question. -/
structure PublicationHolds (trace : List (WorkflowTaken C)) : Prop where
  pointer : ∀ x ∈ trace, x.target.PointerAgrees
  replies : ∀ x ∈ trace, RepliesTruly x
  archives : ∀ past x rest v, trace = past ++ x :: rest → ArchivesLast past x v →
    ∃ q, x.target.question v.questionId = some q ∧ q.archivedAt ≠ none

/-- No version is published over another, no call is repeated for a version
that is not published any more, and no last published version is archived. -/
structure PublishesOnce (trace : List (WorkflowTaken C)) : Prop where
  free : ∀ x ∈ trace, ∀ v, Publishes x.source x.label v → ∀ q,
    x.source.question v.questionId = some q → q.currentPublishedVersionId = none
  repeated : ∀ x ∈ trace, ∀ publisher versionId key e v,
    x.label = .publish publisher versionId key → x.source.publication key = some e →
    e.questionVersionId = versionId → x.source.version versionId = some v → v.state = .published
  kept : ∀ past x rest v, trace = past ++ x :: rest → ¬ArchivesLast past x v

/-- Publishing over another version leaves two that are published. -/
theorem not_pointerAgrees_of_published_over {db db' : Catalogue C} {a : WorkflowAction C}
    (h : WorkflowStep db a db') (hp : db.Pointed) {v : VersionRow C} (hpublishes : Publishes db a v)
    {q : QuestionRow} (hq : db.question v.questionId = some q) {c : Uuid}
    (hc : q.currentPublishedVersionId = some c) : ¬db'.PointerAgrees := by
  obtain ⟨publisher, versionId, key, rfl, hkey, hv⟩ := hpublishes
  cases h with
  | publish h =>
      obtain ⟨v', hv', ⟨e, he, -⟩ | ⟨-, happroved, -, rfl⟩⟩ := publishVersion_ok h
      · exact nomatch hkey.symm.trans he
      cases hv.symm.trans hv'
      obtain ⟨w, hw, hwq, hpublished⟩ := hp.current _ q c hq hc
      have hne : w.id ≠ versionId := by
        intro heq
        rw [← heq, Catalogue.id_of_version hw, hw] at hv
        cases hv
        rw [hpublished] at happroved
        cases happroved
      intro hagrees
      have hw' : Catalogue.version c (((({ db with publications := db.publications
              ++ [⟨versionId, publisher, key, v.sourceRevision, v.contentHash⟩] }
            : Catalogue C).updateVersion versionId (VersionRow.inState .published)).updateQuestion
              v.questionId (QuestionRow.pointTo versionId))) = some w := by
        rw [Catalogue.version_updateQuestion, Catalogue.version_inState]
        refine (congrArg (Option.map _) hw).trans ?_
        rw [Option.map_some, if_neg hne]
      obtain ⟨r', hr', hrc⟩ := (hagrees c w hw').mp hpublished
      rw [Catalogue.question_pointTo, Catalogue.question_updateVersion] at hr'
      obtain ⟨r, hr, rfl⟩ := Option.map_eq_some_iff.mp hr'
      rw [if_pos ((Catalogue.id_of_question hr).trans hwq)] at hrc
      exact hne ((Catalogue.id_of_version hw).trans (Option.some.inj hrc).symm)

theorem WorkflowStep.of_publish {db db' : Catalogue C} {a : WorkflowAction C}
    (h : WorkflowStep db a db') {publisher : Subject} {versionId : Uuid} {key : Str}
    (ha : a = .publish publisher versionId key) :
    ∃ result, publishVersion publisher versionId key db = .ok (db', result) := by
  subst ha
  cases h with
  | publish h => exact ⟨_, h⟩

/-- A repeated call changes nothing, and answers `published`. -/
theorem publishVersion_repeated (publisher : Subject) {db : Catalogue C} {versionId : Uuid}
    {key : Str} {e : PublicationEvent} {v : VersionRow C}
    (hv : db.version versionId = some v) (he : db.publication key = some e)
    (hversion : e.questionVersionId = versionId) :
    publishVersion publisher versionId key db = .ok (db,
      ⟨versionId, .published, "QuestionRow version was already published"⟩) := by
  unfold publishVersion
  rw [lockVersion_ok.mpr hv, ok_bind, he]
  exact if_neg (not_not.mpr hversion)

/-- **The publication pointer.** In every run from an empty catalogue the
pointers agree with the states, repeated calls tell the truth and questions
are archived with their last published version, exactly when nothing is
published over another version, no call is repeated for a version that is
not published any more, and no last published version is archived. -/
theorem publication_pointer {db db' : Catalogue C} {trace : List (WorkflowTaken C)}
    (hstart : db.Empty) (hrun : Run WorkflowStep db trace db') :
    PublicationHolds trace ↔ PublishesOnce trace := by
  have hpointed : ∀ x ∈ trace, x.source.Pointed := hrun.forall_taken
    (I := Catalogue.Pointed) (fun x hx hstep => hstep.pointed hx) (fun x hx _ => hx) hstart.pointed
  have htaken := hrun.taken
  constructor
  · intro hholds
    constructor
    · intro x hx v hpublishes q hq
      by_contra hne
      obtain ⟨c, hc⟩ := Option.ne_none_iff_exists'.mp hne
      exact not_pointerAgrees_of_published_over (htaken x hx) (hpointed x hx) hpublishes hq hc
        (hholds.pointer x hx)
    · intro x hx publisher versionId key e v hlabel he hversion hv
      have hreply := publishVersion_repeated publisher hv he hversion
      obtain ⟨w, hw, hstate⟩ := hholds.replies x hx publisher versionId key e _ _ hlabel he hreply
      obtain ⟨result, hresult⟩ := (htaken x hx).of_publish hlabel
      have htarget : x.target = x.source :=
        congrArg Prod.fst (Except.ok.inj (hresult.symm.trans hreply))
      rw [htarget, hv] at hw
      cases hw
      exact hstate
    · intro past x rest v heq harchives
      obtain ⟨q, hq, harchived⟩ := hholds.archives past x rest v heq harchives
      have hx : x ∈ trace := heq ▸ List.mem_append_right past (List.mem_cons_self ..)
      exact harchived (((htaken x hx).pointed (hpointed x hx)).notArchived _ q hq)
  · intro honce
    constructor
    · refine hrun.forall_taken_of (I := fun db => db.Pointed ∧ db.PointerAgrees)
        (C := fun x => ∀ v, Publishes x.source x.label v → ∀ q,
          x.source.question v.questionId = some q → q.currentPublishedVersionId = none)
        (fun x hx hfree hstep => ?_) (fun x hx hfree hstep => ?_)
        ⟨hstart.pointed, hstart.pointerAgrees⟩ honce.free
      · exact ⟨hstep.pointed hx.1, hstep.pointerAgrees hx.1 hx.2 hfree⟩
      · exact hstep.pointerAgrees hx.1 hx.2 hfree
    · intro x hx publisher versionId key e db'' result hlabel he hpublish
      obtain ⟨result', hresult'⟩ := (htaken x hx).of_publish hlabel
      have htarget : x.target = db'' :=
        congrArg Prod.fst (Except.ok.inj (hresult'.symm.trans hpublish))
      rw [htarget]
      obtain ⟨v, hv, ⟨e', he', hversion, hsame, hresult⟩ | ⟨hnone, -⟩⟩ := publishVersion_ok hpublish
      · cases he.symm.trans he'
        refine ⟨v, hsame ▸ hv, ?_⟩
        rw [hresult]
        exact honce.repeated x hx publisher versionId key e v hlabel he hversion hv
      · exact nomatch he.symm.trans hnone
    · intro past x rest v heq harchives
      exact absurd harchives (honce.kept past x rest v heq)

/-- The tracks and the reviewers are there, and no content. -/
def seededCatalogue : Catalogue Unit where
  questions := []
  versions := []
  publications := []
  roles := [("ada", "technical-reviewer"), ("eve", "technical-reviewer"),
    ("bob", "editorial-reviewer")]
  tracks := [("sql-analytics", "track-1")]
  competencies := []

theorem seededCatalogue_empty : seededCatalogue.Empty := ⟨rfl, rfl, rfl⟩

def joinPackage (version contentHash : Str) : LoadedContentPackage Unit where
  id := "SQL-001"
  slug := "join-basics"
  version := version
  primaryTrack := "sql-analytics"
  secondarySkills := []
  contentHash := contentHash
  authorId := "ann"
  body := ()

/-- A version is reviewed and published. -/
theorem publication_pointer_published : ∃ trace db,
    Run WorkflowStep seededCatalogue trace db ∧ trace.length = 6 ∧ PublicationHolds trace := by
  obtain ⟨trace, db, hrun, hlength, honce⟩ : ∃ trace db,
      Run WorkflowStep seededCatalogue trace db ∧ trace.length = 6 ∧ PublishesOnce trace := by
    refine Run.exists_cons (.sync "main" (joinPackage "1.0.0" "hash-1") ⟨"question-1", "version-1"⟩)
      (.sync rfl) ?_
    refine Run.exists_cons (.assign "version-1" .technical "ada") (.assign rfl) ?_
    refine Run.exists_cons (.assign "version-1" .editorial "bob") (.assign rfl) ?_
    refine Run.exists_cons (.decide "ada" "version-1" .technical .approved
      "The reference solution is right." 1) (.decide rfl) ?_
    refine Run.exists_cons (.decide "bob" "version-1" .editorial .approved
      "The wording is clear." 2) (.decide rfl) ?_
    refine Run.exists_cons (.publish "root" "version-1" "publication-1") (.publish rfl) ?_
    refine Run.exists_nil ⟨rfl, ?_⟩
    constructor
    · rintro x hx v ⟨_, _, _, hlabel, -, hv⟩ q hq
      simp only [List.mem_cons, List.not_mem_nil, or_false] at hx
      rcases hx with rfl | rfl | rfl | rfl | rfl | rfl <;> cases hlabel
      cases hv
      cases hq
      rfl
    · rintro x hx _ _ _ e v hlabel he - -
      simp only [List.mem_cons, List.not_mem_nil, or_false] at hx
      rcases hx with rfl | rfl | rfl | rfl | rfl | rfl <;> cases hlabel
      cases he
    · rintro past x rest v heq ⟨_, hlabel, -⟩
      have hx := heq ▸ List.mem_append_right past (List.mem_cons_self (a := x) (l := rest))
      simp only [List.mem_cons, List.not_mem_nil, or_false] at hx
      rcases hx with rfl | rfl | rfl | rfl | rfl | rfl <;> cases hlabel
  exact ⟨trace, db, hrun, hlength, (publication_pointer seededCatalogue_empty hrun).mpr honce⟩

/-- A second version is published over the first, which stays `published`. -/
theorem published_twice : ∃ trace db,
    Run WorkflowStep seededCatalogue trace db ∧ ¬PublicationHolds trace := by
  refine Run.exists_cons (.sync "main" (joinPackage "1.0.0" "hash-1") ⟨"question-1", "version-1"⟩)
    (.sync rfl) ?_
  refine Run.exists_cons (.assign "version-1" .technical "ada") (.assign rfl) ?_
  refine Run.exists_cons (.assign "version-1" .editorial "bob") (.assign rfl) ?_
  refine Run.exists_cons (.decide "ada" "version-1" .technical .approved
    "The reference solution is right." 1) (.decide rfl) ?_
  refine Run.exists_cons (.decide "bob" "version-1" .editorial .approved
    "The wording is clear." 2) (.decide rfl) ?_
  refine Run.exists_cons (.publish "root" "version-1" "publication-1") (.publish rfl) ?_
  refine Run.exists_cons (.sync "main" (joinPackage "2.0.0" "hash-2") ⟨"question-1", "version-2"⟩)
    (.sync rfl) ?_
  refine Run.exists_cons (.assign "version-2" .technical "ada") (.assign rfl) ?_
  refine Run.exists_cons (.assign "version-2" .editorial "bob") (.assign rfl) ?_
  refine Run.exists_cons (.decide "ada" "version-2" .technical .approved
    "The reference solution is right." 3) (.decide rfl) ?_
  refine Run.exists_cons (.decide "bob" "version-2" .editorial .approved
    "The wording is clear." 4) (.decide rfl) ?_
  refine Run.exists_cons (.publish "root" "version-2" "publication-2") (.publish rfl) ?_
  refine Run.exists_nil fun hholds => ?_
  have hagrees := hholds.pointer _ (List.mem_of_getElem? (i := 11) rfl)
  obtain ⟨q, hq, hc⟩ := (hagrees "version-1" _ rfl).mp rfl
  cases hq
  exact absurd hc (by decide)

end Rigor
