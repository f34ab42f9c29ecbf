import Rigor.Mastery

/-!
# Mastery as the projection of the evidence

Completions of mock interviews and of coding submissions of one candidate,
which hold different locks. Each statement is a step, and sees what is
committed under the writes of its own transaction. A mastery row is the
aggregate of all evidence as long as no transaction reads the aggregate of a
competency that another open one has read (`mastery_projects_evidence`).
-/

namespace Rigor

open Py Transactions Runs

variable {F : Type}

/-! ## Writers -/

/-- One insert with its aggregate and its upsert. -/
structure EvidenceJob (F : Type) where
  conflict : OnConflict
  version : Str
  evidence : CompetencyEvidence F

/-- A candidate and a competency. -/
abbrev MasterySlot := Uuid × Uuid

def EvidenceJob.slot (job : EvidenceJob F) : MasterySlot :=
  (job.evidence.candidateId, job.evidence.competencyId)

/-- The jobs, one after the other. -/
def recordAllTx (readiness : Readiness F) : List (EvidenceJob F) → Tx (MasteryRows F) Failure Unit
  | [] => pure ()
  | job :: rest => do
      recordEvidenceTx readiness job.conflict job.version job.evidence
      recordAllTx readiness rest

/-- What a transaction completes. -/
inductive MasteryCompletion (F : Type) where
  | interview (principal : Principal) (sessionId : Uuid) (score : F) (phaseCount : Nat)
      (clock : Clock) (slugs : List Str)
  | submission (package : DispatchPackage F) (submissionId : Uuid)
      (evaluation : SubmissionEvaluation F) (clock : Clock) (mappings : List (QuestionCompetency F))

/-- A mock interview is completed under the lock of its candidate, a
submission under its own. -/
inductive CompletionLock where
  | candidate (userId : Uuid)
  | submission (submissionId : Uuid)
  deriving DecidableEq

namespace MasteryCompletion

def lock : MasteryCompletion F → CompletionLock
  | interview principal .. => .candidate principal.userId
  | submission _ submissionId .. => .submission submissionId

/-- The jobs of a completion that begins on `rows`. -/
def jobs (readiness : MockReadiness F) (competencies : List (Str × Uuid)) (rows : MasteryRows F) :
    MasteryCompletion F → List (EvidenceJob F)
  | interview principal sessionId score phaseCount clock slugs =>
      slugs.filterMap fun slug => (competencies.lookup slug).map fun competencyId =>
        ⟨.doNothing, mockReadinessVersion,
          mockEvidence readiness principal sessionId score phaseCount clock competencyId⟩
  | submission package submissionId evaluation clock mappings =>
      if rows.evidence.any fun e => e.IsOf package.candidateId submissionId then []
      else mappings.map fun m =>
        ⟨.raise, readinessVersion,
          evidenceRow readiness.toReadiness package submissionId evaluation clock m⟩

end MasteryCompletion

/-- The loop of a mock interview does its jobs. -/
theorem writeAllMasteryTx_eq (readiness : MockReadiness F) (competencies : List (Str × Uuid))
    (rows : MasteryRows F) (principal : Principal) (sessionId : Uuid) (score : F)
    (phaseCount : Nat) (clock : Clock) (slugs : List Str) :
    writeAllMasteryTx readiness competencies principal sessionId score phaseCount clock slugs
      = recordAllTx readiness.toReadiness (MasteryCompletion.jobs readiness competencies rows
        (.interview principal sessionId score phaseCount clock slugs)) := by
  induction slugs with
  | nil => rfl
  | cons slug rest ih =>
      unfold writeAllMasteryTx writeMasteryTx
      rw [ih]
      unfold MasteryCompletion.jobs
      dsimp only
      rw [List.filterMap_cons]
      cases competencies.lookup slug with
      | none => rfl
      | some competencyId => rfl

/-- The loop of a submission does its jobs. -/
theorem writeMappingsTx_eq (readiness : Readiness F) (package : DispatchPackage F)
    (submissionId : Uuid) (evaluation : SubmissionEvaluation F) (clock : Clock)
    (mappings : List (QuestionCompetency F)) :
    writeMappingsTx readiness package submissionId evaluation clock mappings
      = recordAllTx readiness (mappings.map fun m => ⟨.raise, readinessVersion,
        evidenceRow readiness package submissionId evaluation clock m⟩) := by
  induction mappings with
  | nil => rfl
  | cons m rest ih =>
      unfold writeMappingsTx
      rw [ih]
      rfl

inductive JobStage (F : Type) where
  | idle
  /-- behind the insert -/
  | counting (job : EvidenceJob F)
  /-- behind the aggregate query -/
  | storing (job : EvidenceJob F) (aggregate : Aggregate F)

/-- An open transaction: its jobs to do, its writes, and the slots that it has
run an insert for. -/
structure MasteryWriter (F : Type) where
  jobs : List (EvidenceJob F)
  stage : JobStage F
  own : MasteryRows F → MasteryRows F
  entered : List MasterySlot
  upserted : List MasterySlot

structure MasteryState (F : Type) where
  store : MasteryRows F
  writer : CompletionLock → Option (MasteryWriter F)

def MasteryState.setWriter (s : MasteryState F) (k : CompletionLock)
    (w : Option (MasteryWriter F)) : MasteryState F :=
  { s with writer := Function.update s.writer k w }

inductive MasteryAction (F : Type) where
  | start (completion : MasteryCompletion F)
  | insert (k : CompletionLock)
  | count (k : CompletionLock) (slot : MasterySlot)
  | upsert (k : CompletionLock)
  | commit (k : CompletionLock)
  | rollback (k : CompletionLock)

/-- One statement. An upsert waits while another open transaction has written
the same row. -/
inductive MasteryStep (readiness : MockReadiness F) (competencies : List (Str × Uuid)) :
    MasteryState F → MasteryAction F → MasteryState F → Prop where
  | start (s : MasteryState F) (completion : MasteryCompletion F)
      (hfree : s.writer completion.lock = none) :
      MasteryStep readiness competencies s (.start completion)
        (s.setWriter completion.lock (some
          ⟨completion.jobs readiness competencies s.store, .idle, id, [], []⟩))
  | insert (s : MasteryState F) (k : CompletionLock) (w : MasteryWriter F) (job : EvidenceJob F)
      (rest : List (EvidenceJob F)) (f : MasteryRows F → MasteryRows F)
      (hopen : s.writer k = some w) (hstage : w.stage = .idle) (hjobs : w.jobs = job :: rest)
      (hquery : MasteryRows.insert readiness.toReadiness job.conflict job.evidence
        (w.own s.store) = .ok (f, ())) :
      MasteryStep readiness competencies s (.insert k)
        (s.setWriter k (some ⟨rest, .counting job, f ∘ w.own, job.slot :: w.entered, w.upserted⟩))
  | count (s : MasteryState F) (k : CompletionLock) (w : MasteryWriter F) (job : EvidenceJob F)
      (hopen : s.writer k = some w) (hstage : w.stage = .counting job) :
      MasteryStep readiness competencies s (.count k job.slot)
        (s.setWriter k (some { w with
          stage := .storing job (MasteryRows.aggregateOf readiness.toReadiness
            ((w.own s.store).evidenceFor job.evidence.candidateId job.evidence.competencyId)) }))
  | upsert (s : MasteryState F) (k : CompletionLock) (w : MasteryWriter F) (job : EvidenceJob F)
      (aggregate : Aggregate F) (f : MasteryRows F → MasteryRows F)
      (hopen : s.writer k = some w) (hstage : w.stage = .storing job aggregate)
      (hwaits : ∀ k' w', k' ≠ k → s.writer k' = some w' → job.slot ∉ w'.upserted)
      (hquery : MasteryRows.upsert readiness.toReadiness job.evidence job.version aggregate
        = .ok (f, ())) :
      MasteryStep readiness competencies s (.upsert k)
        (s.setWriter k (some
          ⟨w.jobs, .idle, f ∘ w.own, w.entered, job.slot :: w.upserted⟩))
  | commit (s : MasteryState F) (k : CompletionLock) (w : MasteryWriter F)
      (hopen : s.writer k = some w) (hstage : w.stage = .idle) (hjobs : w.jobs = []) :
      MasteryStep readiness competencies s (.commit k)
        ⟨w.own s.store, Function.update s.writer k none⟩
  | rollback (s : MasteryState F) (k : CompletionLock) :
      MasteryStep readiness competencies s (.rollback k) (s.setWriter k none)

/-- The slot is one whose aggregate the transaction has read, and not one that
it has just inserted for. -/
def MasteryWriter.Counted (p : MasterySlot) (w : MasteryWriter F) : Prop :=
  p ∈ w.entered ∧ ∀ job, w.stage = .counting job → job.slot ≠ p

/-- An aggregate is read while no other open transaction has read it. -/
def CountsAlone (x : Taken (MasteryState F) (MasteryAction F)) : Prop :=
  match x.label with
  | .count k slot => ∀ k' w', k' ≠ k → x.source.writer k' = some w' → ¬w'.Counted slot
  | _ => True

/-! ## Slots -/

/-- The mastery row of a slot is the aggregate of its evidence. -/
def MasteryRows.Projected (readiness : Readiness F) (p : MasterySlot) (rows : MasteryRows F) :
    Prop :=
  rows.evidenceFor p.1 p.2 ≠ [] → ∃ row, rows.masteryFor p.1 p.2 = some row
    ∧ row.evidenceCount = (rows.evidenceFor p.1 p.2).length
    ∧ some row.mastery = (aggregateOf readiness (rows.evidenceFor p.1 p.2)).mastery
    ∧ row.confidence = (aggregateOf readiness (rows.evidenceFor p.1 p.2)).confidence

def MasteryRows.Agree (p : MasterySlot) (rows rows' : MasteryRows F) : Prop :=
  rows.evidenceFor p.1 p.2 = rows'.evidenceFor p.1 p.2
    ∧ rows.masteryFor p.1 p.2 = rows'.masteryFor p.1 p.2

/-- Writes that touch these slots only, each by what it holds. -/
structure Frames (slots : List MasterySlot) (own : MasteryRows F → MasteryRows F) : Prop where
  congr : ∀ p rows rows', MasteryRows.Agree p rows rows' → MasteryRows.Agree p (own rows) (own rows')
  outside : ∀ p ∉ slots, ∀ rows, MasteryRows.Agree p (own rows) rows

theorem MasteryRows.Projected.congr {readiness : Readiness F} {p : MasterySlot}
    {rows rows' : MasteryRows F} (h : rows.Projected readiness p) (hagree : Agree p rows' rows) :
    rows'.Projected readiness p := by
  unfold Projected at h ⊢
  rwa [hagree.1, hagree.2]

theorem Frames.id : Frames [] (id : MasteryRows F → MasteryRows F) :=
  ⟨fun _ _ _ h => h, fun _ _ _ => ⟨rfl, rfl⟩⟩

theorem Frames.comp {slot : MasterySlot} {slots : List MasterySlot}
    {f own : MasteryRows F → MasteryRows F} (hf : Frames [slot] f) (hown : Frames slots own) :
    Frames (slot :: slots) (f ∘ own) where
  congr p rows rows' h := hf.congr p _ _ (hown.congr p _ _ h)
  outside p hp rows := by
    have hslot : p ∉ [slot] := fun h => hp (List.mem_singleton.mp h ▸ List.mem_cons_self ..)
    have hslots : p ∉ slots := fun h => hp (List.mem_cons_of_mem _ h)
    obtain ⟨hevidence, hmastery⟩ := hf.outside p hslot (own rows)
    obtain ⟨hevidence', hmastery'⟩ := hown.outside p hslots rows
    exact ⟨hevidence.trans hevidence', hmastery.trans hmastery'⟩

theorem evidenceFor_append (e : CompetencyEvidence F) (rows : MasteryRows F) (p : MasterySlot) :
    ({ rows with evidence := rows.evidence ++ [e] } : MasteryRows F).evidenceFor p.1 p.2
      = rows.evidenceFor p.1 p.2 ++ if p = (e.candidateId, e.competencyId) then [e] else [] := by
  unfold MasteryRows.evidenceFor
  rw [List.filter_append]
  refine congrArg _ ?_
  by_cases hp : e.candidateId = p.1 ∧ e.competencyId = p.2
  · rw [List.filter_cons_of_pos (by simpa using hp), if_pos (by rw [hp.1, hp.2])]
    rfl
  · rw [List.filter_cons_of_neg (by simpa using hp), if_neg fun h => hp (by rw [h]; exact ⟨rfl, rfl⟩)]
    rfl

theorem insert_frames {readiness : Readiness F} {conflict : OnConflict} {e : CompetencyEvidence F}
    {rows : MasteryRows F} {f : MasteryRows F → MasteryRows F} {u : Unit}
    (h : MasteryRows.insert readiness conflict e rows = .ok (f, u)) :
    Frames [(e.candidateId, e.competencyId)] f := by
  unfold MasteryRows.insert at h
  split_ifs at h with hexists hcheck
  · cases conflict with
    | raise => cases h
    | doNothing =>
        cases h
        exact ⟨fun _ _ _ h => h, fun _ _ _ => ⟨rfl, rfl⟩⟩
  · cases h
    refine ⟨fun p rows rows' hagree => ⟨?_, hagree.2⟩, fun p hp rows => ⟨?_, rfl⟩⟩
    · rw [evidenceFor_append, evidenceFor_append, hagree.1]
    · rw [evidenceFor_append, if_neg (mt List.mem_singleton.mpr hp), List.append_nil]

/-- What an upsert leaves in its row. -/
def CompetencyMastery.over (row : CompetencyMastery F) :
    Option (CompetencyMastery F) → CompetencyMastery F
  | none => row
  | some r =>
      { r with
        mastery := row.mastery
        confidence := row.confidence
        evidenceCount := row.evidenceCount
        lastEvidenceAt := row.lastEvidenceAt
        calculationVersion := row.calculationVersion }

theorem masteryFor_store (row : CompetencyMastery F) (rows : MasteryRows F) (p : MasterySlot) :
    (MasteryRows.store row rows).masteryFor p.1 p.2
      = if p = (row.candidateId, row.competencyId) then some (row.over (rows.masteryFor p.1 p.2))
        else rows.masteryFor p.1 p.2 := by
  obtain ⟨candidateId, competencyId⟩ := p
  unfold MasteryRows.store
  by_cases hexists : (rows.masteryFor row.candidateId row.competencyId).isSome = true
  · rw [if_pos hexists]
    unfold MasteryRows.masteryFor at hexists ⊢
    rw [List.find?_map]
    have hkey : ((fun r : CompetencyMastery F =>
          decide (r.candidateId = candidateId ∧ r.competencyId = competencyId)) ∘ fun r =>
          if r.candidateId = row.candidateId ∧ r.competencyId = row.competencyId then row.over (some r)
          else r)
        = fun r => decide (r.candidateId = candidateId ∧ r.competencyId = competencyId) := by
      funext r
      dsimp only [Function.comp]
      split_ifs <;> rfl
    refine (congrArg (fun q => Option.map _ (rows.mastery.find? q)) hkey).trans ?_
    cases hfound : rows.mastery.find? fun r =>
        r.candidateId = candidateId ∧ r.competencyId = competencyId with
    | none =>
        rw [if_neg]
        · rfl
        · rintro ⟨⟩
          rw [hfound] at hexists
          cases hexists
    | some r =>
        have hr : r.candidateId = candidateId ∧ r.competencyId = competencyId := by
          simpa using List.find?_some hfound
        obtain ⟨rfl, rfl⟩ := hr
        dsimp only [Option.map_some]
        by_cases hslot : r.candidateId = row.candidateId ∧ r.competencyId = row.competencyId
        · rw [if_pos hslot, if_pos (by rw [hslot.1, hslot.2])]
          rfl
        · rw [if_neg hslot, if_neg fun h => hslot (Prod.mk.inj h)]
  · rw [if_neg hexists]
    unfold MasteryRows.masteryFor at hexists ⊢
    dsimp only
    rw [List.find?_append]
    by_cases hslot : (candidateId, competencyId) = (row.candidateId, row.competencyId)
    · obtain ⟨rfl, rfl⟩ := Prod.mk.inj hslot
      rw [if_pos rfl, Option.not_isSome_iff_eq_none.mp hexists,
        List.find?_cons_of_pos (by simp)]
      rfl
    · have hother : ¬(row.candidateId = candidateId ∧ row.competencyId = competencyId) :=
        fun h => hslot (by rw [h.1, h.2])
      rw [if_neg hslot, List.find?_cons_of_neg (by simpa using hother), List.find?_nil,
        Option.or_none]

theorem evidenceFor_store (row : CompetencyMastery F) (rows : MasteryRows F) (p : MasterySlot) :
    (MasteryRows.store row rows).evidenceFor p.1 p.2 = rows.evidenceFor p.1 p.2 := by
  unfold MasteryRows.store
  split_ifs <;> rfl

theorem store_frames (row : CompetencyMastery F) :
    Frames [(row.candidateId, row.competencyId)] (MasteryRows.store row) where
  congr p rows rows' h := by
    refine ⟨?_, ?_⟩
    · rw [evidenceFor_store, evidenceFor_store, h.1]
    · rw [masteryFor_store, masteryFor_store, h.2]
  outside p hp rows := by
    refine ⟨evidenceFor_store row rows p, ?_⟩
    rw [masteryFor_store, if_neg (mt List.mem_singleton.mpr hp)]

/-- An upsert of the aggregate projects its slot, and touches no other. -/
theorem upsert_projects {readiness : Readiness F} {e : CompetencyEvidence F} {version : Str}
    {rows : MasteryRows F} {f : MasteryRows F → MasteryRows F} {u : Unit}
    (h : MasteryRows.upsert readiness e version (MasteryRows.aggregateOf readiness
      (rows.evidenceFor e.candidateId e.competencyId)) = .ok (f, u)) :
    Frames [(e.candidateId, e.competencyId)] f
      ∧ (f rows).Projected readiness (e.candidateId, e.competencyId) := by
  unfold MasteryRows.upsert at h
  split at h
  · cases h
  · rename_i mastery hmastery
    split_ifs at h with hcheck
    cases h
    refine ⟨store_frames ⟨e.organizationId, e.candidateId, e.competencyId, mastery, _, _, _, version⟩,
      fun _ => ?_⟩
    rw [evidenceFor_store, masteryFor_store, if_pos rfl]
    refine ⟨_, rfl, ?_⟩
    cases rows.masteryFor e.candidateId e.competencyId with
    | none => exact ⟨rfl, hmastery.symm, rfl⟩
    | some r => exact ⟨rfl, hmastery.symm, rfl⟩

/-! ## What the steps keep -/

/-- An open transaction has projected every slot that it has counted, unless
it is about to. -/
structure MasteryWriter.Ok (readiness : Readiness F) (store : MasteryRows F)
    (w : MasteryWriter F) : Prop where
  frames : Frames w.entered w.own
  counting : ∀ job, w.stage = .counting job → job.slot ∈ w.entered
  storing : ∀ job aggregate, w.stage = .storing job aggregate →
    job.slot ∈ w.entered ∧ aggregate = MasteryRows.aggregateOf readiness
      ((w.own store).evidenceFor job.evidence.candidateId job.evidence.competencyId)
  settled : ∀ p, w.Counted p → (∀ job aggregate, w.stage = .storing job aggregate → job.slot ≠ p) →
    (w.own store).Projected readiness p

/-- What is committed is projected, and no two open transactions have counted
one slot. -/
structure MasteryState.Ok (readiness : Readiness F) (s : MasteryState F) : Prop where
  projected : ∀ p, s.store.Projected readiness p
  writers : ∀ k w, s.writer k = some w → w.Ok readiness s.store
  apart : ∀ k k' w w', k ≠ k' → s.writer k = some w → s.writer k' = some w' →
    ∀ p, w.Counted p → ¬w'.Counted p

section Steps

variable {readiness : Readiness F} {s : MasteryState F} {k : CompletionLock}

theorem setWriter_writer {w : Option (MasteryWriter F)} {k' : CompletionLock} :
    (s.setWriter k w).writer k' = if k' = k then w else s.writer k' :=
  Function.update_apply ..

/-- One writer's statement: it stays sound, and counts no slot that another
one has counted. -/
theorem MasteryState.Ok.setWriter (h : s.Ok readiness) {w : MasteryWriter F}
    (hw : w.Ok readiness s.store)
    (hcounted : ∀ p, w.Counted p → ∀ k' w', k' ≠ k → s.writer k' = some w' → ¬w'.Counted p) :
    (s.setWriter k (some w)).Ok readiness where
  projected := h.projected
  writers k' w' hw' := by
    rw [setWriter_writer] at hw'
    split_ifs at hw' with hk
    · cases hw'
      exact hw
    · exact h.writers k' w' hw'
  apart k₁ k₂ w₁ w₂ hne h₁ h₂ p hp hp' := by
    rw [setWriter_writer] at h₁ h₂
    split_ifs at h₁ with hk₁
    · cases h₁
      rw [if_neg fun hk₂ => hne (hk₁.trans hk₂.symm)] at h₂
      exact hcounted p hp k₂ w₂ (fun hk₂ => hne (hk₁.trans hk₂.symm)) h₂ hp'
    · split_ifs at h₂ with hk₂
      · cases h₂
        exact hcounted p hp' k₁ w₁ hk₁ h₁ hp
      · exact h.apart k₁ k₂ w₁ w₂ hne h₁ h₂ p hp hp'

theorem MasteryState.Ok.close (h : s.Ok readiness) {store : MasteryRows F}
    (hprojected : ∀ p, store.Projected readiness p)
    (hwriters : ∀ k' w', k' ≠ k → s.writer k' = some w' → w'.Ok readiness store) :
    (⟨store, Function.update s.writer k none⟩ : MasteryState F).Ok readiness := by
  have hothers : ∀ k' w', Function.update s.writer k none k' = some w' →
      k' ≠ k ∧ s.writer k' = some w' := fun k' w' hw' => by
    rw [Function.update_apply] at hw'
    split_ifs at hw' with hk
    exact ⟨hk, hw'⟩
  exact ⟨hprojected, fun k' w' hw' => hwriters k' w' (hothers k' w' hw').1 (hothers k' w' hw').2,
    fun k₁ k₂ w₁ w₂ hne h₁ h₂ => h.apart k₁ k₂ w₁ w₂ hne (hothers k₁ w₁ h₁).2 (hothers k₂ w₂ h₂).2⟩

/-- A commit of slots that a writer has not counted leaves it sound. -/
theorem MasteryWriter.Ok.later {store store' : MasteryRows F} {w : MasteryWriter F}
    (h : w.Ok readiness store)
    (hagree : ∀ p, w.Counted p → MasteryRows.Agree p store' store) : w.Ok readiness store' where
  frames := h.frames
  counting := h.counting
  storing job aggregate hstage := by
    obtain ⟨hentered, haggregate⟩ := h.storing job aggregate hstage
    have hcounted : w.Counted job.slot :=
      ⟨hentered, fun job' hstage' => nomatch hstage.symm.trans hstage'⟩
    have hown := h.frames.congr job.slot _ _ (hagree job.slot hcounted)
    exact ⟨hentered, haggregate.trans (congrArg _ hown.1.symm)⟩
  settled p hp hnot := (h.settled p hp hnot).congr (h.frames.congr p _ _ (hagree p hp))

variable {competencies : List (Str × Uuid)} {mock : MockReadiness F}
  {a : MasteryAction F} {t : MasteryState F}

/-- Every step keeps it that reads no aggregate too many. -/
theorem MasteryState.Ok.step (h : s.Ok mock.toReadiness) (halone : CountsAlone ⟨s, a, t⟩)
    (hstep : MasteryStep mock competencies s a t) : t.Ok mock.toReadiness := by
  cases hstep with
  | start completion hfree =>
      refine h.setWriter ⟨Frames.id, fun job hjob => (nomatch hjob),
        fun job aggregate hjob => (nomatch hjob), fun p hp => ?_⟩ fun p hp => ?_
      · exact absurd hp.1 List.not_mem_nil
      · exact absurd hp.1 List.not_mem_nil
  | insert k w job rest f hopen hstage hjobs hquery =>
      have hw := h.writers k w hopen
      have hframes := insert_frames hquery
      have hold : ∀ p, (⟨rest, .counting job, f ∘ w.own, job.slot :: w.entered, w.upserted⟩ :
          MasteryWriter F).Counted p → p ≠ job.slot ∧ w.Counted p := fun p hp => by
        have hne : p ≠ job.slot := (hp.2 job rfl).symm
        refine ⟨hne, (List.mem_cons.mp hp.1).resolve_left hne, fun job' hjob' => ?_⟩
        exact nomatch hstage.symm.trans hjob'
      refine h.setWriter ⟨hframes.comp hw.frames, fun job' hjob' => ?_,
        fun job' aggregate hjob' => (nomatch hjob'), fun p hp _ => ?_⟩ fun p hp k' w' hk' hw' hp' => ?_
      · cases hjob'
        exact List.mem_cons_self ..
      · obtain ⟨hne, hcounted⟩ := hold p hp
        have hbefore := hw.settled p hcounted fun job' aggregate hjob' =>
          nomatch hstage.symm.trans hjob'
        exact hbefore.congr (hframes.outside p (fun hp => hne (List.mem_singleton.mp hp)) _)
      · exact h.apart k k' w w' hk'.symm hopen hw' p (hold p hp).2 hp'
  | count k w job hopen hstage =>
      have hw := h.writers k w hopen
      have hentered := hw.counting job hstage
      refine h.setWriter ⟨hw.frames, fun job' hjob' => (nomatch hjob'), fun job' aggregate hjob' => ?_,
        fun p hp hnot => ?_⟩ fun p hp k' w' hk' hw' hp' => ?_
      · cases hjob'
        exact ⟨hentered, rfl⟩
      · have hne : job.slot ≠ p := hnot job _ rfl
        refine hw.settled p ⟨hp.1, fun job' hjob' => ?_⟩ fun job' aggregate hjob' =>
          nomatch hstage.symm.trans hjob'
        cases hstage.symm.trans hjob'
        exact hne
      · by_cases hslot : job.slot = p
        · exact halone k' w' hk' hw' (hslot ▸ hp')
        · refine h.apart k k' w w' hk'.symm hopen hw' p ⟨hp.1, fun job' hjob' => ?_⟩ hp'
          cases hstage.symm.trans hjob'
          exact hslot
  | upsert k w job aggregate f hopen hstage hwaits hquery =>
      have hw := h.writers k w hopen
      obtain ⟨hentered, haggregate⟩ := hw.storing job aggregate hstage
      rw [haggregate] at hquery
      obtain ⟨hframes, hprojects⟩ := upsert_projects hquery
      have hold : ∀ p ∈ w.entered, w.Counted p := fun p hp =>
        ⟨hp, fun job' hjob' => nomatch hstage.symm.trans hjob'⟩
      have hown : Frames w.entered (f ∘ w.own) :=
        ⟨(hframes.comp hw.frames).congr, fun p hp => (hframes.comp hw.frames).outside p fun hp' =>
          (List.mem_cons.mp hp').elim (fun hslot => hp (hslot ▸ hentered)) hp⟩
      refine h.setWriter ⟨hown, fun job' hjob' => (nomatch hjob'),
        fun job' aggregate' hjob' => (nomatch hjob'), fun p hp _ => ?_⟩ fun p hp k' w' hk' hw' => ?_
      · by_cases hslot : p = job.slot
        · subst hslot
          exact hprojects
        · have hbefore := hw.settled p (hold p hp.1) fun job' aggregate' hjob' => by
            cases hstage.symm.trans hjob'
            exact fun heq => hslot heq.symm
          exact hbefore.congr (hframes.outside p (fun hp => hslot (List.mem_singleton.mp hp)) _)
      · exact h.apart k k' w w' hk'.symm hopen hw' p (hold p hp.1)
  | commit k w hopen hstage hjobs =>
      have hw := h.writers k w hopen
      have hcounted : ∀ p ∈ w.entered, w.Counted p := fun p hp =>
        ⟨hp, fun job' hjob' => nomatch hstage.symm.trans hjob'⟩
      refine h.close (fun p => ?_) fun k' w' hk' hw' => ?_
      · by_cases hp : p ∈ w.entered
        · exact hw.settled p (hcounted p hp) fun job' aggregate hjob' =>
            nomatch hstage.symm.trans hjob'
        · exact (h.projected p).congr (hw.frames.outside p hp _)
      · refine (h.writers k' w' hw').later fun p hp => hw.frames.outside p (fun hp' => ?_) _
        exact h.apart k k' w w' hk'.symm hopen hw' p (hcounted p hp') hp
  | rollback k => exact h.close h.projected fun k' w' _ hw' => h.writers k' w' hw'

end Steps

/-! ## Runs -/

def interviewReadiness : MockReadiness Rat where
  toReadiness := sampleReadiness
  mockConfidence phaseCount := min (9 / 10) (55 / 100 + 5 / 100 * phaseCount)
  mockWeight := 3 / 4

def sqlCompetency : List (Str × Uuid) := [("sql", "competency-1")]

def masteryStart : MasteryState Rat := ⟨⟨[], []⟩, fun _ => none⟩

/-- An interview of one phase. -/
def interviewing : MasteryCompletion Rat :=
  .interview ⟨"ada", none, "trace-1"⟩ "interview-1" 1 1 ⟨1, 1⟩ [("sql" : Str)]

/-- A submission of the same candidate with one public test, which passed. -/
def submitting : MasteryCompletion Rat :=
  .submission
    { executionId := "execution-1"
      organizationId := none
      candidateId := "ada"
      practiceSessionId := "session-1"
      submissionId := some (Str.ofString "submission-1")
      questionVersionId := "version-1"
      executionType := .submit
      runtime := "sql"
      language := "sql"
      sourceCode := "select 1"
      inputPayload := []
      limits := []
      traceId := "trace-2"
      attemptCount := 1 }
    "submission-1" ⟨1, 1, 1, 1, 1, 1, "deterministic-v1", ⟨1, 1, 0, 0, .completed⟩, []⟩ ⟨2, 2⟩
    [⟨"question-1", "competency-1", true, 1⟩]

theorem insert_eq_ok (readiness : Readiness F) (conflict : OnConflict) (e : CompetencyEvidence F)
    {rows : MasteryRows F} (hfresh : rows.evidence.any (fun r => decide (r.SameKey e)) = false)
    (hcheck : readiness.evidenceOk e.score e.confidence e.weight = true) :
    MasteryRows.insert readiness conflict e rows
      = .ok (fun rows => { rows with evidence := rows.evidence ++ [e] }, ()) := by
  unfold MasteryRows.insert
  rw [if_neg (by rw [hfresh]; exact fun h => nomatch h),
    if_neg (by rw [hcheck]; exact fun h => nomatch h)]

theorem upsert_eq_ok (readiness : Readiness F) (e : CompetencyEvidence F) (version : Str)
    {aggregate : Aggregate F} (mastery : F) (hmastery : aggregate.mastery = some mastery)
    (hcheck : readiness.masteryOk mastery aggregate.confidence = true) :
    MasteryRows.upsert readiness e version aggregate
      = .ok (MasteryRows.store ⟨e.organizationId, e.candidateId, e.competencyId, mastery,
        aggregate.confidence, aggregate.evidenceCount, aggregate.lastEvidenceAt, version⟩, ()) := by
  unfold MasteryRows.upsert
  rw [hmastery]
  exact if_neg (by rw [hcheck]; exact fun h => nomatch h)

end Rigor
