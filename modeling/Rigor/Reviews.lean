import Rigor.Catalogue
import Rigor.ExecutionClaims

/-!
# Reviews and publication

The transactions of `ReviewRepository`. Each locks the row of the version
before it reads anything else, so that they are atomic for a version.
-/

namespace Rigor

open Py

variable {C : Type}

structure ReviewWorkflowError where
  statusCode : Nat
  message : Str
  deriving DecidableEq

structure ReviewActionResult where
  questionVersionId : Uuid
  state : ContentState
  message : Str
  deriving DecidableEq

/-- The catalogue, and the answer. -/
abbrev Reviewed (C : Type) := Catalogue C × ReviewActionResult

/-! ## The repository -/

/-- `_lock_version`. -/
def lockVersion (versionId : Uuid) (db : Catalogue C) :
    Except ReviewWorkflowError (VersionRow C) :=
  match db.version versionId with
  | none => .error ⟨404, "QuestionRow version not found"⟩
  | some v => .ok v

/-- `_author_subject`. -/
def authorSubject (v : VersionRow C) : Except ReviewWorkflowError Subject :=
  match v.author with
  | none => .error ⟨409, "QuestionRow version lacks an author provenance record"⟩
  | some author => .ok author

def assign (versionId : Uuid) (kind : ReviewKind) (reviewer : Subject) (db : Catalogue C) :
    Except ReviewWorkflowError (Reviewed C) := do
  let version ← lockVersion versionId db
  if (reviewer, kind.value ++ ("-reviewer" : Str)) ∉ db.roles then
    .error ⟨422, "Reviewer identity is not provisioned with the required role"⟩
  else
    let author ← authorSubject version
    if reviewer = author then
      .error ⟨409, "The author cannot review their own question version"⟩
    else if (version.assignment kind.other).map ReviewAssignment.reviewer = some reviewer then
      .error ⟨409, "Technical and editorial reviewers must be different"⟩
    else .ok (db.updateVersion versionId fun v =>
        { v with
          assignment := Function.update v.assignment kind
            (some ⟨reviewer, none, ((v.assignment kind).map ReviewAssignment.decisions).getD []⟩) },
      ⟨versionId, version.state, kind.title ++ (" reviewer assigned" : Str)⟩)

/-- The checks of `decide` for the kind of the review. -/
def checkDecision (version : VersionRow C) (reviewer : Subject) :
    ReviewKind → Except ReviewWorkflowError Unit
  | .technical =>
      if version.state ≠ .awaitingTechnicalReview then
        .error ⟨409, "QuestionRow is not awaiting technical review"⟩
      else if version.validation ≠ some ("passed" : Str) then
        .error ⟨409, "Automated validation must pass before review"⟩
      else .ok ()
  | .editorial =>
      if version.state ≠ .awaitingEditorialReview then
        .error ⟨409, "QuestionRow is not awaiting editorial review"⟩
      else
        match (version.assignment .technical).filter fun a => a.completedAt.isSome with
        | none => .error ⟨409, "Technical approval is required first"⟩
        | some technical =>
            if technical.reviewer = reviewer then
              .error ⟨409, "Editorial approval requires a different reviewer"⟩
            else .ok ()

/-- The state behind a decision. -/
def decidedState (kind : ReviewKind) (outcome : ReviewOutcome) : ContentState :=
  if outcome = .approved then
    match kind with
    | .technical => .awaitingEditorialReview
    | .editorial => .approved
  else .draft

/-- The version with the decision of its reviewer. -/
def VersionRow.decided (kind : ReviewKind) (reviewer : Subject) (outcome : ReviewOutcome)
    (reason : Str) (now : Time) (v : VersionRow C) : VersionRow C :=
  { v with
    state := decidedState kind outcome
    assignment := Function.update v.assignment kind ((v.assignment kind).map fun a =>
      { a with
        completedAt := some now
        decisions := a.decisions ++ [⟨reviewer, outcome, reason⟩] }) }

def decideReview (reviewer : Subject) (versionId : Uuid) (kind : ReviewKind) (outcome : ReviewOutcome)
    (reason : Str) (now : Time) (db : Catalogue C) :
    Except ReviewWorkflowError (Reviewed C) := do
  let version ← lockVersion versionId db
  if (version.assignment kind).map ReviewAssignment.reviewer ≠ some reviewer then
    .error ⟨403, "Only the assigned reviewer can decide this review"⟩
  else
    let author ← authorSubject version
    if author = reviewer then
      .error ⟨409, "The author cannot approve their own question version"⟩
    else
      checkDecision version reviewer kind
      .ok (db.updateVersion versionId (VersionRow.decided kind reviewer outcome reason now),
        ⟨versionId, decidedState kind outcome,
          kind.title ++ (" review " ++ outcome.value : Str)⟩)

/-- The assigned reviewer, where the last decision of the assignment is an approval. -/
def approvalOf (version : VersionRow C) (kind : ReviewKind) : Option Subject :=
  (version.assignment kind).bind fun a =>
    match a.decisions.getLast? with
    | some d => if d.outcome = .approved then some a.reviewer else none
    | none => none

def publishVersion (publisher : Subject) (versionId : Uuid) (idempotencyKey : Str)
    (db : Catalogue C) : Except ReviewWorkflowError (Reviewed C) := do
  let version ← lockVersion versionId db
  match db.publication idempotencyKey with
  | some existing =>
      if existing.questionVersionId ≠ versionId then
        .error ⟨409, "Idempotency key was used for another version"⟩
      else .ok (db, ⟨versionId, .published, "QuestionRow version was already published"⟩)
  | none =>
      if version.state ≠ .approved then
        .error ⟨409, "Only an approved version can be published"⟩
      else
        match approvalOf version .technical, approvalOf version .editorial with
        | some technical, some editorial =>
            if technical = editorial then
              .error ⟨409, "Review approvals must be independent"⟩
            else
              let published : Catalogue C := { db with publications := db.publications
                ++ [⟨versionId, publisher, idempotencyKey, version.sourceRevision,
                  version.contentHash⟩] }
              .ok ((published.updateVersion versionId (VersionRow.inState .published)).updateQuestion
                  version.questionId (QuestionRow.pointTo versionId),
                ⟨versionId, .published, "QuestionRow version published"⟩)
        | _, _ => .error ⟨409, "Technical and editorial approvals are required"⟩

def transitionVersion (versionId : Uuid) (target : ContentState) (now : Time) (db : Catalogue C) :
    Except ReviewWorkflowError (Reviewed C) := do
  if target ≠ .deprecated ∧ target ≠ .archived then
    .error ⟨422, "Only deprecation and archival are administrative transitions"⟩
  else
    let version ← lockVersion versionId db
    if target = .deprecated ∧ version.state ≠ .published then
      .error ⟨409, "Only published versions can be deprecated"⟩
    else if target = .archived ∧ version.state = .published then
      .error ⟨409, "Deprecate a published version before archiving it"⟩
    else .ok ((db.updateVersion versionId (VersionRow.inState target)).updateQuestion
        version.questionId (QuestionRow.unpoint versionId target now),
      ⟨versionId, target, "QuestionRow version " ++ target.value⟩)

/-! ## What they do -/

section

variable {db db' : Catalogue C} {result : ReviewActionResult} {versionId : Uuid} {kind : ReviewKind}

theorem lockVersion_ok {v : VersionRow C} :
    lockVersion versionId db = .ok v ↔ db.version versionId = some v := by
  unfold lockVersion
  cases db.version versionId with
  | none => exact iff_of_false nofun nofun
  | some w =>
      constructor
      · intro h
        cases h
        rfl
      · intro h
        cases h
        rfl

theorem authorSubject_ok {v : VersionRow C} {author : Subject} :
    authorSubject v = .ok author ↔ v.author = some author := by
  unfold authorSubject
  cases v.author with
  | none => exact iff_of_false nofun nofun
  | some w =>
      constructor
      · intro h
        cases h
        rfl
      · intro h
        cases h
        rfl

theorem assign_ok {reviewer : Subject} (h : assign versionId kind reviewer db = .ok (db', result)) :
    ∃ v, db.version versionId = some v
      ∧ db' = db.updateVersion versionId fun v =>
        { v with
          assignment := Function.update v.assignment kind (some ⟨reviewer, none,
            ((v.assignment kind).map ReviewAssignment.decisions).getD []⟩) } := by
  unfold assign at h
  obtain ⟨v, hv, h⟩ := bind_eq_ok h
  split at h
  · cases h
  · obtain ⟨author, -, h⟩ := bind_eq_ok h
    split_ifs at h
    cases h
    exact ⟨v, lockVersion_ok.mp hv, rfl⟩

/-- What `decide` requires of the version. -/
structure Decides (v : VersionRow C) (kind : ReviewKind) (reviewer : Subject) : Prop where
  assigned : ∃ a, v.assignment kind = some a ∧ a.reviewer = reviewer
  author : ∃ author, v.author = some author ∧ author ≠ reviewer
  checked : checkDecision v reviewer kind = .ok ()

theorem decideReview_ok {reviewer : Subject} {outcome : ReviewOutcome} {reason : Str} {now : Time}
    (h : decideReview reviewer versionId kind outcome reason now db = .ok (db', result)) :
    ∃ v, db.version versionId = some v ∧ Decides v kind reviewer
      ∧ db' = db.updateVersion versionId
        (VersionRow.decided kind reviewer outcome reason now) := by
  unfold decideReview at h
  obtain ⟨v, hv, h⟩ := bind_eq_ok h
  split_ifs at h with hassigned
  obtain ⟨author, hauthor, h⟩ := bind_eq_ok h
  split_ifs at h with hself
  obtain ⟨_, hchecked, h⟩ := bind_eq_ok h
  cases h
  obtain ⟨a, ha, hreviewer⟩ := Option.map_eq_some_iff.mp (not_not.mp hassigned)
  exact ⟨v, lockVersion_ok.mp hv,
    ⟨⟨a, ha, hreviewer⟩, ⟨author, authorSubject_ok.mp hauthor, hself⟩, hchecked⟩, rfl⟩

theorem checkDecision_technical {v : VersionRow C} {reviewer : Subject}
    (h : checkDecision v reviewer .technical = .ok ()) : v.state = .awaitingTechnicalReview := by
  dsimp only [checkDecision] at h
  split_ifs at h with hstate
  exact not_not.mp hstate

theorem checkDecision_editorial {v : VersionRow C} {reviewer : Subject}
    (h : checkDecision v reviewer .editorial = .ok ()) :
    v.state = .awaitingEditorialReview ∧ ∃ a, v.assignment .technical = some a
      ∧ a.completedAt.isSome = true ∧ a.reviewer ≠ reviewer := by
  dsimp only [checkDecision] at h
  split_ifs at h with hstate
  split at h
  · cases h
  · rename_i a ha
    split_ifs at h with hsame
    obtain ⟨hsome, hcompleted⟩ := Option.filter_eq_some_iff.mp ha
    exact ⟨not_not.mp hstate, a, hsome, hcompleted, hsame⟩

/-- An answer under a key that was used before, or a publication. -/
theorem publishVersion_ok {publisher : Subject} {key : Str}
    (h : publishVersion publisher versionId key db = .ok (db', result)) :
    ∃ v, db.version versionId = some v
      ∧ ((∃ e, db.publication key = some e ∧ e.questionVersionId = versionId ∧ db' = db
          ∧ result = ⟨versionId, .published, "QuestionRow version was already published"⟩)
        ∨ db.publication key = none ∧ v.state = .approved
          ∧ (∃ technical editorial, approvalOf v .technical = some technical
            ∧ approvalOf v .editorial = some editorial ∧ technical ≠ editorial)
          ∧ db' = (({ db with publications := db.publications
              ++ [⟨versionId, publisher, key, v.sourceRevision, v.contentHash⟩] }
            : Catalogue C).updateVersion versionId (VersionRow.inState .published)).updateQuestion
              v.questionId (QuestionRow.pointTo versionId)) := by
  unfold publishVersion at h
  obtain ⟨v, hv, h⟩ := bind_eq_ok h
  refine ⟨v, lockVersion_ok.mp hv, ?_⟩
  split at h
  · rename_i e he
    split_ifs at h with hversion
    cases h
    exact .inl ⟨e, he, not_not.mp hversion, rfl, rfl⟩
  · rename_i hnone
    split_ifs at h with hstate
    split at h
    · rename_i technical editorial htechnical heditorial
      split_ifs at h with hsame
      cases h
      exact .inr ⟨hnone, not_not.mp hstate, ⟨technical, editorial, htechnical, heditorial, hsame⟩, rfl⟩
    · cases h

theorem transitionVersion_ok {target : ContentState} {now : Time}
    (h : transitionVersion versionId target now db = .ok (db', result)) :
    ∃ v, db.version versionId = some v
      ∧ (target = .deprecated ∧ v.state = .published ∨ target = .archived ∧ v.state ≠ .published)
      ∧ db' = (db.updateVersion versionId (VersionRow.inState target)).updateQuestion
        v.questionId (QuestionRow.unpoint versionId target now) := by
  unfold transitionVersion at h
  by_cases htarget : target ≠ .deprecated ∧ target ≠ .archived
  · rw [if_pos htarget] at h
    cases h
  rw [if_neg htarget] at h
  obtain ⟨v, hv, h⟩ := bind_eq_ok h
  by_cases hdeprecated : target = .deprecated ∧ v.state ≠ .published
  · rw [if_pos hdeprecated] at h
    cases h
  rw [if_neg hdeprecated] at h
  by_cases harchived : target = .archived ∧ v.state = .published
  · rw [if_pos harchived] at h
    cases h
  rw [if_neg harchived] at h
  cases h
  refine ⟨v, lockVersion_ok.mp hv, ?_, rfl⟩
  by_cases hd : target = .deprecated
  · exact .inl ⟨hd, not_not.mp fun hne => hdeprecated ⟨hd, hne⟩⟩
  · have ha : target = .archived := not_not.mp fun hne => htarget ⟨hd, hne⟩
    exact .inr ⟨ha, fun hp => harchived ⟨ha, hp⟩⟩

end

end Rigor
