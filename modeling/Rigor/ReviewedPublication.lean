import Rigor.PublicationPointer

/-!
# What is published was reviewed

A version is published on two approvals: of its content as it stands, by
two users who are not its author. `publish` guarantees this, except that a
reviewer who is assigned in place of one who has approved is taken for the
one who did; `rollback` looks for an old publication only, so that content
which was overwritten since goes out without a review
(`reviewed_publication`).
-/

namespace Rigor

open Py Runs

variable {C : Type}

/-! ## The history of a version -/

/-- The transition writes another `content_hash` to the version. -/
def ChangesContent (versionId : Uuid) (x : WorkflowTaken C) : Prop :=
  (x.target.version versionId).map VersionRow.contentHash
    ≠ (x.source.version versionId).map VersionRow.contentHash

instance (versionId : Uuid) (x : WorkflowTaken C) : Decidable (ChangesContent versionId x) :=
  inferInstanceAs (Decidable (_ ≠ _))

/-- The user whom the action names for a review of the version. -/
def assignedBy (versionId : Uuid) (kind : ReviewKind) : WorkflowAction C → Option Subject
  | .assign v k reviewer => if v = versionId ∧ k = kind then some reviewer else none
  | _ => none

/-- The user who decides a review of the version. -/
def decidedBy (versionId : Uuid) (kind : ReviewKind) : WorkflowAction C → Option Subject
  | .decide reviewer v k _ _ _ => if v = versionId ∧ k = kind then some reviewer else none
  | _ => none

/-- The action's decision on the version. -/
def decisionOn (versionId : Uuid) : WorkflowAction C → Option (ReviewKind × Subject × ReviewOutcome)
  | .decide reviewer v kind outcome _ _ =>
      if v = versionId then some (kind, reviewer, outcome) else none
  | _ => none

def lastAssigned (versionId : Uuid) (kind : ReviewKind) (past : List (WorkflowTaken C)) :
    Option Subject :=
  (past.filterMap fun x => assignedBy versionId kind x.label).getLast?

def lastDecided (versionId : Uuid) (kind : ReviewKind) (past : List (WorkflowTaken C)) :
    Option Subject :=
  (past.filterMap fun x => decidedBy versionId kind x.label).getLast?

/-- The approvals behind the last change of the content and the last request for changes. -/
def standing (versionId : Uuid) (past : List (WorkflowTaken C)) : List (ReviewKind × Subject) :=
  past.foldl (fun approvals x =>
    if ChangesContent versionId x then []
    else
      match decisionOn versionId x.label with
      | some (kind, reviewer, .approved) => approvals ++ [(kind, reviewer)]
      | some (_, _, .changesRequested) => []
      | _ => approvals) []

/-- The last editorial approval comes behind the last change of the content. -/
def approvedSinceChange (versionId : Uuid) (past : List (WorkflowTaken C)) : Bool :=
  past.foldl (fun approved x =>
    if ChangesContent versionId x then false
    else
      match decisionOn versionId x.label with
      | some (.editorial, _, .approved) => true
      | _ => approved) false

section

variable {versionId : Uuid} {past : List (WorkflowTaken C)} {x : WorkflowTaken C}

theorem standing_snoc : standing versionId (past ++ [x])
    = if ChangesContent versionId x then []
      else
        match decisionOn versionId x.label with
        | some (kind, reviewer, .approved) => standing versionId past ++ [(kind, reviewer)]
        | some (_, _, .changesRequested) => []
        | _ => standing versionId past := by
  unfold standing
  rw [List.foldl_append]
  rfl

theorem approvedSinceChange_snoc : approvedSinceChange versionId (past ++ [x])
    = if ChangesContent versionId x then false
      else
        match decisionOn versionId x.label with
        | some (.editorial, _, .approved) => true
        | _ => approvedSinceChange versionId past := by
  unfold approvedSinceChange
  rw [List.foldl_append]
  rfl

theorem getLast?_filterMap_snoc {α β : Type} (f : α → Option β) (past : List α) (x : α) :
    ((past ++ [x]).filterMap f).getLast? = (f x).or (past.filterMap f).getLast? := by
  rw [List.filterMap_append, List.getLast?_append]
  simp only [List.filterMap_cons, List.filterMap_nil]
  cases f x <;> rfl

theorem lastAssigned_snoc (kind : ReviewKind) : lastAssigned versionId kind (past ++ [x])
    = (assignedBy versionId kind x.label).or (lastAssigned versionId kind past) :=
  getLast?_filterMap_snoc _ past x

theorem lastDecided_snoc (kind : ReviewKind) : lastDecided versionId kind (past ++ [x])
    = (decidedBy versionId kind x.label).or (lastDecided versionId kind past) :=
  getLast?_filterMap_snoc _ past x

end

/-! ## What a step does to a version -/

/-- The states that a version is taken to without a review. -/
def unreviewedStates : List ContentState := [.published, .deprecated, .archived]

/-- The action neither assigns nor decides a review of the version. -/
def LeavesReviews (versionId : Uuid) (a : WorkflowAction C) : Prop :=
  (∀ kind, assignedBy versionId kind a = none ∧ decidedBy versionId kind a = none)
    ∧ decisionOn versionId a = none

inductive VersionStep (versionId : Uuid) (a : WorkflowAction C) :
    Option (VersionRow C) → Option (VersionRow C) → Prop where
  | absent (ha : LeavesReviews versionId a) : VersionStep versionId a none none
  | inserted (v : VersionRow C) (ha : LeavesReviews versionId a)
      (hstate : v.state = .awaitingTechnicalReview) (hassignment : ∀ kind, v.assignment kind = none) :
      VersionStep versionId a none (some v)
  | kept (v : VersionRow C) (ha : LeavesReviews versionId a) :
      VersionStep versionId a (some v) (some v)
  | moved (v : VersionRow C) (state : ContentState) (ha : LeavesReviews versionId a)
      (hstate : state ∈ unreviewedStates) : VersionStep versionId a (some v) (some (v.inState state))
  | overwritten (v w : VersionRow C) (ha : LeavesReviews versionId a)
      (hhash : w.contentHash ≠ v.contentHash) (hstate : w.state = .awaitingTechnicalReview)
      (hassignment : w.assignment = v.assignment) : VersionStep versionId a (some v) (some w)
  | assigned (v : VersionRow C) (kind : ReviewKind) (reviewer : Subject)
      (ha : a = .assign versionId kind reviewer) :
      VersionStep versionId a (some v) (some { v with
        assignment := Function.update v.assignment kind (some ⟨reviewer, none,
          ((v.assignment kind).map ReviewAssignment.decisions).getD []⟩) })
  | decided (v : VersionRow C) (kind : ReviewKind) (reviewer : Subject)
      (outcome : ReviewOutcome) (reason : Str) (now : Time)
      (ha : a = .decide reviewer versionId kind outcome reason now) (h : Decides v kind reviewer) :
      VersionStep versionId a (some v) (some (v.decided kind reviewer outcome reason now))

theorem leavesReviews_sync (versionId : Uuid) (sourceRevision : Str) (p : LoadedContentPackage C)
    (ids : CatalogueIds) : LeavesReviews versionId (.sync sourceRevision p ids) :=
  ⟨fun _ => ⟨rfl, rfl⟩, rfl⟩

theorem leavesReviews_publish (versionId : Uuid) (publisher : Subject) (v : Uuid) (key : Str) :
    LeavesReviews versionId (.publish publisher v key : WorkflowAction C) :=
  ⟨fun _ => ⟨rfl, rfl⟩, rfl⟩

theorem leavesReviews_transition (versionId v : Uuid) (target : ContentState) (now : Time) :
    LeavesReviews versionId (.transition v target now : WorkflowAction C) :=
  ⟨fun _ => ⟨rfl, rfl⟩, rfl⟩

theorem leavesReviews_rollback (versionId : Uuid) (externalId version : Str) :
    LeavesReviews versionId (.rollback externalId version : WorkflowAction C) :=
  ⟨fun _ => ⟨rfl, rfl⟩, rfl⟩

theorem leavesReviews_assign {versionId v : Uuid} (h : v ≠ versionId) (kind : ReviewKind)
    (reviewer : Subject) : LeavesReviews versionId (.assign v kind reviewer : WorkflowAction C) :=
  ⟨fun _ => ⟨if_neg fun hand => h hand.1, rfl⟩, rfl⟩

theorem leavesReviews_decide {versionId v : Uuid} (h : v ≠ versionId) (reviewer : Subject)
    (kind : ReviewKind) (outcome : ReviewOutcome) (reason : Str) (now : Time) :
    LeavesReviews versionId (.decide reviewer v kind outcome reason now : WorkflowAction C) :=
  ⟨fun _ => ⟨rfl, if_neg fun hand => h hand.1⟩, if_neg h⟩

section

variable {db db' : Catalogue C} {versionId : Uuid} {a : WorkflowAction C}

theorem VersionStep.of_same (ha : LeavesReviews versionId a) (r : Option (VersionRow C)) :
    VersionStep versionId a r r := by
  cases r with
  | none => exact .absent ha
  | some v => exact .kept v ha

/-- A row that a key finds, behind an update of another key or of its own. -/
theorem VersionStep.of_update {id : Uuid} {f : VersionRow C → VersionRow C}
    (hid : ∀ v, (f v).id = v.id) (hother : id ≠ versionId → LeavesReviews versionId a)
    {v : VersionRow C} (hv : db.version id = some v)
    (hown : id = versionId → VersionStep versionId a (some v) (some (f v))) :
    VersionStep versionId a (db.version versionId) ((db.updateVersion id f).version versionId) := by
  rw [Catalogue.version_update hid]
  by_cases heq : id = versionId
  · subst heq
    rw [hv, Option.map_some, if_pos (Catalogue.id_of_version hv)]
    exact hown rfl
  · cases hw : db.version versionId with
    | none => exact .absent (hother heq)
    | some w =>
        rw [Option.map_some, if_neg fun hwid => heq (hwid.symm.trans (Catalogue.id_of_version hw))]
        exact .kept w (hother heq)

theorem WorkflowStep.row (h : WorkflowStep db a db') (hp : db.Pointed) (versionId : Uuid) :
    VersionStep versionId a (db.version versionId) (db'.version versionId) := by
  cases h with
  | sync h =>
      have ha := leavesReviews_sync (C := C) versionId
      cases synchronizePackage_ok h with
      | untracked => exact .of_same (ha _ _ _) _
      | unchanged hq => rw [hq.version]; exact .of_same (ha _ _ _) _
      | immutable hq => rw [hq.version]; exact .of_same (ha _ _ _) _
      | updated hq hv hhash hstate =>
          rw [← hq.version versionId]
          refine .of_update (fun _ => rfl) (fun _ => ha _ _ _)
            ((hq.version _).trans (hp.version_of_versionOf hv).1) fun _ => ?_
          exact .overwritten _ _ (ha _ _ _) (Ne.symm hhash) rfl rfl
      | inserted hq hv hid =>
          rw [version_append, hq.version]
          cases hw : db.version versionId with
          | some w => exact .kept w (ha _ _ _)
          | none =>
              rw [Option.none_or]
              split_ifs
              · exact .inserted _ (ha _ _ _) rfl fun _ => rfl
              · exact .absent (ha _ _ _)
  | assign h =>
      obtain ⟨v, hv, rfl⟩ := assign_ok h
      refine .of_update (fun _ => rfl) (fun hne => leavesReviews_assign hne _ _) hv fun heq => ?_
      exact .assigned v _ _ (heq ▸ rfl)
  | decide h =>
      obtain ⟨v, hv, hdecides, rfl⟩ := decideReview_ok h
      refine .of_update (fun _ => rfl) (fun hne => leavesReviews_decide hne _ _ _ _ _) hv
        fun heq => ?_
      exact .decided v _ _ _ _ _ (heq ▸ rfl) hdecides
  | publish h =>
      obtain ⟨v, hv, ⟨_, -, -, rfl, -⟩ | ⟨-, -, -, rfl⟩⟩ := publishVersion_ok h
      · exact .of_same (leavesReviews_publish ..) _
      · rw [Catalogue.version_updateQuestion]
        exact .of_update (fun _ => rfl)
          (fun _ => leavesReviews_publish ..) hv
          fun _ => .moved v .published (leavesReviews_publish ..) (by decide)
  | transition h =>
      obtain ⟨v, hv, hstate, rfl⟩ := transitionVersion_ok h
      rw [Catalogue.version_updateQuestion]
      refine .of_update (fun _ => rfl) (fun _ => leavesReviews_transition ..) hv fun _ => ?_
      refine .moved v _ (leavesReviews_transition ..) ?_
      rcases hstate with ⟨rfl, -⟩ | ⟨rfl, -⟩ <;> decide
  | rollback =>
      rename_i externalId version
      rcases rollbackPublication_cases db externalId version with hsame | ⟨q, v, hroll, heq⟩
      · rw [hsame]
        exact .of_same (leavesReviews_rollback ..) _
      · rw [heq, version_rolledBack hroll.other]
        cases hw : db.version versionId with
        | none => exact .absent (leavesReviews_rollback ..)
        | some w =>
            rw [Option.map_some]
            split_ifs
            · exact .moved w .published (leavesReviews_rollback ..) (by decide)
            · exact .moved w .deprecated (leavesReviews_rollback ..) (by decide)
            · exact .kept w (leavesReviews_rollback ..)

end

/-! ## The invariant -/

/-- What the row of a version has to do with its history: who was assigned
and who decided last, and which approvals stand. -/
structure Reviewing (v : VersionRow C) (approvals : List (ReviewKind × Subject))
    (assigned decided : ReviewKind → Option Subject) (since : Bool) : Prop where
  approver : ∀ kind user, (kind, user) ∈ approvals → decided kind = some user
    ∧ v.author ≠ some user ∧ ∃ r d, v.assignment kind = some r
      ∧ r.decisions.getLast? = some d ∧ d.outcome = .approved
  unreviewed : v.state = .awaitingTechnicalReview → approvals = []
  technical : v.state = .awaitingEditorialReview → (∃ user, (.technical, user) ∈ approvals)
    ∧ ∀ user, (.editorial, user) ∉ approvals
  editorial : ∀ user, (.editorial, user) ∈ approvals →
    ∃ other, (.technical, other) ∈ approvals ∧ other ≠ user
  approved : v.state = .approved → ∃ user, (.editorial, user) ∈ approvals
  assigned_eq : ∀ kind, assigned kind = (v.assignment kind).map ReviewAssignment.reviewer
  decided_eq : ∀ kind, decided kind = (v.assignment kind).bind fun r =>
    r.decisions.getLast?.map ReviewDecision.reviewer
  completed : ∀ kind r, v.assignment kind = some r → r.completedAt.isSome = true →
    assigned kind = decided kind
  since_iff : since = true ↔ ∃ user, (.editorial, user) ∈ approvals

section

variable {v w : VersionRow C} {approvals : List (ReviewKind × Subject)}
  {assigned decided : ReviewKind → Option Subject} {since : Bool}

/-- No approval stands. -/
theorem Reviewing.overwritten (h : Reviewing v approvals assigned decided since)
    (hstate : w.state = .awaitingTechnicalReview) (hassignment : w.assignment = v.assignment) :
    Reviewing w [] assigned decided false where
  approver _ _ hmem := nomatch hmem
  unreviewed _ := rfl
  technical hw := nomatch hstate.symm.trans hw
  editorial _ hmem := nomatch hmem
  approved hw := nomatch hstate.symm.trans hw
  assigned_eq kind := hassignment ▸ h.assigned_eq kind
  decided_eq kind := hassignment ▸ h.decided_eq kind
  completed kind := hassignment ▸ h.completed kind
  since_iff := iff_of_false nofun (fun ⟨_, hmem⟩ => nomatch hmem)

theorem Reviewing.moved (h : Reviewing v approvals assigned decided since) {state : ContentState}
    (hstate : state ∈ unreviewedStates) :
    Reviewing (v.inState state) approvals assigned decided since where
  approver := h.approver
  unreviewed heq := by
    cases (show state = .awaitingTechnicalReview from heq)
    exact absurd hstate (by decide)
  technical heq := by
    cases (show state = .awaitingEditorialReview from heq)
    exact absurd hstate (by decide)
  editorial := h.editorial
  approved heq := by
    cases (show state = .approved from heq)
    exact absurd hstate (by decide)
  assigned_eq := h.assigned_eq
  decided_eq := h.decided_eq
  completed := h.completed
  since_iff := h.since_iff

theorem Reviewing.reassigned (h : Reviewing v approvals assigned decided since) (kind : ReviewKind)
    (reviewer : Subject) :
    Reviewing { v with
        assignment := Function.update v.assignment kind (some ⟨reviewer, none,
          ((v.assignment kind).map ReviewAssignment.decisions).getD []⟩) }
      approvals (Function.update assigned kind (some reviewer)) decided since where
  approver k user hmem := by
    obtain ⟨hdecided, hauthor, r, d, hr, hd, houtcome⟩ := h.approver k user hmem
    refine ⟨hdecided, hauthor, ?_⟩
    by_cases hk : k = kind
    · subst hk
      refine ⟨_, d, Function.update_self .., ?_, houtcome⟩
      rw [hr]
      exact hd
    · exact ⟨r, d, (Function.update_of_ne hk ..).trans hr, hd, houtcome⟩
  unreviewed := h.unreviewed
  technical := h.technical
  editorial := h.editorial
  approved := h.approved
  assigned_eq k := by
    dsimp only
    by_cases hk : k = kind
    · subst hk
      rw [Function.update_self, Function.update_self]
      rfl
    · rw [Function.update_of_ne hk, Function.update_of_ne hk]
      exact h.assigned_eq k
  decided_eq k := by
    dsimp only
    by_cases hk : k = kind
    · subst hk
      rw [Function.update_self, h.decided_eq]
      cases v.assignment k <;> rfl
    · rw [Function.update_of_ne hk]
      exact h.decided_eq k
  completed k r hr hcompleted := by
    dsimp only at hr
    by_cases hk : k = kind
    · subst hk
      rw [Function.update_self] at hr
      cases hr
      cases hcompleted
    · rw [Function.update_of_ne hk] at hr ⊢
      exact h.completed k r hr hcompleted
  since_iff := h.since_iff

/-- No approval of the kind stands where the kind is to be decided. -/
theorem Reviewing.undecided (h : Reviewing v approvals assigned decided since) {kind : ReviewKind}
    {reviewer : Subject} (hd : Decides v kind reviewer) :
    (∀ user, (kind, user) ∉ approvals) ∧ ∀ user, (.editorial, user) ∉ approvals := by
  cases kind with
  | technical =>
      rw [h.unreviewed (checkDecision_technical hd.checked)]
      exact ⟨fun _ => List.not_mem_nil, fun _ => List.not_mem_nil⟩
  | editorial =>
      have hnone := (h.technical (checkDecision_editorial hd.checked).1).2
      exact ⟨hnone, hnone⟩

/-- The rows behind a decision, with the approvals `kept` of those before. -/
theorem Reviewing.decided_rows (h : Reviewing v approvals assigned decided since)
    {kind : ReviewKind} {reviewer : Subject} (hd : Decides v kind reviewer)
    (outcome : ReviewOutcome) (reason : Str) (now : Time) :
    (∀ k, assigned k = ((v.decided kind reviewer outcome reason now).assignment k).map
        ReviewAssignment.reviewer)
      ∧ (∀ k, Function.update decided kind (some reviewer) k
        = ((v.decided kind reviewer outcome reason now).assignment k).bind fun r =>
          r.decisions.getLast?.map ReviewDecision.reviewer)
      ∧ (∀ k r, (v.decided kind reviewer outcome reason now).assignment k = some r →
        r.completedAt.isSome = true →
        assigned k = Function.update decided kind (some reviewer) k)
      ∧ ∀ k user, (k, user) ∈ approvals → Function.update decided kind (some reviewer) k = some user
        ∧ v.author ≠ some user ∧ ∃ r d,
          (v.decided kind reviewer outcome reason now).assignment k = some r
            ∧ r.decisions.getLast? = some d ∧ d.outcome = .approved := by
  obtain ⟨r, hr, hreviewer⟩ := hd.assigned
  have hassigned : assigned kind = some reviewer := by
    rw [h.assigned_eq, hr, ← hreviewer]
    rfl
  unfold VersionRow.decided
  dsimp only
  refine ⟨fun k => ?_, fun k => ?_, fun k r' hr' hcompleted => ?_, fun k user hmem => ?_⟩
  · by_cases hk : k = kind
    · subst hk
      rw [Function.update_self, h.assigned_eq, hr]
      rfl
    · rw [Function.update_of_ne hk]
      exact h.assigned_eq k
  · by_cases hk : k = kind
    · subst hk
      rw [Function.update_self, Function.update_self, hr]
      show _ = (r.decisions ++ [_]).getLast?.map _
      rw [List.getLast?_concat]
      rfl
    · rw [Function.update_of_ne hk, Function.update_of_ne hk]
      exact h.decided_eq k
  · by_cases hk : k = kind
    · subst hk
      rw [Function.update_self]
      exact hassigned
    · rw [Function.update_of_ne hk] at hr' ⊢
      exact h.completed k r' hr' hcompleted
  · have hk : k ≠ kind := fun heq => (h.undecided hd).1 user (heq ▸ hmem)
    rw [Function.update_of_ne hk, Function.update_of_ne hk]
    exact h.approver k user hmem

theorem Reviewing.rejected (h : Reviewing v approvals assigned decided since) {kind : ReviewKind}
    {reviewer : Subject} (hd : Decides v kind reviewer) {outcome : ReviewOutcome}
    (houtcome : outcome ≠ .approved) (reason : Str) (now : Time)
    {kept : List (ReviewKind × Subject)} (hkept : kept = approvals ∨ kept = []) :
    Reviewing (v.decided kind reviewer outcome reason now) kept assigned
      (Function.update decided kind (some reviewer)) since := by
  obtain ⟨hassigned, hdecided, hcompleted, hmem⟩ := h.decided_rows hd outcome reason now
  have hnone := (h.undecided hd).2
  have hsub : ∀ p ∈ kept, p ∈ approvals := by
    rcases hkept with rfl | rfl
    · exact fun _ hp => hp
    · exact fun _ hp => nomatch hp
  have hstate : (v.decided kind reviewer outcome reason now).state = .draft := if_neg houtcome
  constructor
  · exact fun k user hp => hmem k user (hsub _ hp)
  · exact fun heq => nomatch hstate.symm.trans heq
  · exact fun heq => nomatch hstate.symm.trans heq
  · exact fun user hp => absurd (hsub _ hp) (hnone user)
  · exact fun heq => nomatch hstate.symm.trans heq
  · exact hassigned
  · exact hdecided
  · exact hcompleted
  · rw [h.since_iff]
    exact iff_of_false (fun ⟨user, hp⟩ => hnone user hp) fun ⟨user, hp⟩ => hnone user (hsub _ hp)

theorem Reviewing.approves (h : Reviewing v approvals assigned decided since) {kind : ReviewKind}
    {reviewer : Subject} (hd : Decides v kind reviewer) (reason : Str) (now : Time) :
    Reviewing (v.decided kind reviewer .approved reason now) (approvals ++ [(kind, reviewer)])
      assigned (Function.update decided kind (some reviewer))
      (if kind = .editorial then true else since) := by
  obtain ⟨hassigned, hdecided, hcompleted, hmem⟩ := h.decided_rows hd .approved reason now
  obtain ⟨author, hauthor, hself⟩ := hd.author
  have hown : v.author ≠ some reviewer := fun heq =>
    hself (Option.some.inj (hauthor.symm.trans heq))
  have happrover : ∀ k user, (k, user) ∈ approvals ++ [(kind, reviewer)] →
      Function.update decided kind (some reviewer) k = some user ∧ v.author ≠ some user
        ∧ ∃ r d, (v.decided kind reviewer .approved reason now).assignment k = some r
          ∧ r.decisions.getLast? = some d ∧ d.outcome = .approved := by
    intro k user hp
    rcases List.mem_append.mp hp with hp | hp
    · exact hmem k user hp
    · cases List.mem_singleton.mp hp
      obtain ⟨r, hr, -⟩ := hd.assigned
      refine ⟨Function.update_self .., hown, _, ⟨reviewer, .approved, reason⟩,
        Function.update_self .. |>.trans (congrArg (Option.map _) hr), ?_, rfl⟩
      exact List.getLast?_concat ..
  cases kind with
  | technical =>
      have hnone := h.unreviewed (checkDecision_technical hd.checked)
      subst hnone
      have hstate : (v.decided .technical reviewer .approved reason now).state
          = .awaitingEditorialReview := rfl
      constructor
      · exact happrover
      · exact fun heq => nomatch hstate.symm.trans heq
      · exact fun _ => ⟨⟨reviewer, List.mem_singleton_self _⟩, fun user hp => nomatch
          List.mem_singleton.mp hp⟩
      · exact fun user hp => nomatch List.mem_singleton.mp hp
      · exact fun heq => nomatch hstate.symm.trans heq
      · exact hassigned
      · exact hdecided
      · exact hcompleted
      · rw [if_neg nofun, h.since_iff]
        exact iff_of_false (fun ⟨_, hp⟩ => nomatch hp) fun ⟨_, hp⟩ => nomatch List.mem_singleton.mp hp
  | editorial =>
      obtain ⟨hawaiting, r, hr, hdone, hother⟩ := checkDecision_editorial hd.checked
      obtain ⟨⟨user, huser⟩, -⟩ := h.technical hawaiting
      -- who approved technically is the reviewer of the completed assignment
      have heq : user = r.reviewer := by
        have hsame := h.completed .technical r hr hdone
        rw [(h.approver _ _ huser).1, h.assigned_eq, hr] at hsame
        exact (Option.some.inj hsame).symm
      have hstate : (v.decided .editorial reviewer .approved reason now).state = .approved := rfl
      constructor
      · exact happrover
      · exact fun heq => nomatch hstate.symm.trans heq
      · exact fun heq => nomatch hstate.symm.trans heq
      · intro user' hp
        rcases List.mem_append.mp hp with hp | hp
        · exact absurd hp ((h.undecided hd).2 user')
        · cases List.mem_singleton.mp hp
          exact ⟨user, List.mem_append_left _ huser, heq ▸ hother⟩
      · exact fun _ => ⟨reviewer, List.mem_append_right _ (List.mem_singleton_self _)⟩
      · exact hassigned
      · exact hdecided
      · exact hcompleted
      · rw [if_pos rfl]
        exact iff_of_true rfl ⟨reviewer, List.mem_append_right _ (List.mem_singleton_self _)⟩

end

/-! ## Histories -/

def RowTracked (versionId : Uuid) (past : List (WorkflowTaken C)) :
    Option (VersionRow C) → Prop
  | none => ∀ kind, lastAssigned versionId kind past = none ∧ lastDecided versionId kind past = none
  | some v => Reviewing v (standing versionId past) (fun kind => lastAssigned versionId kind past)
      (fun kind => lastDecided versionId kind past) (approvedSinceChange versionId past)

section

variable {versionId : Uuid} {past : List (WorkflowTaken C)} {x : WorkflowTaken C}

/-- A transition that says nothing of the version. -/
theorem history_of_leaves (past : List (WorkflowTaken C)) (ha : LeavesReviews versionId x.label)
    (kind : ReviewKind) :
    lastAssigned versionId kind (past ++ [x]) = lastAssigned versionId kind past
      ∧ lastDecided versionId kind (past ++ [x]) = lastDecided versionId kind past := by
  rw [lastAssigned_snoc, lastDecided_snoc, (ha.1 kind).1, (ha.1 kind).2]
  exact ⟨rfl, rfl⟩

theorem RowTracked.of_leaves {v w : VersionRow C} (ha : LeavesReviews versionId x.label)
    (hsource : x.source.version versionId = some v) (htarget : x.target.version versionId = some w)
    (hhash : w.contentHash = v.contentHash)
    (h : Reviewing w (standing versionId past) (fun kind => lastAssigned versionId kind past)
      (fun kind => lastDecided versionId kind past) (approvedSinceChange versionId past)) :
    RowTracked versionId (past ++ [x]) (some w) := by
  have hsame : ¬ChangesContent versionId x := by
    unfold ChangesContent
    rw [hsource, htarget]
    exact not_not.mpr (congrArg some hhash)
  unfold RowTracked
  rw [standing_snoc, approvedSinceChange_snoc, if_neg hsame, if_neg hsame, ha.2]
  simp only [fun kind => (history_of_leaves past ha kind).1,
    fun kind => (history_of_leaves past ha kind).2]
  exact h

theorem RowTracked.snoc {r r' : Option (VersionRow C)} (hsource : x.source.version versionId = r)
    (htarget : x.target.version versionId = r') (hstep : VersionStep versionId x.label r r')
    (h : RowTracked versionId past r) : RowTracked versionId (past ++ [x]) r' := by
  cases hstep with
  | absent ha =>
      intro kind
      rw [(history_of_leaves past ha kind).1, (history_of_leaves past ha kind).2]
      exact h kind
  | inserted v ha hstate hassignment =>
      have hchange : ChangesContent versionId x := by
        unfold ChangesContent
        rw [hsource, htarget]
        exact nofun
      unfold RowTracked
      rw [standing_snoc, approvedSinceChange_snoc, if_pos hchange, if_pos hchange]
      simp only [fun kind => (history_of_leaves past ha kind).1,
        fun kind => (history_of_leaves past ha kind).2, fun kind => (h kind).1,
        fun kind => (h kind).2]
      constructor
      · exact fun _ _ hmem => nomatch hmem
      · exact fun _ => rfl
      · exact fun heq => nomatch hstate.symm.trans heq
      · exact fun _ hmem => nomatch hmem
      · exact fun heq => nomatch hstate.symm.trans heq
      · exact fun kind => by rw [hassignment kind]; rfl
      · exact fun kind => by rw [hassignment kind]; rfl
      · exact fun kind r hr => nomatch (hassignment kind).symm.trans hr
      · exact iff_of_false nofun (fun ⟨_, hmem⟩ => nomatch hmem)
  | kept v ha => exact .of_leaves ha hsource htarget rfl h
  | moved v state ha hstate =>
      exact .of_leaves ha hsource htarget rfl (Reviewing.moved h hstate)
  | overwritten v w ha hhash hstate hassignment =>
      have hchange : ChangesContent versionId x := by
        unfold ChangesContent
        rw [hsource, htarget]
        exact fun heq => hhash (Option.some.inj heq)
      unfold RowTracked
      rw [standing_snoc, approvedSinceChange_snoc, if_pos hchange, if_pos hchange]
      simp only [fun kind => (history_of_leaves past ha kind).1,
        fun kind => (history_of_leaves past ha kind).2]
      exact Reviewing.overwritten h hstate hassignment
  | assigned v kind reviewer ha =>
      have hsame : ¬ChangesContent versionId x := by
        unfold ChangesContent
        rw [hsource, htarget]
        exact not_not.mpr rfl
      have hassigned : (fun k => lastAssigned versionId k (past ++ [x]))
          = Function.update (fun k => lastAssigned versionId k past) kind (some reviewer) := by
        refine Function.eq_update_iff.mpr ⟨?_, fun k hk => ?_⟩
        · rw [lastAssigned_snoc, ha, assignedBy, if_pos ⟨rfl, rfl⟩]
          rfl
        · rw [lastAssigned_snoc, ha, assignedBy, if_neg fun hand => hk hand.2.symm]
          rfl
      have hdecided : (fun k => lastDecided versionId k (past ++ [x]))
          = fun k => lastDecided versionId k past := by
        funext k
        rw [lastDecided_snoc, ha]
        rfl
      unfold RowTracked
      rw [standing_snoc, approvedSinceChange_snoc, if_neg hsame, if_neg hsame, hassigned, hdecided, ha]
      exact Reviewing.reassigned h kind reviewer
  | decided v kind reviewer outcome reason now ha hdecides =>
      have hsame : ¬ChangesContent versionId x := by
        unfold ChangesContent
        rw [hsource, htarget]
        exact not_not.mpr rfl
      have hassigned : (fun k => lastAssigned versionId k (past ++ [x]))
          = fun k => lastAssigned versionId k past := by
        funext k
        rw [lastAssigned_snoc, ha]
        rfl
      have hdecided : (fun k => lastDecided versionId k (past ++ [x]))
          = Function.update (fun k => lastDecided versionId k past) kind (some reviewer) := by
        refine Function.eq_update_iff.mpr ⟨?_, fun k hk => ?_⟩
        · rw [lastDecided_snoc, ha, decidedBy, if_pos ⟨rfl, rfl⟩]
          rfl
        · rw [lastDecided_snoc, ha, decidedBy, if_neg fun hand => hk hand.2.symm]
          rfl
      have hdecision : decisionOn versionId x.label = some (kind, reviewer, outcome) := by
        rw [ha]
        exact if_pos rfl
      unfold RowTracked
      rw [standing_snoc, approvedSinceChange_snoc, if_neg hsame, if_neg hsame, hassigned, hdecided,
        hdecision]
      cases outcome with
      | approved =>
          have happroves := Reviewing.approves h hdecides reason now
          cases kind <;> exact happroves
      | changesRequested =>
          have hrejected := Reviewing.rejected h hdecides
            (show ReviewOutcome.changesRequested ≠ .approved from nofun) reason now (.inr rfl)
          cases kind <;> exact hrejected
      | rejected =>
          have hrejected := Reviewing.rejected h hdecides
            (show ReviewOutcome.rejected ≠ .approved from nofun) reason now (.inl rfl)
          cases kind <;> exact hrejected

end

/-! ## Publications -/

/-- What makes a version the current one, and what it found there. -/
def BecomesCurrent (db : Catalogue C) (a : WorkflowAction C) (versionId : Uuid) : Prop :=
  ∃ v, db.version versionId = some v
    ∧ ((∃ publisher key, a = .publish publisher versionId key ∧ v.state = .approved)
      ∨ ∃ externalId version, a = .rollback externalId version)

theorem WorkflowStep.becomesCurrent {db db' : Catalogue C} {a : WorkflowAction C}
    (h : WorkflowStep db a db') (hp : db.Pointed) {questionId versionId : Uuid}
    (hset : pointerSet questionId ⟨db, a, db'⟩ = some versionId) :
    BecomesCurrent db a versionId := by
  have hchanged : (db'.question questionId).bind QuestionRow.currentPublishedVersionId
      = some versionId ∧ (db'.question questionId).bind QuestionRow.currentPublishedVersionId
        ≠ (db.question questionId).bind QuestionRow.currentPublishedVersionId := by
    unfold pointerSet at hset
    dsimp only at hset
    split_ifs at hset with hne
    exact ⟨hset, hne⟩
  obtain ⟨hcurrent, hne⟩ := hchanged
  have hsynced {synced : Catalogue C} {id : Uuid} (hq : QuestionSynced db synced id) :
      (synced.question questionId).bind QuestionRow.currentPublishedVersionId
        = (db.question questionId).bind QuestionRow.currentPublishedVersionId := by
    cases hfound : db.question questionId with
    | some q =>
        obtain ⟨q', hq', hsame, -⟩ := hq.kept questionId q hfound
        rw [hq']
        exact hsame
    | none =>
        cases hfound' : synced.question questionId with
        | none => rfl
        | some q' =>
            rcases hq.back questionId q' hfound' with ⟨q, hsome, -⟩ | ⟨-, hnone, -⟩
            · exact nomatch hfound.symm.trans hsome
            · exact hnone
  cases h with
  | sync h =>
      cases synchronizePackage_ok h with
      | untracked => exact absurd rfl hne
      | unchanged hq => exact absurd (hsynced hq) hne
      | immutable hq => exact absurd (hsynced hq) hne
      | updated hq => exact absurd (hsynced hq) hne
      | inserted hq => exact absurd (hsynced hq) hne
  | assign h =>
      obtain ⟨v, -, rfl⟩ := assign_ok h
      exact absurd rfl hne
  | decide h =>
      obtain ⟨v, -, -, rfl⟩ := decideReview_ok h
      exact absurd rfl hne
  | publish h =>
      obtain ⟨v, hv, ⟨_, -, -, rfl, -⟩ | ⟨-, happroved, -, rfl⟩⟩ := publishVersion_ok h
      · exact absurd rfl hne
      · rw [Catalogue.question_pointTo, Catalogue.question_updateVersion] at hcurrent hne
        cases hq : Catalogue.question questionId _ with
        | none =>
            rw [hq] at hcurrent
            cases hcurrent
        | some q =>
            rw [hq, Option.map_some] at hcurrent hne
            split_ifs at hcurrent hne with hid
            · cases hcurrent
              exact ⟨v, hv, .inl ⟨_, _, rfl, happroved⟩⟩
            · exact absurd (congrArg (Option.bind · _) hq.symm) hne
  | transition h =>
      obtain ⟨v, hv, -, rfl⟩ := transitionVersion_ok h
      rw [Catalogue.question_unpoint, Catalogue.question_updateVersion] at hcurrent hne
      cases hq : db.question questionId with
      | none =>
          rw [hq] at hcurrent
          cases hcurrent
      | some q =>
          rw [hq, Option.map_some] at hcurrent hne
          unfold QuestionRow.unpoint at hcurrent hne
          split_ifs at hcurrent hne
          · cases hcurrent
          · cases hcurrent
          · exact absurd rfl hne
          · exact absurd rfl hne
  | rollback =>
      rename_i externalId version
      rcases rollbackPublication_cases db externalId version with hsame | ⟨q, v, hroll, heq⟩
      · rw [hsame] at hne
        exact absurd rfl hne
      · rw [heq, question_rolledBack] at hcurrent hne
        cases hr : db.question questionId with
        | none =>
            rw [hr] at hcurrent
            cases hcurrent
        | some r =>
            rw [hr, Option.map_some] at hcurrent hne
            split_ifs at hcurrent hne
            · cases hcurrent
              exact ⟨v, (hp.version_of_versionOf hroll.version).1, .inr ⟨_, _, rfl⟩⟩
            · exact absurd rfl hne

/-- Two approvals of the version stand, by users of whom neither is its
author; and where it is published, they are those that `publish` reads. -/
def ReviewedAsIs (past : List (WorkflowTaken C)) (x : WorkflowTaken C) (versionId : Uuid) : Prop :=
  ∃ v technical editorial, x.source.version versionId = some v
    ∧ (.technical, technical) ∈ standing versionId past
    ∧ (.editorial, editorial) ∈ standing versionId past
    ∧ technical ≠ editorial ∧ v.author ≠ some technical ∧ v.author ≠ some editorial
    ∧ ∀ publisher key, x.label = .publish publisher versionId key →
      approvalOf v .technical = some technical ∧ approvalOf v .editorial = some editorial

/-- Nobody was assigned in place of a reviewer who has decided, where the
version is published; and its content was approved as it is, where the
question is rolled back to it. -/
def PublishedAsReviewed (past : List (WorkflowTaken C)) (x : WorkflowTaken C) (versionId : Uuid) :
    Prop :=
  (∀ publisher key, x.label = .publish publisher versionId key →
    ∀ kind, lastAssigned versionId kind past = lastDecided versionId kind past)
  ∧ ∀ externalId version, x.label = .rollback externalId version →
    approvedSinceChange versionId past = true

/-- The reviewer whom `publish` reads is the one who was assigned last. -/
theorem Reviewing.approvalOf_eq {v : VersionRow C} {approvals : List (ReviewKind × Subject)}
    {assigned decided : ReviewKind → Option Subject} {since : Bool}
    (h : Reviewing v approvals assigned decided since) {kind : ReviewKind} {user : Subject}
    (hmem : (kind, user) ∈ approvals) : approvalOf v kind = assigned kind := by
  obtain ⟨-, -, r, d, hr, hd, houtcome⟩ := h.approver kind user hmem
  rw [h.assigned_eq, approvalOf, hr]
  simp only [Option.bind_some, hd]
  exact if_pos houtcome

theorem reviewedAsIs_iff {past : List (WorkflowTaken C)} {x : WorkflowTaken C} {versionId : Uuid}
    (hcurrent : BecomesCurrent x.source x.label versionId)
    (htracked : RowTracked versionId past (x.source.version versionId)) :
    ReviewedAsIs past x versionId ↔ PublishedAsReviewed past x versionId := by
  obtain ⟨v, hv, hlabel⟩ := hcurrent
  rw [hv] at htracked
  have h : Reviewing v _ _ _ _ := htracked
  -- what an editorial approval gives
  have happrovals (user : Subject) (huser : (.editorial, user) ∈ standing versionId past) :
      ∃ other, (.technical, other) ∈ standing versionId past ∧ other ≠ user
        ∧ v.author ≠ some other ∧ v.author ≠ some user := by
    obtain ⟨other, hother, hne⟩ := h.editorial user huser
    exact ⟨other, hother, hne, (h.approver _ _ hother).2.1, (h.approver _ _ huser).2.1⟩
  rcases hlabel with ⟨publisher, key, hpublish, hstate⟩ | ⟨externalId, version, hrollback⟩
  · constructor
    · rintro ⟨w, technical, editorial, hw, htechnical, heditorial, -, -, -, hread⟩
      cases hv.symm.trans hw
      obtain ⟨hreadt, hreade⟩ := hread publisher key hpublish
      refine ⟨fun _ _ _ kind => ?_, fun _ _ heq => nomatch hpublish.symm.trans heq⟩
      cases kind with
      | technical =>
          exact (h.approvalOf_eq htechnical).symm.trans
            (hreadt.trans (h.approver _ _ htechnical).1.symm)
      | editorial =>
          exact (h.approvalOf_eq heditorial).symm.trans
            (hreade.trans (h.approver _ _ heditorial).1.symm)
    · rintro ⟨hassigned, -⟩
      obtain ⟨user, huser⟩ := h.approved hstate
      obtain ⟨other, hother, hne, hauthor, hauthor'⟩ := happrovals user huser
      refine ⟨v, other, user, hv, hother, huser, hne, hauthor, hauthor', fun _ _ _ => ⟨?_, ?_⟩⟩
      · exact (h.approvalOf_eq hother).trans
          ((hassigned publisher key hpublish _).trans (h.approver _ _ hother).1)
      · exact (h.approvalOf_eq huser).trans
          ((hassigned publisher key hpublish _).trans (h.approver _ _ huser).1)
  · constructor
    · rintro ⟨w, technical, editorial, -, -, heditorial, -⟩
      exact ⟨fun _ _ heq => (nomatch hrollback.symm.trans heq),
        fun _ _ _ => h.since_iff.mpr ⟨editorial, heditorial⟩⟩
    · rintro ⟨-, hsince⟩
      obtain ⟨user, huser⟩ := h.since_iff.mp (hsince externalId version hrollback)
      obtain ⟨other, hother, hne, hauthor, hauthor'⟩ := happrovals user huser
      exact ⟨v, other, user, hv, hother, huser, hne, hauthor, hauthor',
        fun _ _ heq => nomatch hrollback.symm.trans heq⟩

/-- **Everything published was reviewed as published.** Whatever makes a
version current in a run from an empty catalogue finds it reviewed as it
stands, exactly when no reviewer was replaced behind the decision, and no
content overwritten behind the approval. -/
theorem reviewed_publication {db db' : Catalogue C} {trace : List (WorkflowTaken C)}
    (hstart : db.Empty) (hrun : Run WorkflowStep db trace db') :
    (∀ past x rest questionId versionId, trace = past ++ x :: rest →
        pointerSet questionId x = some versionId → ReviewedAsIs past x versionId)
      ↔ ∀ past x rest questionId versionId, trace = past ++ x :: rest →
        pointerSet questionId x = some versionId → PublishedAsReviewed past x versionId := by
  have hhistory {past rest : List (WorkflowTaken C)} {x : WorkflowTaken C}
      (heq : trace = past ++ x :: rest) :
      x.source.Pointed ∧ ∀ versionId, RowTracked versionId past (x.source.version versionId) := by
    refine hrun.history (I := fun past db =>
      db.Pointed ∧ ∀ versionId, RowTracked versionId past (db.version versionId)) ?_ ?_ heq
    · rintro past x ⟨hp, htracked⟩ hstep
      exact ⟨hstep.pointed hp, fun versionId =>
        (htracked versionId).snoc rfl rfl (hstep.row hp versionId)⟩
    · refine ⟨hstart.pointed, fun versionId => ?_⟩
      rw [hstart.version_eq]
      exact fun _ => ⟨rfl, rfl⟩
  have hiff {past rest : List (WorkflowTaken C)} {x : WorkflowTaken C} {questionId versionId : Uuid}
      (heq : trace = past ++ x :: rest) (hset : pointerSet questionId x = some versionId) :
      ReviewedAsIs past x versionId ↔ PublishedAsReviewed past x versionId := by
    have hx : x ∈ trace := heq ▸ List.mem_append_right past (List.mem_cons_self ..)
    obtain ⟨hp, htracked⟩ := hhistory heq
    exact reviewedAsIs_iff ((hrun.taken x hx).becomesCurrent hp hset) (htracked versionId)
  exact ⟨fun h past x rest questionId versionId heq hset =>
      (hiff heq hset).mp (h past x rest questionId versionId heq hset),
    fun h past x rest questionId versionId heq hset =>
      (hiff heq hset).mpr (h past x rest questionId versionId heq hset)⟩

/-- A version is reviewed and published as it was reviewed. -/
theorem reviewed_publication_published : ∃ trace db,
    Run WorkflowStep seededCatalogue trace db ∧ trace.length = 6
      ∧ ∀ past x rest questionId versionId, trace = past ++ x :: rest →
        pointerSet questionId x = some versionId → ReviewedAsIs past x versionId := by
  obtain ⟨trace, db, hrun, hlength, hreviewed⟩ : ∃ trace db,
      Run WorkflowStep seededCatalogue trace db ∧ trace.length = 6
        ∧ ∀ past x rest questionId versionId, trace = past ++ x :: rest →
          pointerSet questionId x = some versionId → PublishedAsReviewed past x versionId := by
    refine Run.exists_cons (.sync "main" (joinPackage "1.0.0" "hash-1") ⟨"question-1", "version-1"⟩)
      (.sync rfl) ?_
    refine Run.exists_cons (.assign "version-1" .technical "ada") (.assign rfl) ?_
    refine Run.exists_cons (.assign "version-1" .editorial "bob") (.assign rfl) ?_
    refine Run.exists_cons (.decide "ada" "version-1" .technical .approved
      "The reference solution is right." 1) (.decide rfl) ?_
    refine Run.exists_cons (.decide "bob" "version-1" .editorial .approved
      "The wording is clear." 2) (.decide rfl) ?_
    refine Run.exists_cons (.publish "root" "version-1" "publication-1") (.publish rfl) ?_
    refine Run.exists_nil ⟨rfl, fun past x rest questionId versionId heq _ => ?_⟩
    -- the publication is the last step
    rcases past with _ | ⟨_, _ | ⟨_, _ | ⟨_, _ | ⟨_, _ | ⟨_, _ | ⟨_, _ | ⟨_, past⟩⟩⟩⟩⟩⟩⟩ <;>
      cases heq
    all_goals refine ⟨fun _ _ hlabel kind => ?_, fun _ _ hlabel => nomatch hlabel⟩
    all_goals cases hlabel
    cases kind <;> rfl
  exact ⟨trace, db, hrun, hlength, (reviewed_publication seededCatalogue_empty hrun).mpr hreviewed⟩

/-- `eve` is assigned in place of `ada`, who has approved. -/
theorem published_behind_reassignment : ∃ trace db,
    Run WorkflowStep seededCatalogue trace db
      ∧ ¬∀ past x rest questionId versionId, trace = past ++ x :: rest →
        pointerSet questionId x = some versionId → ReviewedAsIs past x versionId := by
  refine Run.exists_cons (.sync "main" (joinPackage "1.0.0" "hash-1") ⟨"question-1", "version-1"⟩)
    (.sync rfl) ?_
  refine Run.exists_cons (.assign "version-1" .technical "ada") (.assign rfl) ?_
  refine Run.exists_cons (.assign "version-1" .editorial "bob") (.assign rfl) ?_
  refine Run.exists_cons (.decide "ada" "version-1" .technical .approved
    "The reference solution is right." 1) (.decide rfl) ?_
  refine Run.exists_cons (.decide "bob" "version-1" .editorial .approved
    "The wording is clear." 2) (.decide rfl) ?_
  refine Run.exists_cons (.assign "version-1" .technical "eve") (.assign rfl) ?_
  refine Run.exists_cons (.publish "root" "version-1" "publication-1") (.publish rfl) ?_
  refine Run.exists_nil fun hreviewed => ?_
  obtain ⟨v, technical, _, hv, htechnical, -, -, -, -, hread⟩ :=
    hreviewed [_, _, _, _, _, _] _ [] "question-1" "version-1" rfl rfl
  cases hv
  cases (hread "root" "publication-1" rfl).1
  exact absurd htechnical (by decide)

end Rigor
