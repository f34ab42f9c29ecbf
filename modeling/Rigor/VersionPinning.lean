import Rigor.QueueIdempotency

/-!
# Version pinning

A practice session holds the version of its question that it was started
with, but the queueing endpoints and the hints look the question up by its
slug again. As long as the published version is the session's at each of
them, every execution, submission and hint of a session is of its version
(`versions_pinned`); a publication in between breaks this
(`republished_not_pinned`).
-/

namespace Rigor

open Py Runs

variable {F : Type}

/-! ## Pins -/

namespace Db

/-- The sessions that executions, submissions and hints belong to, with the
versions they are of. -/
def pins (db : Db F) : List (Uuid × Uuid) :=
  (db.executions.map fun e => (e.row.practiceSessionId, e.row.questionVersionId))
    ++ ((db.submissions.map fun s => (s.practiceSessionId, s.questionVersionId))
      ++ db.hints.map fun h => (h.sessionId, h.questionVersionId))

def sessionIds (db : Db F) : List Uuid := db.sessions.map PracticeSession.id

/-- Whatever belongs to a session is of the session's version. -/
def VersionsPinned (db : Db F) : Prop :=
  ∀ p ∈ db.pins, ∀ s ∈ db.sessions, s.id = p.1 → s.questionVersionId = p.2

/-- Whatever belongs to a session belongs to one that exists. -/
def Attached (db : Db F) : Prop := ∀ p ∈ db.pins, p.1 ∈ db.sessionIds

theorem mem_pins {db : Db F} {p : Uuid × Uuid} : p ∈ db.pins ↔
    (∃ e ∈ db.executions, (e.row.practiceSessionId, e.row.questionVersionId) = p)
      ∨ (∃ s ∈ db.submissions, (s.practiceSessionId, s.questionVersionId) = p)
      ∨ ∃ h ∈ db.hints, (h.sessionId, h.questionVersionId) = p := by
  simp only [pins, List.mem_append, List.mem_map]

end Db

/-- A step adds at most the pin `new`, to a session that exists, and leaves
the sessions their versions. -/
structure PinStep (db db' : Db F) (new : Option (Uuid × Uuid)) : Prop where
  pins : ∀ p ∈ db'.pins, p ∈ db.pins ∨ new = some p
  attached : ∀ p, new = some p → p.1 ∈ db.sessionIds
  sessionIds : ∀ id ∈ db.sessionIds, id ∈ db'.sessionIds
  versions : ∀ s ∈ db'.sessions, s.id ∉ db.sessionIds
    ∨ ∃ s₀ ∈ db.sessions, s₀.id = s.id ∧ s₀.questionVersionId = s.questionVersionId

theorem PinStep.attached' {db db' : Db F} {new : Option (Uuid × Uuid)} (h : PinStep db db' new)
    (ha : db.Attached) : db'.Attached := fun p hp =>
  (h.pins p hp).elim (fun hp => h.sessionIds _ (ha p hp)) fun hnew =>
    h.sessionIds _ (h.attached p hnew)

/-- The pins stay right if the new one is. -/
theorem PinStep.pinned {db db' : Db F} {new : Option (Uuid × Uuid)} (h : PinStep db db' new)
    (ha : db.Attached) (hp : db.VersionsPinned)
    (hnew : ∀ p, new = some p → ∀ s ∈ db.sessions, s.id = p.1 → s.questionVersionId = p.2) :
    db'.VersionsPinned := by
  intro p hmem s hs hid
  have hexists : p.1 ∈ db.sessionIds := (h.pins p hmem).elim (ha p) (h.attached p)
  rcases h.versions s hs with hfresh | ⟨s₀, hs₀, hid₀, hversion⟩
  · exact absurd (hid ▸ hexists) hfresh
  · rw [← hversion]
    rcases h.pins p hmem with hold | hnew'
    · exact hp p hold s₀ hs₀ (hid₀.trans hid)
    · exact hnew p hnew' s₀ hs₀ (hid₀.trans hid)

/-! ## Sessions -/

theorem PracticeSession.of_identity {s s' : PracticeSession F} (h : s'.identity = s.identity) :
    s'.id = s.id ∧ s'.questionVersionId = s.questionVersionId :=
  ⟨congrArg Prod.fst h, congrArg (fun i => i.2.2.1) h⟩

/-- Sessions updated without a change of identity. -/
theorem versions_of_update {id : Uuid} {f : PracticeSession F → PracticeSession F} {db : Db F}
    (db' : Db F) (hf : KeepsIdentity f) (h : db'.sessions = Tables.update PracticeSession.id id f db.sessions) :
    db'.sessionIds = db.sessionIds ∧ ∀ s ∈ db'.sessions, s.id ∉ db.sessionIds
      ∨ ∃ s₀ ∈ db.sessions, s₀.id = s.id ∧ s₀.questionVersionId = s.questionVersionId := by
  refine ⟨?_, fun s hs => .inr ?_⟩
  · rw [Db.sessionIds, h]
    exact Tables.map_update fun r _ _ => hf.id r
  · rw [h] at hs
    rcases Tables.mem_update hs with ⟨hs, -⟩ | ⟨s₀, hs₀, -, rfl⟩
    · exact ⟨s, hs, rfl, rfl⟩
    · obtain ⟨hid, hversion⟩ := PracticeSession.of_identity (hf s₀)
      exact ⟨s₀, hs₀, hid.symm, hversion.symm⟩

theorem getSession_ok {principal : Principal} {sessionId : Uuid} {db : Db F}
    {s : PracticeSession F} (h : getSession principal sessionId db = .ok s) :
    s ∈ db.sessions ∧ s.id = sessionId ∧ s.candidateId = principal.userId := by
  rw [getSession] at h
  split at h
  · cases h
  · rename_i found hfound
    split_ifs at h with hown
    cases h
    exact ⟨Tables.mem_of_find hfound, Tables.key_of_find hfound, hown⟩

/-! ## Steps on an execution -/

/-- A step on an execution leaves its submission and its session what they
are of. -/
theorem Step.pins {evaluator : Evaluator F} {s t : System F} {a : Action F × Clock}
    (h : Step evaluator s a t) :
    t.attempt.session.identity = s.attempt.session.identity
      ∧ ∀ sub, t.attempt.submission = some sub → ∃ sub₀, s.attempt.submission = some sub₀
        ∧ sub₀.practiceSessionId = sub.practiceSessionId
        ∧ sub₀.questionVersionId = sub.questionVersionId := by
  rcases h.moved_or_persisted with ⟨-, hsub, hsess, -⟩ | ⟨_, _, _, p, -, -, -, -, -, -, hfinal⟩
  · exact ⟨by rw [hsess], fun sub hsome => ⟨sub, hsub ▸ hsome, rfl, rfl⟩⟩
  · rcases finalizeSubmission_ok hfinal with ⟨hsub, hsess, -⟩
      | ⟨sid, sub, sub', -, -, hsub, -, hresolve, hsub', hsess⟩
    · exact ⟨by rw [hsess], fun sub hsome => ⟨sub, hsub ▸ hsome, rfl, rfl⟩⟩
    · obtain ⟨-, -, -, -, -, hversion, hsession⟩ := resolveSubmission_ok hresolve
      refine ⟨?_, fun r hr => ?_⟩
      · rw [hsess, completeSession]
        split_ifs <;> rfl
      · rw [hsub'] at hr
        cases hr
        exact ⟨sub, hsub, hsession.symm, hversion.symm⟩

theorem Db.pinStep_store {db : Db F} {id : Uuid} {s t : System F} {evaluator : Evaluator F}
    {a : Action F × Clock} (hs : db.system id = some s) (h : Step evaluator s a t) :
    PinStep db ((db.store id t).notify id a.1 a.2) none := by
  have hf := Db.focus_of_system hs h
  obtain ⟨hident, hsubs⟩ := h.pins
  obtain ⟨hsid, hversion⟩ := PracticeSession.of_identity hident
  refine ⟨fun p hp => .inl ?_, nofun, fun sid hmem => ?_, fun r hr => .inr ?_⟩
  · rw [mem_pins, notify_executions, notify_submissions, notify_hints] at hp
    rw [mem_pins]
    rcases hp with ⟨e, he, rfl⟩ | ⟨r, hr, rfl⟩ | hhint
    · rcases Focus.mem_store he with ⟨he, -⟩ | rfl
      · exact .inl ⟨e, he, rfl⟩
      · exact .inl ⟨_, hf.execution, by rw [hf.columns]⟩
    · rcases mem_store_submissions hr with ⟨hr, -⟩ | hsome
      · exact .inr (.inl ⟨r, hr, rfl⟩)
      · obtain ⟨r₀, hr₀, hsession₀, hversion₀⟩ := hsubs r hsome
        exact .inr (.inl ⟨r₀, (hf.submission r₀ hr₀).1, by rw [hsession₀, hversion₀]⟩)
    · exact .inr (.inr hhint)
  · rw [sessionIds, notify_sessions]
    rw [sessionIds] at hmem
    refine Eq.mpr (congrArg (sid ∈ ·) (Tables.map_update fun r _ hr => ?_)) hmem
    exact hr.symm
  · rw [notify_sessions] at hr
    rcases Tables.mem_update hr with ⟨hr, -⟩ | ⟨_, -, -, rfl⟩
    · exact ⟨r, hr, rfl, rfl⟩
    · exact ⟨_, hf.session, hsid.symm, hversion.symm⟩

/-! ## The platform -/

/-- The published version of the question is the one the session holds. -/
def Db.VersionCurrent (sessionId slug : Str) (db : Db F) : Prop :=
  ∀ question, publishedQuestionPayload slug db = .ok question →
    ∀ s ∈ db.sessions, s.id = sessionId → s.questionVersionId = question.questionVersionId

/-- Nothing is queued for and no hint is shown in a session whose question
has been published anew. -/
def NotRepublished (x : Taken (Db F) (DbAction F × Clock)) : Prop :=
  match x.label.1 with
  | .queueRun _ request _ slug _ _ => x.source.VersionCurrent request.sessionId slug
  | .queueSubmit _ request _ slug _ _ _ => x.source.VersionCurrent request.sessionId slug
  | .nextHint _ sessionId => ∀ s ∈ x.source.sessions, s.id = sessionId →
      ∀ slug, sessionSlug s x.source = .ok slug → x.source.VersionCurrent sessionId slug
  | _ => True

section

variable [Runtime F]

/-- Queueing pins the version that is published now. -/
theorem pinStep_queued {env : Environment} {principal : Principal} {q : QueueRequest}
    {executionId : Uuid} {clock : Clock} {slug : Str} {check : StateRead}
    {question : PublishedQuestion F} {runtime : SubmissionRuntime} {db db' : Db F}
    {f : PracticeSession F → PracticeSession F}
    (hcheck : sessionQuestion principal q.practiceSessionId slug check db = .ok (question, runtime))
    (hversion : q.questionVersionId = question.questionVersionId)
    (hq : Queued env principal q executionId clock db db')
    (hsubs : ∀ r ∈ db'.submissions, r ∈ db.submissions
      ∨ r.practiceSessionId = q.practiceSessionId ∧ r.questionVersionId = q.questionVersionId)
    (hf : KeepsIdentity f)
    (hsess : db'.sessions = Tables.update PracticeSession.id q.practiceSessionId f db.sessions) :
    PinStep db db' (some (q.practiceSessionId, question.questionVersionId)) := by
  obtain ⟨session, hsession, -⟩ := sessionQuestion_ok hcheck
  obtain ⟨hmem, hid, -⟩ := getSession_ok hsession
  obtain ⟨inputPayload, hexec⟩ := hq.executions
  obtain ⟨hids, hversions⟩ := versions_of_update db' hf hsess
  refine ⟨fun p hp => ?_, fun p hp => ?_, fun id h => hids ▸ h, hversions⟩
  · rw [Db.mem_pins, hexec, hq.catalogue.hints] at hp
    rw [Db.mem_pins]
    rcases hp with ⟨e, he, rfl⟩ | ⟨r, hr, rfl⟩ | hhint
    · rcases List.mem_append.mp he with he | he
      · exact .inl (.inl ⟨e, he, rfl⟩)
      · obtain rfl := List.mem_singleton.mp he
        exact .inr (congrArg some (Prod.ext rfl hversion.symm))
    · rcases hsubs r hr with hr | ⟨hs, hv⟩
      · exact .inl (.inr (.inl ⟨r, hr, rfl⟩))
      · exact .inr (congrArg some (Prod.ext hs.symm (hv.trans hversion).symm))
    · exact .inl (.inr (.inr hhint))
  · cases hp
    exact List.mem_map.mpr ⟨session, hmem, hid⟩

/-- Every step pins at most the version its look-up of the question finds,
which is the session's unless the question was published anew. -/
theorem DbStep.pinStep {env : Environment} {evaluator : Evaluator F} {db db' : Db F}
    {a : DbAction F × Clock} (h : DbStep env evaluator db a db') :
    ∃ new, PinStep db db' new ∧ (NotRepublished ⟨db, a, db'⟩ →
      ∀ p, new = some p → ∀ s ∈ db.sessions, s.id = p.1 → s.questionVersionId = p.2) := by
  have hsame : PinStep db db none :=
    ⟨fun _ => .inl, nofun, fun _ => id, fun s hs => .inr ⟨s, hs, rfl, rfl⟩⟩
  cases h with
  | createSession h =>
      refine ⟨none, ?_, nofun⟩
      rcases createSession_ok h with rfl | ⟨question, required, -, hnew, rfl⟩
      · exact hsame
      · refine ⟨fun _ => .inl, nofun, fun id hid => ?_, fun s hs => ?_⟩
        · rw [Db.sessionIds, List.map_append]
          exact List.mem_append_left _ hid
        · rcases List.mem_append.mp hs with hs | hs
          · exact .inr ⟨s, hs, rfl, rfl⟩
          · obtain rfl := List.mem_singleton.mp hs
            refine .inl fun hmem => ?_
            obtain ⟨r, hr, hid⟩ := List.mem_map.mp hmem
            obtain ⟨r', hr'⟩ := Tables.find_isSome_of_mem PracticeSession.id hr
            exact nomatch (hid ▸ hr').symm.trans hnew
  | publish h =>
      obtain ⟨hsess, hsub, hexec, -, hhints⟩ := publish_ok h
      refine ⟨none, ⟨fun p hp => .inl ?_, nofun, fun id hid => ?_, fun s hs => .inr ?_⟩, nofun⟩
      · rw [Db.mem_pins, hexec, hsub, hhints] at hp
        exact Db.mem_pins.mpr hp
      · rw [Db.sessionIds, hsess]
        exact hid
      · exact ⟨s, hsess ▸ hs, rfl, rfl⟩
  | route h =>
      obtain ⟨f, hf, -, rfl⟩ := transitionSession_ok h
      obtain ⟨hids, hversions⟩ := versions_of_update (db.updateSession _ f) hf rfl
      exact ⟨none, ⟨fun _ => .inl, nofun, fun id h => hids ▸ h, hversions⟩, nofun⟩
  | queueRun h =>
      obtain ⟨question, runtime, hcheck, ⟨e, -, -, rfl, -⟩ | ⟨hq, hsub, ⟨f, hf, -, hsess⟩, -⟩⟩ :=
        queueRun_ok h
      · exact ⟨none, hsame, nofun⟩
      · refine ⟨_, pinStep_queued hcheck rfl hq (fun r hr => .inl (hsub ▸ hr)) hf hsess,
          fun hc p hp s hs hid => ?_⟩
        obtain ⟨_, -, -, -, hpublished, -⟩ := sessionQuestion_ok hcheck
        cases hp
        exact hc question hpublished s hs hid
  | queueSubmit h =>
      obtain ⟨question, runtime, hcheck,
        ⟨e, -, -, rfl, -⟩ | ⟨hq, -, hsub, ⟨f, hf, -, hsess⟩, -⟩⟩ := queueSubmit_ok h
      · exact ⟨none, hsame, nofun⟩
      · refine ⟨_, pinStep_queued hcheck rfl hq (fun r hr => ?_) hf hsess,
          fun hc p hp s hs hid => ?_⟩
        · rw [hsub] at hr
          refine (List.mem_append.mp hr).imp_right fun hr => ?_
          obtain rfl := List.mem_singleton.mp hr
          exact ⟨rfl, rfl⟩
        · obtain ⟨_, -, -, -, hpublished, -⟩ := sessionQuestion_ok hcheck
          cases hp
          exact hc question hpublished s hs hid
  | @nextHint _ _ sessionId _ _ h =>
      obtain ⟨session, slug, question, f, hsession, hslug, hpublished, hf, -, rfl⟩ := nextHint_ok h
      obtain ⟨hmem, hid, -⟩ := getSession_ok hsession
      obtain ⟨hids, hversions⟩ := versions_of_update (db.updateSession _ f) hf rfl
      refine ⟨some (sessionId, question.questionVersionId), ⟨fun p hp => ?_, fun p hp => ?_,
        fun id h => hids ▸ h, hversions⟩, fun hc p hp s hs hsid => ?_⟩
      · rw [Db.mem_pins] at hp
        rw [Db.mem_pins]
        rcases hp with he | hr | ⟨hint, hhint, rfl⟩
        · exact .inl (.inl he)
        · exact .inl (.inr (.inl hr))
        · rcases List.mem_append.mp hhint with hhint | hhint
          · exact .inl (.inr (.inr ⟨hint, hhint, rfl⟩))
          · obtain rfl := List.mem_singleton.mp hhint
            exact .inr rfl
      · cases hp
        exact List.mem_map.mpr ⟨session, hmem, hid⟩
      · cases hp
        exact hc session hmem hid slug hslug question hpublished s hs hsid
  | execution hs h => exact ⟨none, Db.pinStep_store hs h, nofun⟩

/-- In every run in which no question of a session is published anew before
something is queued or a hint is shown in it, every execution, submission
and hint of a session is of the session's version. -/
theorem versions_pinned {env : Environment} {evaluator : Evaluator F} {db₀ db : Db F}
    {trace : List (Taken (Db F) (DbAction F × Clock))} (h₀ : db₀.Initial)
    (h : Run (DbStep env evaluator) db₀ trace db) (hc : ∀ x ∈ trace, NotRepublished x) :
    db.VersionsPinned := by
  have hpins : db₀.pins = [] := by
    rw [Db.pins, h₀.executions, h₀.submissions, h₀.hints]; rfl
  refine (h.invariant_of (I := fun d => d.Attached ∧ d.VersionsPinned) (fun x hx hc hstep => ?_)
    ⟨fun p hp => ?_, fun p hp => ?_⟩ hc).2
  · obtain ⟨new, hnew, hversion⟩ := DbStep.pinStep hstep
    exact ⟨hnew.attached' hx.1, hnew.pinned hx.1 hx.2 (hversion hc)⟩
  · rw [hpins] at hp; cases hp
  · rw [hpins] at hp; cases hp

end

/-! ## Two runs -/

/-- A revision of the question that waits for its publication. -/
def revisedVersion : QuestionVersion FloatConst where
  id := "version-2"
  id_scalar := by decide
  questionId := "question-1"
  state := .approved
  structuredContent := joinContent

def revisedDb : Db FloatConst := { publishedDb with versions := [joinVersion, revisedVersion] }

def samplePin : Uuid × Uuid := ("session-1", "version-1")

theorem startedDb_current : startedDb.VersionCurrent "session-1" "join-basics" := by
  intro question hq s hs _
  obtain rfl := Except.ok.inj hq
  obtain rfl := List.mem_singleton.mp hs
  rfl

/-- A candidate starts a session and runs a query. -/
theorem versions_pinned_run : ∃ trace db,
    Run (DbStep sampleEnvironment sampleEvaluator) publishedDb trace db
      ∧ db.pins = [samplePin] ∧ db.VersionsPinned := by
  have hqueue : ∃ db accepted, queueRun sampleEnvironment sampleCandidate sampleRequest "key-0001"
      "join-basics" ⟨"execution-1", "submission-1"⟩ id zeroClock startedDb = .ok (db, accepted)
      ∧ db.pins = [samplePin] := ⟨_, _, rfl, rfl⟩
  obtain ⟨db, accepted, hqueue, hpins⟩ := hqueue
  have hrun := startedDb_run.snoc
    (.queueRun hqueue : DbStep sampleEnvironment sampleEvaluator startedDb _ db)
  refine ⟨_, db, hrun, hpins, versions_pinned publishedDb_initial hrun fun x hx => ?_⟩
  rcases List.mem_append.mp hx with hx | hx
  · rw [List.mem_singleton.mp hx]
    trivial
  · rw [List.mem_singleton.mp hx]
    exact startedDb_current

/-- The revision is published while the session is open: the next run is one
of the revision. -/
theorem republished_not_pinned : ∃ trace db,
    Run (DbStep sampleEnvironment sampleEvaluator) revisedDb trace db
      ∧ trace.map Taken.label
        = [(.createSession sampleCandidate "join-basics" .postgresql "session-1", zeroClock),
          (.publish "version-2" true, zeroClock),
          (.queueRun sampleCandidate sampleRequest "key-0001" "join-basics"
            ⟨"execution-1", "submission-1"⟩ id, zeroClock)]
      ∧ ¬db.VersionsPinned := by
  refine Run.exists_cons _ (.createSession rfl) (Run.exists_cons _ (.publish rfl)
    (Run.exists_cons _ (.queueRun rfl) (Run.exists_nil ⟨rfl, fun h => ?_⟩)))
  exact absurd (h ("session-1", "version-2") (List.mem_singleton_self _) _
    (List.mem_singleton_self _) rfl) (by decide)

end Rigor
