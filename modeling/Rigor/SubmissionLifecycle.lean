import Rigor.Platform

/-!
# Submissions are resolved

A submission, its execution and its practice session are advanced by
different functions. As long as no candidate cancels the execution of a
submission, an execution of type `SUBMIT` ends only together with its
submission, and no session waits for a submission that is over
(`submissions_resolved`). `cancel` ends the execution alone
(`cancelled_submission_unresolved`).
-/

namespace Rigor

open Py Runs

variable {F : Type}

/-- Nobody has practised yet. -/
structure Db.Initial (db : Db F) : Prop where
  sessions : db.sessions = []
  submissions : db.submissions = []
  executions : db.executions = []
  packages : ∀ id, db.packages id = []
  hints : db.hints = []

def Execution.IsSubmit (e : Execution F) : Prop := e.row.executionType = .submit

/-- The candidate has an answer: a status, a result and an evaluation. -/
structure Submission.Resolved (s : Submission F) : Prop where
  notQueued : s.status ≠ .queued
  notRunning : s.status ≠ .running
  results : s.results ≠ []
  evaluations : s.evaluations ≠ []

/-- Some submission for the session is on its way. -/
def Db.Pending (db : Db F) (sessionId : Uuid) : Prop :=
  ∃ e ∈ db.executions, e.IsSubmit ∧ e.row.practiceSessionId = sessionId ∧ ¬e.state.IsTerminal

/-- Every submitted execution that is over has resolved its submission, and
its session does not wait for nothing. -/
def Db.SubmissionsResolved (db : Db F) : Prop :=
  ∀ e ∈ db.executions, e.IsSubmit → e.state.IsTerminal →
    (∃ s ∈ db.submissions, e.row.submissionId = some s.id ∧ s.Resolved)
      ∧ ∀ s ∈ db.sessions, s.id = e.row.practiceSessionId → s.state = .submitted → db.Pending s.id

/-- The packages in the workers' hands describe their executions. -/
structure Db.Handed (db : Db F) : Prop where
  describes : ∀ e ∈ db.executions, ∀ wp ∈ db.packages e.id, Describes wp.2 e.row.toRequestColumns
  unknown : ∀ id, id ∉ db.columns.map RequestColumns.id → db.packages id = []

structure Db.Tracked (db : Db F) : Prop where
  linked : db.Linked
  handed : db.Handed
  ended : ∀ e ∈ db.executions, e.IsSubmit → e.state.IsTerminal →
    ∀ s ∈ db.submissions, e.row.submissionId = some s.id → s.Resolved
  pending : ∀ e ∈ db.executions, e.IsSubmit → ¬e.state.IsTerminal →
    ∀ s ∈ db.submissions, e.row.submissionId = some s.id → s.results = []
  submitted : ∀ s ∈ db.sessions, s.state = .submitted → db.Pending s.id

theorem Db.Tracked.resolved {db : Db F} (h : db.Tracked) : db.SubmissionsResolved := by
  intro e he hsubmit hterm
  refine ⟨?_, fun s hs _ => h.submitted s hs⟩
  obtain ⟨id, hid⟩ := h.linked.submits _ (Db.mem_columns he) hsubmit
  obtain ⟨s, hs, hsid⟩ := List.mem_map.mp (h.linked.submission _ (Db.mem_columns he) id hid)
  have hown : e.row.submissionId = some s.id := hsid ▸ hid
  exact ⟨s, hs, hown, h.ended e he hsubmit hterm s hs hown⟩

theorem Db.Initial.tracked {db : Db F} (h : db.Initial) : db.Tracked := by
  have hcols : db.columns = [] := by rw [Db.columns, h.executions]; rfl
  have hsubs : db.submissionIds = [] := by rw [Db.submissionIds, h.submissions]; rfl
  refine ⟨⟨?_, ?_, ?_, ?_, ?_, ?_⟩, ⟨?_, fun id _ => h.packages id⟩, ?_, ?_, ?_⟩
  · rw [hcols]; exact List.nodup_nil
  · rw [hcols]; exact List.nodup_nil
  · rw [hsubs]; exact List.nodup_nil
  · rw [hcols]; exact List.forall_mem_nil _
  · rw [hcols]; exact List.forall_mem_nil _
  · rw [hcols]; exact List.forall_mem_nil _
  · rw [h.executions]; exact List.forall_mem_nil _
  · rw [h.executions]; exact List.forall_mem_nil _
  · rw [h.executions]; exact List.forall_mem_nil _
  · rw [h.sessions]; exact List.forall_mem_nil _

/-! ## Steps that leave executions alone -/

theorem Db.Tracked.of_sessions {db db' : Db F} (h : db.Tracked)
    (hexec : db'.executions = db.executions) (hsub : db'.submissions = db.submissions)
    (hpack : db'.packages = db.packages)
    (hsess : ∀ s ∈ db'.sessions, s.state = .submitted →
      ∃ s₀ ∈ db.sessions, s₀.id = s.id ∧ s₀.state = .submitted) : db'.Tracked := by
  have hcols : db'.columns = db.columns := by rw [Db.columns, hexec]; rfl
  have hids : db'.submissionIds = db.submissionIds := by rw [Db.submissionIds, hsub]; rfl
  refine ⟨(ColumnsStep.same hcols hids).linked h.linked, ⟨?_, ?_⟩, ?_, ?_, ?_⟩
  · rw [hexec, hpack]; exact h.handed.describes
  · rw [hcols, hpack]; exact h.handed.unknown
  · rw [hexec, hsub]; exact h.ended
  · rw [hexec, hsub]; exact h.pending
  · intro s hs hstate
    obtain ⟨s₀, hs₀, hid, hstate₀⟩ := hsess s hs hstate
    rw [Db.Pending, hexec, ← hid]
    exact h.submitted s₀ hs₀ hstate₀

/-- The sessions after an update that never makes one `SUBMITTED`. -/
theorem submitted_of_update {id : Uuid} {f : PracticeSession F → PracticeSession F} {db : Db F}
    (hident : KeepsIdentity f) (hstate : ∀ s, (f s).state = .submitted → s.state = .submitted) :
    ∀ s ∈ Tables.update PracticeSession.id id f db.sessions, s.state = .submitted →
      ∃ s₀ ∈ db.sessions, s₀.id = s.id ∧ s₀.state = .submitted := by
  intro s hs hsub
  rcases Tables.mem_update hs with ⟨hs, -⟩ | ⟨s₀, hs₀, -, rfl⟩
  · exact ⟨s, hs, rfl, hsub⟩
  · exact ⟨s₀, hs₀, (hident.id s₀).symm, hstate s₀ hsub⟩

theorem SessionRoute.target_ne (r : SessionRoute) : r.target ≠ .submitted := by
  cases r <;> decide

/-! ## Queueing -/

/-- A queued execution, with a submission of its own if it is submitted. -/
theorem Db.Tracked.of_queued {db db' : Db F} (h : db.Tracked) (hstep : ColumnsStep db db')
    {e : Execution F} (hexec : db'.executions = db.executions ++ [e])
    (hpack : db'.packages = db.packages) (hqueued : e.state = .queued)
    (hnew : e.id ∉ db.columns.map RequestColumns.id)
    (hsubs : ∀ s ∈ db'.submissions, s ∈ db.submissions ∨ s.results = [] ∧ s.id ∉ db.submissionIds)
    (howner : e.IsSubmit → ∀ s ∈ db.submissions, e.row.submissionId ≠ some s.id)
    (hsess : ∀ s ∈ db'.sessions, s.state = .submitted →
      e.IsSubmit ∧ e.row.practiceSessionId = s.id
        ∨ ∃ s₀ ∈ db.sessions, s₀.id = s.id ∧ s₀.state = .submitted) : db'.Tracked := by
  have hcols : db'.columns = db.columns ++ [e.row.toRequestColumns] := by
    rw [Db.columns, hexec, List.map_append]; rfl
  have hold : ∀ e' ∈ db'.executions, e' ∈ db.executions ∨ e' = e := by
    rw [hexec]
    exact fun e' he' => (List.mem_append.mp he').imp id List.mem_singleton.mp
  have hterm : ¬e.state.IsTerminal := by rw [hqueued]; exact queued_not_terminal
  refine ⟨hstep.linked h.linked, ⟨?_, ?_⟩, ?_, ?_, ?_⟩
  · intro e' he' wp hwp
    rw [hpack] at hwp
    rcases hold e' he' with he' | rfl
    · exact h.handed.describes e' he' wp hwp
    · rw [h.handed.unknown _ hnew] at hwp; cases hwp
  · intro id hid
    rw [hcols, List.map_append, List.mem_append, not_or] at hid
    rw [hpack]
    exact h.handed.unknown id hid.1
  · intro e' he' hsubmit hended s hs hown
    rcases hold e' he' with he' | rfl
    · rcases hsubs s hs with hs | ⟨-, hfresh⟩
      · exact h.ended e' he' hsubmit hended s hs hown
      · exact absurd (h.linked.submission _ (Db.mem_columns he') _ hown) hfresh
    · exact absurd hended hterm
  · intro e' he' hsubmit hopen s hs hown
    rcases hsubs s hs with hs | ⟨hnone, -⟩
    · rcases hold e' he' with he' | rfl
      · exact h.pending e' he' hsubmit hopen s hs hown
      · exact absurd hown (howner hsubmit s hs)
    · exact hnone
  · intro s hs hstate
    rcases hsess s hs hstate with ⟨hsubmit, hid⟩ | ⟨s₀, hs₀, hid, hstate₀⟩
    · exact ⟨e, by rw [hexec]; exact List.mem_append_right _ (List.mem_singleton_self e), hsubmit,
        hid, hterm⟩
    · obtain ⟨e', he', hrest⟩ := h.submitted s₀ hs₀ hstate₀
      exact ⟨e', by rw [hexec]; exact List.mem_append_left _ he', hid ▸ hrest⟩

/-! ## Steps on an execution -/

/-- A step on one execution, with what the tables have to do with it. -/
structure Db.Focus (db : Db F) (id : Uuid) (s t : System F) : Prop where
  execution : s.attempt.execution ∈ db.executions
  executionId : s.attempt.execution.id = id
  session : s.attempt.session ∈ db.sessions
  sessionId : s.attempt.session.id = s.attempt.execution.row.practiceSessionId
  submission : ∀ sub, s.attempt.submission = some sub →
    sub ∈ db.submissions ∧ s.attempt.execution.row.submissionId = some sub.id
  packages : s.packages = db.packages id
  columns : t.attempt.execution.row.toRequestColumns = s.attempt.execution.row.toRequestColumns

theorem Db.focus_of_system {db : Db F} {id : Uuid} {s t : System F} {evaluator : Evaluator F}
    {a : Action F × Clock} (hs : db.system id = some s) (h : Step evaluator s a t) :
    db.Focus id s t := by
  obtain ⟨hexec, hsess, hsub, hpack⟩ := Db.system_some hs
  refine ⟨Tables.mem_of_find hexec, Tables.key_of_find hexec, Tables.mem_of_find hsess,
    Tables.key_of_find hsess, fun sub hsome => ?_, hpack, h.columns⟩
  obtain ⟨sid, hsid, hfind⟩ := Option.bind_eq_some_iff.mp (hsub.symm.trans hsome)
  exact ⟨Tables.mem_of_find hfind, hsid.trans (congrArg some (Tables.key_of_find hfind).symm)⟩

namespace Db.Focus

variable {db : Db F} {id : Uuid} {s t : System F}

theorem mem_store {e : Execution F} (he : e ∈ (db.store id t).executions) :
    (e ∈ db.executions ∧ e.id ≠ id) ∨ e = t.attempt.execution := by
  rcases Tables.mem_update he with he | ⟨_, -, -, rfl⟩
  · exact .inl he
  · exact .inr rfl

theorem new_mem_store (hf : db.Focus id s t) :
    t.attempt.execution ∈ (db.store id t).executions :=
  Tables.mem_update_of_eq (f := fun _ => t.attempt.execution) hf.execution hf.executionId

theorem other_mem_store {e : Execution F} (he : e ∈ db.executions)
    (hid : e.id ≠ id) : e ∈ (db.store id t).executions := Tables.mem_update_of_ne he hid

/-- Another execution has another submission. -/
theorem other_owner (hf : db.Focus id s t) (hl : db.Linked) {e : Execution F}
    (he : e ∈ db.executions) (hid : e.id ≠ id) {sid : Uuid}
    (hown : s.attempt.execution.row.submissionId = some sid) : e.row.submissionId ≠ some sid := by
  intro h
  have heq := hl.owners _ (mem_columns he) _ (mem_columns hf.execution) sid h hown
  exact hid ((congrArg RequestColumns.id heq).trans hf.executionId)

theorem handed (hf : db.Focus id s t) (hh : db.Handed)
    (hcols : (db.store id t).columns = db.columns)
    (hdesc : ∀ wp ∈ t.packages, Describes wp.2 t.attempt.execution.row.toRequestColumns) :
    (db.store id t).Handed where
  describes e he wp hwp := by
    rcases mem_store he with ⟨he, hid⟩ | rfl
    · rw [store_packages_of_ne hid] at hwp
      exact hh.describes e he wp hwp
    · have hid : t.attempt.execution.id = id :=
        (congrArg RequestColumns.id hf.columns).trans hf.executionId
      rw [hid, store_packages_self] at hwp
      exact hdesc wp hwp
  unknown id' hid' := by
    rw [hcols] at hid'
    have hne : id' ≠ id := by
      rintro rfl
      refine hid' (List.mem_map.mpr ⟨_, mem_columns hf.execution, hf.executionId⟩)
    rw [store_packages_of_ne hne]
    exact hh.unknown id' hid'

/-- Where the submission and the session stay, the tables only have the
execution moved: it must not end. -/
theorem tracked_of_moved (hf : db.Focus id s t) (h : db.Tracked)
    (hlinked : (db.store id t).Linked) (hhanded : (db.store id t).Handed)
    (hsub : t.attempt.submission = s.attempt.submission)
    (hsess : t.attempt.session = s.attempt.session)
    (hends : s.attempt.execution.IsSubmit → t.attempt.execution.state.IsTerminal →
      s.attempt.execution.state.IsTerminal)
    (hstays : s.attempt.execution.IsSubmit → s.attempt.execution.state.IsTerminal →
      t.attempt.execution.state.IsTerminal) : (db.store id t).Tracked := by
  have htype : t.attempt.execution.IsSubmit → s.attempt.execution.IsSubmit := fun hsubmit => by
    rw [Execution.IsSubmit, ← hf.columns]; exact hsubmit
  have hown : t.attempt.execution.row.submissionId = s.attempt.execution.row.submissionId := by
    rw [hf.columns]
  have hsubs : ∀ sub ∈ (db.store id t).submissions, sub ∈ db.submissions := by
    intro sub hmem
    rcases mem_store_submissions hmem with ⟨hmem, -⟩ | hsome
    · exact hmem
    · exact (hf.submission sub (hsub ▸ hsome)).1
  have hsessions : ∀ p ∈ (db.store id t).sessions, p ∈ db.sessions := by
    intro p hmem
    rw [store, hsess] at hmem
    rcases Tables.mem_update hmem with ⟨hmem, -⟩ | ⟨_, -, -, rfl⟩
    · exact hmem
    · exact hf.session
  refine ⟨hlinked, hhanded, ?_, ?_, ?_⟩
  · intro e he hsubmit hterm sub hmem hsid
    rcases mem_store he with ⟨he, -⟩ | rfl
    · exact h.ended e he hsubmit hterm sub (hsubs sub hmem) hsid
    · exact h.ended _ hf.execution (htype hsubmit) (hends (htype hsubmit) hterm) sub
        (hsubs sub hmem) (hown ▸ hsid)
  · intro e he hsubmit hopen sub hmem hsid
    rcases mem_store he with ⟨he, -⟩ | rfl
    · exact h.pending e he hsubmit hopen sub (hsubs sub hmem) hsid
    · exact h.pending _ hf.execution (htype hsubmit)
        (fun hterm => hopen (hstays (htype hsubmit) hterm)) sub (hsubs sub hmem) (hown ▸ hsid)
  · intro p hmem hstate
    obtain ⟨e, he, hsubmit, hpid, hopen⟩ := h.submitted p (hsessions p hmem) hstate
    by_cases hid : e.id = id
    · obtain rfl := h.linked.execution_eq he hf.execution (hid.trans hf.executionId.symm)
      refine ⟨_, hf.new_mem_store, ?_, ?_, fun hterm => hopen (hends hsubmit hterm)⟩
      · rw [Execution.IsSubmit, hf.columns]; exact hsubmit
      · rw [hf.columns]; exact hpid
    · exact ⟨e, other_mem_store he hid, hsubmit, hpid, hopen⟩

/-- Where a result is persisted for a submission, the submission is resolved
and the session does not wait any more. -/
theorem tracked_of_finalized (hf : db.Focus id s t) (h : db.Tracked)
    (hlinked : (db.store id t).Linked) (hhanded : (db.store id t).Handed) {sub sub' : Submission F}
    (hsub : s.attempt.submission = some sub) (hsub' : t.attempt.submission = some sub')
    (hid : sub'.id = sub.id) (hresolved : sub'.Resolved)
    (hsession : t.attempt.session.id = s.attempt.session.id)
    (hover : t.attempt.session.state ≠ .submitted)
    (hterm : t.attempt.execution.state.IsTerminal) : (db.store id t).Tracked := by
  obtain ⟨-, hown⟩ := hf.submission sub hsub
  have hown' : t.attempt.execution.row.submissionId = some sub'.id := by
    rw [hf.columns, hown, hid]
  -- the other executions own other submissions, which stay
  have hother : ∀ e ∈ db.executions, e.id ≠ id → ∀ r ∈ (db.store id t).submissions,
      e.row.submissionId = some r.id → r ∈ db.submissions := by
    intro e he hne r hr hsid
    rcases mem_store_submissions hr with ⟨hr, -⟩ | hsome
    · exact hr
    · obtain rfl := Option.some.inj (hsub'.symm.trans hsome)
      exact absurd hsid (hf.other_owner h.linked he hne (hid ▸ hown))
  refine ⟨hlinked, hhanded, ?_, ?_, ?_⟩
  · intro e he hsubmit hended r hr hsid
    rcases mem_store he with ⟨he, hne⟩ | rfl
    · exact h.ended e he hsubmit hended r (hother e he hne r hr hsid) hsid
    · rcases mem_store_submissions hr with ⟨-, hne⟩ | hsome
      · exact absurd (Option.some.inj (hsid.symm.trans hown')) (hne sub' hsub')
      · exact Option.some.inj (hsub'.symm.trans hsome) ▸ hresolved
  · intro e he hsubmit hopen r hr hsid
    rcases mem_store he with ⟨he, hne⟩ | rfl
    · exact h.pending e he hsubmit hopen r (hother e he hne r hr hsid) hsid
    · exact absurd hterm hopen
  · intro p hp hstate
    rcases Tables.mem_update hp with ⟨hp, hne⟩ | ⟨_, -, -, rfl⟩
    · obtain ⟨e, he, hsubmit, hpid, hopen⟩ := h.submitted p hp hstate
      refine ⟨e, other_mem_store he fun heid => hne ?_, hsubmit, hpid, hopen⟩
      have heq := h.linked.execution_eq he hf.execution (heid.trans hf.executionId.symm)
      rw [hsession, hf.sessionId, ← heq, hpid]
    · exact absurd hstate hover

end Db.Focus

theorem completeSession_over {evaluator : Evaluator F} {package : DispatchPackage F}
    {submissionId : Uuid} {p : TrustedExecutionProjection F} {clock : Clock}
    (s : PracticeSession F) :
    (completeSession evaluator package submissionId p clock s).id = s.id
      ∧ (completeSession evaluator package submissionId p clock s).state ≠ .submitted := by
  rw [completeSession]
  split_ifs with h
  · exact ⟨rfl, nofun⟩
  · exact ⟨rfl, fun hs => h (.inl hs)⟩

/-- A step on an execution keeps the tables tracked, unless it cancels the
execution of a submission. -/
theorem Db.Tracked.of_execution {db : Db F} (h : db.Tracked) {evaluator : Evaluator F}
    {id : Uuid} {s t : System F} {a : Action F × Clock} (hs : db.system id = some s)
    (hstep : Step evaluator s a t)
    (hcancel : ∀ traceId, a.1 = .cancel traceId → ¬s.attempt.execution.IsSubmit) :
    (db.store id t).Tracked := by
  have hf := Db.focus_of_system hs hstep
  have hcols := h.linked.store_columns hs hf.columns
  have hlinked := (ColumnsStep.same hcols (Db.store_submissionIds id t db)).linked h.linked
  have hdesc : ∀ wp ∈ s.packages, Describes wp.2 s.attempt.execution.row.toRequestColumns := by
    rw [hf.packages, ← hf.executionId]
    exact h.handed.describes _ hf.execution
  have hhanded := hf.handed h.handed hcols (hstep.describes hdesc)
  rcases hstep.moved_or_persisted with ⟨hmoved, hsub, hsess, hadvanced⟩
    | ⟨package, workerId, compare, p, -, hheld, -, -, hactive, hpersist, hfinal⟩
  · refine hf.tracked_of_moved h hlinked hhanded hsub hsess (fun hsubmit hterm => ?_)
      fun _ hterm => by rw [hmoved.terminal hterm]; exact hterm
    rcases hadvanced with hadvanced | ⟨traceId, hlabel⟩
    · exact hadvanced.ends hterm ▸ hterm
    · exact absurd hsubmit (hcancel traceId hlabel)
  · have hd := hdesc _ hheld
    have hstate := (persistTerminalResult_ok hactive hpersist).2.1
    have hterm : t.attempt.execution.state.IsTerminal := hstate ▸ p.status_terminal
    rcases finalizeSubmission_ok hfinal with ⟨hsub, hsess, hwhy⟩
      | ⟨sid, sub, sub', -, -, hsub, -, hresolve, hsub', hsess⟩
    · -- nothing was finalized: the execution is not of type SUBMIT
      have hrun : ¬s.attempt.execution.IsSubmit := by
        intro hsubmit
        rcases hwhy with hnone | htype | ⟨sub, hsome, hresults⟩
        · obtain ⟨sid, hsid⟩ := h.linked.submits _ (Db.mem_columns hf.execution) hsubmit
          exact nomatch (hnone.symm.trans hd.submissionId).trans hsid
        · exact htype (hd.executionType.trans hsubmit)
        · obtain ⟨hmem, hown⟩ := hf.submission sub hsome
          exact hresults (h.pending _ hf.execution hsubmit hactive.not_terminal sub hmem hown)
      exact hf.tracked_of_moved h hlinked hhanded hsub hsess (fun hsubmit => absurd hsubmit hrun)
        fun hsubmit => absurd hsubmit hrun
    · obtain ⟨hq, hr, hlen, heval, hid, -, -⟩ := resolveSubmission_ok hresolve
      have hresults : sub'.results ≠ [] := fun hnil => by
        rw [hnil, List.length_nil] at hlen
        omega
      refine hf.tracked_of_finalized h hlinked hhanded hsub hsub' hid ⟨hq, hr, hresults, heval⟩
        ?_ ?_ hterm
      · rw [hsess]; exact (completeSession_over _).1
      · rw [hsess]; exact (completeSession_over _).2

/-! ## The platform -/

theorem Db.Tracked.notify {db : Db F} (h : db.Tracked) (id : Uuid) (action : Action F)
    (clock : Clock) : (db.notify id action clock).Tracked :=
  h.of_sessions (notify_executions ..) (notify_submissions ..) (notify_packages ..)
    fun s hs hstate => ⟨s, notify_sessions id action clock db ▸ hs, rfl, hstate⟩

/-- No candidate cancels the execution of a submission. -/
def NoSubmitCancelled (x : Taken (Db F) (DbAction F × Clock)) : Prop :=
  ∀ id traceId e, x.label.1 = .execution id (.cancel traceId) → x.source.execution id = some e →
    ¬e.IsSubmit

section

variable [Runtime F]

theorem Db.Tracked.of_queueRun {env : Environment} (evaluator : Evaluator F)
    {principal : Principal} {request : PracticeRunRequest} {idempotencyKey slug : Str}
    {ids : NewIds} {check : StateRead} {clock : Clock} {db db' : Db F}
    {accepted : ExecutionAccepted} (h : db.Tracked)
    (hrun : queueRun env principal request idempotencyKey slug ids check clock db
      = .ok (db', accepted)) : db'.Tracked := by
  have hcols := (.queueRun hrun : DbStep env evaluator db _ db').columns h.linked
  obtain ⟨question, runtime, -, ⟨_, -, -, rfl, -⟩ | ⟨hq, hsub, ⟨f, hident, hstate, hsess⟩, -⟩⟩ :=
    queueRun_ok hrun
  · exact h
  · obtain ⟨inputPayload, hexec⟩ := hq.executions
    refine h.of_queued hcols hexec hq.catalogue.packages rfl (not_mem_executionIds hq.newId)
      (fun s hs => .inl (hsub ▸ hs)) nofun fun s hs hsubmitted => .inr ?_
    rw [hsess] at hs
    exact submitted_of_update hident (fun s h => (hstate s).1 ▸ h) s hs hsubmitted

theorem Db.Tracked.of_queueSubmit {env : Environment} (evaluator : Evaluator F)
    {principal : Principal} {request : PracticeRunRequest} {idempotencyKey slug : Str}
    {ids : NewIds} {check reread : StateRead} {clock : Clock} {db db' : Db F}
    {accepted : ExecutionAccepted} (h : db.Tracked)
    (hsubmit : queueSubmit env principal request idempotencyKey slug ids check reread clock db
      = .ok (db', accepted)) : db'.Tracked := by
  have hcols := (.queueSubmit hsubmit : DbStep env evaluator db _ db').columns h.linked
  obtain ⟨question, runtime, -,
    ⟨_, -, -, rfl, -⟩ | ⟨hq, hnew, hsub, ⟨f, hident, hstate, hsess⟩, -⟩⟩ := queueSubmit_ok hsubmit
  · exact h
  · obtain ⟨inputPayload, hexec⟩ := hq.executions
    refine h.of_queued hcols hexec hq.catalogue.packages rfl (not_mem_executionIds hq.newId)
      (fun s hs => ?_) (fun _ s hs howner => ?_) fun s hs hsubmitted => ?_
    · rw [hsub] at hs
      rcases List.mem_append.mp hs with hs | hs
      · exact .inl hs
      · obtain rfl := List.mem_singleton.mp hs
        exact .inr ⟨rfl, not_mem_submissionIds hnew⟩
    · have hid : ids.submissionId = s.id := Option.some.inj howner
      exact not_mem_submissionIds hnew (List.mem_map.mpr ⟨s, hs, hid.symm⟩)
    · -- the session that is now `SUBMITTED` is the one of the new execution
      rw [hsess] at hs
      rcases Tables.mem_update hs with ⟨hs, -⟩ | ⟨s₀, -, hid, rfl⟩
      · exact .inr ⟨s, hs, rfl, hsubmitted⟩
      · exact .inl ⟨rfl, ((hident.id s₀).trans hid).symm⟩

theorem DbStep.tracked {env : Environment} {evaluator : Evaluator F} {db db' : Db F}
    {a : DbAction F × Clock} (h : DbStep env evaluator db a db') (ht : db.Tracked)
    (hc : NoSubmitCancelled ⟨db, a, db'⟩) : db'.Tracked := by
  cases h with
  | createSession h =>
      rcases createSession_ok h with rfl | ⟨question, required, -, -, rfl⟩
      · exact ht
      · refine ht.of_sessions rfl rfl rfl fun s hs hstate => ?_
        rcases List.mem_append.mp hs with hs | hs
        · exact ⟨s, hs, rfl, hstate⟩
        · obtain rfl := List.mem_singleton.mp hs
          cases hstate
  | publish h =>
      obtain ⟨hsess, hsub, hexec, hpack, -⟩ := publish_ok h
      exact ht.of_sessions hexec hsub hpack fun s hs hstate => ⟨s, hsess ▸ hs, rfl, hstate⟩
  | route h =>
      obtain ⟨f, hident, hstate, rfl⟩ := transitionSession_ok h
      exact ht.of_sessions rfl rfl rfl
        (submitted_of_update hident fun s hs =>
          absurd ((hstate s).1.symm.trans hs) (SessionRoute.target_ne _))
  | queueRun h => exact ht.of_queueRun evaluator h
  | queueSubmit h => exact ht.of_queueSubmit evaluator h
  | nextHint h =>
      obtain ⟨_, _, _, f, -, -, -, hident, hstate, rfl⟩ := nextHint_ok h
      exact ht.of_sessions rfl rfl rfl
        (submitted_of_update hident fun s hs => (hstate s).1.symm.trans hs)
  | execution hs h =>
      refine (ht.of_execution hs h fun traceId hlabel => ?_).notify ..
      cases hlabel
      exact hc _ traceId _ rfl (Db.system_some hs).1

/-- In every run in which no execution of a submission is cancelled, every
submitted execution that is over has resolved its submission, and no
session waits for one that is over. -/
theorem submissions_resolved {env : Environment} {evaluator : Evaluator F} {db₀ db : Db F}
    {trace : List (Taken (Db F) (DbAction F × Clock))} (h₀ : db₀.Initial)
    (h : Run (DbStep env evaluator) db₀ trace db) (hc : ∀ x ∈ trace, NoSubmitCancelled x) :
    db.SubmissionsResolved :=
  (h.invariant_of (fun _ ht hx hstep => DbStep.tracked hstep ht hx) h₀.tracked hc).resolved

end

/-! ## Two runs -/

def joinQuestion : Question where
  id := "question-1"
  slug := "join-basics"
  archivedAt := none
  currentPublishedVersionId := some "version-1"

/-- An SQL question with one public test and one hint. -/
def joinContent : Json FloatConst :=
  .obj [("question_type", .str "sql_coding"),
    ("mode_specification", .obj [("schema_sql", .str "CREATE TABLE t (x int);"),
      ("tests", .arr [.obj [("visibility", .str "public"), ("expected", .arr [])]])]),
    ("hints", .arr [.obj [("text", .str "Use JOIN.")]])]

def joinVersion : QuestionVersion FloatConst where
  id := "version-1"
  id_scalar := isScalar_ofString "version-1"
  questionId := "question-1"
  state := .published
  structuredContent := joinContent

/-- The catalogue with one published question, before anyone practised. -/
def publishedDb : Db FloatConst where
  questions := [joinQuestion]
  versions := [joinVersion]
  sessions := []
  submissions := []
  executions := []
  outbox := []
  packages _ := []
  hints := []

theorem publishedDb_initial : publishedDb.Initial := ⟨rfl, rfl, rfl, fun _ => rfl, rfl⟩

/-- SHA-256 of the canonical texts of the requests below. -/
def sampleDigests : List (Str × Str) :=
  [(canonicalRequest .run "session-1" "version-1" "postgresql18" "SELECT 1",
      "20a41e8579076a4d48760e436345de98f2b489efe89cdbe41f37d9bed8d09152"),
    (canonicalRequest .submit "session-1" "version-1" "postgresql18" "SELECT 1",
      "02e40fffbe44e5330754c909bbb38c2fcd5c5b6c26a5e7ae6a860742c888ed1a"),
    (canonicalRequest .submit "session-1" "version-1" "postgresql18" "SELECT 2",
      "30b761972023f143f3cb8dee0a0c3658c175ab14dd7179452d0cdef50ee37000")]

def sampleEnvironment : Environment where
  sha256 text := ((sampleDigests.find? fun d => decide (d.1 = text)).map Prod.snd).getD []
  functionNames _ := none

def sampleEvaluator : Evaluator FloatConst where
  sourceQualitySignals _ := []
  scores _ _ := (.nan, .nan, .nan, .nan, .nan, .nan)

def sampleCandidate : Principal where
  userId := "candidate-1"
  organizationId := none
  correlationId := "trace-1"

def sampleRequest : PracticeRunRequest where
  sessionId := "session-1"
  sourceCode := "SELECT 1"
  source_length := by decide
  session_scalar := isScalar_ofString "session-1"
  source_scalar := isScalar_ofString "SELECT 1"

def sampleProjection : TrustedExecutionProjection FloatConst where
  executionStatus := .completed
  status_ok := TrustedExecutionProjection.completed_ok
  runtimeMs := 5
  exitCode := 0
  errorCategory := none
  publicResults := []
  hiddenTotal := 0
  hiddenPassed := 0
  stdout := []
  stderr := []
  candidateMessage := "Execution completed."

/-- A candidate starts a session and submits. -/
def sampleSubmit : List (DbAction FloatConst × Clock) :=
  [(.createSession sampleCandidate "join-basics" .postgresql "session-1", zeroClock),
    (.queueSubmit sampleCandidate sampleRequest "key-0001" "join-basics"
      ⟨"execution-1", "submission-1"⟩ id id, zeroClock)]

/-- A worker runs the execution to its end. -/
theorem submissions_resolved_completed : ∃ trace db,
    Run (DbStep sampleEnvironment sampleEvaluator) publishedDb trace db
      ∧ (∃ e ∈ db.executions, e.IsSubmit ∧ e.state = .completed) ∧ db.SubmissionsResolved := by
  have hrun : ∃ trace db, Run (DbStep sampleEnvironment sampleEvaluator) publishedDb trace db
      ∧ (∃ e ∈ db.executions, e.IsSubmit ∧ e.state = .completed)
      ∧ ∀ x ∈ trace, ∀ id traceId, x.label.1 ≠ .execution id (.cancel traceId) := by
    refine Run.exists_cons (.createSession sampleCandidate "join-basics" .postgresql "session-1",
      zeroClock) (.createSession rfl) ?_
    refine Run.exists_cons (.queueSubmit sampleCandidate sampleRequest "key-0001" "join-basics"
      ⟨"execution-1", "submission-1"⟩ id id, zeroClock) (.queueSubmit rfl) ?_
    refine Run.exists_cons (.execution "execution-1" (.claimForDispatch "worker-1" 60), zeroClock)
      (.execution rfl (.claimForDispatch rfl)) ?_
    refine Run.exists_cons (.execution "execution-1"
      (.markRunning "worker-1" "sandboxes" "execution-execution-1"), zeroClock)
      (.execution rfl .markRunning) ?_
    refine Run.exists_cons (.execution "execution-1"
      (.persistObservation _ "worker-1" (.ok sampleProjection)), zeroClock)
      (.execution rfl (.persistObservation (List.mem_cons_self ..) rfl)) ?_
    exact Run.exists_nil ⟨⟨_, List.mem_singleton_self _, rfl, rfl⟩, by simp⟩
  obtain ⟨trace, db, hrun, hended, hnone⟩ := hrun
  exact ⟨trace, db, hrun, hended, submissions_resolved publishedDb_initial hrun
    fun x hx id traceId _ hlabel _ => absurd hlabel (hnone x hx id traceId)⟩

/-- The candidate cancels instead: the execution is over, the submission is
still queued. -/
theorem cancelled_submission_unresolved : ∃ trace db,
    Run (DbStep sampleEnvironment sampleEvaluator) publishedDb trace db
      ∧ trace.map Taken.label
        = sampleSubmit ++ [(.execution "execution-1" (.cancel "trace-1"), zeroClock)]
      ∧ ¬db.SubmissionsResolved := by
  refine ⟨_, _, .cons (.createSession rfl) (.cons (.queueSubmit rfl)
    (.cons (.execution rfl (.cancel rfl)) (.nil _))), rfl, fun h => ?_⟩
  obtain ⟨⟨s, hs, -, hresolved⟩, -⟩ := h _ (List.mem_singleton_self _) rfl (by decide)
  obtain rfl := List.mem_singleton.mp hs
  exact hresolved.notQueued rfl

end Rigor
