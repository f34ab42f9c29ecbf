import Rigor.SubmissionLifecycle

/-!
# Solutions

`reveal_question_solution` asks for a completed attempt where the content
calls itself `runnable`; whether a question is executable is decided by its
type, dialect and runtime. A content that is executable and does not carry
the flag gives its solution away (`solution_reveal`).
-/

namespace Rigor

open Py Runs

variable {F : Type}

/-! ## The endpoint -/

/-- A row of `solutions`. -/
structure Solution (F : Type) where
  referenceSolution : Str
  explanation : Str
  tradeOffAnalysis : Json F

/-- The answer of the endpoint, without the title. -/
structure RevealedSolution (F : Type) where
  questionSlug : Str
  solution : Solution F
  timeComplexity : Json F
  spaceComplexity : Json F
  commonMistakes : Json F
  expectedApproach : Json F
  bestPractices : Json F

/-- A row of the submission is completed. -/
def SubmissionCompleted (id : Uuid) (db : Db F) : Prop :=
  ∃ s ∈ db.submissions, s.id = id ∧ s.completedAt.isSome = true

def SessionCompleted (id : Uuid) (db : Db F) : Prop :=
  ∃ s ∈ db.sessions, s.id = id ∧ s.completedAt.isSome = true

/-- The two `EXISTS` of the endpoint. -/
def HasCompleted (candidateId questionVersionId : Uuid) (db : Db F) : Prop :=
  (∃ s ∈ db.submissions, s.candidateId = candidateId ∧ s.questionVersionId = questionVersionId
    ∧ s.completedAt.isSome = true)
  ∨ ∃ s ∈ db.sessions, s.candidateId = candidateId ∧ s.questionVersionId = questionVersionId
    ∧ s.completedAt.isSome = true

instance (candidateId questionVersionId : Uuid) (db : Db F) :
    Decidable (HasCompleted candidateId questionVersionId db) :=
  inferInstanceAs (Decidable (_ ∨ _))

section

variable [Runtime F]

/-- `bool(structured.get("runnable"))`. -/
def isRunnable (structured : Json F) : Bool :=
  (Json.get "runnable" ((asDict structured).getD [])).truthy

def revealQuestionSolution (solutions : Uuid → Option (Solution F)) (principal : Principal)
    (slug : Str) (db : Db F) : Except Failure (RevealedSolution F) :=
  match publishedQuestionPayload slug db with
  | .error _ => .error (.http 404 "Published solution not found")
  | .ok row =>
      match solutions row.questionVersionId with
      | none => .error (.http 404 "Published solution not found")
      | some solution =>
          if isRunnable row.structuredContent = true
              ∧ ¬HasCompleted principal.userId row.questionVersionId db then
            .error (.http 409 "Complete an attempt before revealing the reference solution.")
          else
            let structured := (asDict row.structuredContent).getD []
            .ok ⟨row.slug, solution, Json.get "time_complexity" structured,
              Json.get "space_complexity" structured, Json.get "common_mistakes" structured,
              Json.get "expected_approach" structured, Json.get "best_practices" structured⟩

end

/-! ## What completes an attempt -/

/-- The transaction is one of a worker that calls `finalize_submission`. -/
def Finalizes : DbAction F → Prop
  | .execution _ (.persistObservation ..) => True
  | _ => False

/-- The transaction is the `complete` operation. -/
def Completes : DbAction F → Prop
  | .route _ _ .complete _ => True
  | _ => False

abbrev DbTaken (F : Type) := Taken (Db F) (DbAction F × Clock)

/-- The candidate has completed an attempt at the version, and the
completion was recorded by `finalize_submission` or `complete`. -/
def Attempted (trace : List (DbTaken F)) (candidateId questionVersionId : Uuid) (db : Db F) : Prop :=
  (∃ s ∈ db.submissions, s.candidateId = candidateId ∧ s.questionVersionId = questionVersionId
    ∧ ∃ x ∈ trace, ¬SubmissionCompleted s.id x.source ∧ SubmissionCompleted s.id x.target
      ∧ Finalizes x.label.1)
  ∨ ∃ s ∈ db.sessions, s.candidateId = candidateId ∧ s.questionVersionId = questionVersionId
    ∧ ∃ x ∈ trace, ¬SessionCompleted s.id x.source ∧ SessionCompleted s.id x.target
      ∧ (Finalizes x.label.1 ∨ Completes x.label.1)

section

variable {db db' : Db F} {id : Uuid}

theorem submissionCompleted_congr (h : db'.submissions = db.submissions) :
    SubmissionCompleted id db' ↔ SubmissionCompleted id db := by
  unfold SubmissionCompleted
  rw [h]

theorem sessionCompleted_congr (h : db'.sessions = db.sessions) :
    SessionCompleted id db' ↔ SessionCompleted id db := by
  unfold SessionCompleted
  rw [h]

theorem submissionCompleted_append {row : Submission F} (hrow : row.completedAt = none)
    (h : db'.submissions = db.submissions ++ [row]) (hdone : SubmissionCompleted id db') :
    SubmissionCompleted id db := by
  obtain ⟨s, hs, hid, hcompleted⟩ := hdone
  rw [h] at hs
  rcases List.mem_append.mp hs with hs | hs
  · exact ⟨s, hs, hid, hcompleted⟩
  · rw [List.mem_singleton.mp hs, hrow] at hcompleted
    cases hcompleted

/-- An update of a session that sets no `completed_at`. -/
theorem sessionCompleted_update {sessionId : Uuid} {f : PracticeSession F → PracticeSession F}
    (hid : ∀ s, (f s).id = s.id) (hf : ∀ s, (f s).completedAt = s.completedAt)
    (h : db'.sessions = Tables.update PracticeSession.id sessionId f db.sessions)
    (hdone : SessionCompleted id db') : SessionCompleted id db := by
  obtain ⟨s, hs, hkey, hcompleted⟩ := hdone
  rw [h] at hs
  rcases Tables.mem_update hs with ⟨hs, -⟩ | ⟨r, hr, -, rfl⟩
  · exact ⟨s, hs, hkey, hcompleted⟩
  · exact ⟨r, hr, (hid r).symm.trans hkey, (hf r) ▸ hcompleted⟩

variable {s t : System F}

/-- The rows of a system are those of the tables, unless a worker persists
an observation. -/
theorem Step.unfinished {evaluator : Evaluator F} {action : Action F} {clock : Clock}
    (h : Step evaluator s (action, clock) t) (haction : ¬Finalizes (.execution id action)) :
    t.attempt.submission = s.attempt.submission ∧ t.attempt.session = s.attempt.session := by
  cases h with
  | persistObservation => exact absurd trivial haction
  | claimForDispatch => exact ⟨rfl, rfl⟩
  | retryMissingSandbox => exact ⟨rfl, rfl⟩
  | markRunning => exact ⟨rfl, rfl⟩
  | renewLease => exact ⟨rfl, rfl⟩
  | deferInfrastructureRetry => exact ⟨rfl, rfl⟩
  | reacquireExpiredExecution => exact ⟨rfl, rfl⟩
  | cancel => exact ⟨rfl, rfl⟩

theorem submissionCompleted_store {key : Uuid} (hs : db.system key = some s)
    (hsame : t.attempt.submission = s.attempt.submission)
    (hdone : SubmissionCompleted id (db.store key t)) : SubmissionCompleted id db := by
  obtain ⟨r, hr, hid, hcompleted⟩ := hdone
  rcases Db.mem_store_submissions hr with ⟨hr, -⟩ | hsub
  · exact ⟨r, hr, hid, hcompleted⟩
  · rw [hsame, (Db.system_some hs).2.2.1] at hsub
    obtain ⟨key', -, hfound⟩ := Option.bind_eq_some_iff.mp hsub
    exact ⟨r, Tables.mem_of_find hfound, hid, hcompleted⟩

theorem sessionCompleted_store {key : Uuid} (hs : db.system key = some s)
    (hsame : t.attempt.session = s.attempt.session)
    (hdone : SessionCompleted id (db.store key t)) : SessionCompleted id db := by
  obtain ⟨r, hr, hid, hcompleted⟩ := hdone
  rcases Tables.mem_update hr with ⟨hr, -⟩ | ⟨_, -, -, rfl⟩
  · exact ⟨r, hr, hid, hcompleted⟩
  · rw [hsame] at hid hcompleted
    exact ⟨_, Tables.mem_of_find (Db.system_some hs).2.1, hid, hcompleted⟩

variable [Runtime F] {env : Environment} {evaluator : Evaluator F} {a : DbAction F × Clock}

/-- Only `finalize_submission` completes a submission. -/
theorem DbStep.submissionCompleted (h : DbStep env evaluator db a db')
    (hdone : SubmissionCompleted id db') : SubmissionCompleted id db ∨ Finalizes a.1 := by
  cases h with
  | createSession h =>
      rcases createSession_ok h with rfl | ⟨_, _, -, -, rfl⟩
      · exact .inl hdone
      · exact .inl hdone
  | publish h => exact .inl ((submissionCompleted_congr (publish_ok h).2.1).mp hdone)
  | route h =>
      obtain ⟨f, -, -, rfl⟩ := transitionSession_ok h
      exact .inl hdone
  | queueRun h =>
      obtain ⟨_, _, -, ⟨_, -, -, rfl, -⟩ | ⟨-, hsub, -, -⟩⟩ := queueRun_ok h
      · exact .inl hdone
      · exact .inl ((submissionCompleted_congr hsub).mp hdone)
  | queueSubmit h =>
      obtain ⟨_, _, -, ⟨_, -, -, rfl, -⟩ | ⟨-, -, hsub, -, -⟩⟩ := queueSubmit_ok h
      · exact .inl hdone
      · exact .inl (submissionCompleted_append rfl hsub hdone)
  | nextHint h =>
      obtain ⟨_, _, _, f, -, -, -, -, -, rfl⟩ := nextHint_ok h
      exact .inl hdone
  | execution hs h =>
      rename_i key action clock before after
      rw [submissionCompleted_congr (Db.notify_submissions ..)] at hdone
      by_cases haction : Finalizes (.execution key action)
      · exact .inr haction
      · exact .inl (submissionCompleted_store hs (h.unfinished haction).1 hdone)

/-- Only `finalize_submission` and `complete` complete a session. -/
theorem DbStep.sessionCompleted (h : DbStep env evaluator db a db')
    (hdone : SessionCompleted id db') :
    SessionCompleted id db ∨ Finalizes a.1 ∨ Completes a.1 := by
  cases h with
  | createSession h =>
      rcases createSession_ok h with rfl | ⟨_, _, -, -, rfl⟩
      · exact .inl hdone
      · obtain ⟨r, hr, hid, hcompleted⟩ := hdone
        rcases List.mem_append.mp hr with hr | hr
        · exact .inl ⟨r, hr, hid, hcompleted⟩
        · rw [List.mem_singleton.mp hr] at hcompleted
          cases hcompleted
  | publish h => exact .inl ((sessionCompleted_congr (publish_ok h).1).mp hdone)
  | route h =>
      rename_i principal sessionId route read clock
      obtain ⟨f, hident, hf, rfl⟩ := transitionSession_ok h
      by_cases hroute : route.target = .completed
      · refine .inr (.inr ?_)
        cases route with
        | complete => trivial
        | start => cases hroute
        | pause => cases hroute
        | resume => cases hroute
      · exact .inl (sessionCompleted_update hident.id (fun s => (hf s).2 hroute) rfl hdone)
  | queueRun h =>
      obtain ⟨_, _, -, ⟨_, -, -, rfl, -⟩ | ⟨-, -, ⟨f, hident, hf, hsess⟩, -⟩⟩ := queueRun_ok h
      · exact .inl hdone
      · exact .inl (sessionCompleted_update hident.id (fun s => (hf s).2) hsess hdone)
  | queueSubmit h =>
      obtain ⟨_, _, -, ⟨_, -, -, rfl, -⟩ | ⟨-, -, -, ⟨f, hident, hf, hsess⟩, -⟩⟩ :=
        queueSubmit_ok h
      · exact .inl hdone
      · exact .inl (sessionCompleted_update hident.id (fun s => (hf s).2) hsess hdone)
  | nextHint h =>
      obtain ⟨_, _, _, f, -, -, -, hident, hf, rfl⟩ := nextHint_ok h
      exact .inl (sessionCompleted_update hident.id (fun s => (hf s).2.2) rfl hdone)
  | execution hs h =>
      rename_i key action clock before after
      rw [sessionCompleted_congr (Db.notify_sessions ..)] at hdone
      by_cases haction : Finalizes (.execution key action)
      · exact .inr (.inl haction)
      · exact .inl (sessionCompleted_store hs (h.unfinished haction).2 hdone)

/-- What the two `EXISTS` of the endpoint find was recorded on the way. -/
theorem attempted_of_run {candidateId questionVersionId : Uuid} {trace : List (DbTaken F)}
    (hstart : db.Initial) (hrun : Run (DbStep env evaluator) db trace db')
    (h : HasCompleted candidateId questionVersionId db') :
    Attempted trace candidateId questionVersionId db' := by
  have htaken := hrun.taken
  rcases h with ⟨r, hr, hcandidate, hversion, hcompleted⟩ | ⟨r, hr, hcandidate, hversion, hcompleted⟩
  · have hfresh : ¬SubmissionCompleted r.id db := by
      rintro ⟨r', hr', -⟩
      rw [hstart.submissions] at hr'
      cases hr'
    obtain ⟨x, hx, hbefore, hafter⟩ := hrun.exists_entry (SubmissionCompleted r.id) hfresh
      ⟨r, hr, rfl, hcompleted⟩
    exact .inl ⟨r, hr, hcandidate, hversion, x, hx, hbefore, hafter,
      ((htaken x hx).submissionCompleted hafter).resolve_left hbefore⟩
  · have hfresh : ¬SessionCompleted r.id db := by
      rintro ⟨r', hr', -⟩
      rw [hstart.sessions] at hr'
      cases hr'
    obtain ⟨x, hx, hbefore, hafter⟩ := hrun.exists_entry (SessionCompleted r.id) hfresh
      ⟨r, hr, rfl, hcompleted⟩
    exact .inr ⟨r, hr, hcandidate, hversion, x, hx, hbefore, hafter,
      ((htaken x hx).sessionCompleted hafter).resolve_left hbefore⟩

theorem hasCompleted_of_revealed {solutions : Uuid → Option (Solution F)} {principal : Principal}
    {slug : Str} {question : PublishedQuestion F} {answer : RevealedSolution F}
    (hquestion : publishedQuestionPayload slug db = .ok question)
    (hrunnable : isRunnable question.structuredContent = true)
    (h : revealQuestionSolution solutions principal slug db = .ok answer) :
    HasCompleted principal.userId question.questionVersionId db := by
  unfold revealQuestionSolution at h
  rw [hquestion] at h
  dsimp only at h
  split at h
  · cases h
  · split_ifs at h with hgate
    exact not_not.mp fun hnone => hgate ⟨hrunnable, hnone⟩

end

/-! ## The gate -/

section

variable [Runtime F]

/-- In every run, a candidate to whom the solution of a question with this
content is returned has completed an attempt at its version. -/
def RevealedToAttempted (env : Environment) (evaluator : Evaluator F) (content : Json F) : Prop :=
  ∀ (solutions : Uuid → Option (Solution F)) (db db' : Db F) (trace : List (DbTaken F))
    (principal : Principal) (slug : Str) (question : PublishedQuestion F)
    (answer : RevealedSolution F), db.Initial → Run (DbStep env evaluator) db trace db' →
    publishedQuestionPayload slug db' = .ok question → question.structuredContent = content →
    revealQuestionSolution solutions principal slug db' = .ok answer →
    Attempted trace principal.userId question.questionVersionId db'

/-- The catalogue with one published question of this content. -/
def publishedContent (content : Json F) : Db F where
  questions := [⟨"question-1", "join-basics", none, some ("version-1" : Str)⟩]
  versions := [⟨"version-1", isScalar_ofString "version-1", "question-1", .published, content⟩]
  sessions := []
  submissions := []
  executions := []
  outbox := []
  packages _ := []
  hints := []

/-- Without the flag, the solution is there for everybody from the start. -/
theorem isRunnable_of_revealedToAttempted {env : Environment} {evaluator : Evaluator F}
    {content : Json F} (h : RevealedToAttempted env evaluator content) :
    isRunnable content = true := by
  by_contra hrunnable
  have hreveal : ∃ answer, revealQuestionSolution (fun _ => some ⟨[], [], .null⟩)
      ⟨"ann", none, []⟩ "join-basics" (publishedContent content) = .ok answer :=
    ⟨_, if_neg fun hgate => hrunnable hgate.1⟩
  obtain ⟨answer, hanswer⟩ := hreveal
  have hattempted := h _ (publishedContent content) _ [] ⟨"ann", none, []⟩ "join-basics"
    ⟨"question-1", "join-basics", "version-1", content⟩ answer
    ⟨rfl, rfl, rfl, fun _ => rfl, rfl⟩ (.nil _) rfl rfl hanswer
  rcases hattempted with ⟨r, hr, -⟩ | ⟨r, hr, -⟩
  · cases hr
  · cases hr

/-- **No reference solution before a completed attempt**, exactly where the
content carries a truthy `runnable`, whether it is executable or not. -/
theorem solution_reveal (env : Environment) (evaluator : Evaluator F) (content : Json F) :
    RevealedToAttempted env evaluator content ↔ isRunnable content = true := by
  constructor
  · exact isRunnable_of_revealedToAttempted
  · intro hrunnable solutions db db' trace principal slug question answer hstart hrun hquestion
      hcontent hanswer
    exact attempted_of_run hstart hrun
      (hasCompleted_of_revealed hquestion (hcontent ▸ hrunnable) hanswer)

end

/-- An SQL question that is submitted to has its solution revealed to others
than the candidate who submits. -/
theorem executable_solution_given_away :
    questionRuntime joinContent = .ok .postgresql
      ∧ (∃ trace db, Run (DbStep sampleEnvironment sampleEvaluator) publishedDb trace db
        ∧ trace.map Taken.label = sampleSubmit)
      ∧ ¬RevealedToAttempted sampleEnvironment sampleEvaluator joinContent := by
  refine ⟨rfl, ⟨_, _, .cons (.createSession rfl) (.cons (.queueSubmit rfl) (.nil _)), rfl⟩, ?_⟩
  exact fun h => absurd (isRunnable_of_revealedToAttempted h) (by decide)

end Rigor
