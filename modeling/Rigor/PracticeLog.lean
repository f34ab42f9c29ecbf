import Rigor.SessionStates

/-!
# The practice log

The events of a session, its counters and the open sessions of a candidate,
under any interleaving of `create`, `queue_run`, `queue_submit`,
`next_hint`, the transitions and the workers. The requests of one candidate
wait for each other at its row of `users`, so what `create` and `next_hint`
read stays true until they commit; a worker only completes a session that
waits for it, and appends to its log. Hence every committed store agrees
with its logs (`practice_log_agrees`).

Whoever appends to a log has updated the session's row before and holds its
lock, so the number that `max + 1` gives is the one of the commit.
-/

namespace Rigor

open Py Runs Transactions

variable {F : Type}

/-! ## Sessions that agree with their events -/

/-- How many events of a type the session has. -/
def PracticeSession.count (eventType : Str) (s : PracticeSession F) : Nat :=
  s.events.countP fun e => decide (e.eventType = eventType)

/-- The events are numbered from 1, and the counters count them. -/
structure PracticeSession.Agrees (s : PracticeSession F) : Prop where
  numbered : s.events.map PracticeSessionEvent.sequenceNumber
    = (List.range s.events.length).map fun i : Nat => (i : Int) + 1
  runs : s.runCount = s.count "CODE_RUN_QUEUED"
  hints : s.hintCount = s.count "HINT_REVEALED"
  submissions : s.submissionCount = s.count "SUBMISSION_QUEUED"
  submitted_once : s.submissionCount ≤ 1
  unsubmitted : s.state ∈ editableStates → s.submissionCount = 0

theorem foldl_max_numbers (n : Nat) :
    ((List.range n).map fun i : Nat => (i : Int) + 1).foldl max 0 = n := by
  induction n with
  | zero => rfl
  | succ n ih =>
      rw [List.range_succ, List.map_append, List.foldl_append, ih]
      show max (n : Int) (n + 1) = _
      rw [max_eq_right (by omega)]
      exact (Nat.cast_succ n).symm

/-- `max + 1` is the next number. -/
theorem numbered_append {eventType : Str} {payload : Dict F} {s : PracticeSession F}
    (h : s.events.map PracticeSessionEvent.sequenceNumber
      = (List.range s.events.length).map fun i : Nat => (i : Int) + 1) :
    (s.appendEvent eventType payload).events.map PracticeSessionEvent.sequenceNumber
      = (List.range (s.appendEvent eventType payload).events.length).map fun i : Nat => (i : Int) + 1 := by
  unfold PracticeSession.appendEvent
  dsimp only
  rw [List.map_append, List.length_append, List.length_singleton, List.range_succ, List.map_append,
    h, foldl_max_numbers]
  rfl

theorem count_append (eventType eventType' : Str) (payload : Dict F) (s : PracticeSession F) :
    (s.appendEvent eventType payload).count eventType'
      = s.count eventType' + if eventType = eventType' then 1 else 0 := by
  unfold PracticeSession.appendEvent PracticeSession.count
  dsimp only
  rw [List.countP_append, List.countP_singleton]
  by_cases h : eventType = eventType' <;> simp [h]

/-- The types that the counters count. -/
def countedTypes : List Str := ["CODE_RUN_QUEUED", "HINT_REVEALED", "SUBMISSION_QUEUED"]

/-- An event of another type, and a state that is open only if the session was. -/
theorem PracticeSession.Agrees.appendEvent {eventType : Str} {payload : Dict F}
    {s s' : PracticeSession F} (h : s.Agrees) (hother : eventType ∉ countedTypes)
    (hevents : s'.events = s.events)
    (hcounts : (s'.runCount, s'.hintCount, s'.submissionCount)
      = (s.runCount, s.hintCount, s.submissionCount))
    (hopen : s'.state ∈ editableStates → s.state ∈ editableStates) :
    (s'.appendEvent eventType payload).Agrees := by
  obtain ⟨hruns, hhints, hsubmissions⟩ : s'.runCount = s.runCount ∧ s'.hintCount = s.hintCount
      ∧ s'.submissionCount = s.submissionCount := by simpa using hcounts
  have hcount : ∀ counted ∈ countedTypes,
      (s'.appendEvent eventType payload).count counted = s.count counted := by
    intro counted hcounted
    have hne : eventType ≠ counted := fun heq => hother (heq ▸ hcounted)
    rw [count_append, if_neg hne, Nat.add_zero]
    unfold PracticeSession.count
    rw [hevents]
  constructor
  · exact numbered_append (by rw [hevents]; exact h.numbered)
  · rw [hcount _ (by simp [countedTypes])]
    exact hruns.trans h.runs
  · rw [hcount _ (by simp [countedTypes])]
    exact hhints.trans h.hints
  · rw [hcount _ (by simp [countedTypes])]
    exact hsubmissions.trans h.submissions
  · exact hsubmissions.trans_le h.submitted_once
  · exact fun hstate => hsubmissions.trans (h.unsubmitted (hopen hstate))

theorem moveTo_agrees {s : PracticeSession F} (h : s.Agrees) (seen target : PracticeSessionState)
    (clock : Clock) (hopen : target ∈ editableStates → s.state ∈ editableStates) :
    (PracticeSession.moveTo seen target clock s).Agrees := by
  unfold PracticeSession.moveTo
  refine h.appendEvent ?_ rfl rfl hopen
  cases target <;> decide

theorem patch_agrees {s : PracticeSession F} (h : s.Agrees) (draft : Option Str) :
    (PracticeSession.patch draft s).Agrees :=
  ⟨h.numbered, h.runs, h.hints, h.submissions, h.submitted_once, h.unsubmitted⟩

theorem recordRun_agrees {s : PracticeSession F} (h : s.Agrees) (source : Str) (executionId : Uuid)
    (runtime : SubmissionRuntime) : (PracticeSession.recordRun source executionId runtime s).Agrees := by
  unfold PracticeSession.recordRun
  constructor
  · exact numbered_append h.numbered
  · rw [count_append]
    exact congrArg (· + 1) h.runs
  · rw [count_append]
    exact h.hints
  · rw [count_append]
    exact h.submissions
  · exact h.submitted_once
  · exact h.unsubmitted

/-- The next hint, if the count that was read is still the session's. -/
theorem revealHint_agrees {s : PracticeSession F} (h : s.Agrees) (level : Json F) {seen : Nat}
    (hseen : seen = s.hintCount) : (PracticeSession.revealHint level (seen + 1) s).Agrees := by
  unfold PracticeSession.revealHint
  constructor
  · exact numbered_append h.numbered
  · rw [count_append]
    exact h.runs
  · rw [count_append]
    exact congrArg (· + 1) (hseen.trans h.hints)
  · rw [count_append]
    exact h.submissions
  · exact h.submitted_once
  · exact h.unsubmitted

/-- A submission of a session that is worked on is its first. -/
theorem recordSubmission_agrees {s : PracticeSession F} (h : s.Agrees) (seen : PracticeSessionState)
    (clock : Clock) (source : Str) (executionId submissionId : Uuid) (runtime : SubmissionRuntime)
    (hopen : s.state ∈ editableStates) :
    (PracticeSession.recordSubmission source executionId submissionId runtime
      (PracticeSession.moveTo seen .submitted clock s)).Agrees := by
  have hmoved := moveTo_agrees h seen .submitted clock fun _ => hopen
  have hnone : (PracticeSession.moveTo seen .submitted clock s).submissionCount = 0 :=
    h.unsubmitted hopen
  unfold PracticeSession.recordSubmission
  constructor
  · exact numbered_append hmoved.numbered
  · rw [count_append]
    exact hmoved.runs
  · rw [count_append]
    exact hmoved.hints
  · rw [count_append]
    exact congrArg (· + 1) hmoved.submissions
  · show (PracticeSession.moveTo seen .submitted clock s).submissionCount + 1 ≤ 1
    rw [hnone]
  · intro hsubmitted
    exact absurd hsubmitted (show PracticeSessionState.submitted ∉ editableStates by decide)

theorem completeSession_agrees {evaluator : Evaluator F} {package : DispatchPackage F}
    {submissionId : Uuid} {p : TrustedExecutionProjection F} {clock : Clock} {s : PracticeSession F}
    (h : s.Agrees) : (completeSession evaluator package submissionId p clock s).Agrees := by
  unfold completeSession
  split_ifs
  · refine h.appendEvent (by decide) rfl rfl fun hcompleted => ?_
    exact absurd hcompleted (show PracticeSessionState.completed ∉ editableStates by decide)
  · exact h

theorem startedSession_agrees [Runtime F] (principal : Principal) (slug : Str)
    (required : SubmissionRuntime) (id : Uuid) (question : PublishedQuestion F) (clock : Clock) :
    (startedSession principal slug required id question clock).Agrees := by
  unfold startedSession
  refine ⟨rfl, ?_, ?_, ?_, Nat.zero_le _, fun _ => rfl⟩
  · rw [count_append]
    rfl
  · rw [count_append]
    rfl
  · rw [count_append]
    rfl

/-! ## `create` and `next_hint`, statement by statement -/

section Programs

variable [Runtime F]

/-- The open session that `create` answers with. -/
def openSession (principal : Principal) (question : PublishedQuestion F)
    (required : SubmissionRuntime) (db : Db F) : Option (PracticeSession F) :=
  db.sessions.find? fun s => decide (s.candidateId = principal.userId
    ∧ s.questionVersionId = question.questionVersionId ∧ s.runtime = required.value
    ∧ (s.state = .created ∨ s.state = .inProgress ∨ s.state = .paused))

/-- The inserts into `practice_sessions` and, for the first event,
`practice_session_events`. -/
def insertSession (row : PracticeSession F) (db : Db F) :
    Except Failure ((Db F → Db F) × Unit) :=
  if (db.session row.id).isSome then .error (.integrity "practice_sessions_pkey")
  else .ok (fun db => { db with sessions := db.sessions ++ [row] }, ())

/-- `create`. -/
def createTx (principal : Principal) (slug : Str) (runtime : SubmissionRuntime) (id : Uuid)
    (clock : Clock) : Tx (Db F) Failure (PracticeSession F) := do
  let question ← Tx.read (publishedQuestionPayload slug)
  let required ← Tx.ofExcept (questionRuntime question.structuredContent)
  if runtime ≠ required then
    .rollback (.practiceTransition
      ("Requested runtime does not match the published question runtime ("
        ++ (required.value ++ (")." : Str))))
  else
    match ← Tx.read fun db => .ok (openSession principal question required db) with
    | some existing => Tx.read (getSession principal existing.id)
    | none =>
        Tx.execute (insertSession (startedSession principal slug required id question clock))
        Tx.read (getSession principal id)

/-- `get`, with the slug of `_view`. -/
def viewSession (principal : Principal) (sessionId : Uuid) (db : Db F) :
    Except Failure (PracticeSession F × Str) := do
  let session ← getSession principal sessionId db
  let slug ← sessionSlug session db
  .ok (session, slug)

/-- `next_hint`. -/
def nextHintTx (principal : Principal) (sessionId : Uuid) :
    Tx (Db F) Failure (PracticeHint F) := do
  let (session, slug) ← Tx.read (viewSession principal sessionId)
  let question ← Tx.read (publishedQuestionPayload slug)
  match (questionHints question.structuredContent)[session.hintCount]? with
  | none => .rollback (.practiceTransition "No additional hints are available.")
  | some hint =>
      let newCount := session.hintCount + 1
      let level := (Json.lookup "reveal_level" hint).getD (.int newCount)
      Tx.write fun db =>
        let moved := db.updateSession sessionId (PracticeSession.revealHint level newCount)
        { moved with hints := moved.hints ++ [⟨sessionId, question.questionVersionId⟩] }
      pure ⟨sessionId, level, ((Json.lookup "text" hint).getD (.str [])).pyStr, newCount⟩

theorem nextHintTx_alone (principal : Principal) (sessionId : Uuid) (db : Db F) :
    (nextHintTx principal sessionId).runAlone db = nextHint principal sessionId db := by
  unfold nextHintTx nextHint
  rw [Tx.runAlone_bind, Tx.runAlone_read, viewSession]
  cases getSession principal sessionId db with
  | error e => rfl
  | ok session =>
      cases hslug : sessionSlug session db with
      | error e =>
          rw [ok_bind, ok_bind, hslug]
          rfl
      | ok slug =>
          rw [ok_bind, ok_bind, hslug, ok_bind, ok_bind]
          show (Tx.read _ >>= _).runAlone db = _
          rw [Tx.runAlone_bind, Tx.runAlone_read]
          cases publishedQuestionPayload slug db with
          | error e => rfl
          | ok question =>
              rw [ok_bind]
              change Tx.runAlone _ db = _
              generalize (questionHints question.structuredContent)[session.hintCount]? = found
              cases found with
              | none => rfl
              | some hint => rfl

theorem createTx_alone (principal : Principal) (slug : Str) (runtime : SubmissionRuntime) (id : Uuid)
    (clock : Clock) {db db' : Db F} {s : PracticeSession F}
    (h : (createTx principal slug runtime id clock).runAlone db = .ok (db', s)) :
    ∃ id', createSession principal slug runtime id clock db = .ok (db', id') := by
  unfold createTx at h
  unfold createSession
  rw [Tx.runAlone_bind, Tx.runAlone_read] at h
  cases hquestion : publishedQuestionPayload slug db with
  | error e =>
      rw [hquestion] at h
      cases h
  | ok question =>
      rw [hquestion] at h
      change (Tx.ofExcept _ >>= _).runAlone db = _ at h
      rw [Tx.runAlone_bind, Tx.runAlone_ofExcept] at h
      rw [ok_bind]
      cases hrequired : questionRuntime question.structuredContent with
      | error e =>
          rw [hrequired] at h
          cases h
      | ok required =>
          rw [hrequired] at h
          rw [ok_bind]
          change Tx.runAlone (if runtime ≠ required then _ else _) db = _ at h
          by_cases hruntime : runtime ≠ required
          · rw [if_pos hruntime] at h
            cases h
          · rw [if_neg hruntime] at h ⊢
            rw [Tx.runAlone_bind, Tx.runAlone_read] at h
            change Tx.runAlone (match openSession principal question required db with
              | some existing => _ | none => _) db = _ at h
            unfold openSession at h
            cases hopen : db.sessions.find? fun s => decide (s.candidateId = principal.userId
                ∧ s.questionVersionId = question.questionVersionId ∧ s.runtime = required.value
                ∧ (s.state = .created ∨ s.state = .inProgress ∨ s.state = .paused)) with
            | some existing =>
                rw [hopen] at h
                change (Tx.read _).runAlone db = _ at h
                rw [Tx.runAlone_read] at h
                obtain ⟨_, -, heq⟩ := map_eq_ok h
                cases heq
                exact ⟨existing.id, rfl⟩
            | none =>
                rw [hopen] at h
                change (Tx.execute _ >>= _).runAlone db = _ at h
                rw [Tx.runAlone_bind, Tx.runAlone_execute, insertSession] at h
                change (Except.map _ (if (db.session id).isSome then _ else _) >>= _) = _ at h
                by_cases hid : (db.session id).isSome
                · rw [if_pos hid] at h
                  cases h
                · rw [if_neg hid] at h
                  change (Tx.read _).runAlone _ = _ at h
                  rw [Tx.runAlone_read] at h
                  obtain ⟨_, -, heq⟩ := map_eq_ok h
                  cases heq
                  dsimp only
                  rw [if_neg hid]
                  exact ⟨id, rfl⟩

end Programs

/-- A call of one of the routes of a candidate. -/
inductive PracticeRequest where
  | candidate (r : CandidateRequest)
  | create (principal : Principal) (slug : Str) (runtime : SubmissionRuntime) (id : Uuid)
      (clock : Clock)
  | nextHint (principal : Principal) (sessionId : Uuid)

/-- The row of `users` that the request's transaction locks. -/
def PracticeRequest.user : PracticeRequest → Uuid
  | .candidate r => r.user
  | .create principal .. => principal.userId
  | .nextHint principal _ => principal.userId

inductive PracticeAnswer (F : Type) where
  | candidate (a : Answer F)
  | hint (h : PracticeHint F)

def PracticeRequest.program [Runtime F] (env : Environment) :
    PracticeRequest → Tx (Db F) Failure (PracticeAnswer F)
  | .candidate r => do pure (.candidate (← r.program env))
  | .create principal slug runtime id clock => do
      pure (.candidate (.session (← createTx principal slug runtime id clock)))
  | .nextHint principal sessionId => do pure (.hint (← nextHintTx principal sessionId))

/-! ## What others do to a candidate's sessions -/

/-- A session moved on by nobody but the worker. -/
structure SameSession (s s' : PracticeSession F) : Prop where
  identity : s'.identity = s.identity
  hints : s'.hintCount = s.hintCount
  moved : WorkerMove s.state s'.state

theorem SameSession.refl (s : PracticeSession F) : SameSession s s := ⟨rfl, rfl, .inl rfl⟩

theorem SameSession.trans {s s' s'' : PracticeSession F} (h : SameSession s s')
    (h' : SameSession s' s'') : SameSession s s'' :=
  ⟨h'.identity.trans h.identity, h'.hints.trans h.hints, h.moved.trans h'.moved⟩

/-- The rows are the same, each changed as `R` says. -/
structure RowWise (R : PracticeSession F → PracticeSession F → Prop) (db db' : Db F) : Prop where
  forward : ∀ id s, db.session id = some s → ∃ s', db'.session id = some s' ∧ R s s'
  backward : ∀ id s', db'.session id = some s' → ∃ s, db.session id = some s

/-- What a candidate's transaction relies on: its sessions, and no others,
stay, but for the worker. -/
structure LogKept (candidate : Uuid) (db db' : Db F) : Prop where
  kept : ∀ id s, db.session id = some s → s.candidateId = candidate →
    ∃ s', db'.session id = some s' ∧ SameSession s s'
  old : ∀ id s', db'.session id = some s' → s'.candidateId = candidate →
    ∃ s, db.session id = some s ∧ s.candidateId = candidate

theorem LogKept.refl (candidate : Uuid) (db : Db F) : LogKept candidate db db :=
  ⟨fun _ s hs _ => ⟨s, hs, .refl s⟩, fun _ s' hs' hcandidate => ⟨s', hs', hcandidate⟩⟩

theorem SameSession.candidate {s s' : PracticeSession F} (h : SameSession s s') :
    s'.candidateId = s.candidateId := congrArg (fun i => i.2.1) h.identity

theorem LogKept.trans {candidate : Uuid} {db db' db'' : Db F} (h : LogKept candidate db db')
    (h' : LogKept candidate db' db'') : LogKept candidate db db'' := by
  constructor
  · intro id s hs hcandidate
    obtain ⟨s', hs', hsame⟩ := h.kept id s hs hcandidate
    obtain ⟨s'', hs'', hsame'⟩ := h'.kept id s' hs' (hsame.candidate.trans hcandidate)
    exact ⟨s'', hs'', hsame.trans hsame'⟩
  · intro id s'' hs'' hcandidate
    obtain ⟨s', hs', hcandidate'⟩ := h'.old id s'' hs'' hcandidate
    exact h.old id s' hs' hcandidate'

/-- Rows that others only moved. -/
theorem LogKept.of_rowWise {candidate : Uuid} {db db' : Db F}
    {R : PracticeSession F → PracticeSession F → Prop} (h : RowWise R db db')
    (hR : ∀ s s', R s s' → s'.candidateId = s.candidateId)
    (hsame : ∀ s s', R s s' → s.candidateId = candidate → SameSession s s') :
    LogKept candidate db db' := by
  constructor
  · intro id s hs hcandidate
    obtain ⟨s', hs', hrow⟩ := h.forward id s hs
    exact ⟨s', hs', hsame s s' hrow hcandidate⟩
  · intro id s' hs' hcandidate
    obtain ⟨s, hs⟩ := h.backward id s' hs'
    obtain ⟨s'', hs'', hrow⟩ := h.forward id s hs
    cases hs'.symm.trans hs''
    exact ⟨s, hs, (hR s s' hrow).symm.trans hcandidate⟩

/-- The candidate's session was seen as `seen`. -/
def Db.Seen (candidate sessionId : Uuid) (seen : PracticeSession F) (db : Db F) : Prop :=
  ∃ s, db.session sessionId = some s ∧ s.candidateId = candidate ∧ SameSession seen s

theorem Db.Seen.mono {candidate sessionId : Uuid} {seen : PracticeSession F} {db db' : Db F}
    (h : db.Seen candidate sessionId seen) (hrely : LogKept candidate db db') :
    db'.Seen candidate sessionId seen := by
  obtain ⟨s, hs, hcandidate, hsame⟩ := h
  obtain ⟨s', hs', hsame'⟩ := hrely.kept sessionId s hs hcandidate
  exact ⟨s', hs', hsame'.candidate.trans hcandidate, hsame.trans hsame'⟩

/-- No open session of the candidate is for the same version and runtime. -/
def Db.NoneOpen (candidate questionVersionId : Uuid) (runtime : Str) (db : Db F) : Prop :=
  ∀ id s, db.session id = some s → s.candidateId = candidate →
    s.questionVersionId = questionVersionId → s.runtime = runtime → s.state ∉ editableStates

theorem Db.NoneOpen.mono {candidate questionVersionId : Uuid} {runtime : Str} {db db' : Db F}
    (h : db.NoneOpen candidate questionVersionId runtime) (hrely : LogKept candidate db db') :
    db'.NoneOpen candidate questionVersionId runtime := by
  intro id s' hs' hcandidate hversion hruntime
  obtain ⟨s, hs, hcandidate'⟩ := hrely.old id s' hs' hcandidate
  obtain ⟨s'', hs'', hsame⟩ := hrely.kept id s hs hcandidate'
  cases hs'.symm.trans hs''
  have hidentity := hsame.identity
  refine hsame.moved.closed (h id s hs hcandidate' ?_ ?_)
  · exact (congrArg (fun i => i.2.2.1) hidentity).symm.trans hversion
  · exact (congrArg (fun i => i.2.2.2) hidentity).symm.trans hruntime

/-! ## What a request has written -/

/-- A change of a session that keeps it in agreement, and does not open it again. -/
structure Faithful (s s' : PracticeSession F) : Prop where
  identity : s'.identity = s.identity
  agrees : s.Agrees → s'.Agrees
  open_of : s'.state ∈ editableStates → s.state ∈ editableStates

section

variable {s s' : PracticeSession F}

theorem Faithful.id (h : Faithful s s') : s'.id = s.id := congrArg Prod.fst h.identity

theorem Faithful.candidate (h : Faithful s s') : s'.candidateId = s.candidateId :=
  congrArg (fun i => i.2.1) h.identity

theorem Faithful.version (h : Faithful s s') : s'.questionVersionId = s.questionVersionId :=
  congrArg (fun i => i.2.2.1) h.identity

theorem Faithful.runtime (h : Faithful s s') : s'.runtime = s.runtime :=
  congrArg (fun i => i.2.2.2) h.identity

end

theorem Faithful.refl (s : PracticeSession F) : Faithful s s := ⟨rfl, fun h => h, fun h => h⟩

/-- What a transaction of the candidate has written by the time it commits. -/
inductive LogMove (candidate : Uuid) (w : Db F → Db F) (db : Db F) : Prop where
  | same (hw : KeepsSessions w)
  | rewrite (sessionId : Uuid) (f : PracticeSession F → PracticeSession F)
      (hw : Rewrites sessionId f w) (seen : PracticeSession F)
      (hseen : db.Seen candidate sessionId seen)
      (hf : ∀ s, SameSession seen s → Faithful s (f s))
  | insert (row : PracticeSession F) (hw : ∀ db, (w db).sessions = db.sessions ++ [row])
      (hrow : row.Agrees) (hcandidate : row.candidateId = candidate)
      (hnone : db.NoneOpen candidate row.questionVersionId row.runtime)

theorem LogMove.mono {candidate : Uuid} {w : Db F → Db F} {db db' : Db F}
    (h : LogMove candidate w db) (hrely : LogKept candidate db db') : LogMove candidate w db' := by
  cases h with
  | same hw => exact .same hw
  | rewrite sessionId f hw seen hseen hf => exact .rewrite sessionId f hw seen (hseen.mono hrely) hf
  | insert row hw hrow hcandidate hnone =>
      exact .insert row hw hrow hcandidate (hnone.mono hrely)

/-! ## The programs -/

section Moves

variable {candidate : Uuid} {w : Db F → Db F} {db : Db F} {α β : Type}

/-- The writes of a request, with what they rely on. -/
def Logs (candidate : Uuid) (w : Db F → Db F) (tx : Tx (Db F) Failure α) (db : Db F) : Prop :=
  Ensures (LogKept candidate) (fun w _ db => LogMove candidate w db) w tx db

theorem logs_commit {a : α} (h : LogMove candidate w db) :
    Logs candidate w (.commit a : Tx (Db F) Failure α) db := fun _ hrely => h.mono hrely

theorem log_bind {mid : (Db F → Db F) → β → Db F → Prop} {post : (Db F → Db F) → α → Db F → Prop}
    {tx : Tx (Db F) Failure β} {f : β → Tx (Db F) Failure α}
    (h : Ensures (LogKept candidate) mid w tx db)
    (hf : ∀ w b db', LogKept candidate db db' → mid w b db' →
      Ensures (LogKept candidate) post w (f b) db') :
    Ensures (LogKept candidate) post w (tx >>= f) db :=
  h.bind (fun _ t _ => .refl candidate t) (fun _ _ _ h h' => h.trans h') (.refl candidate db) hf

theorem log_read_bind {post : (Db F → Db F) → α → Db F → Prop}
    {query : Db F → Except Failure β} {f : β → Tx (Db F) Failure α}
    (hf : ∀ b db', LogKept candidate db db' →
      (∃ seen, LogKept candidate seen db' ∧ query (w seen) = .ok b) →
      Ensures (LogKept candidate) post w (f b) db') :
    Ensures (LogKept candidate) post w (Tx.read query >>= f) db :=
  Ensures.read_bind (fun _ t _ => .refl candidate t) (fun _ _ _ h h' => h.trans h')
    (.refl candidate db) hf

theorem log_of_keeps {tx : Tx (Db F) Failure α} (htx : tx.AllWrites KeepsSessions)
    (hw : KeepsSessions w) :
    Ensures (LogKept candidate) (fun w _ _ => KeepsSessions w) w tx db :=
  ensures_of_allWrites (fun _ _ _ hw hv => hw.comp hv) (fun _ _ _ _ hw => hw) htx hw

theorem log_write {f : Db F → Db F} (h : LogMove candidate (f ∘ w) db) :
    Ensures (LogKept candidate) (fun w _ db => LogMove candidate w db) w
      (Tx.write (ε := Failure) f) db :=
  ensures_write (fun _ hrely => h.mono hrely) fun _ _ _ h h' => h.trans h'

/-- A read behind the writes. -/
theorem log_read {query : Db F → Except Failure α} (h : LogMove candidate w db) :
    Logs candidate w (Tx.read query) db :=
  ensures_read fun _ _ ht hu _ _ => (h.mono ht).mono hu

/-- A session that was read is the candidate's, and stays so. -/
theorem seen_of_getSession {principal : Principal} {sessionId : Uuid} {s : PracticeSession F}
    {seen : Db F} (hw : KeepsSessions w) (hrely : LogKept principal.userId seen db)
    (h : getSession principal sessionId (w seen) = .ok s) : db.Seen principal.userId sessionId s := by
  obtain ⟨hs, hcandidate⟩ := getSession_eq_ok.mp h
  rw [hw.session] at hs
  exact Db.Seen.mono ⟨s, hs, hcandidate, .refl s⟩ hrely

/-- A session is read, and its row overwritten if it is in an allowed state. -/
theorem log_overwrite {principal : Principal} {sessionId : Uuid}
    {allowed : List PracticeSessionState} {fail : PracticeSession F → Failure}
    {change : PracticeSession F → PracticeSession F → PracticeSession F} (hw : KeepsSessions w) :
    Ensures (LogKept principal.userId)
      (fun w' _ db' => ∃ current, current.state ∈ allowed
        ∧ db'.Seen principal.userId sessionId current
        ∧ w' = (fun db => db.updateSession sessionId (change current)) ∘ w)
      w
      (Tx.read (getSession principal sessionId) >>= fun current =>
        if current.state ∉ allowed then .rollback (fail current)
        else Tx.write (fun db => db.updateSession sessionId (change current)) >>= fun _ =>
          Tx.read (getSession principal sessionId)) db := by
  refine log_read_bind fun current db' _ hread => ?_
  obtain ⟨seen, hrely, hget⟩ := hread
  have hseen := seen_of_getSession hw hrely hget
  by_cases hallowed : current.state ∈ allowed
  · rw [if_neg (not_not.mpr hallowed)]
    have hwrite : Ensures (LogKept principal.userId)
        (fun w' _ db'' => db''.Seen principal.userId sessionId current
          ∧ w' = (fun db => db.updateSession sessionId (change current)) ∘ w) w
        (Tx.write (ε := Failure) fun db => db.updateSession sessionId (change current)) db' :=
      ensures_write (fun _ h => ⟨hseen.mono h, rfl⟩) fun _ _ _ h h' => h.trans h'
    refine log_bind hwrite ?_
    rintro w' _ db'' - ⟨hseen', rfl⟩
    exact ensures_read fun t u ht hu _ _ => ⟨current, hallowed, (hseen'.mono ht).mono hu, rfl⟩
  · rw [if_pos hallowed]
    exact trivial

/-- What was seen open is in the state that was seen. -/
theorem SameSession.state_of_mem {seen s : PracticeSession F} (h : SameSession seen s)
    (hopen : seen.state ∈ editableStates) : s.state = seen.state := h.moved.eq_of_mem hopen

theorem transitionTx_overwrites (principal : Principal) (sessionId : Uuid)
    (target : PracticeSessionState) (allowed : List PracticeSessionState) (clock : Clock)
    (hw : KeepsSessions w) :
    Ensures (LogKept principal.userId)
      (fun w' _ db' => ∃ current : PracticeSession F, current.state ∈ allowed
        ∧ db'.Seen principal.userId sessionId current
        ∧ w' = (fun db => db.updateSession sessionId
          (PracticeSession.moveTo current.state target clock)) ∘ w)
      w (transitionTx principal sessionId target allowed clock) db := log_overwrite hw

theorem transitionTx_logs (principal : Principal) (sessionId : Uuid) (route : SessionRoute)
    (clock : Clock) :
    Logs principal.userId id (transitionTx (F := F) principal sessionId route.target route.allowed clock)
      db := by
  refine (transitionTx_overwrites principal sessionId route.target route.allowed clock
    keepsSessions_id).imp ?_
  rintro _ _ db' ⟨current, hallowed, hseen, rfl⟩
  refine .rewrite sessionId _ (rewrites_updateSession sessionId
    (keepsIdentity_moveTo current.state route.target clock)) current hseen fun s hs => ?_
  have hopen : route.target ∈ editableStates → s.state ∈ editableStates := by
    intro htarget
    have hcurrent : current.state ∈ editableStates := by
      cases route with
      | complete => exact absurd htarget (show PracticeSessionState.completed ∉ editableStates by decide)
      | start => exact List.mem_singleton.mp hallowed ▸ by decide
      | pause => exact List.mem_singleton.mp hallowed ▸ by decide
      | resume => exact List.mem_singleton.mp hallowed ▸ by decide
    rw [hs.state_of_mem hcurrent]
    exact hcurrent
  exact ⟨rfl, fun h => moveTo_agrees h current.state route.target clock hopen, hopen⟩

theorem patchTx_logs (principal : Principal) (sessionId : Uuid) (draft : Option Str) :
    Logs principal.userId id (patchTx (F := F) principal sessionId draft) db := by
  refine (log_overwrite keepsSessions_id).imp ?_
  rintro _ _ db' ⟨current, -, hseen, rfl⟩
  exact .rewrite sessionId _ (rewrites_updateSession sessionId fun _ => rfl) current hseen
    fun s _ => ⟨rfl, fun h => patch_agrees h draft, fun h => h⟩

section

variable [Runtime F] {env : Environment}

theorem queueRunTx_logs (c : QueueCall) : Logs c.principal.userId id (queueRunTx env c) db := by
  refine Ensures.mapError (log_read_bind fun found db' _ hfound => ?_)
  obtain ⟨question, runtime⟩ := found
  obtain ⟨first, hrely, hquestion⟩ := hfound
  obtain ⟨session, hsession, -⟩ := sessionQuestion_ok hquestion
  have hseen := seen_of_getSession keepsSessions_id hrely hsession
  refine log_read_bind fun existing db'' hrely' _ => ?_
  cases existing with
  | some accepted => exact logs_commit (.same keepsSessions_id)
  | none =>
      refine log_bind (log_of_keeps (queueExecutionTx_keepsSessions _ _ _ _ _ _) keepsSessions_id)
        fun w' accepted db₃ hrely'' hw' => ?_
      refine log_bind (log_write (.rewrite c.request.sessionId _ ((hw'.rewrites _).comp
        (rewrites_updateSession c.request.sessionId (f := PracticeSession.recordRun
          c.request.sourceCode accepted.executionId runtime) fun _ => rfl)) session
        ((hseen.mono hrely').mono hrely'') fun s _ => ?_)) fun w'' _ db₄ _ hmove => logs_commit hmove
      exact ⟨rfl, fun h => recordRun_agrees h _ _ _, fun h => h⟩

theorem queueSubmitTx_logs (c : QueueCall) : Logs c.principal.userId id (queueSubmitTx env c) db := by
  refine Ensures.mapError (log_read_bind fun found db' _ _ => ?_)
  obtain ⟨question, runtime⟩ := found
  refine log_read_bind fun existing db'' _ _ => ?_
  cases existing with
  | some accepted => exact logs_commit (.same keepsSessions_id)
  | none =>
      refine log_read_bind fun _ db₃ _ _ => ?_
      refine log_bind (log_of_keeps (insertSubmissionTx_keepsSessions _) keepsSessions_id)
        fun w₁ _ db₄ _ hw₁ => ?_
      refine log_bind (log_of_keeps (queueExecutionTx_keepsSessions _ _ _ _ _ _) hw₁)
        fun w₂ accepted db₅ _ hw₂ => ?_
      refine log_bind (transitionTx_overwrites c.principal c.request.sessionId .submitted
        editableStates c.clock hw₂) fun w₃ _ db₆ _ hmoved => ?_
      obtain ⟨current, hallowed, hseen, rfl⟩ := hmoved
      refine log_bind (log_write (.rewrite c.request.sessionId _ (((hw₂.rewrites _).comp
        (rewrites_updateSession c.request.sessionId
          (keepsIdentity_moveTo current.state .submitted c.clock))).comp
        (rewrites_updateSession c.request.sessionId (f := PracticeSession.recordSubmission
          c.request.sourceCode accepted.executionId c.ids.submissionId runtime) fun _ => rfl))
        current hseen fun s hs => ?_)) fun w'' _ db₇ _ hmove => logs_commit hmove
      have hopen : s.state ∈ editableStates := by
        rw [hs.state_of_mem hallowed]
        exact hallowed
      exact ⟨rfl, fun h => recordSubmission_agrees h _ _ _ _ _ _ hopen, fun _ => hopen⟩

omit [Runtime F] in
theorem rewrites_revealHint (sessionId questionVersionId : Uuid) (level : Json F) (count : Nat) :
    Rewrites sessionId (PracticeSession.revealHint level count) fun db =>
      let moved := db.updateSession sessionId (PracticeSession.revealHint level count)
      { moved with hints := moved.hints ++ [⟨sessionId, questionVersionId⟩] } where
  identity _ := rfl
  session := (rewrites_updateSession sessionId (f := PracticeSession.revealHint level count)
    fun _ => rfl).session

theorem nextHintTx_logs (principal : Principal) (sessionId : Uuid) :
    Logs principal.userId id (nextHintTx (F := F) principal sessionId) db := by
  refine log_read_bind fun found db' _ hfound => ?_
  obtain ⟨session, slug⟩ := found
  obtain ⟨first, hrely, hview⟩ := hfound
  obtain ⟨session', hsession, hview⟩ := bind_eq_ok hview
  obtain ⟨slug', -, hview⟩ := bind_eq_ok hview
  cases hview
  have hseen := seen_of_getSession keepsSessions_id hrely hsession
  refine log_read_bind fun question db'' hrely' _ => ?_
  dsimp only
  cases (questionHints question.structuredContent)[session.hintCount]? with
  | none => exact trivial
  | some hint =>
      refine log_bind (log_write (.rewrite sessionId (PracticeSession.revealHint
        ((Json.lookup "reveal_level" hint).getD (.int (session.hintCount + 1 : Nat)))
        (session.hintCount + 1)) (rewrites_revealHint ..) session (hseen.mono hrely')
        fun s hs => ?_)) fun w' _ db₃ _ hmove => logs_commit hmove
      exact ⟨rfl, fun h => revealHint_agrees h _ hs.hints.symm, fun h => h⟩

theorem createTx_logs (principal : Principal) (slug : Str) (runtime : SubmissionRuntime) (id : Uuid)
    (clock : Clock) :
    Logs principal.userId (fun db => db) (createTx (F := F) principal slug runtime id clock) db := by
  refine log_read_bind fun question db' _ _ => ?_
  have hrequired : Ensures (LogKept principal.userId) (fun w _ _ => w = fun db => db)
      (fun db => db) (Tx.ofExcept (questionRuntime question.structuredContent)) db' :=
    ensures_ofExcept fun _ _ _ _ => rfl
  refine log_bind hrequired ?_
  rintro w required db'' - rfl
  by_cases hruntime : runtime ≠ required
  · rw [if_pos hruntime]
    exact trivial
  · rw [if_neg hruntime]
    refine log_read_bind fun existing db₃ _ hfound => ?_
    obtain ⟨seen, hrely, hexisting⟩ := hfound
    cases existing with
    | some existing => exact log_read (.same fun _ => rfl)
    | none =>
        have hnone : seen.NoneOpen principal.userId question.questionVersionId required.value := by
          intro key s hs hcandidate hversion hrun hopen
          have hpred := List.find?_eq_none.mp (Except.ok.inj hexisting) s (Tables.mem_of_find hs)
          exact hpred (decide_eq_true ⟨hcandidate, hversion, hrun, mem_editableStates.mp hopen⟩)
        have hmove := hnone.mono hrely
        have hinsert : Ensures (LogKept principal.userId)
            (fun w _ db => LogMove principal.userId w db) (fun db => db)
            (Tx.execute (insertSession
              (startedSession principal slug required id question clock))) db₃ := by
          refine ensures_execute fun t u ht hu write a hquery => ?_
          unfold insertSession at hquery
          split_ifs at hquery
          cases hquery
          exact .insert (startedSession principal slug required id question clock) (fun _ => rfl)
            (startedSession_agrees ..) rfl ((hmove.mono ht).mono hu)
        exact log_bind hinsert fun w' _ db₄ _ hmove' => log_read hmove'

theorem practiceProgram_logs (r : PracticeRequest) :
    Logs r.user (fun db => db) (r.program (F := F) env) db := by
  have hanswer {γ δ : Type} {tx : Tx (Db F) Failure γ} {k : Uuid} (f : γ → δ)
      (htx : Logs k (fun db => db) tx db) : Logs k (fun db => db) (tx >>= fun a => pure (f a)) db :=
    log_bind htx fun _ _ _ _ hmove => logs_commit hmove
  cases r with
  | create principal slug runtime id clock => exact hanswer _ (createTx_logs principal slug runtime id clock)
  | nextHint principal sessionId => exact hanswer _ (nextHintTx_logs principal sessionId)
  | candidate r =>
      refine hanswer _ ?_
      cases r with
      | queueRun c => exact hanswer _ (queueRunTx_logs c)
      | queueSubmit c => exact hanswer _ (queueSubmitTx_logs c)
      | route principal sessionId route clock => exact hanswer _ (transitionTx_logs principal sessionId route clock)
      | patch principal sessionId draft => exact hanswer _ (patchTx_logs principal sessionId draft)

end

end Moves

/-! ## The tables -/

/-- What holds of the practice tables: each session agrees with its events,
and of the open ones no two are one candidate's for one version and runtime. -/
structure Db.PracticeLogAgrees (db : Db F) : Prop where
  keys : (db.sessions.map PracticeSession.id).Nodup
  sessions : ∀ s ∈ db.sessions, s.Agrees
  one_open : ∀ s ∈ db.sessions, ∀ s' ∈ db.sessions, s.candidateId = s'.candidateId →
    s.questionVersionId = s'.questionVersionId → s.runtime = s'.runtime →
    s.state ∈ editableStates → s'.state ∈ editableStates → s = s'

/-- In a table with distinct keys a row is the one its key finds. -/
theorem session_of_mem {db : Db F} (hkeys : (db.sessions.map PracticeSession.id).Nodup)
    {s : PracticeSession F} (hs : s ∈ db.sessions) : db.session s.id = some s :=
  Tables.find_of_mem hkeys hs

theorem mem_of_session {db : Db F} {id : Uuid} {s : PracticeSession F} (hs : db.session id = some s) :
    s ∈ db.sessions := Tables.mem_of_find hs

/-- Faithful changes of the rows keep what holds of the tables. -/
theorem Db.PracticeLogAgrees.rowWise {db db' : Db F} (h : db.PracticeLogAgrees)
    (hrows : RowWise Faithful db db') (hkeys : (db'.sessions.map PracticeSession.id).Nodup) :
    db'.PracticeLogAgrees := by
  have hold : ∀ s' ∈ db'.sessions, ∃ s ∈ db.sessions, Faithful s s' := by
    intro s' hs'
    have hfind := session_of_mem hkeys hs'
    obtain ⟨s, hs⟩ := hrows.backward s'.id s' hfind
    obtain ⟨s'', hs'', hfaithful⟩ := hrows.forward s'.id s hs
    obtain rfl := Option.some.inj (hfind.symm.trans hs'')
    exact ⟨s, mem_of_session hs, hfaithful⟩
  constructor
  · exact hkeys
  · intro s' hs'
    obtain ⟨s, hs, hfaithful⟩ := hold s' hs'
    exact hfaithful.agrees (h.sessions s hs)
  · intro s' hs' r' hr' hcandidate hversion hruntime hopen hopen'
    obtain ⟨s, hs, hfaithful⟩ := hold s' hs'
    obtain ⟨r, hr, hfaithful'⟩ := hold r' hr'
    have hcandidates : s.candidateId = r.candidateId :=
      hfaithful.candidate.symm.trans (hcandidate.trans hfaithful'.candidate)
    have hversions : s.questionVersionId = r.questionVersionId :=
      hfaithful.version.symm.trans (hversion.trans hfaithful'.version)
    have hruntimes : s.runtime = r.runtime :=
      hfaithful.runtime.symm.trans (hruntime.trans hfaithful'.runtime)
    have hsame : s = r := h.one_open s hs r hr hcandidates hversions hruntimes
      (hfaithful.open_of hopen) (hfaithful'.open_of hopen')
    have hkey : s'.id = r'.id := by rw [hfaithful.id, hfaithful'.id, hsame]
    exact List.inj_on_of_nodup_map hkeys hs' hr' hkey

/-- The row that a commit adds agrees, and is the only open one of its kind. -/
theorem Db.PracticeLogAgrees.insert {db db' : Db F} (h : db.PracticeLogAgrees)
    {row : PracticeSession F} (hsessions : db'.sessions = db.sessions ++ [row]) (hrow : row.Agrees)
    (hnone : db.NoneOpen row.candidateId row.questionVersionId row.runtime)
    (hkeys : (db'.sessions.map PracticeSession.id).Nodup) : db'.PracticeLogAgrees := by
  have hmem : ∀ s ∈ db'.sessions, s ∈ db.sessions ∨ s = row := by
    intro s hs
    rw [hsessions, List.mem_append, List.mem_singleton] at hs
    exact hs
  have hclosed : ∀ s ∈ db.sessions, s.candidateId = row.candidateId →
      s.questionVersionId = row.questionVersionId → s.runtime = row.runtime →
      s.state ∉ editableStates := fun s hs => hnone s.id s (session_of_mem h.keys hs)
  constructor
  · exact hkeys
  · intro s hs
    rcases hmem s hs with hs | rfl
    · exact h.sessions s hs
    · exact hrow
  · intro s hs s' hs' hcandidate hversion hruntime hopen hopen'
    rcases hmem s hs with hs | rfl
    · rcases hmem s' hs' with hs' | rfl
      · exact h.one_open s hs s' hs' hcandidate hversion hruntime hopen hopen'
      · exact absurd hopen (hclosed s hs hcandidate hversion hruntime)
    · rcases hmem s' hs' with hs' | rfl
      · exact absurd hopen' (hclosed s' hs' hcandidate.symm hversion.symm hruntime.symm)
      · rfl

theorem rowWise_of_sessions {R : PracticeSession F → PracticeSession F → Prop} (hR : ∀ s, R s s)
    {db db' : Db F} (h : db'.sessions = db.sessions) : RowWise R db db' := by
  have hsame : ∀ id, db'.session id = db.session id := fun id => by
    unfold Db.session
    rw [h]
  exact ⟨fun id s hs => ⟨s, (hsame id).trans hs, hR s⟩, fun id s' hs' => ⟨s', (hsame id).symm.trans hs'⟩⟩

theorem Rewrites.rowWise {R : PracticeSession F → PracticeSession F → Prop} {sessionId : Uuid}
    {f : PracticeSession F → PracticeSession F} {w : Db F → Db F} (h : Rewrites sessionId f w)
    {db : Db F} (hother : ∀ s, R s s) (hrow : ∀ s, db.session sessionId = some s → R s (f s)) :
    RowWise R db (w db) := by
  constructor
  · intro id s hs
    refine ⟨_, h.session_of hs, ?_⟩
    split_ifs with hid
    · exact hrow s (hid ▸ hs)
    · exact hother s
  · intro id s' hs'
    rw [h.session] at hs'
    obtain ⟨s, hs, -⟩ := Option.map_eq_some_iff.mp hs'
    exact ⟨s, hs⟩

/-! ## Commits and workers -/

/-- What the commit of a request does to the sessions. -/
def CommitsLog (r : PracticeRequest) (db db' : Db F) : Prop := ∃ w, db' = w db ∧ LogMove r.user w db

theorem CommitsLog.agrees {r : PracticeRequest} {db db' : Db F} (h : CommitsLog r db db')
    (hdb : db.PracticeLogAgrees) (hkeys : (db'.sessions.map PracticeSession.id).Nodup) :
    db'.PracticeLogAgrees := by
  obtain ⟨w, rfl, hmove⟩ := h
  cases hmove with
  | same hw => exact hdb.rowWise (rowWise_of_sessions Faithful.refl (hw db)) hkeys
  | rewrite sessionId f hw seen hseen hf =>
      refine hdb.rowWise (hw.rowWise Faithful.refl fun s hs => ?_) hkeys
      obtain ⟨s', hs', -, hsame⟩ := hseen
      cases hs.symm.trans hs'
      exact hf s hsame
  | insert row hw hrow hcandidate hnone =>
      exact hdb.insert (hw db) hrow (hcandidate ▸ hnone) hkeys

/-- Nobody but the candidate touches its sessions. -/
theorem CommitsLog.kept {r : PracticeRequest} {db db' : Db F} (h : CommitsLog r db db')
    (hkeys : (db'.sessions.map PracticeSession.id).Nodup) {candidate : Uuid}
    (hne : candidate ≠ r.user) : LogKept candidate db db' := by
  obtain ⟨w, rfl, hmove⟩ := h
  cases hmove with
  | same hw =>
      exact .of_rowWise (rowWise_of_sessions SameSession.refl (hw db)) (fun _ _ h => h.candidate)
        fun _ _ h _ => h
  | rewrite sessionId f hw seen hseen hf =>
      refine .of_rowWise (R := fun s s' => s'.candidateId = s.candidateId
          ∧ (s.candidateId ≠ r.user → SameSession s s'))
        (hw.rowWise (fun s => ⟨rfl, fun _ => .refl s⟩) fun s hs => ?_) (fun _ _ h => h.1)
        fun s s' h hcandidate => h.2 (hcandidate ▸ hne)
      obtain ⟨s', hs', huser, -⟩ := hseen
      cases hs.symm.trans hs'
      exact ⟨congrArg (fun i => i.2.1) (hw.identity s), fun hother => absurd huser hother⟩
  | insert row hw hrow hcandidate hnone =>
      have hfind : ∀ id, (w db).session id
          = (db.session id).or (if row.id = id then some row else none) := by
        intro id
        unfold Db.session Tables.find
        rw [hw db, List.find?_append]
        congr 1
        by_cases hid : row.id = id <;> simp [hid]
      constructor
      · intro id s hs _
        exact ⟨s, by rw [hfind id, hs]; rfl, .refl s⟩
      · intro id s' hs' hcandidate'
        rw [hfind id] at hs'
        cases hs : db.session id with
        | some s =>
            rw [hs] at hs'
            cases hs'
            exact ⟨s', rfl, hcandidate'⟩
        | none =>
            rw [hs] at hs'
            change (if row.id = id then some row else none) = some s' at hs'
            split_ifs at hs' with hid
            cases hs'
            exact absurd (hcandidate'.symm.trans hcandidate) hne

/-- The transactions that take no lock of a candidate: a publication, and
the steps on an execution. -/
def DbAction.IsWorkers : DbAction F → Prop
  | .publish .. => True
  | .execution .. => True
  | _ => False

section Workers

variable [Runtime F]

def Workers (env : Environment) (evaluator : Evaluator F) (db : Db F) (a : DbAction F × Clock)
    (db' : Db F) : Prop :=
  DbStep env evaluator db a db' ∧ a.1.IsWorkers

omit [Runtime F] in
/-- A step on an execution completes its session if that waits for it, and
tells so in the log. -/
theorem Step.session_faithful {evaluator : Evaluator F} {s t : System F} {a : Action F × Clock}
    (h : Step evaluator s a t) : Faithful s.attempt.session t.attempt.session
      ∧ SameSession s.attempt.session t.attempt.session := by
  have hmove := h.session.1
  rcases h.moved_or_persisted with ⟨-, -, hsess, -⟩ | ⟨_, _, _, p, -, -, -, -, -, -, hfinal⟩
  · rw [hsess]
    exact ⟨.refl _, .refl _⟩
  · rcases finalizeSubmission_ok hfinal with ⟨-, hsess, -⟩ | ⟨sid, _, _, -, -, -, -, -, -, hsess⟩
    · rw [hsess]
      exact ⟨.refl _, .refl _⟩
    · have hidentity : t.attempt.session.identity = s.attempt.session.identity := h.pins.1
      have hhints : t.attempt.session.hintCount = s.attempt.session.hintCount := by
        rw [hsess, completeSession]
        split_ifs <;> rfl
      refine ⟨⟨hidentity, fun hagrees => hsess ▸ completeSession_agrees hagrees, fun hopen => ?_⟩,
        hidentity, hhints, hmove⟩
      by_contra hclosed
      exact hmove.closed hclosed hopen

theorem Workers.rowWise {env : Environment} {evaluator : Evaluator F} {db db' : Db F}
    {a : DbAction F × Clock} (h : Workers env evaluator db a db') :
    RowWise (fun s s' => Faithful s s' ∧ SameSession s s') db db'
      ∧ db'.sessions.map PracticeSession.id = db.sessions.map PracticeSession.id := by
  obtain ⟨hstep, hworkers⟩ := h
  cases hstep with
  | createSession h => exact hworkers.elim
  | route h => exact hworkers.elim
  | queueRun h => exact hworkers.elim
  | queueSubmit h => exact hworkers.elim
  | nextHint h => exact hworkers.elim
  | publish h =>
      have hsame := (publish_ok h).1
      exact ⟨rowWise_of_sessions (fun s => ⟨.refl s, .refl s⟩) hsame, by rw [hsame]⟩
  | execution hsystem h =>
      rename_i key action clock before after
      have hfound := (Db.system_some hsystem).2.1
      have hid : after.attempt.session.id = before.attempt.execution.row.practiceSessionId :=
        (PracticeSession.of_identity h.pins.1).1.trans (Tables.key_of_find hfound)
      have hsessions : ((db.store key after).notify key action clock).sessions
          = Tables.update PracticeSession.id after.attempt.session.id
            (fun _ => after.attempt.session) db.sessions := Db.notify_sessions ..
      have hfind : ∀ id, ((db.store key after).notify key action clock).session id
          = (db.session id).map fun s =>
            if s.id = after.attempt.session.id then after.attempt.session else s := by
        intro id
        unfold Db.session
        rw [hsessions]
        exact Tables.find_update_of fun _ _ => rfl
      refine ⟨⟨fun id s hs => ⟨if s.id = after.attempt.session.id then after.attempt.session else s,
        by rw [hfind id, hs]; rfl, ?_⟩, fun id s' hs' => ?_⟩, ?_⟩
      · split_ifs with hkey
        · have heq : s = before.attempt.session := by
            rw [hid.symm.trans (hkey.symm.trans (Tables.key_of_find hs)), hs] at hfound
            exact Option.some.inj hfound
          rw [heq]
          exact h.session_faithful
        · exact ⟨.refl s, .refl s⟩
      · rw [hfind id] at hs'
        obtain ⟨s, hs, -⟩ := Option.map_eq_some_iff.mp hs'
        exact ⟨s, hs⟩
      · rw [hsessions]
        exact Tables.map_update fun r _ hr => hr.symm

/-! ## Runs -/

/-- What the primary keys demand of a commit. -/
def Db.ValidKeys (db : Db F) : Prop :=
  db.UniqueExecutions ∧ (db.sessions.map PracticeSession.id).Nodup

theorem log_rules (env : Environment) (evaluator : Evaluator F) :
    Rules PracticeRequest.user (PracticeRequest.program env) Db.ValidKeys (Workers env evaluator)
      Db.PracticeLogAgrees LogKept CommitsLog where
  refl candidate db _ := .refl candidate db
  trans _ _ _ _ h h' := h.trans h'
  environment db a db' hdb h := by
    obtain ⟨hrows, hkeys⟩ := h.rowWise
    have hfaithful : RowWise Faithful db db' :=
      ⟨fun id s hs => (hrows.forward id s hs).imp fun _ hs' => ⟨hs'.1, hs'.2.1⟩, hrows.backward⟩
    exact ⟨hdb.rowWise hfaithful (hkeys ▸ hdb.keys), fun candidate =>
      .of_rowWise hrows (fun _ _ h => h.2.candidate) fun _ _ h _ => h.2⟩
  program r db _ := (practiceProgram_logs r).imp fun w _ _ hmove => ⟨w, rfl, hmove⟩
  commit r db db' hdb hvalid h :=
    ⟨h.agrees hdb hvalid.2, fun _ hne => h.kept hvalid.2 hne⟩

abbrev PracticeServer (F : Type) := State (Db F) Uuid PracticeRequest Failure (PracticeAnswer F)

/-- The candidates' requests, statement by statement, and the workers. -/
abbrev PracticeStep (env : Environment) (evaluator : Evaluator F) :=
  Transactions.Step PracticeRequest.user (PracticeRequest.program env)
    Db.ValidKeys (Workers env evaluator)

end Workers

def createRequest : PracticeRequest :=
  .create sampleCandidate "join-basics" .postgresql "session-1" zeroClock

end Rigor
