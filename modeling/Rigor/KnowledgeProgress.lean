import Rigor.ExecutionClaims
import Rigor.SerialTransactions
import Rigor.Tables

/-!
# Progress on the problems of the knowledge bank

`knowledge_progress_routes.py`: the activity log of a candidate and the rows
that project it. The rows are the fold of the log in every run, and a request
is recorded once exactly if its key was not used for another
(`progress_follows_log`).
-/

namespace Rigor

open Py Transactions Runs

variable {F : Type}

/-! ## Tables -/

inductive ActivityType where
  | problemViewed | sessionStarted | draftSaved | publicTestsRun | submissionCompleted
  | problemSolved | problemFailed | sessionTimeRecorded
  | bookmarkChanged | revisionChanged | notesSaved
  deriving DecidableEq

inductive ProblemStatus where
  | viewed | attempted | solved | failed
  deriving DecidableEq

inductive RevisionStatus where
  | none | marked | due | completed

/-- A row of `knowledge_activity_events`. -/
structure ActivityEvent (F : Type) where
  problemId : Uuid
  eventType : ActivityType
  language : Option Str
  durationSeconds : Nat
  payload : Dict F
  idempotencyKey : Option Str
  occurredAt : Time

/-- A row of `knowledge_candidate_problem_state`. -/
structure ProblemState where
  problemId : Uuid
  status : ProblemStatus
  bookmarked : Bool
  revisionStatus : RevisionStatus
  privateNotes : Str
  viewCount : Nat
  attemptCount : Nat
  solvedCount : Nat
  failedCount : Nat
  totalSeconds : Nat
  lastLanguage : Option Str
  firstViewedAt : Option Time
  lastAttemptedAt : Option Time
  solvedAt : Option Time
  lastActivityAt : Time
  updatedAt : Time

/-- The rows of one candidate. -/
structure ProgressTables (F : Type) where
  states : List ProblemState
  events : List (ActivityEvent F)

/-- The body of a recorded activity; `ActivityInput` takes no other types. -/
structure ActivityInput (F : Type) where
  eventType : ActivityType
  language : Option Str
  durationSeconds : Nat
  idempotencyKey : Option Str
  payload : Dict F
  posted : eventType ∉ [.bookmarkChanged, .revisionChanged, .notesSaved]

/-- `CandidateProblemPatch`: the fields that were set, `null` or a value. -/
structure CandidateProblemPatch where
  bookmarked : Option (Option Bool)
  revisionStatus : Option (Option RevisionStatus)
  privateNotes : Option (Option Str)

namespace ProgressTables

def state (problemId : Uuid) (db : ProgressTables F) : Option ProblemState :=
  Tables.find ProblemState.problemId problemId db.states

def eventsOf (problemId : Uuid) (db : ProgressTables F) : List (ActivityEvent F) :=
  db.events.filter fun e => e.problemId = problemId

def withKey (key : Str) (db : ProgressTables F) : List (ActivityEvent F) :=
  db.events.filter fun e => e.idempotencyKey = some key

def updateState (problemId : Uuid) (f : ProblemState → ProblemState) (db : ProgressTables F) :
    ProgressTables F :=
  { db with states := Tables.update ProblemState.problemId problemId f db.states }

end ProgressTables

/-! ## The transactions -/

def newState (problemId : Uuid) (clock : Clock) : ProblemState where
  problemId := problemId
  status := .viewed
  bookmarked := false
  revisionStatus := .none
  privateNotes := ([] : Str)
  viewCount := 0
  attemptCount := 0
  solvedCount := 0
  failedCount := 0
  totalSeconds := 0
  lastLanguage := none
  firstViewedAt := some clock.database
  lastAttemptedAt := none
  solvedAt := none
  lastActivityAt := clock.database
  updatedAt := clock.database

/-- `_ensure_state`. -/
def ensureState (problemId : Uuid) (clock : Clock) (db : ProgressTables F) : ProgressTables F :=
  if (db.state problemId).isSome then db
  else { db with states := db.states ++ [newState problemId clock] }

/-- `_append_event`: whether the event was inserted. -/
def appendActivity (e : ActivityEvent F) (db : ProgressTables F) :
    Except Failure ((ProgressTables F → ProgressTables F) × Bool) :=
  match e.idempotencyKey with
  | none => .ok (fun db => { db with events := db.events ++ [e] }, true)
  | some key =>
      if db.withKey key = [] then .ok (fun db => { db with events := db.events ++ [e] }, true)
      else .ok (id, false)

def ActivityType.attempted (t : ActivityType) : Bool :=
  t ∈ [.sessionStarted, .draftSaved, .publicTestsRun, .submissionCompleted, .problemFailed]

def ActivityType.countsAttempt (t : ActivityType) : Bool :=
  t ∈ [.publicTestsRun, .submissionCompleted]

def ActivityType.count (counted : Bool) : Nat := if counted then 1 else 0

/-- The columns that `_apply_event_projection` sets. -/
def ProblemState.project (event : ActivityInput F) (clock : Clock) (s : ProblemState) :
    ProblemState :=
  let solved := event.eventType = .problemSolved
  let failed := event.eventType = .problemFailed
  let attempted := event.eventType.attempted = true
  { s with
    status :=
      if solved then .solved
      else if s.status = .solved then s.status
      else if failed then .failed
      else if attempted then .attempted
      else s.status
    viewCount := s.viewCount + ActivityType.count (event.eventType = .problemViewed)
    attemptCount := s.attemptCount + ActivityType.count event.eventType.countsAttempt
    solvedCount := s.solvedCount + ActivityType.count solved
    failedCount := s.failedCount + ActivityType.count failed
    totalSeconds := s.totalSeconds + event.durationSeconds
    lastLanguage := event.language <|> s.lastLanguage
    firstViewedAt := s.firstViewedAt <|> some clock.database
    lastAttemptedAt :=
      if attempted ∨ solved ∨ failed then some clock.database else s.lastAttemptedAt
    solvedAt := if solved then some clock.database else s.solvedAt
    lastActivityAt := clock.database
    updatedAt := clock.database }

/-- The counters fit their `integer` columns. -/
def ProblemState.inRange (s : ProblemState) : Bool :=
  [s.viewCount, s.attemptCount, s.solvedCount, s.failedCount, s.totalSeconds].all
    fun n => n ≤ 2147483647

/-- `_apply_event_projection`. -/
def applyEventProjection (problemId : Uuid) (event : ActivityInput F) (clock : Clock)
    (db : ProgressTables F) :
    Except Failure ((ProgressTables F → ProgressTables F) × Unit) :=
  if (db.state problemId).any fun s => !(s.project event clock).inRange then
    .error (.integrity "integer out of range")
  else .ok (ProgressTables.updateState problemId (ProblemState.project event clock), ())

/-- `_state`. -/
def problemState (problemId : Uuid) (db : ProgressTables F) : Except Failure ProblemState :=
  match db.state problemId with
  | none => .error (.http 404 "Candidate problem state not found")
  | some s => .ok s

def ActivityInput.toEvent (event : ActivityInput F) (problemId : Uuid) (clock : Clock) :
    ActivityEvent F where
  problemId := problemId
  eventType := event.eventType
  language := event.language
  durationSeconds := event.durationSeconds
  payload := event.payload
  idempotencyKey := event.idempotencyKey
  occurredAt := clock.database

/-- `_problem_id`; `found` is the visible problem of the slug. -/
def problemIdTx (found : Option Uuid) : Tx (ProgressTables F) Failure Uuid :=
  match found with
  | none => .rollback (.http 404 "Knowledge-bank problem not found")
  | some problemId => pure problemId

/-- `record_candidate_activity`. -/
def recordCandidateActivityTx (found : Option Uuid) (event : ActivityInput F) (clock : Clock) :
    Tx (ProgressTables F) Failure ProblemState := do
  let problemId ← problemIdTx found
  Tx.write (ensureState problemId clock)
  let inserted ← Tx.execute (appendActivity (event.toEvent problemId clock))
  if inserted then
    Tx.execute (applyEventProjection problemId event clock)
    Tx.read (problemState problemId)
  else Tx.read (problemState problemId)

/-- An event of a patch: without a key. -/
def patchEvent (problemId : Uuid) (eventType : ActivityType) (payload : Dict F) (clock : Clock) :
    ActivityEvent F :=
  ⟨problemId, eventType, none, 0, payload, none, clock.database⟩

def optionalPayload {α : Type} (name : Str) (value : α → Json F) (v : Option α) : Dict F :=
  [(name, (v.map value).getD .null)]

def RevisionStatus.value : RevisionStatus → Str
  | .none => "none"
  | .marked => "marked"
  | .due => "due"
  | .completed => "completed"

/-- The events of a patch, one for each field that was set. -/
def CandidateProblemPatch.events (update : CandidateProblemPatch) (problemId : Uuid)
    (clock : Clock) : List (ActivityEvent F) :=
  (update.bookmarked.toList.map fun v =>
      patchEvent problemId .bookmarkChanged (optionalPayload "bookmarked" .bool v) clock)
    ++ (update.revisionStatus.toList.map fun v =>
      patchEvent problemId .revisionChanged
        (optionalPayload "revision_status" (fun r => .str (RevisionStatus.value r)) v) clock)
    ++ (update.privateNotes.toList.map fun v =>
      patchEvent problemId .notesSaved [("length", .int (v.getD []).length)] clock)

/-- The update of a patch; its columns are not null. -/
def CandidateProblemPatch.apply (update : CandidateProblemPatch) (clock : Clock)
    (s : ProblemState) : Option ProblemState := do
  let bookmarked ← update.bookmarked.getD (some s.bookmarked)
  let revisionStatus ← update.revisionStatus.getD (some s.revisionStatus)
  let privateNotes ← update.privateNotes.getD (some s.privateNotes)
  pure { s with
    bookmarked, revisionStatus, privateNotes
    lastActivityAt := clock.database
    updatedAt := clock.database }

/-- The `UPDATE` of a patch. -/
def applyPatch (update : CandidateProblemPatch) (problemId : Uuid) (clock : Clock)
    (db : ProgressTables F) :
    Except Failure ((ProgressTables F → ProgressTables F) × Unit) :=
  if (db.state problemId).any fun s => (update.apply clock s).isNone then
    .error (.integrity "null value in knowledge_candidate_problem_state")
  else
    .ok (ProgressTables.updateState problemId fun s => (update.apply clock s).getD s, ())

/-- `patch_candidate_problem_state`. -/
def patchCandidateProblemStateTx (found : Option Uuid) (update : CandidateProblemPatch)
    (clock : Clock) : Tx (ProgressTables F) Failure ProblemState := do
  let problemId ← problemIdTx found
  Tx.write (ensureState problemId clock)
  Tx.execute (applyPatch update problemId clock)
  Tx.write fun db => { db with events := db.events ++ update.events problemId clock }
  Tx.read (problemState problemId)

/-- `get_candidate_problem_state`. -/
def getCandidateProblemStateTx (found : Option Uuid) (clock : Clock) :
    Tx (ProgressTables F) Failure ProblemState := do
  let problemId ← problemIdTx found
  Tx.write (ensureState problemId clock)
  Tx.read (problemState problemId)

inductive ProgressRequest (F : Type) where
  | record (candidate : Uuid) (found : Option Uuid) (event : ActivityInput F) (clock : Clock)
  | patch (candidate : Uuid) (found : Option Uuid) (update : CandidateProblemPatch) (clock : Clock)
  | get (candidate : Uuid) (found : Option Uuid) (clock : Clock)

def ProgressRequest.candidate : ProgressRequest F → Uuid
  | record candidate .. => candidate
  | patch candidate .. => candidate
  | get candidate .. => candidate

def progressProgram : ProgressRequest F → Tx (ProgressTables F) Failure ProblemState
  | .record _ found event clock => recordCandidateActivityTx found event clock
  | .patch _ found update clock => patchCandidateProblemStateTx found update clock
  | .get _ found clock => getCandidateProblemStateTx found clock

/-! ## The fold of the log -/

/-- What the last attempting or failing event says. -/
def lastTried (events : List (ActivityEvent F)) : ProblemStatus :=
  match (events.filter fun e => e.eventType.attempted).getLast? with
  | none => .viewed
  | some e => if e.eventType = .problemFailed then .failed else .attempted

/-- Solved once there is a solving event. -/
def statusOf (events : List (ActivityEvent F)) : ProblemStatus :=
  if events.any fun e => e.eventType = .problemSolved then .solved else lastTried events

/-- The row is the fold of the events. -/
structure FoldsTo (events : List (ActivityEvent F)) (s : ProblemState) : Prop where
  status : s.status = statusOf events
  views : s.viewCount = events.countP fun e => e.eventType = .problemViewed
  attempts : s.attemptCount = events.countP fun e => e.eventType.countsAttempt
  solved : s.solvedCount = events.countP fun e => e.eventType = .problemSolved
  failed : s.failedCount = events.countP fun e => e.eventType = .problemFailed
  seconds : s.totalSeconds = (events.map ActivityEvent.durationSeconds).sum

theorem countP_snoc (p : ActivityEvent F → Bool) (events : List (ActivityEvent F))
    (e : ActivityEvent F) :
    (events ++ [e]).countP p = events.countP p + ActivityType.count (p e) := by
  rw [List.countP_append, List.countP_singleton]
  rfl

theorem lastTried_ne_solved (events : List (ActivityEvent F)) : lastTried events ≠ .solved := by
  unfold lastTried
  split
  · exact fun h => nomatch h
  · split_ifs <;> exact fun h => nomatch h

theorem lastTried_snoc (events : List (ActivityEvent F)) (e : ActivityEvent F) :
    lastTried (events ++ [e])
      = if e.eventType.attempted = true then
          if e.eventType = .problemFailed then .failed else .attempted
        else lastTried events := by
  unfold lastTried
  rw [List.filter_append]
  by_cases hattempted : e.eventType.attempted = true
  · rw [if_pos hattempted, List.filter_cons_of_pos (by exact hattempted), List.filter_nil,
      List.getLast?_append]
    rfl
  · rw [if_neg hattempted, List.filter_cons_of_neg (by exact hattempted), List.filter_nil,
      List.append_nil]

theorem statusOf_eq_solved (events : List (ActivityEvent F)) :
    statusOf events = .solved ↔ (events.any fun e => e.eventType = .problemSolved) = true := by
  unfold statusOf
  split_ifs with h
  · exact iff_of_true rfl h
  · exact iff_of_false (lastTried_ne_solved events) h

theorem statusOf_snoc (events : List (ActivityEvent F)) (e : ActivityEvent F) :
    statusOf (events ++ [e])
      = if e.eventType = .problemSolved then .solved
        else if statusOf events = .solved then statusOf events
        else if e.eventType = .problemFailed then .failed
        else if e.eventType.attempted = true then .attempted
        else statusOf events := by
  have hany : ((events ++ [e]).any fun e => decide (e.eventType = .problemSolved)) = true
      ↔ e.eventType = .problemSolved ∨ statusOf events = .solved := by
    rw [statusOf_eq_solved, List.any_append, List.any_cons, List.any_nil, Bool.or_false]
    simp [or_comm]
  have hsnoc : statusOf (events ++ [e])
      = if e.eventType = .problemSolved ∨ statusOf events = .solved then .solved
        else lastTried (events ++ [e]) := if_congr hany rfl rfl
  rw [hsnoc]
  by_cases hsolved : e.eventType = .problemSolved
  · rw [if_pos (.inl hsolved), if_pos hsolved]
  by_cases hbefore : statusOf events = .solved
  · rw [if_pos (.inr hbefore), if_neg hsolved, if_pos hbefore, hbefore]
  have hstatus : statusOf events = lastTried events :=
    if_neg fun h => hbefore ((statusOf_eq_solved events).mpr h)
  rw [if_neg (not_or.mpr ⟨hsolved, hbefore⟩), if_neg hsolved, if_neg hbefore, lastTried_snoc,
    hstatus]
  by_cases hfailed : e.eventType = .problemFailed
  · rw [if_pos hfailed, hfailed]
    rfl
  · rw [if_neg hfailed, if_neg hfailed]

/-- An event that is projected. -/
theorem FoldsTo.project {events : List (ActivityEvent F)} {s : ProblemState}
    (h : FoldsTo events s) (event : ActivityInput F) (clock : Clock) :
    FoldsTo (events ++ [event.toEvent s.problemId clock]) (s.project event clock) where
  status := by
    rw [statusOf_snoc, ← h.status]
    rfl
  views := by rw [countP_snoc, ← h.views]; rfl
  attempts := by rw [countP_snoc, ← h.attempts]; rfl
  solved := by rw [countP_snoc, ← h.solved]; rfl
  failed := by rw [countP_snoc, ← h.failed]; rfl
  seconds := by
    rw [List.map_append, List.sum_append, ← h.seconds, List.map_singleton, List.sum_singleton]
    rfl

/-- Events of the types that a patch writes. -/
def Silent (e : ActivityEvent F) : Prop :=
  e.eventType ∈ [.bookmarkChanged, .revisionChanged, .notesSaved] ∧ e.durationSeconds = 0

theorem FoldsTo.silent {events quiet : List (ActivityEvent F)} {s s' : ProblemState}
    (h : FoldsTo events s) (hquiet : ∀ e ∈ quiet, Silent e)
    (hs : (s'.status, s'.viewCount, s'.attemptCount, s'.solvedCount, s'.failedCount, s'.totalSeconds)
      = (s.status, s.viewCount, s.attemptCount, s.solvedCount, s.failedCount, s.totalSeconds)) :
    FoldsTo (events ++ quiet) s' := by
  simp only [Prod.mk.injEq] at hs
  obtain ⟨hstatus, hviews, hattempts, hsolved, hfailed, hseconds⟩ := hs
  induction quiet using List.reverseRecOn with
  | nil =>
      rw [List.append_nil]
      exact ⟨hstatus.trans h.status, hviews.trans h.views, hattempts.trans h.attempts,
        hsolved.trans h.solved, hfailed.trans h.failed, hseconds.trans h.seconds⟩
  | append_singleton rest e ih =>
      have hrest := ih fun e he => hquiet e (List.mem_append_left _ he)
      obtain ⟨htype, hduration⟩ := hquiet e (List.mem_append_right _ (List.mem_singleton_self e))
      have hcases : e.eventType = .bookmarkChanged ∨ e.eventType = .revisionChanged
          ∨ e.eventType = .notesSaved := by simpa using htype
      rw [← List.append_assoc]
      refine ⟨?_, ?_, ?_, ?_, ?_, ?_⟩
      · rw [statusOf_snoc, ← hrest.status]
        rcases hcases with htype | htype | htype <;> rw [htype] <;> simp [ActivityType.attempted]
      · rw [countP_snoc, ← hrest.views]
        rcases hcases with htype | htype | htype <;> rw [htype] <;> rfl
      · rw [countP_snoc, ← hrest.attempts]
        rcases hcases with htype | htype | htype <;> rw [htype] <;> rfl
      · rw [countP_snoc, ← hrest.solved]
        rcases hcases with htype | htype | htype <;> rw [htype] <;> rfl
      · rw [countP_snoc, ← hrest.failed]
        rcases hcases with htype | htype | htype <;> rw [htype] <;> rfl
      · rw [List.map_append, List.sum_append, ← hrest.seconds, List.map_singleton,
          List.sum_singleton, hduration]
        rfl

theorem silent_events (update : CandidateProblemPatch) (problemId : Uuid) (clock : Clock) :
    ∀ e ∈ (update.events problemId clock : List (ActivityEvent F)),
      Silent e ∧ e.problemId = problemId ∧ e.idempotencyKey = none := by
  intro e he
  simp only [CandidateProblemPatch.events, List.mem_append, List.mem_map] at he
  rcases he with (⟨v, -, rfl⟩ | ⟨v, -, rfl⟩) | ⟨v, -, rfl⟩ <;>
    exact ⟨⟨by simp [patchEvent], rfl⟩, rfl, rfl⟩

/-! ## What every request keeps -/

structure ProgressTables.Inv (db : ProgressTables F) : Prop where
  ids : (db.states.map ProblemState.problemId).Nodup
  folds : ∀ s ∈ db.states, FoldsTo (db.eventsOf s.problemId) s
  owned : ∀ e ∈ db.events, e.problemId ∈ db.states.map ProblemState.problemId
  keys : ∀ key, (db.withKey key).length ≤ 1

section Keep

variable {db : ProgressTables F} {problemId : Uuid} {clock : Clock}

theorem mem_ids_of_state {s : ProblemState} (h : db.state problemId = some s) :
    s ∈ db.states ∧ s.problemId = problemId :=
  ⟨Tables.mem_of_find h, Tables.key_of_find h⟩

theorem ProgressTables.Inv.ensureState (h : db.Inv) (problemId : Uuid) (clock : Clock) :
    (ensureState problemId clock db).Inv
      ∧ ∃ s, (Rigor.ensureState problemId clock db).state problemId = some s := by
  unfold Rigor.ensureState
  by_cases hstate : (db.state problemId).isSome
  · rw [if_pos hstate]
    exact ⟨h, Option.isSome_iff_exists.mp hstate⟩
  · rw [if_neg hstate]
    have hfresh : problemId ∉ db.states.map ProblemState.problemId := by
      intro hmem
      obtain ⟨s, hs, hid⟩ := List.mem_map.mp hmem
      obtain ⟨s', hs'⟩ := Tables.find_isSome_of_mem ProblemState.problemId hs
      rw [hid] at hs'
      exact hstate (Option.isSome_iff_exists.mpr ⟨s', hs'⟩)
    have hnone : db.eventsOf problemId = [] := by
      refine List.filter_eq_nil_iff.mpr fun e he hid => hfresh ?_
      exact of_decide_eq_true hid ▸ h.owned e he
    refine ⟨⟨?_, fun s hs => ?_, fun e he => ?_, h.keys⟩, ?_⟩
    · rw [List.map_append]
      refine List.nodup_append.mpr ⟨h.ids, List.nodup_singleton _, fun id hid id' hid' heq => ?_⟩
      have hnew : id' = problemId := List.mem_singleton.mp hid'
      exact hfresh ((heq.trans hnew) ▸ hid)
    · rcases List.mem_append.mp hs with hold | hnew
      · exact h.folds s hold
      · cases List.mem_singleton.mp hnew
        show FoldsTo (db.eventsOf problemId) _
        rw [hnone]
        exact ⟨rfl, rfl, rfl, rfl, rfl, rfl⟩
    · rw [List.map_append]
      exact List.mem_append_left _ (h.owned e he)
    · unfold ProgressTables.state
      obtain ⟨s, hs⟩ := Tables.find_isSome_of_mem ProblemState.problemId
        (List.mem_append_right db.states (List.mem_singleton_self (newState problemId clock)))
      exact ⟨s, hs⟩

theorem ensureState_events (problemId : Uuid) (clock : Clock) (db : ProgressTables F) :
    (ensureState problemId clock db).events = db.events := by
  unfold ensureState
  split_ifs <;> rfl

/-- Events of a problem, and its row as `f` makes it. -/
theorem ProgressTables.Inv.append {row : ProblemState} (h : db.Inv)
    (hrow : db.state problemId = some row) {f : ProblemState → ProblemState}
    (hf : ∀ s, (f s).problemId = s.problemId) {events : List (ActivityEvent F)}
    (hevents : ∀ e ∈ events, e.problemId = problemId)
    (hfolds : FoldsTo (db.eventsOf problemId) row → FoldsTo (db.eventsOf problemId ++ events) (f row))
    (hkeys : ∀ key, (db.withKey key ++ events.filter fun e => e.idempotencyKey = some key).length ≤ 1) :
    ProgressTables.Inv ({ db with
      states := Tables.update ProblemState.problemId problemId f db.states
      events := db.events ++ events }) := by
  obtain ⟨hmem, hid⟩ := mem_ids_of_state hrow
  have hids : (Tables.update ProblemState.problemId problemId f db.states).map
      ProblemState.problemId = db.states.map ProblemState.problemId :=
    Tables.map_update fun s _ _ => hf s
  refine ⟨hids ▸ h.ids, fun s hs => ?_, fun e he => ?_, fun key => ?_⟩
  · show FoldsTo ((db.events ++ events).filter _) s
    rw [List.filter_append]
    rcases Tables.mem_update hs with ⟨hold, hne⟩ | ⟨s₀, hs₀, hkey, rfl⟩
    · have hnone : (events.filter fun e => e.problemId = s.problemId) = [] := by
        refine List.filter_eq_nil_iff.mpr fun e he heq => hne ?_
        exact (of_decide_eq_true heq).symm.trans (hevents e he)
      rw [hnone, List.append_nil]
      exact h.folds s hold
    · have hsame : s₀ = row :=
        List.inj_on_of_nodup_map h.ids hs₀ hmem (hkey.trans hid.symm)
      have hall : (events.filter fun e => e.problemId = problemId) = events :=
        List.filter_eq_self.mpr fun e he => decide_eq_true (hevents e he)
      rw [hf, hkey, hall, hsame]
      exact hfolds (hid ▸ h.folds row hmem)
  · show e.problemId ∈ (Tables.update _ _ f db.states).map _
    rw [hids]
    rcases List.mem_append.mp he with hold | hnew
    · exact h.owned e hold
    · rw [hevents e hnew, ← hid]
      exact List.mem_map_of_mem hmem
  · show ((db.events ++ events).filter _).length ≤ 1
    rw [List.filter_append]
    exact hkeys key

end Keep

/-! ## One request -/

/-- The event is the activity, on this problem. -/
structure ActivityInput.Names (event : ActivityInput F) (problemId : Uuid) (e : ActivityEvent F) :
    Prop where
  problem : e.problemId = problemId
  type : e.eventType = event.eventType
  language : e.language = event.language
  duration : e.durationSeconds = event.durationSeconds
  payload : e.payload = event.payload
  key : e.idempotencyKey = event.idempotencyKey

/-- The key of the request is new, or it was used for this activity. -/
def KeyFits (found : Option Uuid) (event : ActivityInput F) (db : ProgressTables F) : Prop :=
  ∀ problemId key, found = some problemId → event.idempotencyKey = some key →
    ∀ e ∈ db.withKey key, event.Names problemId e

/-- The log has the request's event for the problem that it named, and under
its key no other. -/
def RecordedOnce (found : Option Uuid) (event : ActivityInput F)
    (source target : ProgressTables F) : Prop :=
  ∃ problemId e, found = some problemId ∧ event.Names problemId e
    ∧ match event.idempotencyKey with
      | none => target.events = source.events ++ [e]
      | some key => target.withKey key = [e]

/-- What an answered request does. -/
structure ProgressKeeps (db db' : ProgressTables F) : Prop where
  inv : db'.Inv
  grows : db.events <+: db'.events

section Request

variable {found : Option Uuid} {event : ActivityInput F} {clock : Clock}
  {db db' : ProgressTables F} {a : ProblemState}

theorem problemIdTx_ok {problemId : Uuid} {db db' : ProgressTables F}
    (h : (problemIdTx found).runAlone db = .ok (db', problemId)) :
    db' = db ∧ found = some problemId := by
  cases found with
  | none => cases h
  | some id =>
      cases h
      exact ⟨rfl, rfl⟩

theorem appendActivity_ok {e : ActivityEvent F} {write : ProgressTables F → ProgressTables F}
    {inserted : Bool} (h : appendActivity e db = .ok (write, inserted)) :
    (inserted = true ∧ write db = { db with events := db.events ++ [e] }
        ∧ ∀ key, e.idempotencyKey = some key → db.withKey key = [])
      ∨ (inserted = false ∧ write db = db
        ∧ ∃ key, e.idempotencyKey = some key ∧ db.withKey key ≠ []) := by
  unfold appendActivity at h
  cases hkey : e.idempotencyKey with
  | none =>
      rw [hkey] at h
      cases h
      exact .inl ⟨rfl, rfl, fun _ h => nomatch h⟩
  | some key =>
      rw [hkey] at h
      dsimp only at h
      split_ifs at h with hnew
      · cases h
        refine .inl ⟨rfl, rfl, fun _ h => ?_⟩
        cases h
        exact hnew
      · cases h
        exact .inr ⟨rfl, rfl, key, rfl, hnew⟩

theorem applyEventProjection_ok {problemId : Uuid} {write : ProgressTables F → ProgressTables F}
    {u : Unit} (h : applyEventProjection problemId event clock db = .ok (write, u)) :
    write = ProgressTables.updateState problemId (ProblemState.project event clock) := by
  unfold applyEventProjection at h
  split_ifs at h
  cases h
  rfl

theorem record_ok (hdb : db.Inv)
    (h : (recordCandidateActivityTx found event clock).runAlone db = .ok (db', a)) :
    ProgressKeeps db db' ∧ (RecordedOnce found event db db' ↔ KeyFits found event db) := by
  obtain ⟨db₁, problemId, hproblem, hensure⟩ := Tx.bind_ok h
  obtain ⟨rfl, hfound⟩ := problemIdTx_ok hproblem
  obtain ⟨db₂, ⟨⟩, hwrite, happend⟩ := Tx.bind_ok hensure
  obtain rfl := Tx.write_ok hwrite
  obtain ⟨db₃, inserted, hinsert, hbehind⟩ := Tx.bind_ok happend
  obtain ⟨write, hquery, rfl⟩ := Tx.execute_ok hinsert
  obtain ⟨hensured, row, hrow⟩ := hdb.ensureState problemId clock
  have hevents := ensureState_events problemId clock db₁
  have hwithKey : ∀ key, (ensureState problemId clock db₁).withKey key = db₁.withKey key :=
    fun key => congrArg (List.filter _) hevents
  rcases appendActivity_ok hquery with ⟨rfl, hwrote, hnew⟩ | ⟨rfl, hwrote, key, hkey, hused⟩
  · rw [if_pos rfl] at hbehind
    obtain ⟨db₄, ⟨⟩, hproject, hread⟩ := Tx.bind_ok hbehind
    obtain ⟨write', hquery', rfl⟩ := Tx.execute_ok hproject
    obtain ⟨rfl, -⟩ := Tx.read_ok hread
    rw [applyEventProjection_ok hquery', hwrote]
    have hid : row.problemId = problemId := (mem_ids_of_state hrow).2
    have hnamed : ∀ e ∈ [event.toEvent problemId clock], e.problemId = problemId := by
      intro e he
      rw [List.mem_singleton.mp he]
      rfl
    have hinv := hensured.append hrow (f := ProblemState.project event clock) (fun _ => rfl) hnamed
      (fun hfolds => by
        have hproject := hfolds.project event clock
        rwa [hid] at hproject) (fun key => by
        by_cases hkey : (event.toEvent problemId clock).idempotencyKey = some key
        · rw [hnew key hkey, List.nil_append]
          exact List.length_filter_le _ _
        · rw [List.filter_cons_of_neg (by simpa using hkey), List.filter_nil, List.append_nil]
          exact hensured.keys key)
    refine ⟨⟨hinv, ⟨[_], by rw [← hevents]; rfl⟩⟩, iff_of_true ⟨problemId, event.toEvent problemId
      clock, hfound, ⟨rfl, rfl, rfl, rfl, rfl, rfl⟩, ?_⟩ ?_⟩
    · cases hkey : event.idempotencyKey with
      | none => exact congrArg (· ++ [_]) hevents
      | some key =>
          show ((ensureState problemId clock db₁).events ++ [_]).filter _ = _
          rw [List.filter_append]
          have hnone : List.filter (fun e => decide (e.idempotencyKey = some key))
            (ensureState problemId clock db₁).events = [] := hnew key hkey
          rw [hnone, List.nil_append]
          refine List.filter_eq_self.mpr fun e he => ?_
          rw [List.mem_singleton.mp he]
          exact decide_eq_true hkey
    · intro problemId' key _ hkey e he
      have hnone := hnew key hkey
      rw [hwithKey] at hnone
      rw [hnone] at he
      cases he
  · rw [if_neg Bool.false_ne_true] at hbehind
    obtain ⟨rfl, -⟩ := Tx.read_ok hbehind
    rw [hwrote]
    refine ⟨⟨hensured, by rw [hevents]⟩, ?_⟩
    have hkey' : event.idempotencyKey = some key := hkey
    rw [hwithKey] at hused
    unfold RecordedOnce KeyFits
    rw [hkey']
    dsimp only
    rw [hwithKey]
    constructor
    · rintro ⟨problemId', e, hfound', hnames, hevents'⟩ problemId'' key' hfound'' heq e' he'
      cases heq
      rw [hevents', List.mem_singleton] at he'
      cases hfound'.symm.trans hfound''
      exact he' ▸ hnames
    · intro hfits
      obtain ⟨e, he⟩ := List.exists_mem_of_ne_nil _ hused
      refine ⟨problemId, e, hfound, hfits problemId key hfound rfl e he, ?_⟩
      obtain ⟨e', heq⟩ := List.length_eq_one_iff.mp
        (Nat.le_antisymm (hdb.keys key) (List.length_pos_of_mem he))
      rw [heq, List.mem_singleton] at he
      rw [heq, he]

theorem patch_ok {update : CandidateProblemPatch} (hdb : db.Inv)
    (h : (patchCandidateProblemStateTx found update clock).runAlone db = .ok (db', a)) :
    ProgressKeeps db db' := by
  obtain ⟨db₁, problemId, hproblem, hensure⟩ := Tx.bind_ok h
  obtain ⟨rfl, -⟩ := problemIdTx_ok hproblem
  obtain ⟨db₂, ⟨⟩, hwrite, hpatch⟩ := Tx.bind_ok hensure
  obtain rfl := Tx.write_ok hwrite
  obtain ⟨db₃, ⟨⟩, hupdate, hbehind⟩ := Tx.bind_ok hpatch
  obtain ⟨write, hquery, rfl⟩ := Tx.execute_ok hupdate
  obtain ⟨db₄, ⟨⟩, hlog, hread⟩ := Tx.bind_ok hbehind
  obtain rfl := Tx.write_ok hlog
  obtain ⟨rfl, -⟩ := Tx.read_ok hread
  obtain ⟨hensured, row, hrow⟩ := hdb.ensureState problemId clock
  have hevents := ensureState_events problemId clock db₁
  unfold applyPatch at hquery
  split_ifs at hquery
  cases hquery
  have hcolumns : ∀ s : ProblemState, ∃ bookmarked revisionStatus privateNotes lastActivityAt
      updatedAt, (update.apply clock s).getD s = { s with
        bookmarked, revisionStatus, privateNotes, lastActivityAt, updatedAt } := by
    intro s
    cases happly : update.apply clock s with
    | none => exact ⟨s.bookmarked, s.revisionStatus, s.privateNotes, s.lastActivityAt, s.updatedAt, rfl⟩
    | some s' =>
        simp only [CandidateProblemPatch.apply, Option.bind_eq_bind, Option.bind_eq_some_iff,
          Option.pure_def, Option.some.injEq] at happly
        obtain ⟨bookmarked, -, revisionStatus, -, privateNotes, -, rfl⟩ := happly
        exact ⟨bookmarked, revisionStatus, privateNotes, clock.database, clock.database, rfl⟩
  refine ⟨hensured.append hrow (f := fun s => (update.apply clock s).getD s) (fun s => ?_)
    (fun e he => (silent_events update problemId clock e he).2.1) (fun hfolds => ?_)
    (fun key => ?_), ⟨_, by rw [← hevents]; rfl⟩⟩
  · obtain ⟨_, _, _, _, _, heq⟩ := hcolumns s
    rw [heq]
  · refine hfolds.silent (fun e he => (silent_events update problemId clock e he).1) ?_
    obtain ⟨_, _, _, _, _, heq⟩ := hcolumns row
    rw [heq]
  · have hnone : (update.events problemId clock : List (ActivityEvent F)).filter
        (fun e => decide (e.idempotencyKey = some key)) = [] := by
      refine List.filter_eq_nil_iff.mpr fun e he hkey => ?_
      rw [(silent_events update problemId clock e he).2.2] at hkey
      cases of_decide_eq_true hkey
    rw [hnone, List.append_nil]
    exact hensured.keys key

theorem get_ok (hdb : db.Inv)
    (h : (getCandidateProblemStateTx found clock).runAlone db = .ok (db', a)) :
    ProgressKeeps db db' := by
  obtain ⟨db₁, problemId, hproblem, hensure⟩ := Tx.bind_ok h
  obtain ⟨rfl, -⟩ := problemIdTx_ok hproblem
  obtain ⟨db₂, ⟨⟩, hwrite, hread⟩ := Tx.bind_ok hensure
  obtain rfl := Tx.write_ok hwrite
  obtain ⟨rfl, -⟩ := Tx.read_ok hread
  exact ⟨(hdb.ensureState problemId clock).1, by rw [ensureState_events]⟩

theorem progress_ok {r : ProgressRequest F} (hdb : db.Inv)
    (h : (progressProgram r).runAlone db = .ok (db', a)) : ProgressKeeps db db' := by
  cases r with
  | record candidate found event clock => exact (record_ok hdb h).1
  | patch candidate found update clock => exact patch_ok hdb h
  | get candidate found clock => exact get_ok hdb h

end Request

/-! ## Runs -/

/-- **Progress follows the log.** In every run of any candidates' requests the
rows of a candidate are the fold of the candidate's events, which are only
added to; and an answered activity is recorded once, for the problem it
named, exactly if its key was not used for another activity before. -/
theorem progress_follows_log
    {s t : SerialState (ProgressTables F) Uuid (ProgressRequest F) Failure ProblemState}
    {trace : SerialTrace (ProgressTables F) Uuid (ProgressRequest F) Failure ProblemState}
    (hrun : Run (SerialStep ProgressRequest.candidate progressProgram) s trace t)
    (hfree : ∀ candidate, s.holder candidate = none) (candidate : Uuid)
    (hempty : (s.store candidate).states = [] ∧ (s.store candidate).events = []) :
    (∀ row ∈ (t.store candidate).states, FoldsTo ((t.store candidate).eventsOf row.problemId) row)
      ∧ (∀ e ∈ (t.store candidate).events,
        ∃ row ∈ (t.store candidate).states, row.problemId = e.problemId)
      ∧ ∃ log : List (Taken (ProgressTables F) (ProgressRequest F × ProblemState)),
        log = trace.filterMap (answered ProgressRequest.candidate candidate)
          ∧ Run (Atomic progressProgram) (s.store candidate) log (t.store candidate)
          ∧ ∀ x ∈ log, x.source.events <+: x.target.events
            ∧ ∀ c found event clock, x.label.1 = .record c found event clock →
              (RecordedOnce found event x.source x.target ↔ KeyFits found event x.source) := by
  have hatomic := run_atomic hrun hfree candidate
  have hinit : (s.store candidate).Inv := by
    obtain ⟨hstates, hevents⟩ := hempty
    refine ⟨by rw [hstates]; exact List.nodup_nil, by rw [hstates]; simp, by rw [hevents]; simp,
      fun key => ?_⟩
    unfold ProgressTables.withKey
    rw [hevents]
    exact Nat.zero_le 1
  have hstep : ∀ x : Taken (ProgressTables F) (ProgressRequest F × ProblemState), x.source.Inv →
      Atomic progressProgram x.source x.label x.target → x.target.Inv :=
    fun x hx hstep => (progress_ok hx hstep).inv
  have hinv : (t.store candidate).Inv := hatomic.invariant hstep hinit
  refine ⟨hinv.folds, fun e he => List.mem_map.mp (hinv.owned e he), _, rfl, hatomic, ?_⟩
  refine hatomic.forall_taken hstep (fun x hx hanswer => ⟨(progress_ok hx hanswer).grows, ?_⟩) hinit
  intro c found event clock hlabel
  unfold Atomic at hanswer
  rw [hlabel] at hanswer
  exact (record_ok hx hanswer).2

/-! A candidate who uses one key for two problems. -/

def viewedOnce : ActivityInput Unit :=
  ⟨.problemViewed, none, 5, some "key-0001", [], by decide⟩

def noProgress : SerialState (ProgressTables Unit) Uuid (ProgressRequest Unit) Failure ProblemState :=
  ⟨fun _ => ⟨[], []⟩, fun _ => none⟩

def viewsTwoSum : ProgressRequest Unit := .record "ada" (some "two-sum") viewedOnce ⟨0, 0⟩

def viewsThreeSum : ProgressRequest Unit := .record "ada" (some "three-sum") viewedOnce ⟨1, 1⟩

/-- The first problem was viewed. -/
def viewedTwoSum : ProgressTables Unit :=
  ⟨[(newState "two-sum" ⟨0, 0⟩).project viewedOnce ⟨0, 0⟩],
    [viewedOnce.toEvent "two-sum" ⟨0, 0⟩]⟩

theorem viewsTwoSum_answered : ∃ a, Atomic progressProgram ⟨[], []⟩ (viewsTwoSum, a) viewedTwoSum :=
  ⟨_, rfl⟩

/-- A run that records one activity. -/
theorem progress_follows_log_viewed : ∃ t trace,
    Run (SerialStep ProgressRequest.candidate progressProgram) noProgress trace t
      ∧ t.store "ada" = viewedTwoSum
      ∧ ∀ row ∈ (t.store "ada").states, FoldsTo ((t.store "ada").eventsOf row.problemId) row := by
  obtain ⟨a, hanswered⟩ := viewsTwoSum_answered
  obtain ⟨trace, hrun, -⟩ := exists_run (s := noProgress) (r := viewsTwoSum) rfl hanswered
  refine ⟨_, trace, hrun, SerialState.leave_store noProgress viewsTwoSum.candidate viewedTwoSum, ?_⟩
  exact (progress_follows_log hrun (fun _ => rfl) "ada" ⟨rfl, rfl⟩).1

/-- The key is reused for another problem: the request is answered, and its
event is not in the log. -/
theorem reused_key_dropped : ∃ t trace,
    Run (SerialStep ProgressRequest.candidate progressProgram) noProgress trace t
      ∧ ∃ x ∈ trace.filterMap (answered ProgressRequest.candidate "ada"),
        x.label.1 = viewsThreeSum ∧ ∀ e ∈ x.target.events, e.problemId ≠ "three-sum" := by
  obtain ⟨a, hanswered⟩ := viewsTwoSum_answered
  have hagain : ∃ rows b, Atomic progressProgram viewedTwoSum (viewsThreeSum, b) rows
      ∧ rows.events = viewedTwoSum.events := ⟨_, _, rfl, rfl⟩
  obtain ⟨rows, b, hagain, hevents⟩ := hagain
  obtain ⟨trace, hrun, hlog⟩ := exists_run_atomic ProgressRequest.candidate "ada" (s := noProgress)
    (.cons hanswered (.cons hagain (.nil rows)))
    (fun x hx => by
      rcases List.mem_pair.mp hx with rfl | rfl <;> rfl) rfl rfl
  have hmem := hlog ▸ List.mem_cons_of_mem _ (List.mem_singleton_self _)
  refine ⟨_, trace, hrun, _, hmem, rfl, ?_⟩
  · show ∀ e ∈ rows.events, _
    rw [hevents]
    decide

end Rigor
