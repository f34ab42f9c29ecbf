import Rigor.QueueEvents

/-!
# Dead letters

`execution_dlq`: what the operator's tool makes of a message that the
controllers gave up on. A message is replayed or discarded by what the
database says of its execution, and held otherwise.
-/

namespace Rigor

open Py

variable {F : Type}

inductive DlqDisposition where
  | replay | discardTerminal | holdInProgress | holdUnknown | holdMalformed
  deriving DecidableEq

def DlqDisposition.value : DlqDisposition → Str
  | .replay => "REPLAY"
  | .discardTerminal => "DISCARD_TERMINAL"
  | .holdInProgress => "HOLD_IN_PROGRESS"
  | .holdUnknown => "HOLD_UNKNOWN"
  | .holdMalformed => "HOLD_MALFORMED"

structure DurableExecutionState where
  status : ExecutionStatus
  kubernetesJobName : Option Str
  deriving DecidableEq

structure DlqClassification where
  messageId : Str
  executionId : Option Uuid
  eventType : Option Str
  disposition : DlqDisposition
  reason : Str
  deriving DecidableEq

def classifyEvent : ExecutionQueueEvent → Option DurableExecutionState → DlqDisposition
  | _, none => .holdUnknown
  | .requested _, some state =>
      if state.status = .queued then .replay
      else if state.status = .dispatching ∨ state.status = .running then .holdInProgress
      else .discardTerminal
  | .cancelRequested _, some state =>
      if state.status = .cancelled ∧ state.kubernetesJobName.isSome then .replay
      else if state.status = .cancelled then .discardTerminal
      else if state.status = .queued ∨ state.status = .dispatching ∨ state.status = .running then
        .holdInProgress
      else .discardTerminal

/-- An empty text is no job name. -/
def jobName (e : Execution F) : Option Str := e.row.kubernetesJobName.filter (· ≠ [])

/-- `_load_state`. -/
def loadState (event : ExecutionQueueEvent) (db : Db F) : Option DurableExecutionState :=
  (db.execution event.executionId).map fun e => ⟨e.state, jobName e⟩

/-- `classify_message`, or nothing where the body is nested too deep: a
`RecursionError` ends the batch. -/
def classifyMessage [Runtime F] (readers : FieldReaders F) (messageId body : Str) (db : Db F) :
    Option DlqClassification :=
  match readEvent readers body with
  | .error e => e.className.map fun name =>
      ⟨messageId, none, none, .holdMalformed, "malformed:" ++ name⟩
  | .ok event =>
      let state := loadState event db
      some ⟨messageId, some event.executionId, some event.eventType, classifyEvent event state,
        match state with
        | some state => "database_state=" ++ state.status.value
        | none => "execution_not_found"⟩

/-! ## What a disposition says of the execution -/

/-- Nothing is left to do for the event. -/
def Execution.Over (event : ExecutionQueueEvent) (e : Execution F) : Prop :=
  e.state.IsTerminal
    ∧ ∀ cancelled, event = .cancelRequested cancelled → e.state = .cancelled → jobName e = none

theorem classifyEvent_discard {event : ExecutionQueueEvent} {e : Execution F}
    (h : classifyEvent event (some ⟨e.state, jobName e⟩) = .discardTerminal) : e.Over event := by
  cases event with
  | requested event =>
      unfold classifyEvent at h
      dsimp only at h
      split_ifs at h with hqueued hactive
      refine ⟨?_, fun _ heq => by cases heq⟩
      revert hqueued hactive
      cases e.state <;> decide
  | cancelRequested event =>
      unfold classifyEvent at h
      dsimp only at h
      split_ifs at h with hjob hcancelled hactive
      · refine ⟨by rw [hcancelled]; decide, fun _ _ _ => ?_⟩
        exact Option.not_isSome_iff_eq_none.mp fun hsome => hjob ⟨hcancelled, hsome⟩
      · refine ⟨?_, fun _ _ hstate => absurd hstate hcancelled⟩
        revert hcancelled hactive
        cases e.state <;> decide

theorem classifyEvent_replay_iff {event : ExecutionRequestedEvent} {e : Execution F} :
    classifyEvent (.requested event) (some ⟨e.state, jobName e⟩) = .replay ↔ e.state = .queued := by
  unfold classifyEvent
  dsimp only
  split_ifs with hqueued hactive
  · exact iff_of_true rfl hqueued
  · exact iff_of_false (fun h => by cases h) hqueued
  · exact iff_of_false (fun h => by cases h) hqueued

section

variable [Runtime F] {readers : FieldReaders F} {messageId body : Str} {db : Db F}

theorem classifyMessage_of_event {event : ExecutionQueueEvent} {e : Execution F}
    (hread : readEvent readers body = .ok event) (he : db.execution event.executionId = some e) :
    ∃ c, classifyMessage readers messageId body db = some c
      ∧ c.disposition = classifyEvent event (some ⟨e.state, jobName e⟩) := by
  unfold classifyMessage loadState
  rw [hread]
  dsimp only
  rw [he]
  exact ⟨_, rfl, rfl⟩

theorem classifyMessage_of_invalid (hread : readEvent readers body = .error .validation) :
    classifyMessage readers messageId body db
      = some ⟨messageId, none, none, .holdMalformed, "malformed:ValidationError"⟩ := by
  unfold classifyMessage
  rw [hread]
  rfl

/-- Only the message of an execution that is over is discarded. -/
theorem classifyMessage_discard {c : DlqClassification}
    (h : classifyMessage readers messageId body db = some c)
    (hdiscard : c.disposition = .discardTerminal) :
    ∃ event e, readEvent readers body = .ok event ∧ db.execution event.executionId = some e
      ∧ e.Over event := by
  unfold classifyMessage at h
  cases hread : readEvent readers body with
  | error failure =>
      rw [hread] at h
      obtain ⟨name, -, rfl⟩ := Option.map_eq_some_iff.mp h
      cases hdiscard
  | ok event =>
      rw [hread] at h
      cases h
      unfold loadState at hdiscard
      cases he : db.execution event.executionId with
      | none =>
          rw [he] at hdiscard
          cases event <;> cases hdiscard
      | some e =>
          rw [he] at hdiscard
          exact ⟨event, e, rfl, he, classifyEvent_discard hdiscard⟩

theorem classifyMessage_replay {c : DlqClassification}
    (h : classifyMessage readers messageId body db = some c) (hreplay : c.disposition = .replay) :
    ∃ event, readEvent readers body = .ok event := by
  unfold classifyMessage at h
  cases hread : readEvent readers body with
  | error failure =>
      rw [hread] at h
      obtain ⟨name, -, rfl⟩ := Option.map_eq_some_iff.mp h
      cases hreplay
  | ok event => exact ⟨event, rfl⟩

end

end Rigor
