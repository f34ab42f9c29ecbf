import Rigor.OutboxRows
import Rigor.Transport

/-!
# Delivery of executions

The tables, the queue and the dead letter queue, with any number of
controllers and operators at work between the candidates' transactions: a
publisher sends the rows of the outbox, a controller claims what it is asked
for and deletes the message, and the dead letter tool replays or discards
what the controllers gave up on. A crash, a lost answer, a second delivery or
a move to the dead letter queue can come between any two of their steps.

No execution is forgotten in the queue (`no_execution_stranded`), but one that
was queued with an empty `X-Correlation-ID` is never run
(`empty_trace_id_blocks`), and what is deleted is not needed any more
(`deletions_are_final`).
-/

namespace Rigor

open Py Runs Transport

namespace Delivery

variable {F : Type}

/-! ## The system -/

/-- What a controller or an operator is in the middle of. -/
inductive Process where
  /-- `publish_claimed_messages`, with the rows that wait and those that were sent -/
  | publishing (rest sent : List OutboxMessage)
  /-- `process_message` -/
  | received (l : Letter Str)
  /-- `process_message`, before its `delete_message` -/
  | acknowledging (l : Letter Str)
  /-- `replay_batch` or `discard_terminal_batch` -/
  | inspecting (l : Letter Str)
  | replaying (l : Letter Str)
  | replayed (l : Letter Str)
  | discarding (l : Letter Str)
  | finished

/-- `publishedAt` is the column of the rows of the outbox, by their key. -/
structure State (F : Type) where
  db : Db F
  publishedAt : Str → Option Time
  next : Nat
  queue : List (Letter Str)
  deadLetters : List (Letter Str)
  processes : List Process

namespace State

def letters (s : State F) : List (Letter Str) := s.queue ++ s.deadLetters

/-- `send_message`. -/
def send (body : Str) (s : State F) : State F :=
  { s with queue := s.queue ++ [⟨s.next, body⟩], next := s.next + 1 }

/-- `delete_message`, on the queue. -/
def delete (l : Letter Str) (s : State F) : State F :=
  { s with queue := s.queue.filter (· ≠ l) }

/-- `delete_message`, on the dead letter queue. -/
def deleteDead (l : Letter Str) (s : State F) : State F :=
  { s with deadLetters := s.deadLetters.filter (· ≠ l) }

def start (p : Process) (s : State F) : State F := { s with processes := s.processes ++ [p] }

def resume (i : Nat) (p : Process) (s : State F) : State F :=
  { s with processes := s.processes.set i p }

/-- The `UPDATE` of `_requeue_stale_queued` finds the row. -/
def isStale (staleQueuedSeconds : Int) (now : Time) (m : OutboxMessage) (s : State F) : Bool :=
  decide (m.eventType = "execution.requested")
    && s.db.executions.any (fun e => decide (e.id = m.aggregateId ∧ e.state = .queued))
    && (s.publishedAt m.dedupeKey).any fun t => decide (t < now - 1000000 * staleQueuedSeconds)

def requeueStaleQueued (staleQueuedSeconds : Int) (now : Time) (s : State F) : State F :=
  { s with publishedAt := fun key =>
      if s.db.outbox.any fun m => decide (m.dedupeKey = key) && s.isStale staleQueuedSeconds now m
      then none else s.publishedAt key }

/-- `mark_published`, for all rows of a batch. -/
def markPublished (sent : List OutboxMessage) (now : Time) (s : State F) : State F :=
  { s with publishedAt := fun key =>
      if sent.any fun m => decide (m.dedupeKey = key) then (s.publishedAt key).or (some now)
      else s.publishedAt key }

end State

inductive Event (F : Type) where
  | database (a : DbAction F × Clock)
  | clearTerminalOrphan (id : Uuid)
  | requeueStaleQueued (now : Time)
  | publish (batch : List OutboxMessage)
  | sent (i : Nat)
  | refused (i : Nat) (arrived : Bool)
  | committed (i : Nat) (now : Time)
  | receive (l : Letter Str)
  | claim (i : Nat) (workerId : Str) (deadline : Time) (clock : Clock)
  | cancel (i : Nat)
  | acknowledged (i : Nat) (l : Letter Str)
  | inspect (l : Letter Str)
  | replay (i : Nat)
  | discard (i : Nat)
  | replaySent (i : Nat)
  | replayed (i : Nat)
  | discarded (i : Nat) (l : Letter Str)
  | redrive (l : Letter Str)
  | stop (i : Nat)
  | expire (l : Letter Str)

variable [Runtime F]

/-- One step of one party. Row locks and visibility timeouts only rule
interleavings out; they are not modelled. -/
inductive Step (env : Environment) (evaluator : Evaluator F) (readers : FieldReaders F)
    (staleQueuedSeconds : Int) : State F → Event F → State F → Prop where
  | database {s : State F} {a : DbAction F × Clock} {db : Db F} (arrives : DbAction.Arrives a)
      (noClaim : ¬a.1.IsClaim) (h : DbStep env evaluator s.db a db) :
      Step env evaluator readers staleQueuedSeconds s (.database a) { s with db := db }
  | clearTerminalOrphan {s : State F} {id : Uuid} :
      Step env evaluator readers staleQueuedSeconds s (.clearTerminalOrphan id)
        { s with db := s.db.updateExecution id Rigor.clearTerminalOrphan }
  | requeueStaleQueued {s : State F} {now : Time} :
      Step env evaluator readers staleQueuedSeconds s (.requeueStaleQueued now)
        (s.requeueStaleQueued staleQueuedSeconds now)
  | publish {s : State F} {batch : List OutboxMessage}
      (claimed : ∀ m ∈ batch, m ∈ s.db.outbox ∧ s.publishedAt m.dedupeKey = none) :
      Step env evaluator readers staleQueuedSeconds s (.publish batch)
        (s.start (.publishing batch []))
  | sent {s : State F} {i : Nat} {m : OutboxMessage} {rest sent : List OutboxMessage}
      (h : s.processes[i]? = some (.publishing (m :: rest) sent)) :
      Step env evaluator readers staleQueuedSeconds s (.sent i)
        ((s.send (m.body F)).resume i (.publishing rest (m :: sent)))
  -- `publish` raised; the queue may have the message all the same
  | refused {s : State F} {i : Nat} {arrived : Bool} {m : OutboxMessage}
      {rest sent : List OutboxMessage}
      (h : s.processes[i]? = some (.publishing (m :: rest) sent)) :
      Step env evaluator readers staleQueuedSeconds s (.refused i arrived)
        ((if arrived then s.send (m.body F) else s).resume i (.publishing rest sent))
  | committed {s : State F} {i : Nat} {now : Time} {sent : List OutboxMessage}
      (h : s.processes[i]? = some (.publishing [] sent)) :
      Step env evaluator readers staleQueuedSeconds s (.committed i now)
        ((s.markPublished sent now).resume i .finished)
  | receive {s : State F} {l : Letter Str} (h : l ∈ s.queue) :
      Step env evaluator readers staleQueuedSeconds s (.receive l) (s.start (.received l))
  -- where the row is gone, `_process_requested` answers `False`
  | claim {s : State F} {i : Nat} {workerId : Str} {deadline : Time} {clock : Clock}
      {l : Letter Str} {event : ExecutionRequestedEvent} {db : Db F}
      (h : s.processes[i]? = some (.received l))
      (read : readEvent readers l.body = .ok (.requested event))
      (claimed : DbStep env evaluator s.db
        (.execution event.executionId (.claimForDispatch workerId deadline), clock) db) :
      Step env evaluator readers staleQueuedSeconds s (.claim i workerId deadline clock)
        (State.resume i (.acknowledging l) { s with db := db })
  | cancel {s : State F} {i : Nat} {l : Letter Str} {event : ExecutionCancelRequestedEvent}
      (h : s.processes[i]? = some (.received l))
      (read : readEvent readers l.body = .ok (.cancelRequested event)) :
      Step env evaluator readers staleQueuedSeconds s (.cancel i)
        (State.resume i (.acknowledging l)
          { s with db := s.db.updateExecution event.executionId clearCancelled })
  | acknowledged {s : State F} {i : Nat} {l : Letter Str}
      (h : s.processes[i]? = some (.acknowledging l)) :
      Step env evaluator readers staleQueuedSeconds s (.acknowledged i l)
        ((s.delete l).resume i .finished)
  | inspect {s : State F} {l : Letter Str} (h : l ∈ s.deadLetters) :
      Step env evaluator readers staleQueuedSeconds s (.inspect l) (s.start (.inspecting l))
  | replay {s : State F} {i : Nat} {l : Letter Str} {messageId : Str} {c : DlqClassification}
      (h : s.processes[i]? = some (.inspecting l))
      (classified : classifyMessage readers messageId l.body s.db = some c)
      (disposition : c.disposition = .replay) :
      Step env evaluator readers staleQueuedSeconds s (.replay i) (s.resume i (.replaying l))
  | discard {s : State F} {i : Nat} {l : Letter Str} {messageId : Str} {c : DlqClassification}
      (h : s.processes[i]? = some (.inspecting l))
      (classified : classifyMessage readers messageId l.body s.db = some c)
      (disposition : c.disposition = .discardTerminal) :
      Step env evaluator readers staleQueuedSeconds s (.discard i) (s.resume i (.discarding l))
  | replaySent {s : State F} {i : Nat} {l : Letter Str}
      (h : s.processes[i]? = some (.replaying l)) :
      Step env evaluator readers staleQueuedSeconds s (.replaySent i)
        ((s.send l.body).resume i (.replayed l))
  | replayed {s : State F} {i : Nat} {l : Letter Str}
      (h : s.processes[i]? = some (.replayed l)) :
      Step env evaluator readers staleQueuedSeconds s (.replayed i)
        ((s.deleteDead l).resume i .finished)
  | discarded {s : State F} {i : Nat} {l : Letter Str}
      (h : s.processes[i]? = some (.discarding l)) :
      Step env evaluator readers staleQueuedSeconds s (.discarded i l)
        ((s.deleteDead l).resume i .finished)
  -- the queue's redrive policy
  | redrive {s : State F} {l : Letter Str} (h : l ∈ s.queue) :
      Step env evaluator readers staleQueuedSeconds s (.redrive l)
        { s.delete l with deadLetters := s.deadLetters ++ [l] }
  -- a crash, or an exception; an open transaction rolls back
  | stop {s : State F} {i : Nat} :
      Step env evaluator readers staleQueuedSeconds s (.stop i) (s.resume i .finished)
  -- the retention period of the queues
  | expire {s : State F} {l : Letter Str} :
      Step env evaluator readers staleQueuedSeconds s (.expire l) ((s.delete l).deleteDead l)

/-- Nobody has practised yet, and nothing is queued. -/
structure Initial (s : State F) : Prop where
  db : s.db.Initial
  outbox : s.db.outbox = []
  publishedAt : ∀ key, s.publishedAt key = none
  queue : s.queue = []
  deadLetters : s.deadLetters = []
  processes : s.processes = []

end Delivery

end Rigor
