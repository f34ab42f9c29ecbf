import Rigor.PyJson

/-!
# The execution state machine

`execution_domain.py`: the states of an execution, the legal transitions
between them, and what the functions of the API and of the controller
raise.
-/

namespace Rigor

open Py

/-- The canonical text of a UUID. -/
abbrev Uuid := Str

/-- An aware `datetime`, in microseconds. -/
abbrev Time := Int

/-- The entries of a `dict`. -/
abbrev Dict (F : Type) := List (Str × Json F)

inductive ExecutionStatus where
  | queued | dispatching | running | completed | failed | timeout | cancelled
  deriving DecidableEq

def ExecutionStatus.value : ExecutionStatus → Str
  | .queued => "QUEUED"
  | .dispatching => "DISPATCHING"
  | .running => "RUNNING"
  | .completed => "COMPLETED"
  | .failed => "FAILED"
  | .timeout => "TIMEOUT"
  | .cancelled => "CANCELLED"

inductive ExecutionType where
  | run | submit
  deriving DecidableEq

def ExecutionType.value : ExecutionType → Str
  | .run => "RUN"
  | .submit => "SUBMIT"

def terminalExecutionStatuses : List ExecutionStatus := [.completed, .failed, .timeout, .cancelled]

def legalExecutionTransitions : ExecutionStatus → List ExecutionStatus
  | .queued => [.dispatching, .cancelled]
  | .dispatching => [.running, .failed, .cancelled]
  | .running => [.completed, .failed, .timeout, .cancelled]
  | .completed => []
  | .failed => []
  | .timeout => []
  | .cancelled => []

/-- What the functions of the API and of the controller raise. -/
inductive Failure where
  /-- `ValueError` -/
  | value (message : Str)
  /-- `ExecutionTransitionError` -/
  | transition (message : Str)
  /-- `ExecutionNotFoundError` -/
  | notFound (executionId : Uuid)
  /-- `IdempotencyConflictError` -/
  | conflict (message : Str)
  /-- `PracticeSessionNotFoundError` -/
  | sessionNotFound
  /-- `PracticeStateTransitionError` -/
  | practiceTransition (message : Str)
  /-- `TrustedResultError` -/
  | trusted (message : Str)
  /-- `HTTPException` -/
  | http (status : Nat) (detail : Str)
  /-- a constraint of the database -/
  | integrity (constraint : Str)
  /-- `RuntimeError` -/
  | runtime (message : Str)

def validateExecutionTransition (current target : ExecutionStatus) : Except Failure Unit :=
  if target ∈ legalExecutionTransitions current then .ok ()
  else .error (.transition
    ("Illegal execution transition: " ++ (current.value ++ (" -> " ++ target.value : Str))))

abbrev ExecutionStatus.IsTerminal (s : ExecutionStatus) : Prop := s ∈ terminalExecutionStatuses

/-- `DISPATCHING` or `RUNNING`: a worker may hold the execution. -/
abbrev ExecutionStatus.IsActive (s : ExecutionStatus) : Prop :=
  s = .dispatching ∨ s = .running

theorem ExecutionStatus.IsActive.not_terminal {s : ExecutionStatus} (h : s.IsActive) :
    ¬s.IsTerminal := by
  rcases h with rfl | rfl <;> decide

theorem queued_not_terminal : ¬ExecutionStatus.queued.IsTerminal := by decide

/-- A terminal state has no way out. -/
theorem not_terminal_of_legal {current target : ExecutionStatus}
    (h : target ∈ legalExecutionTransitions current) : ¬current.IsTerminal := by
  cases current <;> first | decide | cases h

/-- Nothing returns to the queue. -/
theorem queued_not_legal (current : ExecutionStatus) :
    ExecutionStatus.queued ∉ legalExecutionTransitions current := by
  cases current <;> decide

theorem validateExecutionTransition_ok {current target : ExecutionStatus}
    (h : validateExecutionTransition current target = .ok ()) :
    target ∈ legalExecutionTransitions current := by
  rw [validateExecutionTransition] at h
  split_ifs at h with hlegal
  exact hlegal

end Rigor
