import Rigor.ObservationStorage
import Rigor.PythonParity

/-!
# The Vercel dispatch

`dispatch_vercel_execution`: an execution is claimed, run by a chain of
HTTP calls, marked running, graded and stored, under one lease that is
never renewed. Every call of the service answers or fails within its own
timeout; candidates cancel, and other workers take over, at any point
between the transactions. The main result says exactly when the row is
terminal at the end (`dispatch_settled_iff`); a lease that outlasts the
budget of the calls is enough (`inTime_of_budget`), and the default one does
not (`sqlBudget_bounds`).
-/

namespace Rigor

open Py

variable {F : Type}

/-- What leaves a call, or the dispatch. -/
inductive DispatchFailure where
  /-- `VercelSandboxError` -/
  | vercelSandbox (message : Str)
  /-- what the sandbox request, the parser and the grading raise -/
  | grading (e : GradingFailure)
  /-- another `ValueError` -/
  | value
  /-- `RecursionError` -/
  | recursion
  /-- what the HTTP client and its socket raise besides `URLError` and `TimeoutError` -/
  | transport
  /-- an error of the database -/
  | database

/-- `json.loads` raises a `ValueError` unless the text nests too deeply. -/
def IsValueError (e : LoadError) : Prop := e ≠ .recursion

instance : DecidablePred IsValueError := fun _ => inferInstanceAs (Decidable (_ ≠ _))

/-- `except (VercelSandboxError, TrustedResultError, ValueError)`. -/
def DispatchFailure.IsCaught : DispatchFailure → Prop
  | .vercelSandbox _ => True
  | .grading (.runner (.trusted _)) => True
  | .grading (.runner (.load e)) => IsValueError e
  | .grading _ => False
  | .value => True
  | _ => False

instance : DecidablePred DispatchFailure.IsCaught := fun e => by
  unfold DispatchFailure.IsCaught
  split
  · infer_instance
  · infer_instance
  · infer_instance
  · infer_instance
  · infer_instance
  · infer_instance

/-! ## Calls of the service -/

/-- The body of an answer: its length, its text as `json.loads` decodes the
bytes, if they decode, and its text with replacement characters. -/
structure HttpBody where
  size : Nat
  json : Option Str
  text : Str

inductive HttpAnswer where
  | body (body : HttpBody)
  /-- `HTTPError` -/
  | status (code : Nat) (detail : Str)
  /-- `URLError`, `TimeoutError` -/
  | unreachable
  /-- the connection is lost, or is not HTTP -/
  | broken

/-- What the service does with a call, after a number of microseconds. -/
structure HttpResponse where
  delay : Nat
  answer : HttpAnswer

/-- The calls made so far, the time they took and the sum of their timeouts. -/
structure Wire where
  calls : Nat
  elapsed : Nat
  timeouts : Nat

def Wire.start : Wire := ⟨0, 0, 0⟩

def Wire.after (timeout spent : Nat) (w : Wire) : Wire :=
  ⟨w.calls + 1, w.elapsed + spent, w.timeouts + timeout⟩

/-- A function that calls the service. -/
def Calls (α : Type) : Type := (Nat → HttpResponse) → Wire → Except DispatchFailure α × Wire

namespace Calls

instance : Monad Calls where
  pure a := fun _ w => (.ok a, w)
  bind c f := fun service w =>
    match c service w with
    | (.ok a, w) => f a service w
    | (.error e, w) => (.error e, w)

theorem bind_ok {α β : Type} {c : Calls α} {f : α → Calls β} {service : Nat → HttpResponse}
    {w v : Wire} {a : α} (h : c service w = (.ok a, v)) : (c >>= f) service w = f a service v := by
  show (match c service w with
    | (.ok a, w) => f a service w
    | (.error e, w) => (.error e, w)) = _
  rw [h]

def raise {α : Type} (e : DispatchFailure) : Calls α := fun _ w => (.error e, w)

/-- `try: … finally: …`. -/
def andFinally {α : Type} (c : Calls α) (last : Calls Unit) : Calls α := fun service w =>
  match c service w with
  | (result, w) =>
      match last service w with
      | (.ok _, w) => (result, w)
      | (.error e, w) => (.error e, w)

/-- `except VercelSandboxError: logger.warning(…)`. -/
def warned (c : Calls Unit) : Calls Unit := fun service w =>
  match c service w with
  | (.error (.vercelSandbox _), w) => (.ok (), w)
  | other => other

/-- The calls of `c` have timeouts of at most `budget` together, and take no longer. -/
def Within {α : Type} (c : Calls α) (budget : Nat) : Prop :=
  ∀ service w, (c service w).2.timeouts ≤ w.timeouts + budget
    ∧ (c service w).2.elapsed + w.timeouts ≤ w.elapsed + (c service w).2.timeouts

section Within

variable {α β : Type} {c : Calls α} {n m : Nat}

theorem Within.pure (a : α) : Within (pure a : Calls α) n :=
  fun _ _ => ⟨Nat.le_add_right _ _, Nat.le_refl _⟩

theorem Within.raise (e : DispatchFailure) : Within (raise e : Calls α) n :=
  fun _ _ => ⟨Nat.le_add_right _ _, Nat.le_refl _⟩

theorem Within.mono (h : c.Within n) (hle : n ≤ m) : c.Within m := by
  intro service w
  obtain ⟨htimeouts, helapsed⟩ := h service w
  exact ⟨by omega, helapsed⟩

theorem Within.bind {f : α → Calls β} (hc : c.Within n) (hf : ∀ a, (f a).Within m) :
    (c >>= f).Within (n + m) := by
  intro service w
  obtain ⟨htimeouts, helapsed⟩ := hc service w
  show (match c service w with
    | (.ok a, w) => f a service w
    | (.error e, w) => (.error e, w)).2.timeouts ≤ _ ∧ (match c service w with
    | (.ok a, w) => f a service w
    | (.error e, w) => (.error e, w)).2.elapsed + _ ≤ _ + (match c service w with
    | (.ok a, w) => f a service w
    | (.error e, w) => (.error e, w)).2.timeouts
  rcases hcall : c service w with ⟨_ | a, w'⟩
  · rw [hcall] at htimeouts helapsed
    exact ⟨by dsimp only at *; omega, helapsed⟩
  · rw [hcall] at htimeouts helapsed
    obtain ⟨htimeouts', helapsed'⟩ := hf a service w'
    dsimp only at *
    exact ⟨by omega, by omega⟩

theorem Within.andFinally {last : Calls Unit} (hc : c.Within n) (hlast : last.Within m) :
    (c.andFinally last).Within (n + m) := by
  intro service w
  obtain ⟨htimeouts, helapsed⟩ := hc service w
  unfold Calls.andFinally
  rcases hcall : c service w with ⟨result, w'⟩
  rw [hcall] at htimeouts helapsed
  obtain ⟨htimeouts', helapsed'⟩ := hlast service w'
  dsimp only at *
  rcases hstop : last service w' with ⟨_ | _, w''⟩
  · rw [hstop] at htimeouts' helapsed'
    dsimp only at *
    exact ⟨by omega, by omega⟩
  · rw [hstop] at htimeouts' helapsed'
    dsimp only at *
    exact ⟨by omega, by omega⟩

theorem Within.warned {c : Calls Unit} (hc : c.Within n) : c.warned.Within n := by
  intro service w
  have h := hc service w
  unfold Calls.warned
  rcases hcall : c service w with ⟨result, w'⟩
  rw [hcall] at h
  split
  · rename_i heq
    cases heq
    exact h
  · exact h

end Within

end Calls

/-! ## `VercelSandboxClient` -/

def maxResponseBytes : Nat := 512 * 1024

/-- A number of seconds, in microseconds. -/
def seconds (n : Nat) : Nat := n * 1000000

/-- `_request`. -/
def request (timeout : Nat) : Calls HttpBody := fun service w =>
  let response := service w.calls
  if timeout < response.delay then
    (.error (.vercelSandbox "Vercel Sandbox API is unreachable."), w.after timeout timeout)
  else
    (match response.answer with
      | .body body =>
          if body.size > maxResponseBytes then
            .error (.vercelSandbox "Vercel Sandbox API response exceeded the transport limit.")
          else .ok body
      | .status code detail =>
          .error (.vercelSandbox ("Vercel Sandbox API returned HTTP "
            ++ (natText code ++ (": " ++ detail.take 500))))
      | .unreachable => .error (.vercelSandbox "Vercel Sandbox API is unreachable.")
      | .broken => .error .transport,
     w.after timeout response.delay)

theorem request_within (timeout : Nat) : (request timeout).Within timeout := by
  intro service w
  unfold request
  dsimp only
  split_ifs with hlate
  · exact ⟨Nat.le_refl _, by dsimp only [Wire.after]; omega⟩
  · exact ⟨Nat.le_refl _, by dsimp only [Wire.after]; omega⟩

/-- The session of the answer of `create`. -/
def sessionId (response : Dict F) : Calls Str :=
  match Json.get "session" response with
  | .obj session =>
      match Json.get "id" session with
      | .str id =>
          if id = [] then
            .raise (.vercelSandbox "Vercel Sandbox creation returned no session id.")
          else pure id
      | _ => .raise (.vercelSandbox "Vercel Sandbox creation returned no session id.")
  | _ => .raise (.vercelSandbox "Vercel Sandbox creation returned no session.")

theorem sessionId_within (response : Dict F) : (sessionId response).Within 0 := by
  unfold sessionId
  split
  · split
    · split_ifs
      · exact .raise _
      · exact .pure _
    · exact .raise _
  · exact .raise _

section Client

variable [Runtime F]

/-- The object that a body holds: `_json_request` reads an empty body as `{}`. -/
def decodeObject (body : HttpBody) : Calls (Dict F) :=
  match if body.size = 0 then some (Str.ofString "\x7b\x7d") else body.json with
  | none => .raise .value
  | some text =>
      match loads text with
      | .error .decode => .raise (.vercelSandbox "Vercel Sandbox API returned invalid JSON.")
      | .error .intDigits => .raise .value
      | .error .recursion => .raise .recursion
      | .ok (.obj decoded) => pure decoded
      | .ok _ => .raise (.vercelSandbox "Vercel Sandbox API returned an invalid object.")

/-- `_json_request`. -/
def jsonRequest (F : Type) [Runtime F] (timeout : Nat) : Calls (Dict F) := do
  let body ← request timeout
  decodeObject body

def create (F : Type) [Runtime F] : Calls Str := do
  let response ← jsonRequest F (seconds 30)
  sessionId response

def updateNetworkPolicy (F : Type) [Runtime F] : Calls Unit := do
  let _ ← jsonRequest F (seconds 15)
  pure ()

/-- `upload_files` of the runner and of a request, which has to be encoded. -/
def uploadFiles (payload : Dict F) : Calls Unit := do
  if isEncodable (Json.obj payload).encode then
    let _ ← request (seconds 30)
    pure ()
  else .raise .value

/-- What one frame tells of the exit code; `int` reads a text. -/
def frameCode (int : Str → Option Int) : Json F → Option Int
  | .obj frame =>
      match Json.get "command" frame with
      | .obj command =>
          match Json.get "exitCode" command with
          | .int value => some value
          | .str value => int value
          | _ => none
      | _ => none
  | _ => none

/-- The frames of the lines that are JSON. -/
def readFrames : List Str → Calls (List (Json F))
  | [] => pure []
  | line :: rest =>
      match loads line with
      | .error .decode => readFrames rest
      | .error .intDigits => .raise .value
      | .error .recursion => .raise .recursion
      | .ok frame => do
          let frames ← readFrames rest
          pure (frame :: frames)

/-- All of the text is one frame, where no line is. -/
def wholeFrame (text : Str) : List (Json F) → Calls (List (Json F))
  | [] =>
      match loads text with
      | .error .decode =>
          .raise (.vercelSandbox "Vercel Sandbox command returned invalid completion data.")
      | .error .intDigits => .raise .value
      | .error .recursion => .raise .recursion
      | .ok frame => pure [frame]
  | frames => pure frames

/-- `_command_exit_code`. -/
def commandExitCode (F : Type) [Runtime F] (int : Str → Option Int) (raw : Str) : Calls Int := do
  let text := strip raw
  if text = [] then
    .raise (.vercelSandbox "Vercel Sandbox command returned no completion status.")
  else
    let lines ← readFrames (F := F) (splitlines text)
    let frames ← wholeFrame text lines
    match (frames.filterMap (frameCode int)).getLast? with
    | none => .raise (.vercelSandbox "Vercel Sandbox command did not expose a terminal exit code.")
    | some code => pure code

/-- `max(30.0, timeout_ms / 1000 + 15)`. -/
def executeTimeout (timeoutMs : Int) : Nat := max (seconds 30) (timeoutMs * 1000 + 15000000).toNat

def execute (F : Type) [Runtime F] (int : Str → Option Int) (timeoutMs : Int) : Calls Unit := do
  let raw ← request (executeTimeout timeoutMs)
  let exitCode ← commandExitCode F int raw.text
  if exitCode ≠ 0 then
    .raise (.vercelSandbox ("Vercel Sandbox command failed with exit code "
      ++ (intText exitCode ++ ("." : Str))))
  else pure ()

def readFile : Calls Str := do
  let body ← request (seconds 15)
  pure body.text

def stop (F : Type) [Runtime F] : Calls Unit :=
  .warned do
    let _ ← jsonRequest F (seconds 15)
    pure ()

/-- `_positive_limit`. -/
def positiveLimit (int : Str → Option Int) (limits : Dict F) (key : Str) (default : Int) : Int :=
  match Json.get key limits with
  | .int value => if value > 0 then value else default
  | .str value =>
      match int value with
      | none => default
      | some parsed => if parsed > 0 then parsed else default
  | _ => default

def executionTimeoutSeconds (int : Str → Option Int) (package : DispatchPackage F) : Int :=
  positiveLimit int package.limits "execution_timeout_seconds" 10

def runPython (int : Str → Option Int) (package : DispatchPackage F) (payload : Dict F) :
    Calls Str := do
  let _ ← create F
  .andFinally
    (do
      uploadFiles (VercelPython.requestPayload package payload)
      execute F int ((executionTimeoutSeconds int package + 8) * 1000)
      readFile)
    (stop F)

/-- `min(45_000, max(10_000, statement_ms * 2 + 5000))`. -/
def commandTimeout (statementMs : Int) : Int := min 45000 (max 10000 (statementMs * 2 + 5000))

def runSql (int : Str → Option Int) (payload : Dict F) : Calls Str :=
  match Json.get "statement_timeout_ms" payload with
  | .int statementMs => do
      let _ ← create F
      .andFinally
        (do
          -- the bootstrap, before the network closes
          execute F int 120000
          updateNetworkPolicy F
          uploadFiles payload
          execute F int (commandTimeout statementMs)
          readFile)
        (stop F)
  | _ => .raise (.vercelSandbox "SQL statement timeout is unavailable.")

/-- `discover`, `sandbox_request` and the calls: the log of the runner. -/
def sandboxLogs (token projectId : Str) (int : Str → Option Int) (package : DispatchPackage F) :
    Calls Str :=
  match sandboxRequest package with
  | .error e => .raise (.grading (.runner e))
  | .ok payload =>
      if token = [] then
        .raise (.vercelSandbox
          "Vercel Sandbox authentication is unavailable; VERCEL_OIDC_TOKEN is missing.")
      else if projectId = [] then
        .raise (.vercelSandbox
          "Vercel Sandbox project scope is unavailable; VERCEL_PROJECT_ID is missing.")
      else if package.language = "python" then runPython int package payload
      else if package.language = "sql" then runSql int payload
      else .raise (.vercelSandbox "Execution language is unsupported by Vercel Sandbox.")

/-! ## The sum of the timeouts -/

section Budget

variable (int : Str → Option Int)

theorem decodeObject_within (body : HttpBody) : (decodeObject (F := F) body).Within 0 := by
  unfold decodeObject
  split
  · exact .raise _
  · split
    · exact .raise _
    · exact .raise _
    · exact .raise _
    · exact .pure _
    · exact .raise _

theorem jsonRequest_within (timeout : Nat) : (jsonRequest F timeout).Within timeout :=
  (request_within timeout).bind fun body => decodeObject_within body

theorem create_within : (create F).Within (seconds 30) :=
  (jsonRequest_within (seconds 30)).bind fun response => sessionId_within response

theorem updateNetworkPolicy_within : (updateNetworkPolicy F).Within (seconds 15) :=
  (jsonRequest_within (F := F) (seconds 15)).bind fun _ => .pure (n := 0) _

theorem uploadFiles_within (payload : Dict F) : (uploadFiles payload).Within (seconds 30) := by
  unfold uploadFiles
  split_ifs
  · exact (request_within (seconds 30)).bind fun _ => .pure (n := 0) _
  · exact .raise _

theorem readFrames_within : ∀ lines, (readFrames (F := F) lines).Within 0
  | [] => .pure _
  | line :: rest => by
      unfold readFrames
      split
      · exact readFrames_within rest
      · exact .raise _
      · exact .raise _
      · exact (readFrames_within rest).bind fun _ => .pure (n := 0) _

theorem commandExitCode_within (raw : Str) : (commandExitCode F int raw).Within 0 := by
  unfold commandExitCode
  dsimp only
  split_ifs
  · exact .raise _
  · refine (readFrames_within _).bind (m := 0) fun lines => ?_
    refine Calls.Within.bind (n := 0) (m := 0) ?_ fun frames => ?_
    · unfold wholeFrame
      split
      · split
        · exact .raise _
        · exact .raise _
        · exact .raise _
        · exact .pure _
      · exact .pure _
    · split
      · exact .raise _
      · exact .pure _

theorem execute_within (timeoutMs : Int) :
    (execute F int timeoutMs).Within (executeTimeout timeoutMs) := by
  refine (request_within _).bind (m := 0) fun raw => ?_
  refine (commandExitCode_within int raw.text).bind (m := 0) fun exitCode => ?_
  split_ifs
  · exact .raise _
  · exact .pure _

theorem readFile_within : readFile.Within (seconds 15) :=
  (request_within (seconds 15)).bind fun _ => .pure (n := 0) _

theorem stop_within : (stop F).Within (seconds 15) :=
  .warned ((jsonRequest_within (F := F) (seconds 15)).bind fun _ => .pure (n := 0) _)

/-- Creating, uploading, running, reading and stopping. -/
def pythonBudget (package : DispatchPackage F) : Nat :=
  seconds 90 + executeTimeout ((executionTimeoutSeconds int package + 8) * 1000)

/-- The same with a bootstrap of 135 seconds and a change of the policy. -/
def sqlBudget (statementMs : Int) : Nat := seconds 240 + executeTimeout (commandTimeout statementMs)

def callBudget (package : DispatchPackage F) : Nat :=
  if package.language = "python" then pythonBudget int package
  else
    match Json.get "statement_timeout_ms" package.inputPayload with
    | .int statementMs => sqlBudget statementMs
    | _ => 0

theorem runPython_within (package : DispatchPackage F) (payload : Dict F) :
    (runPython int package payload).Within (pythonBudget int package) := by
  have hcalls := (create_within (F := F)).bind fun _ => Calls.Within.andFinally
    ((uploadFiles_within (VercelPython.requestPayload package payload)).bind fun _ =>
      (execute_within (F := F) int ((executionTimeoutSeconds int package + 8) * 1000)).bind fun _ =>
        readFile_within)
    (stop_within (F := F))
  refine hcalls.mono ?_
  unfold pythonBudget seconds
  omega

theorem runSql_within {payload : Dict F} {statementMs : Int}
    (h : Json.get "statement_timeout_ms" payload = .int statementMs) :
    (runSql int payload).Within (sqlBudget statementMs) := by
  have hcalls := (create_within (F := F)).bind fun _ => Calls.Within.andFinally
    ((execute_within (F := F) int 120000).bind fun _ =>
      (updateNetworkPolicy_within (F := F)).bind fun _ =>
        (uploadFiles_within payload).bind fun _ =>
          (execute_within (F := F) int (commandTimeout statementMs)).bind fun _ => readFile_within)
    (stop_within (F := F))
  unfold runSql
  rw [h]
  refine hcalls.mono ?_
  have hbootstrap : executeTimeout 120000 = seconds 135 := by decide
  unfold sqlBudget
  rw [hbootstrap]
  unfold seconds
  omega

/-- An SQL request has the statement timeout of its package. -/
theorem sandboxRequest_statementTimeout {package : DispatchPackage F} {payload : Dict F}
    (hsql : package.language = "sql") (h : sandboxRequest package = .ok payload) :
    ∃ statementMs, Json.get "statement_timeout_ms" package.inputPayload = .int statementMs
      ∧ Json.get "statement_timeout_ms" payload = .int statementMs := by
  unfold sandboxRequest at h
  obtain ⟨tests, -, h⟩ := bind_eq_ok h
  obtain ⟨sanitized, -, h⟩ := bind_eq_ok h
  have hpython : ¬(package.language : Str) = "python" := by rw [hsql]; decide
  split_ifs at h
  split at h
  · split_ifs at h
    split at h
    · split at h
      · rename_i statementMs hms
        cases h
        exact ⟨statementMs, hms, rfl⟩
      · cases h
    · cases h
  · cases h

/-- However the service behaves, the calls' timeouts sum up to no more than the budget. -/
theorem sandboxLogs_within (token projectId : Str) (package : DispatchPackage F) :
    (sandboxLogs token projectId int package).Within (callBudget int package) := by
  unfold sandboxLogs callBudget
  cases hrequest : sandboxRequest package with
  | error e => exact .raise _
  | ok payload =>
      dsimp only
      by_cases htoken : token = []
      · rw [if_pos htoken]
        exact .raise _
      rw [if_neg htoken]
      by_cases hproject : projectId = []
      · rw [if_pos hproject]
        exact .raise _
      rw [if_neg hproject]
      by_cases hpython : package.language = "python"
      · rw [if_pos hpython, if_pos hpython]
        exact runPython_within int package payload
      rw [if_neg hpython, if_neg hpython]
      by_cases hsql : package.language = "sql"
      · obtain ⟨statementMs, hpackage, hpayload⟩ := sandboxRequest_statementTimeout hsql hrequest
        rw [if_pos hsql, hpackage]
        exact runSql_within int hpayload
      · rw [if_neg hsql]
        exact .raise _

/-- The default lease is shorter than the timeouts of an SQL dispatch. -/
theorem sqlBudget_bounds (statementMs : Int) :
    seconds 270 ≤ sqlBudget statementMs ∧ sqlBudget statementMs ≤ seconds 300 := by
  unfold sqlBudget executeTimeout commandTimeout seconds
  omega

end Budget

end Client

/-! ## What happens meanwhile -/

/-- What others do to the row of an execution that `workerId` claimed. -/
inductive Interference (workerId : Str) where
  /-- the candidate cancels -/
  | cancel (traceId : Str) (clock : Clock)
  /-- another worker takes a new attempt -/
  | retry (other : Str) (hother : other ≠ workerId) (expectedAttempt : Int) (leaseExpiresAt : Time)
      (maxAttempts : Int) (clock : Clock)
  /-- another worker takes the attempt -/
  | reacquire (other : Str) (hother : other ≠ workerId) (lease : ExpiredExecutionLease)
      (missing : Bool) (leaseExpiresAt : Time) (kubernetesNamespace kubernetesJobName : Str)
      (clock : Clock)

namespace Interference

variable {workerId : Str}

def apply (e : Execution F) : Interference workerId → Execution F
  | .cancel traceId clock =>
      match Rigor.cancel traceId clock e with
      | .ok e' => e'
      | .error _ => e
  | .retry other _ expectedAttempt leaseExpiresAt maxAttempts clock =>
      match retryMissingSandbox expectedAttempt other leaseExpiresAt maxAttempts clock e with
      | .ok (e', _) => e'
      | .error _ => e
  | .reacquire other _ lease missing leaseExpiresAt kubernetesNamespace kubernetesJobName clock =>
      (reacquireExpiredExecution lease missing other leaseExpiresAt kubernetesNamespace
        kubernetesJobName clock e).1

/-- It ends an execution in `status` whose lease runs until `deadline`, or takes it over. -/
def Settles (status : ExecutionStatus) (attempt : Int) (deadline : Time) :
    Interference workerId → Prop
  | .cancel .. => True
  | .retry _ _ expectedAttempt leaseExpiresAt maxAttempts clock =>
      clock.app < leaseExpiresAt ∧ 1 ≤ expectedAttempt ∧ 1 ≤ maxAttempts
        ∧ attempt = expectedAttempt ∧ attempt < maxAttempts ∧ deadline < clock.database
  | .reacquire _ _ lease _ _ _ _ clock =>
      status = lease.status ∧ attempt = lease.attemptCount ∧ deadline < clock.database

end Interference

/-- The row is terminal, or another worker has it. -/
def Settled (workerId : Str) (e : Execution F) : Prop :=
  e.state.IsTerminal ∨ ∃ other, other ≠ workerId ∧ e.row.leaseOwner = some other

/-- The attempt is the worker's, with its lease until `deadline`. -/
structure Held (workerId : Str) (attempt : Int) (deadline : Time) (status : ExecutionStatus)
    (e : Execution F) : Prop where
  state : e.state = status
  active : status.IsActive
  owner : e.row.leaseOwner = some workerId
  lease : e.row.leaseExpiresAt = some deadline
  attempt : e.row.attemptCount = attempt

theorem Held.not_settled {workerId : Str} {attempt : Int} {deadline : Time}
    {status : ExecutionStatus} {e : Execution F} (h : Held workerId attempt deadline status e) :
    ¬Settled workerId e := by
  rintro (hterm | ⟨other, hother, howner⟩)
  · exact (h.state ▸ h.active).not_terminal hterm
  · exact hother (Option.some.inj (howner.symm.trans h.owner))

theorem Held.expired_iff {workerId : Str} {attempt : Int} {deadline : Time}
    {status : ExecutionStatus} {e : Execution F} (h : Held workerId attempt deadline status e)
    {now : Time} : e.LeaseExpired now ↔ deadline < now := by
  constructor
  · rintro ⟨d, hd, hlt⟩
    rw [h.lease] at hd
    cases hd
    exact hlt
  · exact fun hlt => ⟨deadline, h.lease, hlt⟩

theorem Held.leased_iff {workerId : Str} {attempt : Int} {deadline : Time}
    {status : ExecutionStatus} {e : Execution F} (h : Held workerId attempt deadline status e)
    {now : Time} : e.Leased workerId now ↔ now < deadline := by
  constructor
  · rintro ⟨-, d, hd, hlt⟩
    rw [h.lease] at hd
    cases hd
    exact hlt
  · exact fun hlt => ⟨h.owner, deadline, h.lease, hlt⟩

section Interference

variable {workerId : Str} {attempt : Int} {deadline : Time} {status : ExecutionStatus}
  {e : Execution F}

theorem cancel_active (traceId : Str) (clock : Clock) (hactive : e.state.IsActive) :
    ∃ e', cancel traceId clock e = .ok e' ∧ e'.state.IsTerminal := by
  have hne : e.state ≠ .cancelled := fun h => hactive.not_terminal (by rw [h]; decide)
  have hlegal : ExecutionStatus.cancelled ∈ legalExecutionTransitions e.state := by
    rcases hactive with h | h <;> rw [h] <;> decide
  rw [cancel, if_neg hne, if_neg hactive.not_terminal, transition, validateExecutionTransition,
    if_pos hlegal]
  exact ⟨_, rfl, by show ExecutionStatus.IsTerminal .cancelled; decide⟩

theorem cancel_ok_terminal {traceId : Str} {clock : Clock} {e' : Execution F}
    (h : cancel traceId clock e = .ok e') : e'.state.IsTerminal := by
  unfold cancel at h
  split_ifs at h with hcancelled hterm
  · cases h
    rw [hcancelled]
    decide
  · rw [(transition_ok h).2.1]
    decide

theorem markRunning_leaseOwner {kubernetesNamespace kubernetesJobName : Str} {clock : Clock} :
    (markRunning workerId kubernetesNamespace kubernetesJobName clock e).1.row.leaseOwner
      = e.row.leaseOwner := by
  unfold markRunning
  split_ifs <;> rfl

/-- On a held execution an action settles it, or does nothing. -/
theorem Held.apply (h : Held workerId attempt deadline status e) (i : Interference workerId) :
    i.Settles status attempt deadline ∧ Settled workerId (i.apply e)
      ∨ ¬i.Settles status attempt deadline ∧ i.apply e = e := by
  have hactive : e.state.IsActive := h.state ▸ h.active
  cases i with
  | cancel traceId clock =>
      obtain ⟨e', he', hterm⟩ := cancel_active traceId clock hactive
      refine .inl ⟨trivial, .inl ?_⟩
      unfold Interference.apply
      dsimp only
      rw [he']
      exact hterm
  | retry other hother expectedAttempt leaseExpiresAt maxAttempts clock =>
      unfold Interference.apply Interference.Settles retryMissingSandbox validateLeaseDeadline
      dsimp only
      by_cases hlease : leaseExpiresAt ≤ clock.app
      · rw [if_pos hlease, error_bind]
        exact .inr ⟨fun hs => (Int.not_lt.mpr hlease) hs.1, rfl⟩
      · rw [if_neg hlease, ok_bind]
        by_cases hbounds : expectedAttempt < 1 ∨ maxAttempts < 1
        · rw [if_pos hbounds]
          exact .inr ⟨fun hs => by omega, rfl⟩
        · rw [if_neg hbounds]
          by_cases htake : e.state.IsActive ∧ e.row.attemptCount = expectedAttempt
              ∧ e.row.attemptCount < maxAttempts ∧ e.LeaseExpired clock.database
          · rw [if_pos htake]
            obtain ⟨-, hattempt, hmax, hexpired⟩ := htake
            rw [h.attempt] at hattempt hmax
            exact .inl ⟨⟨Int.not_le.mp hlease, by omega, by omega, hattempt, hmax,
              h.expired_iff.mp hexpired⟩, .inr ⟨other, hother, rfl⟩⟩
          · rw [if_neg htake]
            refine .inr ⟨fun ⟨_, _, _, hattempt, hmax, hexpired⟩ => htake ⟨hactive, ?_, ?_, ?_⟩, rfl⟩
            · rw [h.attempt, hattempt]
            · rw [h.attempt]; exact hmax
            · exact h.expired_iff.mpr hexpired
  | reacquire other hother lease missing leaseExpiresAt kubernetesNamespace kubernetesJobName clock =>
      unfold Interference.apply Interference.Settles reacquireExpiredExecution
      dsimp only
      by_cases htake : e.state = lease.status ∧ e.row.attemptCount = lease.attemptCount
          ∧ e.LeaseExpired clock.database
      · rw [if_pos htake]
        obtain ⟨hstate, hattempt, hexpired⟩ := htake
        refine .inl ⟨⟨h.state ▸ hstate, h.attempt ▸ hattempt, h.expired_iff.mp hexpired⟩,
          .inr ⟨other, hother, ?_⟩⟩
        split_ifs
        · exact markRunning_leaseOwner
        · exact markRunning_leaseOwner
        · rfl
      · rw [if_neg htake]
        refine .inr ⟨fun ⟨hstate, hattempt, hexpired⟩ => htake ⟨?_, ?_, ?_⟩, rfl⟩
        · rw [h.state]; exact hstate
        · rw [h.attempt]; exact hattempt
        · exact h.expired_iff.mpr hexpired

theorem lockOwnedAttempt_settled {clock : Clock} (h : Settled workerId e) :
    lockOwnedAttempt workerId attempt clock e = false := by
  by_contra hne
  obtain ⟨-, -, hleased, hactive⟩ := lockOwnedAttempt_iff.mp (Bool.not_eq_false _ ▸ hne)
  rcases h with hterm | ⟨other, hother, howner⟩
  · exact hactive.not_terminal hterm
  · exact hother (Option.some.inj (howner.symm.trans hleased.1))

theorem Held.locked_iff {clock : Clock} (h : Held workerId attempt deadline status e)
    (hattempt : 1 ≤ attempt) :
    lockOwnedAttempt workerId attempt clock e = true ↔ clock.database < deadline := by
  rw [lockOwnedAttempt_iff, h.leased_iff]
  exact ⟨fun hlock => hlock.2.2.1, fun hlt => ⟨hattempt, h.attempt, hlt, h.state ▸ h.active⟩⟩

/-- What is settled stays so. -/
theorem Settled.apply (h : Settled workerId e) (i : Interference workerId) :
    Settled workerId (i.apply e) := by
  cases i with
  | cancel traceId clock =>
      unfold Interference.apply
      dsimp only
      cases hcancel : cancel traceId clock e with
      | error failure => exact h
      | ok e' => exact .inl (cancel_ok_terminal hcancel)
  | retry other hother expectedAttempt leaseExpiresAt maxAttempts clock =>
      unfold Interference.apply retryMissingSandbox
      dsimp only
      cases validateLeaseDeadline leaseExpiresAt clock with
      | error failure => exact h
      | ok _ =>
          rw [ok_bind]
          split_ifs
          · exact h
          · exact .inr ⟨other, hother, rfl⟩
          · exact h
  | reacquire other hother lease missing leaseExpiresAt kubernetesNamespace kubernetesJobName clock =>
      unfold Interference.apply reacquireExpiredExecution
      dsimp only
      split_ifs
      · exact .inr ⟨other, hother, markRunning_leaseOwner⟩
      · exact .inr ⟨other, hother, markRunning_leaseOwner⟩
      · exact .inr ⟨other, hother, rfl⟩
      · exact h

/-- One of the actions settles the execution. -/
def Disturbed (actions : List (Interference workerId)) (status : ExecutionStatus) (attempt : Int)
    (deadline : Time) : Prop :=
  ∃ i ∈ actions, i.Settles status attempt deadline

def interfere (actions : List (Interference workerId)) (e : Execution F) : Execution F :=
  actions.foldl Interference.apply e

theorem interfere_cons (i : Interference workerId) (rest : List (Interference workerId))
    (e : Execution F) : interfere (i :: rest) e = interfere rest (i.apply e) := rfl

theorem Settled.interfere {actions : List (Interference workerId)} (h : Settled workerId e) :
    Settled workerId (interfere actions e) := by
  induction actions generalizing e with
  | nil => exact h
  | cons i rest ih => exact ih (h.apply i)

theorem Held.interfere {actions : List (Interference workerId)}
    (h : Held workerId attempt deadline status e) :
    Disturbed actions status attempt deadline ∧ Settled workerId (interfere actions e)
      ∨ ¬Disturbed actions status attempt deadline ∧ interfere actions e = e := by
  induction actions with
  | nil => exact .inr ⟨fun ⟨_, hi, _⟩ => absurd hi List.not_mem_nil, rfl⟩
  | cons i rest ih =>
      rw [interfere_cons]
      rcases h.apply i with ⟨hsettles, hsettled⟩ | ⟨hquiet, hsame⟩
      · exact .inl ⟨⟨i, List.mem_cons_self .., hsettles⟩, hsettled.interfere⟩
      · rw [hsame]
        have hdisturbed : Disturbed (i :: rest) status attempt deadline
            ↔ Disturbed rest status attempt deadline := by
          simp [Disturbed, hquiet]
        rw [hdisturbed]
        exact ih

theorem markRunning_held {clock : Clock} (hheld : Held workerId attempt deadline .dispatching e)
    (kubernetesNamespace kubernetesJobName : Str) :
    (clock.database < deadline ∧ ∃ e',
        markRunning workerId kubernetesNamespace kubernetesJobName clock e = (e', true)
          ∧ Held workerId attempt deadline .running e')
      ∨ ¬clock.database < deadline
        ∧ markRunning workerId kubernetesNamespace kubernetesJobName clock e
          = (e, false) := by
  unfold markRunning
  by_cases htime : clock.database < deadline
  · rw [if_pos ⟨hheld.state, hheld.leased_iff.mpr htime⟩]
    exact .inl ⟨htime, _, rfl, rfl, .inr rfl, hheld.owner, hheld.lease, hheld.attempt⟩
  · rw [if_neg fun hn => htime (hheld.leased_iff.mp hn.2)]
    exact .inr ⟨htime, rfl⟩

theorem markRunning_settled {clock : Clock} (h : Settled workerId e)
    (kubernetesNamespace kubernetesJobName : Str) :
    markRunning workerId kubernetesNamespace kubernetesJobName clock e
      = (e, false) := by
  unfold markRunning
  refine if_neg fun hn => ?_
  rcases h with hterm | ⟨other, hother, howner⟩
  · rw [hn.1] at hterm
    revert hterm
    decide
  · exact hother (Option.some.inj (howner.symm.trans hn.2.1))

/-- What a claim gives: the row is dispatching, with the next attempt. -/
theorem claimForDispatch_held {clock : Clock} {e' : Execution F} {claim : ExecutionClaim} (h : claimForDispatch workerId deadline clock e = .ok (e', some claim)) :
    Held workerId (e.row.attemptCount + 1) deadline .dispatching e'
      ∧ e'.loadDispatchPackage
        = { e.loadDispatchPackage with attemptCount := e.row.attemptCount + 1 } := by
  unfold claimForDispatch at h
  obtain ⟨-, -, h⟩ := bind_eq_ok h
  split_ifs at h
  · cases h
    exact ⟨⟨rfl, .inl rfl, rfl, rfl, rfl⟩, rfl⟩
  · cases h

end Interference

/-- What a running execution is given to store. -/
def runningValues (package : DispatchPackage F) (a : Attempt F) (p : TrustedExecutionProjection F) : List (Pg.Value F) :=
  terminalValues .running p ++ if finalizes package a then submissionValues p else []

theorem storedValues_running {package : DispatchPackage F} {a : Attempt F}
    {p : TrustedExecutionProjection F} (h : a.execution.state = .running) :
    storedValues package a p = runningValues package a p := by
  rw [storedValues, runningValues, h]

/-! ## `dispatch_vercel_execution` -/

section Dispatch

variable [FloatArith F]

def Clock.after (clock : Clock) (spent : Nat) : Clock :=
  ⟨clock.app + spent, clock.database + spent⟩

def defaultLeaseSeconds : Int := 180

/-- Everything a dispatch meets: its settings, the content it grades
against, the service, the others, and the time it takes between a call or a
transaction and the next transaction. -/
structure Dispatch (F : Type) where
  evaluator : Evaluator F
  workerId : Str
  token : Str
  projectId : Str
  /-- `RIGOR_VERCEL_SANDBOX_LEASE_SECONDS`, or the default -/
  configuredLease : Int
  /-- `int(text)`, unless it raises -/
  int : Str → Option Int
  /-- the driver refuses the values with a `ValueError` -/
  refusesEarly : List (Pg.Value F) → Bool
  structured : Json F
  service : Nat → HttpResponse
  claimClock : Clock
  beforeMark : Nat
  beforePersist : Nat
  beforeFailure : Nat
  duringCalls : List (Interference workerId)
  afterMark : List (Interference workerId)
  afterFailure : List (Interference workerId)

namespace Dispatch

variable (d : Dispatch F) (package : DispatchPackage F)

def leaseSeconds : Int := max defaultLeaseSeconds d.configuredLease

/-- `lease_expires_at` of the claim. -/
def deadline : Time := d.claimClock.app + d.leaseSeconds * 1000000

/-- The calls: how they end, and what they took. -/
def calls : Except DispatchFailure Str × Wire :=
  sandboxLogs d.token d.projectId d.int package d.service Wire.start

def callsEnd : Clock := d.claimClock.after (d.calls package).2.elapsed

def markClock : Clock := (d.callsEnd package).after d.beforeMark

def persistClock : Clock := (d.markClock package).after d.beforePersist

def refusal (values : List (Pg.Value F)) : DispatchFailure :=
  if d.refusesEarly values then .value else .database

/-- `_persist_projection`: a transaction that raises leaves the rows. -/
def persist (p : TrustedExecutionProjection F) (clock : Clock) (a : Attempt F) :
    Attempt F × Option DispatchFailure :=
  match storeProjection d.evaluator package d.workerId p clock a with
  | .ok (a', _) => (a', none)
  | .error .data => (a, some (d.refusal (storedValues package a p)))
  | .error (.grading e) => (a, some (.grading e))
  | .error (.database (.transition _)) => (a, some .value)
  | .error (.database (.value _)) => (a, some .value)
  | .error (.database _) => (a, some .database)

/-- The `except` block. -/
def handle (clock : Clock) (a : Attempt F) (e : DispatchFailure) :
    Attempt F × Option DispatchFailure :=
  if e.IsCaught then
    d.persist package
      (infrastructureProjection "vercel_sandbox_infrastructure_error"
        "The isolated execution service could not complete this run. Please retry.")
      (clock.after d.beforeFailure)
      { a with execution := interfere d.afterFailure a.execution }
  else (a, some e)

/-- The parser, the expected tests and the comparison. -/
def grade (logs : Str) : Except DispatchFailure (TrustedExecutionProjection F) :=
  (do
    let result ← checked (parseRunnerResult logs package.executionId (some package.attemptCount))
    let expected ← loadExpectedTests d.structured
    trustedCompare result expected : Except GradingFailure _).mapError .grading

/-- What the `try` block does with the log of a marked execution. -/
def finish (logs : Str) (a : Attempt F) : Attempt F × Option DispatchFailure :=
  match d.grade package logs with
  | .error e => d.handle package (d.markClock package) a e
  | .ok p =>
      match d.persist package p (d.persistClock package) a with
      | (a', none) => (a', none)
      | (a', some e) => d.handle package (d.persistClock package) a' e

/-- The dispatch after its claim. -/
def run (a : Attempt F) : Attempt F × Option DispatchFailure :=
  let a := { a with execution := interfere d.duringCalls a.execution }
  match (d.calls package).1 with
  | .error e => d.handle package (d.callsEnd package) a e
  | .ok logs =>
      let (execution, marked) := markRunning d.workerId "vercel-sandbox"
        ("vercel-" ++ package.executionId) (d.markClock package) a.execution
      if marked then
        d.finish package logs { a with execution := interfere d.afterMark execution }
      else (a, none)

end Dispatch

/-- What is left when the function returns or raises, if it claimed the execution. -/
def dispatchVercelExecution (d : Dispatch F) (a : Attempt F) :
    Option (Attempt F × Option DispatchFailure) :=
  match claimForDispatch d.workerId d.deadline d.claimClock a.execution with
  | .ok (e, some _) => some (d.run e.loadDispatchPackage { a with execution := e })
  | _ => none

/-! ## When it ends with a terminal row -/

namespace Dispatch

variable (d : Dispatch F) (package : DispatchPackage F)

/-- The failure is recorded: its class is caught, and the lease has not run out. -/
def Handled (status : ExecutionStatus) (clock : Clock) (e : DispatchFailure) : Prop :=
  e.IsCaught ∧ (Disturbed d.afterFailure status package.attemptCount d.deadline
    ∨ (clock.after d.beforeFailure).database < d.deadline)

/-- Grading and storing raise nothing that is not caught, and every
transaction of theirs starts under the lease. -/
def GradedInTime (logs : Str) (a : Attempt F) : Prop :=
  match d.grade package logs with
  | .error e => d.Handled package .running (d.markClock package) e
  | .ok p => (d.persistClock package).database < d.deadline
      ∧ ((runningValues package a p).all Pg.Value.accepted = true
        ∨ d.Handled package .running (d.persistClock package) (d.refusal (runningValues package a p)))

/-- Somebody else settles the execution during the calls, or the calls
raise nothing that is not caught and every transaction after them starts
under the lease. -/
def InTime (a : Attempt F) : Prop :=
  Disturbed d.duringCalls .dispatching package.attemptCount d.deadline
    ∨ match (d.calls package).1 with
      | .error e => d.Handled package .dispatching (d.callsEnd package) e
      | .ok logs => (d.markClock package).database < d.deadline
          ∧ (Disturbed d.afterMark .running package.attemptCount d.deadline
            ∨ d.GradedInTime package logs a)

end Dispatch

section Settling

variable {d : Dispatch F} {package : DispatchPackage F} {a : Attempt F} {clock : Clock}
  {status : ExecutionStatus} {p : TrustedExecutionProjection F}

theorem persist_unlocked
    (h : lockOwnedAttempt d.workerId package.attemptCount clock a.execution = false) :
    d.persist package p clock a = (a, none) := by
  have hpersist : persistProjection d.evaluator package d.workerId p clock a = .ok (a, none) := by
    rw [persistProjection, persistObservation, if_pos h]
  rw [Dispatch.persist, storeProjection, h, Bool.false_and, if_neg Bool.false_ne_true, hpersist]
  rfl

theorem handle_settled {e : DispatchFailure} (h : Settled d.workerId a.execution) :
    Settled d.workerId (d.handle package clock a e).1.execution := by
  unfold Dispatch.handle
  split_ifs
  · have hsettled : Settled d.workerId (interfere d.afterFailure a.execution) := h.interfere
    rw [persist_unlocked (lockOwnedAttempt_settled hsettled)]
    exact hsettled
  · exact h

/-- A submission has its result and its evaluation from one transaction. -/
def SubmissionPaired (package : DispatchPackage F) (a : Attempt F) : Prop :=
  package.submissionId.isSome → package.executionType = .submit →
    ∃ s, a.submission = some s ∧ (s.results = [] ↔ s.evaluations = [])

/-- Under the lease, accepted values are stored and the row is terminal. -/
theorem persist_held (h : Held d.workerId package.attemptCount d.deadline status a.execution)
    (hattempt : 1 ≤ package.attemptCount) (hsubmission : SubmissionPaired package a)
    (htime : clock.database < d.deadline)
    (haccepted : (storedValues package a p).all Pg.Value.accepted = true)
    (hlegal : p.executionStatus ∈ legalExecutionTransitions status)
    (hruntime : 0 ≤ p.runtimeMs) (hhidden : p.hiddenPassed ≤ p.hiddenTotal) :
    ∃ a', d.persist package p clock a = (a', none) ∧ a'.execution.state.IsTerminal := by
  have howned : OwnedBy d.workerId package clock a :=
    ⟨(h.locked_iff hattempt).mpr htime, hsubmission⟩
  rw [Dispatch.persist, storeProjection, haccepted, Bool.not_true, Bool.and_false,
    if_neg Bool.false_ne_true]
  rcases persistProjection_owned d.evaluator howned hruntime hhidden with
    ⟨-, a', stored, ha', hsettled⟩ | ⟨hillegal, -⟩
  · rw [ha']
    exact ⟨a', rfl, hsettled.1⟩
  · exact absurd (h.state ▸ hlegal) hillegal

/-- Refused values leave the rows. -/
theorem persist_refused (h : Held d.workerId package.attemptCount d.deadline status a.execution)
    (hattempt : 1 ≤ package.attemptCount) (htime : clock.database < d.deadline)
    (hrefused : (storedValues package a p).all Pg.Value.accepted ≠ true) :
    d.persist package p clock a = (a, some (d.refusal (storedValues package a p))) := by
  rw [Dispatch.persist, storeProjection, (h.locked_iff hattempt).mpr htime,
    Bool.true_and, if_pos (by simpa using hrefused)]

theorem handle_settled_iff {e : DispatchFailure}
    (h : Held d.workerId package.attemptCount d.deadline status a.execution)
    (hattempt : 1 ≤ package.attemptCount) (hsubmission : SubmissionPaired package a) :
    Settled d.workerId (d.handle package clock a e).1.execution
      ↔ d.Handled package status clock e := by
  unfold Dispatch.handle Dispatch.Handled
  by_cases hcaught : e.IsCaught
  · rw [if_pos hcaught, and_iff_right hcaught]
    rcases h.interfere with ⟨hdisturbed, hsettled⟩ | ⟨hquiet, hsame⟩
    · rw [persist_unlocked (lockOwnedAttempt_settled hsettled)]
      exact iff_of_true hsettled (.inl hdisturbed)
    · rw [hsame, or_iff_right hquiet]
      by_cases htime : (clock.after d.beforeFailure).database < d.deadline
      · have hlegal : ExecutionStatus.failed ∈ legalExecutionTransitions status := by
          rcases h.active with rfl | rfl <;> decide
        obtain ⟨a', ha', hterm⟩ := persist_held (p := infrastructureProjection
            "vercel_sandbox_infrastructure_error"
            "The isolated execution service could not complete this run. Please retry.") h hattempt
          hsubmission htime (storedValues_infrastructure package a (by decide) (by decide)
            (by decide)) hlegal (le_refl (0 : Int)) (Nat.le_refl 0)
        rw [ha']
        exact iff_of_true (.inl hterm) htime
      · rw [persist_unlocked (Bool.eq_false_iff.mpr fun hlock =>
          htime ((h.locked_iff hattempt).mp hlock))]
        exact iff_of_false h.not_settled htime
  · rw [if_neg hcaught]
    exact iff_of_false h.not_settled fun hn => hcaught hn.1

theorem grade_ok {logs : Str} (h : d.grade package logs = .ok p) :
    0 ≤ p.runtimeMs ∧ p.hiddenPassed ≤ p.hiddenTotal := by
  obtain ⟨result, hresult, h⟩ := bind_eq_ok (mapError_eq_ok h)
  obtain ⟨expected, -, hcompare⟩ := bind_eq_ok h
  obtain ⟨hids, hruntime⟩ := parseRunnerResult_ok (mapError_eq_ok hresult)
  have hsame : p.runtimeMs = result.runtimeMs := (trustedCompare_ok hcompare).2.2.1
  exact ⟨hsame ▸ hruntime, trustedCompare_hidden hcompare hids⟩

theorem finish_settled {logs : Str} (h : Settled d.workerId a.execution) :
    Settled d.workerId (d.finish package logs a).1.execution := by
  unfold Dispatch.finish
  split
  · exact handle_settled h
  · rw [persist_unlocked (lockOwnedAttempt_settled h)]
    exact h

theorem finish_settled_iff {logs : Str}
    (h : Held d.workerId package.attemptCount d.deadline .running a.execution)
    (hattempt : 1 ≤ package.attemptCount) (hsubmission : SubmissionPaired package a) :
    Settled d.workerId (d.finish package logs a).1.execution ↔ d.GradedInTime package logs a := by
  unfold Dispatch.finish Dispatch.GradedInTime
  cases hgrade : d.grade package logs with
  | error e => exact handle_settled_iff h hattempt hsubmission
  | ok p =>
      obtain ⟨hruntime, hhidden⟩ := grade_ok hgrade
      dsimp only
      by_cases htime : (d.persistClock package).database < d.deadline
      · rw [and_iff_right htime, ← storedValues_running h.state]
        by_cases haccepted : (storedValues package a p).all Pg.Value.accepted = true
        · have hlegal : p.executionStatus ∈ legalExecutionTransitions .running := by
            rcases p.status_ok with hp | hp | hp <;> rw [hp] <;> decide
          obtain ⟨a', ha', hterm⟩ :=
            persist_held h hattempt hsubmission htime haccepted hlegal hruntime hhidden
          rw [ha']
          exact iff_of_true (.inl hterm) (.inl haccepted)
        · rw [persist_refused h hattempt htime haccepted, or_iff_right haccepted]
          exact handle_settled_iff h hattempt hsubmission
      · rw [persist_unlocked (Bool.eq_false_iff.mpr fun hlock => htime ((h.locked_iff hattempt).mp hlock))]
        exact iff_of_false h.not_settled fun hn => htime hn.1

theorem run_settled_iff
    (h : Held d.workerId package.attemptCount d.deadline .dispatching a.execution)
    (hattempt : 1 ≤ package.attemptCount) (hsubmission : SubmissionPaired package a) :
    Settled d.workerId (d.run package a).1.execution ↔ d.InTime package a := by
  unfold Dispatch.run Dispatch.InTime
  dsimp only
  rcases h.interfere with ⟨hdisturbed, hsettled⟩ | ⟨hquiet, hsame⟩
  · refine iff_of_true ?_ (.inl hdisturbed)
    split
    · exact handle_settled hsettled
    · rw [markRunning_settled hsettled]
      exact hsettled
  · rw [hsame, or_iff_right hquiet]
    cases hcalls : (d.calls package).1 with
    | error e => exact handle_settled_iff h hattempt hsubmission
    | ok logs =>
        dsimp only
        rcases markRunning_held h "vercel-sandbox" ("vercel-" ++ package.executionId) with
          ⟨htime, e, hmark, hheld⟩ | ⟨htime, hmark⟩
        · rw [hmark, and_iff_right htime]
          dsimp only
          rw [if_pos rfl]
          rcases hheld.interfere with ⟨hdisturbed, hsettled⟩ | ⟨hquiet, hsame⟩
          · exact iff_of_true (finish_settled hsettled) (.inl hdisturbed)
          · rw [hsame, or_iff_right hquiet]
            exact finish_settled_iff (a := { a with execution := e }) hheld hattempt hsubmission
        · rw [hmark]
          exact iff_of_false h.not_settled fun hn => htime hn.1

end Settling

/-- The calls take no longer than their timeouts, which the budget bounds. -/
theorem calls_elapsed_le (d : Dispatch F) (package : DispatchPackage F) :
    (d.calls package).2.elapsed ≤ (d.calls package).2.timeouts
      ∧ (d.calls package).2.timeouts ≤ callBudget d.int package := by
  obtain ⟨htimeouts, helapsed⟩ := sandboxLogs_within d.int d.token d.projectId package d.service
    Wire.start
  unfold Dispatch.calls
  unfold Wire.start at *
  dsimp only at htimeouts helapsed
  exact ⟨by omega, by omega⟩

/-- No error leaves the dispatch past its `except` block. -/
def Dispatch.NothingEscapes (d : Dispatch F) (package : DispatchPackage F) (a : Attempt F) : Prop :=
  (∀ e, (d.calls package).1 = .error e → e.IsCaught)
    ∧ ∀ logs, (d.calls package).1 = .ok logs →
      (∀ e, d.grade package logs = .error e → e.IsCaught)
        ∧ ∀ p, d.grade package logs = .ok p → (runningValues package a p).all Pg.Value.accepted = true
          ∨ (d.refusal (runningValues package a p)).IsCaught

/-- A lease that outlasts the budget of the calls and the time between the
transactions is enough. -/
theorem inTime_of_budget {d : Dispatch F} {package : DispatchPackage F} {a : Attempt F}
    (h : d.NothingEscapes package a)
    (hlease : d.claimClock.database + callBudget d.int package + d.beforeMark + d.beforePersist
      + d.beforeFailure < d.deadline) : d.InTime package a := by
  obtain ⟨helapsed, htimeouts⟩ := calls_elapsed_le d package
  have hspent : ∀ pause : Nat, pause ≤ d.beforeMark + d.beforePersist + d.beforeFailure →
      d.claimClock.database + ((d.calls package).2.elapsed + pause : Nat) < d.deadline := by
    intro pause hle
    refine lt_of_le_of_lt ?_ hlease
    have hsum : (((d.calls package).2.elapsed + pause : Nat) : Int)
        ≤ callBudget d.int package + d.beforeMark + d.beforePersist + d.beforeFailure := by
      exact_mod_cast (by omega : (d.calls package).2.elapsed + pause
        ≤ callBudget d.int package + d.beforeMark + d.beforePersist + d.beforeFailure)
    simp only [add_assoc] at hsum ⊢
    exact Int.add_le_add_left hsum _
  have hcalls : ((d.callsEnd package).after d.beforeFailure).database < d.deadline := by
    have := hspent d.beforeFailure (by omega)
    simpa [Dispatch.callsEnd, Clock.after, add_assoc] using this
  have hmark : (d.markClock package).database < d.deadline := by
    have := hspent d.beforeMark (by omega)
    simpa [Dispatch.markClock, Dispatch.callsEnd, Clock.after, add_assoc] using this
  have hmarkFailure : ((d.markClock package).after d.beforeFailure).database < d.deadline := by
    have := hspent (d.beforeMark + d.beforeFailure) (by omega)
    simpa [Dispatch.markClock, Dispatch.callsEnd, Clock.after, add_assoc] using this
  have hpersist : (d.persistClock package).database < d.deadline := by
    have := hspent (d.beforeMark + d.beforePersist) (by omega)
    simpa [Dispatch.persistClock, Dispatch.markClock, Dispatch.callsEnd, Clock.after, add_assoc]
      using this
  have hpersistFailure : ((d.persistClock package).after d.beforeFailure).database < d.deadline := by
    have := hspent (d.beforeMark + d.beforePersist + d.beforeFailure) (Nat.le_refl _)
    simpa [Dispatch.persistClock, Dispatch.markClock, Dispatch.callsEnd, Clock.after, add_assoc]
      using this
  unfold Dispatch.InTime
  refine .inr ?_
  obtain ⟨herror, hok⟩ := h
  cases hend : (d.calls package).1 with
  | error e => exact ⟨herror e hend, .inr hcalls⟩
  | ok logs =>
      obtain ⟨hgrading, hvalues⟩ := hok logs hend
      refine ⟨hmark, .inr ?_⟩
      unfold Dispatch.GradedInTime
      cases hgrade : d.grade package logs with
      | error e => exact ⟨hgrading e hgrade, .inr hmarkFailure⟩
      | ok p =>
          refine ⟨hpersist, (hvalues p hgrade).imp_right fun hcaught => ?_⟩
          exact ⟨hcaught, .inr hpersistFailure⟩

/-- The package of the attempt that a claim starts. -/
def claimedPackageOf (a : Attempt F) : DispatchPackage F :=
  { a.execution.loadDispatchPackage with attemptCount := a.execution.row.attemptCount + 1 }

end Dispatch

/-! ## Two dispatches of an SQL program -/

def selectRow : ExecutionRow NanoFloat :=
  { echoRow with
    runtime := "postgresql15"
    language := "sql"
    state := .queued
    attemptCount := 0
    leaseOwner := none
    leaseExpiresAt := none
    kubernetesNamespace := none
    kubernetesJobName := none
    dispatchStartedAt := none
    runningAt := none
    startedAt := none }

def selectAttempt : Attempt NanoFloat where
  execution := ⟨selectRow, ⟨"SELECT 1", [("tests", .arr []),
    ("schema_sql", .str "CREATE TABLE t ()"), ("statement_timeout_ms", .int 20000)]⟩, [], []⟩
  submission := none
  session := echoSession

def selectDispatch (service : Nat → HttpResponse) : Dispatch NanoFloat where
  evaluator := echoEvaluator
  workerId := "vercel-sandbox:vercel"
  token := "token"
  projectId := "project"
  configuredLease := 180
  int _ := none
  refusesEarly _ := false
  structured := .obj []
  service := service
  claimClock := ⟨0, 0⟩
  beforeMark := 0
  beforePersist := 0
  beforeFailure := 0
  duringCalls := []
  afterMark := []
  afterFailure := []

/-- The service cannot be reached. -/
def unreachableService : Nat → HttpResponse := fun _ => ⟨0, .unreachable⟩

def sessionMembers : Dict NanoFloat := [("session", .obj [("id", .str "s")])]

def sessionJson : Json NanoFloat := .obj sessionMembers

/-- The session is created at the last moment, and no later call is answered. -/
def slowService : Nat → HttpResponse
  | 0 => ⟨seconds 30, .body ⟨sessionJson.encode.length, some sessionJson.encode, []⟩⟩
  | _ => ⟨seconds 300, .unreachable⟩

theorem loads_session : loads sessionJson.encode = .ok sessionJson := by
  have hdepth : sessionJson.depth ≤ Runtime.recursionLimit NanoFloat := by decide
  refine Json.loads_encode_of_distinct ⟨⟨⟨trivial, trivial⟩, trivial⟩, hdepth⟩ ?_
  exact ⟨List.nodup_singleton _, ⟨⟨List.nodup_singleton _, trivial, trivial⟩, trivial⟩⟩

theorem create_slow :
    create NanoFloat slowService Wire.start = (.ok "s", ⟨1, seconds 30, seconds 30⟩) := by
  have hdecode : decodeObject (F := NanoFloat)
      ⟨sessionJson.encode.length, some sessionJson.encode, []⟩
        = pure sessionMembers := by
    unfold decodeObject
    rw [if_neg (by decide)]
    dsimp only
    rw [loads_session]
    rfl
  unfold create
  rw [Calls.bind_ok (v := ⟨1, seconds 30, seconds 30⟩) (a := sessionMembers)]
  · rfl
  · unfold jsonRequest
    rw [Calls.bind_ok (v := ⟨1, seconds 30, seconds 30⟩)
      (a := ⟨sessionJson.encode.length, some sessionJson.encode, []⟩) rfl, hdecode]
    rfl

/-- The bootstrap and the deletion of the sandbox use up the lease. -/
theorem calls_slow (payload : Dict NanoFloat)
    (h : Json.get "statement_timeout_ms" payload = .int 20000) :
    runSql (fun _ => none) payload slowService Wire.start
      = (.error (.vercelSandbox "Vercel Sandbox API is unreachable."),
        ⟨3, seconds 180, seconds 180⟩) := by
  unfold runSql
  rw [h]
  dsimp only
  rw [Calls.bind_ok create_slow]
  rfl

/-- The attempt once it is claimed. -/
def claimedSelect : Attempt NanoFloat where
  execution := Execution.appendEvent .dispatching
    (.dispatching 1 "vercel-sandbox:vercel" 180000000 none)
    { selectAttempt.execution with row := { selectRow with
        state := .dispatching
        leaseOwner := some "vercel-sandbox:vercel"
        leaseExpiresAt := some 180000000
        attemptCount := 1
        dispatchStartedAt := some 0 } }
  submission := none
  session := echoSession

theorem calls_slowDispatch :
    (selectDispatch slowService).calls (claimedPackageOf selectAttempt)
      = (.error (.vercelSandbox "Vercel Sandbox API is unreachable."),
        ⟨3, seconds 180, seconds 180⟩) := by
  obtain ⟨payload, hrequest, htimeout⟩ :
      ∃ payload, sandboxRequest (claimedPackageOf selectAttempt) = .ok payload
        ∧ Json.get "statement_timeout_ms" payload = .int 20000 := ⟨_, rfl, rfl⟩
  unfold Dispatch.calls sandboxLogs
  rw [hrequest]
  dsimp only
  rw [if_neg (by decide), if_neg (by decide), if_neg (by decide), if_pos (by decide)]
  exact calls_slow payload htimeout

end Rigor
