import Rigor.ExecutionDomain
import Rigor.PyJsonLines

/-!
# Dispatch requests and runner results

The controller's side of the sandbox protocol (`execution_results.py`):
the request built for a dispatch package, and the parser of the log a
runner leaves behind.

A function raises through `Except RunnerFailure`: a `TrustedResultError`
with its message, or one of the two errors of `json.loads` that the parser
does not catch.
-/

namespace Rigor

open Py

variable {F : Type}

/-- What the functions of this module raise. -/
inductive RunnerFailure where
  /-- `TrustedResultError(message)` -/
  | trusted (message : Str)
  /-- an error of `json.loads` other than `JSONDecodeError` -/
  | load (e : LoadError)
  deriving DecidableEq

/-- `TrustedResultError` is the one error the controller handles. -/
def RunnerFailure.IsTrusted : RunnerFailure → Prop
  | .trusted _ => True
  | .load _ => False

theorem ok_bind {ε α β : Type} (a : α) (f : α → Except ε β) : (Except.ok a >>= f) = f a := rfl

theorem error_bind {ε α β : Type} (e : ε) (f : α → Except ε β) :
    (Except.error e >>= f) = .error e := rfl

theorem error_not_ok {ε α : Type} {e : ε} : ¬ ∃ a, (Except.error e : Except ε α) = .ok a := by
  rintro ⟨a, h⟩
  cases h

theorem bind_eq_ok {ε α β : Type} {x : Except ε α} {f : α → Except ε β} {b : β}
    (h : (x >>= f) = .ok b) : ∃ a, x = .ok a ∧ f a = .ok b := by
  cases x with
  | error e => cases h
  | ok a => exact ⟨a, rfl, h⟩

theorem mapError_eq_ok {ε ε' α : Type} {f : ε → ε'} {x : Except ε α} {a : α}
    (h : x.mapError f = .ok a) : x = .ok a := by
  cases x with
  | error e => cases h
  | ok b => cases h; rfl

/-- Every error of the computation is a `TrustedResultError`. -/
def OnlyTrusted {α : Type} (x : Except RunnerFailure α) : Prop :=
  ∀ e, x = .error e → e.IsTrusted

theorem OnlyTrusted.ok {α : Type} (a : α) : OnlyTrusted (.ok a) := nofun

theorem OnlyTrusted.trusted {α : Type} (message : Str) :
    OnlyTrusted (.error (.trusted message) : Except RunnerFailure α) := fun _ h => by
  cases h; trivial

theorem OnlyTrusted.bind {α β : Type} {x : Except RunnerFailure α}
    {f : α → Except RunnerFailure β} (hx : OnlyTrusted x) (hf : ∀ a, OnlyTrusted (f a)) :
    OnlyTrusted (x >>= f) := by
  cases x with
  | error e => exact fun _ h => by cases h; exact hx e rfl
  | ok a => exact hf a

theorem OnlyTrusted.ite {α : Type} {p : Prop} [Decidable p] {x y : Except RunnerFailure α}
    (hx : OnlyTrusted x) (hy : OnlyTrusted y) : OnlyTrusted (if p then x else y) := by
  split_ifs
  · exact hx
  · exact hy

/-! ## Field checks -/

def objectDict (value : Json F) (label : Str) : Except RunnerFailure (Dict F) :=
  match value with
  | .obj kvs => .ok kvs
  | _ => .error (.trusted (label ++ " must be a JSON object."))

def objectList (value : Json F) (label : Str) : Except RunnerFailure (List (Json F)) :=
  match value with
  | .arr xs => .ok xs
  | _ => .error (.trusted (label ++ " must be a JSON array."))

def requiredString (value : Json F) (label : Str) : Except RunnerFailure Str :=
  match value with
  | .str s => if s = [] then .error (.trusted (label ++ " is missing or invalid.")) else .ok s
  | _ => .error (.trusted (label ++ " is missing or invalid."))

def optionalString (value : Json F) : Option Str :=
  match value with
  | .str s => if s = [] then none else some s
  | _ => none

def nonnegativeInt (value : Json F) (label : Str) : Except RunnerFailure Int :=
  match value with
  | .int n => if n < 0 then .error (.trusted (label ++ " is invalid.")) else .ok n
  | _ => .error (.trusted (label ++ " is invalid."))

def positiveInt (value : Json F) (label : Str) : Except RunnerFailure Int := do
  let parsed ← nonnegativeInt value label
  if parsed < 1 then .error (.trusted (label ++ " must be positive.")) else .ok parsed

theorem objectDict_trusted (value : Json F) (label : Str) :
    OnlyTrusted (objectDict value label) := by
  cases value with
  | obj kvs => exact .ok _
  | _ => exact .trusted _

theorem objectList_trusted (value : Json F) (label : Str) :
    OnlyTrusted (objectList value label) := by
  cases value with
  | arr xs => exact .ok _
  | _ => exact .trusted _

theorem requiredString_trusted (value : Json F) (label : Str) :
    OnlyTrusted (requiredString value label) := by
  cases value with
  | str s => exact .ite (.trusted _) (.ok _)
  | _ => exact .trusted _

theorem nonnegativeInt_trusted (value : Json F) (label : Str) :
    OnlyTrusted (nonnegativeInt value label) := by
  cases value with
  | int n => exact .ite (.trusted _) (.ok _)
  | _ => exact .trusted _

theorem positiveInt_trusted (value : Json F) (label : Str) :
    OnlyTrusted (positiveInt value label) :=
  (nonnegativeInt_trusted value label).bind fun _ => .ite (.trusted _) (.ok _)

/-! ## `sandbox_request` -/

structure DispatchPackage (F : Type) where
  executionId : Uuid
  organizationId : Option Uuid
  candidateId : Uuid
  practiceSessionId : Uuid
  submissionId : Option Uuid
  questionVersionId : Uuid
  executionType : ExecutionType
  runtime : Str
  language : Str
  sourceCode : Str
  inputPayload : Dict F
  limits : Dict F
  traceId : Str
  attemptCount : Int

def sanitizeTests : List (Json F) → Except RunnerFailure (List (Json F))
  | [] => .ok []
  | raw :: rest => do
      let test ← objectDict raw "Execution test"
      if (Json.lookup "expected_output" test).isSome ∨ (Json.lookup "expected" test).isSome then
        .error (.trusted "Expected answers must not enter the candidate sandbox.")
      else
        let rest ← sanitizeTests rest
        .ok (.obj test :: rest)

section Requests

variable [Runtime F]

/-- `str(value or default)`. -/
def strOr (value : Json F) (default : Str) : Str := if value.truthy then value.pyStr else default

def sandboxRequest (package : DispatchPackage F) : Except RunnerFailure (Dict F) := do
  let tests ← objectList (Json.get "tests" package.inputPayload) "Execution test input"
  let sanitized ← sanitizeTests tests
  if package.attemptCount < 1 then
    .error (.trusted "Execution must be claimed before sandbox dispatch.")
  else
    let payload : Dict F :=
      [("schema_version", .int 1), ("execution_id", .str package.executionId),
        ("attempt", .int package.attemptCount), ("source_code", .str package.sourceCode),
        ("tests", .arr sanitized)]
    if package.language = "python" then
      let entrypoint := strOr (Json.get "entrypoint" package.inputPayload) "solve"
      .ok (payload ++ ([("entrypoint", .str entrypoint)] : Dict F))
    else if package.language = "sql" then
      match Json.get "schema_sql" package.inputPayload with
      | .str schemaSql =>
          if isBlank schemaSql then
            .error (.trusted "SQL dispatch payload is missing trusted schema SQL.")
          else
            match (Json.lookup "seed_sql" package.inputPayload).getD (.str []) with
            | .str seedSql =>
                match Json.get "statement_timeout_ms" package.inputPayload with
                | .int timeoutMs =>
                    .ok (payload ++ ([("schema_sql", .str schemaSql), ("seed_sql", .str seedSql),
                      ("statement_timeout_ms", .int timeoutMs)] : Dict F))
                | _ => .error (.trusted "SQL dispatch statement timeout is invalid.")
            | _ => .error (.trusted "SQL dispatch seed SQL is invalid.")
      | _ => .error (.trusted "SQL dispatch payload is missing trusted schema SQL.")
    else .error (.trusted "Execution language is unsupported by the sandbox protocol.")

end Requests

/-! ## `parse_runner_result` -/

def resultPrefix : Str := "RIGOR_EXECUTION_RESULT:"

def maxResultLogBytes : Nat := 256 * 1024

def maxResultTests : Nat := 200

def maxPublicStreamBytes : Nat := 64 * 1024

/-- One entry of the result record. -/
structure TestResult (F : Type) where
  id : Str
  visibility : Str
  ok : Bool
  actual : Json F
  errorCategory : Option Str

structure SandboxExecutionResult (F : Type) where
  executionId : Str
  attempt : Int
  status : Str
  runtimeMs : Int
  exitCode : Int
  tests : List (TestResult F)
  stdout : Str
  stderr : Str
  errorCategory : Option Str

section Parse

variable [Runtime F]

/-- The loop over the reversed lines. -/
def markedPayload (logText : Str) : Except RunnerFailure (Dict F) :=
  match lastMarked resultPrefix logText with
  | none => .error (.trusted "Runner result marker was not found.")
  | some line =>
      match loads line with
      | .error .decode => .error (.trusted "Runner emitted malformed result JSON.")
      | .error e => .error (.load e)
      | .ok decoded => objectDict decoded "Runner result"

/-- The loop over the raw tests; `seen` holds the identifiers so far. -/
def parseTests (seen : List Str) : List (Json F) → Except RunnerFailure (List (TestResult F))
  | [] => .ok []
  | raw :: rest => do
      let item ← objectDict raw "Runner test result"
      let testId ← requiredString (Json.get "id" item) "Runner test id"
      let visibility ← requiredString (Json.get "visibility" item) "Runner test visibility"
      if testId ∈ seen then .error (.trusted "Runner test identifiers must be unique.")
      else if visibility ≠ "public" ∧ visibility ≠ "hidden" then
        .error (.trusted "Runner test visibility is invalid.")
      else
        let rest ← parseTests (testId :: seen) rest
        .ok (⟨testId, visibility, (Json.get "ok" item).truthy, Json.get "actual" item,
          optionalString (Json.get "error_category" item)⟩ :: rest)

/-- The checks on the decoded record, in the parser's order. -/
def readPayload (payload : Dict F) (executionId : Str) (expectedAttempt : Option Int) :
    Except RunnerFailure (SandboxExecutionResult F) :=
  if (Json.get "schema_version" payload).eqInt 1 = false then
    .error (.trusted "Unsupported runner result schema version.")
  else if (Json.get "execution_id" payload).eqStr executionId = false then
    .error (.trusted "Runner result execution identifier mismatch.")
  else do
    let attempt ← positiveInt (Json.get "attempt" payload) "Runner execution attempt"
    if expectedAttempt.any (· ≠ attempt) then
      .error (.trusted "Runner result execution attempt mismatch.")
    else
      let status ← requiredString (Json.get "status" payload) "Runner status"
      if status ≠ "COMPLETED" ∧ status ≠ "FAILED" ∧ status ≠ "TIMEOUT" then
        .error (.trusted "Runner emitted an unsupported terminal status.")
      else
        let rawTests ← objectList (Json.get "tests" payload) "Runner test results"
        if rawTests.length > maxResultTests then
          .error (.trusted "Runner test result list exceeds the trusted limit.")
        else
          let tests ← parseTests [] rawTests
          let runtimeMs ← nonnegativeInt (Json.get "runtime_ms" payload) "Runner runtime"
          match Json.get "exit_code" payload with
          | .int exitCode =>
              .ok ⟨executionId, attempt, status, runtimeMs, exitCode, tests,
                (strOr (Json.get "stdout" payload) []).take maxPublicStreamBytes,
                (strOr (Json.get "stderr" payload) []).take maxPublicStreamBytes,
                optionalString (Json.get "error_category" payload)⟩
          | _ => .error (.trusted "Runner exit code is invalid.")

def parseRunnerResult (logText : Str) (executionId : Str) (expectedAttempt : Option Int) :
    Except RunnerFailure (SandboxExecutionResult F) :=
  if utf8Len logText > maxResultLogBytes then
    .error (.trusted "Runner result log exceeds the trusted transport limit.")
  else do
    let payload ← markedPayload logText
    readPayload payload executionId expectedAttempt

theorem parseTests_trusted : ∀ (raws : List (Json F)) (seen : List Str),
    OnlyTrusted (parseTests seen raws)
  | [], _ => .ok _
  | raw :: rest, _ =>
      (objectDict_trusted raw _).bind fun _ =>
        (requiredString_trusted _ _).bind fun _ =>
          (requiredString_trusted _ _).bind fun _ =>
            .ite (.trusted _) (.ite (.trusted _)
              ((parseTests_trusted rest _).bind fun _ => .ok _))

/-- The checks raise nothing but `TrustedResultError`. -/
theorem readPayload_trusted (payload : Dict F) (executionId : Str)
    (expectedAttempt : Option Int) :
    OnlyTrusted (readPayload payload executionId expectedAttempt) := by
  refine .ite (.trusted _) (.ite (.trusted _) ((positiveInt_trusted _ _).bind fun _ =>
    .ite (.trusted _) ((requiredString_trusted _ _).bind fun _ =>
      .ite (.trusted _) ((objectList_trusted _ _).bind fun _ =>
        .ite (.trusted _) ((parseTests_trusted _ _).bind fun _ =>
          (nonnegativeInt_trusted _ _).bind fun _ => ?_)))))
  split
  · exact .ok _
  · exact .trusted _

end Parse

/-! ## Projections -/

/-- An entry of `public_results`. -/
structure PublicTestResult (F : Type) where
  testId : Str
  name : Str
  passed : Bool
  expected : Json F
  actual : Json F
  errorCategory : Option Str

/-- What the controller makes of a result, and stores: every one that is
built ends the execution, and none cancels it. -/
structure TrustedExecutionProjection (F : Type) where
  executionStatus : ExecutionStatus
  status_ok : executionStatus = .completed ∨ executionStatus = .failed ∨ executionStatus = .timeout
  runtimeMs : Int
  exitCode : Int
  errorCategory : Option Str
  publicResults : List (PublicTestResult F)
  hiddenTotal : Nat
  hiddenPassed : Nat
  stdout : Str
  stderr : Str
  candidateMessage : Str

namespace TrustedExecutionProjection

theorem completed_ok : ExecutionStatus.completed = .completed ∨ ExecutionStatus.completed = .failed
    ∨ ExecutionStatus.completed = .timeout := .inl rfl

theorem timeout_ok : ExecutionStatus.timeout = .completed ∨ ExecutionStatus.timeout = .failed
    ∨ ExecutionStatus.timeout = .timeout := .inr (.inr rfl)

theorem status_terminal (p : TrustedExecutionProjection F) : p.executionStatus.IsTerminal := by
  rcases p.status_ok with h | h | h <;> rw [h] <;> decide

def publicPassed (p : TrustedExecutionProjection F) : Nat :=
  p.publicResults.countP PublicTestResult.passed

def totalTests (p : TrustedExecutionProjection F) : Nat := p.publicResults.length + p.hiddenTotal

def passedTests (p : TrustedExecutionProjection F) : Nat := p.publicPassed + p.hiddenPassed

def allTestsPassed (p : TrustedExecutionProjection F) : Bool :=
  decide (p.totalTests > 0) && p.passedTests == p.totalTests

end TrustedExecutionProjection

end Rigor
