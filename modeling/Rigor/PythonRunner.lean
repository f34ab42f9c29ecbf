import Rigor.PyJsonLines
import Rigor.QuestionContent
import Rigor.SqlRunner

/-!
# The Python runner

`services/python-runner/runner.py`: the request it accepts, the child
process of a test and the line it prints, how the parent reads that line
back, and the record of a run. What the candidate's code does is an oracle.
-/

namespace Rigor.PythonRunner

open Py SqlRunner

variable {F : Type}

def maxSourceBytes : Nat := 100000
def maxTests : Nat := 200
def maxStreamBytes : Nat := 64 * 1024

/-! ## Requests -/

structure PythonTest (F : Type) where
  id : Str
  visibility : Str
  input : Json F
  id_ne : id ≠ []
  visibility_ok : visibility = "public" ∨ visibility = "hidden"

structure Request (F : Type) where
  attempt : Int
  sourceCode : Str
  entrypoint : Str
  invocationMode : Str
  tests : List (PythonTest F)

def invocationModes : List Str :=
  ["auto", "keyword_arguments", "positional_arguments", "single_payload", "no_arguments"]

def readAttempt : Json F → Except InputFailure Int
  | .int attempt =>
      if attempt < 1 then .error (.input "Execution attempt is missing or invalid.")
      else .ok attempt
  | _ => .error (.input "Execution attempt is missing or invalid.")

def readSource : Json F → Except InputFailure Str
  | .str source =>
      if source = [] then .error (.input "Candidate source is required.")
      else if isEncodable source = false then .error .unicode
      else if utf8Len source > maxSourceBytes then
        .error (.input "Candidate source exceeds the execution limit.")
      else .ok source
  | _ => .error (.input "Candidate source is required.")

/-- `invocation_mode not in INVOCATION_MODES`. -/
def readMode : Json F → Except InputFailure Str
  | .str mode =>
      if mode ∈ invocationModes then .ok mode
      else .error (.input "Candidate invocation mode is invalid.")
  | .arr _ | .obj _ => .error .unhashable
  | _ => .error (.input "Candidate invocation mode is invalid.")

section

variable [Runtime F]

def readEntrypoint : Json F → Except InputFailure Str
  | .str entrypoint =>
      if Runtime.isIdentifier F entrypoint then .ok entrypoint
      else .error (.input "Candidate entrypoint is invalid.")
  | _ => .error (.input "Candidate entrypoint is invalid.")

def readTest (seen : List Str) (index : Nat) (raw : Json F) :
    Except InputFailure (PythonTest F) :=
  let missing : InputFailure :=
    .input ("Test input " ++ (natText index ++ (" has no identifier." : Str)))
  match raw with
  | .obj item =>
      match Json.get "id" item with
      | .str testId =>
          if h : testId = [] then .error missing
          else if testId ∈ seen then
            .error (.input ("Duplicate test identifier " ++ (reprString F testId ++ ("." : Str))))
          else do
            let visibility ← readVisibility item
              ("Test input " ++ (testId ++ (" has invalid visibility." : Str)))
            if (Json.lookup "expected_output" item).isSome ∨ (Json.lookup "expected" item).isSome
            then .error (.input "Expected outputs must never enter the candidate sandbox.")
            else .ok ⟨testId, visibility.1, Json.get "input" item, h,
              visibility_ok visibility⟩
      | _ => .error missing
  | _ => .error (.input "Each test input must be an object.")

def readTests (seen : List Str) (index : Nat) :
    List (Json F) → Except InputFailure (List (PythonTest F))
  | [] => .ok []
  | raw :: rest => do
      let test ← readTest seen index raw
      let tests ← readTests (test.id :: seen) (index + 1) rest
      .ok (test :: tests)

/-- The checks of `parse_request` on the decoded object. -/
def readRequest (payload : Dict F) (expectedExecutionId : Str) :
    Except InputFailure (Request F) :=
  if (Json.get "schema_version" payload).eqInt 1 = false then
    .error (.input "Unsupported execution input schema version.")
  else if (Json.get "execution_id" payload).eqStr expectedExecutionId = false then
    .error (.input "Execution input identifier mismatch.")
  else do
    let attempt ← readAttempt (Json.get "attempt" payload)
    let source ← readSource (Json.get "source_code" payload)
    let entrypoint ← readEntrypoint ((Json.lookup "entrypoint" payload).getD (.str "solve"))
    let mode ← readMode ((Json.lookup "invocation_mode" payload).getD (.str "auto"))
    match Json.get "tests" payload with
    | .arr raws =>
        if raws = [] then .error (.input "At least one test input is required.")
        else if raws.length > maxTests then
          .error (.input "Execution contains too many test inputs.")
        else do
          let tests ← readTests [] 0 raws
          .ok ⟨attempt, source, entrypoint, mode, tests⟩
    | _ => .error (.input "At least one test input is required.")

/-- `parse_request`, on the text of the input file. -/
def parseRequest (raw : Str) (expectedExecutionId : Str) : Except InputFailure (Request F) :=
  match (loads raw : Except LoadError (Json F)) with
  | .error .decode => .error (.input "Execution input is unavailable or invalid JSON.")
  | .error e => .error (.load e)
  | .ok (.obj payload) => readRequest payload expectedExecutionId
  | .ok _ => .error (.input "Execution input must be a JSON object.")

end

/-! ## The child process -/

/-- What the candidate's function is called with. -/
structure Call (F : Type) where
  positional : List (Json F)
  keywords : Dict F

def isDict : Json F → Bool
  | .obj _ => true
  | _ => false

def isList : Json F → Bool
  | .arr _ => true
  | _ => false

/-- The call of an invocation mode; `none` where unpacking raises
`TypeError` before there is one. -/
def callOf (mode : Str) (input : Json F) : Option (Call F) :=
  if mode = "keyword_arguments" ∨ (mode = "auto" ∧ isDict input) then
    match input with
    | .obj kvs => some ⟨[], kvs⟩
    | _ => none
  else if mode = "positional_arguments" ∨ (mode = "auto" ∧ isList input) then
    match input with
    | .arr xs => some ⟨xs, []⟩
    | _ => none
  else if mode = "no_arguments" then some ⟨[], []⟩
  else some ⟨[input], []⟩

/-- What `json.dumps(actual)` raises. -/
inductive DumpsError where
  | typeError | valueError | recursionError

def DumpsError.name : DumpsError → Str
  | .typeError => "TypeError"
  | .valueError => "ValueError"
  | .recursionError => "RecursionError"

/-- The category the runner gives it: `TypeError` and `ValueError` are caught first. -/
def DumpsError.category : DumpsError → Str
  | .typeError => "output_not_json_serializable"
  | .valueError => "output_not_json_serializable"
  | .recursionError => "RecursionError"

/-- What `BoundedText` kept of the candidate's output. -/
structure Captured where
  stdout : Str
  stderr : Str
  stdoutTruncated : Bool
  stderrTruncated : Bool

/-- How the candidate's code ends. -/
inductive Ending (F : Type) [Runtime F] where
  /-- a value that `json.dumps` writes -/
  | returns (actual : Json F) (fits : actual.DigitsFit)
  | rejected (e : DumpsError)
  | raises (name : Str)
  /-- the time limit ends it -/
  | exceeds

/-- Executing the source and looking its function up. -/
inductive Loaded where
  | ready (printed : Captured)
  | raises (name : Str) (printed : Captured)
  | exceeds

section Child

variable [Runtime F]

/-- What the candidate's code does in the process of each test, and when the
deadline of the request has passed. -/
structure Sandbox (F : Type) [Runtime F] where
  load : Nat → Loaded
  call : Nat → Call F → Ending F × Captured
  /-- what the interpreter writes to `stderr` itself -/
  rawStderr : Nat → Str
  exitCode : Nat → Int
  late : Nat → Bool
  late_zero : late 0 = false

def noOutput : Captured := ⟨[], [], false, false⟩

/-- The process of one test: the call it makes, if it comes to it, and how it ends. -/
def Sandbox.run (sandbox : Sandbox F) (index : Nat) (mode : Str) (input : Json F) :
    Option (Call F) × Ending F × Captured :=
  match sandbox.load index with
  | .raises name printed => (none, .raises name, printed)
  | .exceeds => (none, .exceeds, noOutput)
  | .ready printed =>
      match callOf mode input with
      | none => (none, .raises "TypeError", printed)
      | some call => (some call, sandbox.call index call)

/-- The protocol record of the child. -/
def protocolMembers (ok : Bool) (actual : Json F) (category : Option Str) (printed : Captured) :
    Dict F :=
  [("ok", .bool ok), ("actual", actual), ("error_category", optionalJson category),
    ("stdout", .str printed.stdout), ("stderr", .str printed.stderr),
    ("stdout_truncated", .bool printed.stdoutTruncated),
    ("stderr_truncated", .bool printed.stderrTruncated)]

/-- The record an ending leaves; a child that exceeds its time leaves none. -/
def Ending.members (category : DumpsError → Str) (printed : Captured) :
    Ending F → Option (Dict F)
  | .returns actual _ => some (protocolMembers true actual none printed)
  | .rejected e => some (protocolMembers false .null (some (category e)) printed)
  | .raises name => some (protocolMembers false .null (some name) printed)
  | .exceeds => none

/-- `print(json.dumps(protocol, ensure_ascii=False))` does not raise. -/
def canPrint (members : Dict F) : Bool :=
  decide ((Json.obj members).depth ≤ Runtime.recursionLimit F)
    && isEncodable (Json.obj members).encode

def childMarker : Str := "RIGOR_RESULT:"

/-- What the child leaves in its output file. -/
def childOutput (marker : Str) (members : Dict F) : Str :=
  if canPrint members then marker ++ ((Json.obj members).encode ++ [10]) else []

/-! ## Reading the child's output -/

/-- The first bytes of a text, decoded with `errors="replace"`: a character
that is cut is replaced. -/
def takeBytes : Nat → Str → Str
  | _, [] => []
  | n, c :: t =>
      if utf8Size c ≤ n then c :: takeBytes (n - utf8Size c) t
      else if n = 0 then [] else [0xFFFD]

/-- `_read_bounded`. -/
def readBounded (content : Str) : Str := takeBytes maxStreamBytes content

/-- `_parse_child_protocol`; a limit of `json.loads` is not caught. -/
def parseChildProtocol (content : Str) : Except LoadError (Option (Dict F)) :=
  match lastMarked childMarker (readBounded content) with
  | none => .ok none
  | some line =>
      match (loads line : Except LoadError (Json F)) with
      | .error .decode => .ok none
      | .error e => .error e
      | .ok (.obj d) => .ok (some d)
      | .ok _ => .ok none

def protocolError : Dict F :=
  protocolMembers false .null (some "runner_protocol_error") noOutput

def timeoutProtocol : Dict F := protocolMembers false .null (some "timeout") noOutput

/-- `execute_test`: the call that was made and the protocol record. -/
def executeTest (sandbox : Sandbox F) (mode : Str) (index : Nat) (input : Json F) :
    Option (Call F) × Except LoadError (Dict F) :=
  let (call, ending, printed) := sandbox.run index mode input
  match ending.members DumpsError.category printed with
  | none => (call, .ok timeoutProtocol)
  | some members =>
      (call, (parseChildProtocol (childOutput childMarker members)).map fun protocol =>
        protocol.getD protocolError)

/-! ## The run -/

/-- `str(error_category) if error_category else None`. -/
def categoryOf (value : Json F) : Option Str := if value.truthy then some value.pyStr else none

/-- One test that was run, with the record of its child. -/
structure TestRun (F : Type) where
  test : SentTest F
  call : Option (Call F)
  protocol : Dict F

/-- The entry in the results. -/
def TestRun.result (r : TestRun F) : TestResult F :=
  ⟨r.test.id, r.test.visibility, (Json.get "ok" r.protocol).truthy, Json.get "actual" r.protocol,
    categoryOf (Json.get "error_category" r.protocol)⟩

def TestRun.timedOut (r : TestRun F) : Bool :=
  (Json.get "error_category" r.protocol).eqStr "timeout"

inductive LoopEnd (ε : Type) where
  | finished
  | timedOut
  | raised (e : ε)
  deriving DecidableEq

/-- The loop over the tests: the deadline, a child that exceeds its time,
or an error ends it. -/
def runLoop {ε : Type} (late : Nat → Bool)
    (execute : Nat → Json F → Option (Call F) × Except ε (Dict F)) :
    Nat → List (SentTest F) → List (TestRun F) × LoopEnd ε
  | _, [] => ([], .finished)
  | index, test :: rest =>
      if late index then ([], .timedOut)
      else
        match execute index test.input with
        | (_, .error e) => ([], .raised e)
        | (call, .ok protocol) =>
            let r : TestRun F := ⟨test, call, protocol⟩
            if r.timedOut then ([r], .timedOut)
            else
              let (runs, ending) := runLoop late execute (index + 1) rest
              (r :: runs, ending)

def PythonTest.sent (t : PythonTest F) : SentTest F := ⟨t.id, t.visibility, t.input⟩

/-- The loop of `run_request`. -/
def runTests (sandbox : Sandbox F) (request : Request F) :
    List (TestRun F) × LoopEnd LoadError :=
  runLoop sandbox.late (executeTest sandbox request.invocationMode) 0
    (request.tests.map PythonTest.sent)

/-! ## The record -/

theorem categoryOf_ne (value : Json F) : categoryOf value ≠ some [] := by
  unfold categoryOf
  split_ifs with htruthy
  · intro h
    refine Json.pyStr_ne ?_ (Option.some.inj h)
    intro hnil
    rw [hnil] at htruthy
    cases htruthy
  · nofun

theorem executeTest_distinctKeys {sandbox : Sandbox F} {mode : Str} {index : Nat} {input : Json F}
    {call : Option (Call F)} {protocol : Dict F}
    (h : executeTest sandbox mode index input = (call, .ok protocol)) :
    Json.DistinctKeysMembers protocol := by
  have hown : ∀ category, Json.DistinctKeysMembers
      (protocolMembers (F := F) false .null (some category) noOutput) :=
    fun _ => ⟨trivial, trivial, trivial, trivial, trivial, trivial, trivial, trivial⟩
  unfold executeTest at h
  dsimp only at h
  split at h
  · cases h
    exact hown _
  · obtain ⟨-, h⟩ := Prod.mk.inj h
    obtain ⟨parsed, hparsed, heq⟩ := map_eq_ok h
    rw [← heq]
    cases parsed with
    | none => exact hown _
    | some d =>
        unfold parseChildProtocol at hparsed
        split at hparsed
        · cases hparsed
        · split at hparsed
          · cases hparsed
          · cases hparsed
          · rename_i hloads
            cases hparsed
            exact (Json.loads_distinctKeys hloads).2
          · cases hparsed

omit [Runtime F] in
/-- Every entry is of one of the tests, with the record of its process. -/
theorem runLoop_mem {ε : Type} {late : Nat → Bool}
    {execute : Nat → Json F → Option (Call F) × Except ε (Dict F)} {index : Nat}
    {tests : List (SentTest F)} {r : TestRun F} (h : r ∈ (runLoop late execute index tests).1) :
    r.test ∈ tests ∧ ∃ i, execute i r.test.input = (r.call, .ok r.protocol) := by
  induction tests generalizing index with
  | nil => cases h
  | cons test rest ih =>
      unfold runLoop at h
      split_ifs at h
      · cases h
      · split at h
        · cases h
        · rename_i call protocol hexecute
          dsimp only at h
          split_ifs at h
          · rw [List.mem_singleton.mp h]
            exact ⟨List.mem_cons_self .., index, hexecute⟩
          · rcases List.mem_cons.mp h with rfl | h
            · exact ⟨List.mem_cons_self .., index, hexecute⟩
            · obtain ⟨hmem, i, hi⟩ := ih h
              exact ⟨List.mem_cons_of_mem _ hmem, i, hi⟩

theorem runTests_honest (sandbox : Sandbox F) (request : Request F) :
    ∀ t ∈ (runTests sandbox request).1.map TestRun.result, t.Honest := by
  intro t ht
  obtain ⟨r, hr, rfl⟩ := List.mem_map.mp ht
  obtain ⟨hmem, i, hi⟩ := runLoop_mem hr
  obtain ⟨test, -, htest⟩ := List.mem_map.mp hmem
  have hkeys := executeTest_distinctKeys hi
  refine ⟨?_, ?_, categoryOf_ne _, ?_⟩
  · show r.test.id ≠ []
    rw [← htest]
    exact test.id_ne
  · show r.test.visibility = _ ∨ r.test.visibility = _
    rw [← htest]
    exact test.visibility_ok
  · show (Json.get "actual" r.protocol).DistinctKeys
    exact Json.distinctKeys_get hkeys

/-- The output of the public tests, `extra` after each. -/
def publicParts (key : Str) (extra : Nat → Str) (runs : List (TestRun F)) : Str :=
  (runs.zipIdx.filter fun p => p.1.test.visibility = ("public" : Str)).flatMap fun p =>
    ((Json.lookup key p.1.protocol).getD (.str [])).pyStr ++ extra p.2

/-- The record of `run_request`, if its loop ends without an error. -/
def runRecord (sandbox : Sandbox F) (request : Request F) (runtimeMs : Nat) : RunnerRecord F :=
  let runs := (runTests sandbox request).1
  let stdout := publicParts "stdout" (fun _ => []) runs
  let stderr := publicParts "stderr" sandbox.rawStderr runs
  { attempt := request.attempt
    status := if (runTests sandbox request).2 = .timedOut then "TIMEOUT" else "COMPLETED"
    runtimeMs := runtimeMs
    exitCode := match runs.length with
      | 0 => 0
      | last + 1 => sandbox.exitCode last
    tests := runs.map TestRun.result
    stdout := stdout.take maxStreamBytes
    stderr := stderr.take maxStreamBytes
    tail := .truncated (decide (stdout.length > maxStreamBytes))
      (decide (stderr.length > maxStreamBytes))
    tests_honest := runTests_honest sandbox request
    status_ok := by
      show (if _ then _ else _) = _ ∨ _
      split_ifs
      · exact .inr (.inr rfl)
      · exact .inl rfl
    runtime_ok := Int.natCast_nonneg runtimeMs
    category_ok := nofun }

/-- `main`: the record it prints, if it does not raise. -/
def main (raw executionId : Str) (timeoutSeconds : Int) (sandbox : Sandbox F) (runtimeMs : Nat) :
    Option (RunnerRecord F) :=
  if timeoutSeconds < 1 ∨ timeoutSeconds > 30 then
    some (.failure 0 2 "RunnerInputError" RunnerRecord.inputError_ne)
  else
    match parseRequest (F := F) raw executionId with
    | .error (.input _) => some (.failure 0 2 "RunnerInputError" RunnerRecord.inputError_ne)
    | .error .unicode => some (.failure 0 2 "UnicodeEncodeError" (by decide))
    | .error (.load .intDigits) => some (.failure 0 2 "ValueError" (by decide))
    | .error _ => none
    | .ok request =>
        match (runTests sandbox request).2 with
        | .raised .intDigits => some (.failure request.attempt 2 "ValueError" (by decide))
        | .raised _ => none
        | _ => some (runRecord sandbox request runtimeMs)

/-- The runs behind the results that `main` prints. -/
def recordedRuns (raw executionId : Str) (sandbox : Sandbox F) : Option (List (TestRun F)) :=
  match parseRequest (F := F) raw executionId with
  | .error (.input _) => some []
  | .error .unicode => some []
  | .error (.load .intDigits) => some []
  | .error _ => none
  | .ok request =>
      match (runTests sandbox request).2 with
      | .raised .intDigits => some []
      | .raised _ => none
      | _ => some (runTests sandbox request).1

theorem main_tests (raw executionId : Str) {timeoutSeconds : Int} (sandbox : Sandbox F)
    (runtimeMs : Nat) (htimeout : 1 ≤ timeoutSeconds ∧ timeoutSeconds ≤ 30) :
    (main raw executionId timeoutSeconds sandbox runtimeMs).map RunnerRecord.tests
      = (recordedRuns raw executionId sandbox).map (List.map TestRun.result) := by
  have hpolicy : ¬(timeoutSeconds < 1 ∨ timeoutSeconds > 30) := by omega
  unfold main recordedRuns
  rw [if_neg hpolicy]
  cases parseRequest (F := F) raw executionId with
  | error e =>
      cases e with
      | load e => cases e <;> rfl
      | _ => rfl
  | ok request =>
      dsimp only
      cases (runTests sandbox request).2 with
      | raised e => cases e <;> rfl
      | finished => rfl
      | timedOut => rfl

end Child

end Rigor.PythonRunner
