import Rigor.RunnerRecord

/-!
# The SQL runner

`services/sql-runner/runner.py`: the request it accepts, the fixture of a
test, the statements it runs on the disposable database before the
candidate's query, and the record it prints. What PostgreSQL answers is an
oracle.
-/

namespace Rigor.SqlRunner

open Py

variable {F : Type}

def maxRequestBytes : Nat := 2 * 1024 * 1024
def maxSourceBytes : Nat := 100000
def maxSetupBytes : Nat := 1024 * 1024
def maxTests : Nat := 100
def minStatementTimeoutMs : Int := 100
def maxStatementTimeoutMs : Int := 30000
def defaultLockTimeoutMs : Int := 1000
def defaultIdleTimeoutMs : Int := 2000

/-- How reading a request fails. -/
inductive InputFailure where
  /-- `RunnerInputError(message)` -/
  | input (message : Str)
  /-- a text that UTF-8 cannot encode -/
  | unicode
  /-- a value that no set can hold -/
  | unhashable
  | load (e : LoadError)

/-! ## Requests -/

def requiredString (value : Json F) (label : Str) (maxBytes : Nat) : Except InputFailure Str :=
  match value with
  | .str s =>
      if isBlank s then .error (.input (label ++ " is required."))
      else if isEncodable s = false then .error .unicode
      else if utf8Len s > maxBytes then
        .error (.input (label ++ " exceeds the execution limit."))
      else .ok s
  | _ => .error (.input (label ++ " is required."))

def optionalString (value : Json F) (label : Str) (maxBytes : Nat) : Except InputFailure Str :=
  match value with
  | .null => .ok []
  | .str s =>
      if isEncodable s = false then .error .unicode
      else if utf8Len s > maxBytes then
        .error (.input (label ++ " exceeds the execution limit."))
      else .ok s
  | _ => .error (.input (label ++ " must be a string."))

def positiveInt (value : Json F) (label : Str) (maximum : Int) : Except InputFailure Int :=
  match value with
  | .int n =>
      if n < 1 ∨ n > maximum then .error (.input (label ++ " is invalid.")) else .ok n
  | _ => .error (.input (label ++ " is invalid."))

/-- The fixture of one test: an override of the schema and of the seed, and
an additional set-up step. -/
structure Fixture where
  schemaSql : Option Str
  seedSql : Option Str
  setupSql : Str

/-- `value.get("schema_sql", value.get("ddl"))`. -/
def schemaValue (value : Dict F) : Json F :=
  (Json.lookup "schema_sql" value).getD (Json.get "ddl" value)

/-- `"seed_sql" in value or "seed" in value`. -/
def seedPresent (value : Dict F) : Bool :=
  (Json.lookup "seed_sql" value).isSome || (Json.lookup "seed" value).isSome

/-- `value.get("seed_sql", value.get("seed"))`. -/
def seedValue (value : Dict F) : Json F :=
  (Json.lookup "seed_sql" value).getD (Json.get "seed" value)

/-- `None` stays `None`: the test does not override the schema. -/
def schemaOverride (value : Json F) : Except InputFailure (Option Str) :=
  match value with
  | .null => .ok none
  | v => (optionalString v "Test schema SQL" maxSetupBytes).map some

/-- A seed member, even `null`, overrides the seed. -/
def seedOverride (value : Dict F) : Except InputFailure (Option Str) :=
  if seedPresent value then
    (optionalString (seedValue value) "Test seed SQL" maxSetupBytes).map some
  else .ok none

/-- `_test_fixture`. -/
def testFixture (value : Json F) : Except InputFailure Fixture :=
  match value with
  | .null => .ok ⟨none, none, []⟩
  | .str s => do
      let setupSql ← optionalString (F := F) (.str s) "Test setup SQL" maxSetupBytes
      .ok ⟨none, none, setupSql⟩
  | .obj value => do
      let schemaSql ← schemaOverride (schemaValue value)
      let seedSql ← seedOverride value
      let setupSql ← optionalString ((Json.lookup "setup_sql" value).getD (.str []))
        "Test setup SQL" maxSetupBytes
      .ok ⟨schemaSql, seedSql, setupSql⟩
  | _ => .error (.input
      "SQL test input must be null, SQL text, or an object containing ddl/seed/setup_sql.")

structure SqlTest where
  id : Str
  visibility : Str
  fixture : Fixture
  id_ne : id ≠ []
  visibility_ok : visibility = "public" ∨ visibility = "hidden"

structure Request where
  attempt : Int
  sourceCode : Str
  schemaSql : Str
  seedSql : Str
  statementTimeoutMs : Int
  lockTimeoutMs : Int
  idleTimeoutMs : Int
  tests : List SqlTest

/-- `visibility not in {"public", "hidden"}`, the value read with its default. -/
def readVisibility (test : Dict F) (message : Str) :
    Except InputFailure { v : Str // v = "public" ∨ v = "hidden" } :=
  match (Json.lookup "visibility" test).getD (.str "hidden") with
  | .str s => if h : s = "public" ∨ s = "hidden" then .ok ⟨s, h⟩ else .error (.input message)
  | .arr _ | .obj _ => .error .unhashable
  | _ => .error (.input message)

theorem visibility_ok (v : { v : Str // v = "public" ∨ v = "hidden" }) :
    v.1 = "public" ∨ v.1 = "hidden" := v.2

def readTest (seen : List Str) (raw : Json F) : Except InputFailure SqlTest :=
  match raw with
  | .obj test =>
      match Json.get "id" test with
      | .str testId =>
          if h : testId ≠ [] ∧ testId ∉ seen then do
            let visibility ← readVisibility test "SQL test visibility is invalid."
            if (Json.lookup "expected_output" test).isSome ∨ (Json.lookup "expected" test).isSome
            then .error (.input "Expected outputs must never enter the SQL sandbox.")
            else
              let fixture ← testFixture (Json.get "input" test)
              .ok ⟨testId, visibility.1, fixture, h.1, visibility_ok visibility⟩
          else .error (.input "SQL test identifiers must be non-empty and unique.")
      | _ => .error (.input "SQL test identifiers must be non-empty and unique.")
  | _ => .error (.input "Each SQL test must be an object.")

def readTests (seen : List Str) : List (Json F) → Except InputFailure (List SqlTest)
  | [] => .ok []
  | raw :: rest => do
      let test ← readTest seen raw
      let tests ← readTests (test.id :: seen) rest
      .ok (test :: tests)

section

variable [Runtime F]

/-- The checks of `parse_request` on the decoded object. -/
def readRequest (payload : Dict F) (expectedExecutionId : Str) : Except InputFailure Request := do
  if (Json.get "schema_version" payload).eqInt 1 = false then
    .error (.input "Unsupported execution input schema version.")
  else if (Json.get "execution_id" payload).eqStr expectedExecutionId = false then
    .error (.input "Execution input identifier mismatch.")
  else
    let attempt ← positiveInt (Json.get "attempt" payload) "Execution attempt" 100
    let source ← requiredString (Json.get "source_code" payload) "Candidate SQL" maxSourceBytes
    let schemaSql ←
      requiredString (Json.get "schema_sql" payload) "Trusted schema SQL" maxSetupBytes
    let seedSql ← optionalString (Json.get "seed_sql" payload) "Trusted seed SQL" maxSetupBytes
    let timeout ← positiveInt (Json.get "statement_timeout_ms" payload) "Statement timeout"
      maxStatementTimeoutMs
    if timeout < minStatementTimeoutMs then
      .error (.input "Statement timeout is below the server minimum.")
    else
      match Json.get "tests" payload with
      | .arr raws =>
          if raws = [] ∨ raws.length > maxTests then
            .error (.input "SQL execution requires a bounded non-empty test list.")
          else
            let tests ← readTests [] raws
            .ok ⟨attempt, source, schemaSql, seedSql, timeout,
              min defaultLockTimeoutMs timeout, max defaultIdleTimeoutMs timeout, tests⟩
      | _ => .error (.input "SQL execution requires a bounded non-empty test list.")

/-- `parse_request`, on the text of the input file. -/
def parseRequest (raw : Str) (expectedExecutionId : Str) : Except InputFailure Request :=
  if utf8Len raw > maxRequestBytes then
    .error (.input "Execution input exceeds the transport limit.")
  else match (loads raw : Except LoadError (Json F)) with
    | .error .decode => .error (.input "Execution input is invalid JSON.")
    | .error e => .error (.load e)
    | .ok (.obj payload) => readRequest payload expectedExecutionId
    | .ok _ => .error (.input "Execution input must be a JSON object.")

end

/-! ## Statements of the owner -/

/-- A statement the owner runs before the candidate's query. -/
inductive Statement where
  /-- a statement of the adapter's own -/
  | fixed (sql : String)
  | schema (sql : Str)
  | seed (sql : Str)
  | setup (sql : Str)
  deriving DecidableEq

def Statement.isFixture : Statement → Bool
  | .fixed _ => false
  | _ => true

/-- `reset_fixture`. -/
def resetFixture (schemaSql seedSql setupSql : Str) : List Statement :=
  [.fixed "DROP SCHEMA IF EXISTS public CASCADE", .fixed "CREATE SCHEMA public",
    .fixed "REVOKE ALL ON SCHEMA public FROM PUBLIC", .fixed "REVOKE ALL ON DATABASE FROM PUBLIC",
    .fixed "GRANT CONNECT ON DATABASE TO candidate",
    .fixed "GRANT USAGE ON SCHEMA public TO candidate"]
  ++ [.schema schemaSql]
  ++ (if isBlank seedSql then [] else [.seed seedSql])
  ++ (if isBlank setupSql then [] else [.setup setupSql])
  ++ [.fixed "GRANT SELECT ON ALL TABLES IN SCHEMA public TO candidate",
    .fixed "GRANT USAGE, SELECT ON ALL SEQUENCES IN SCHEMA public TO candidate"]

/-- The owner's statements for one test, as `run_request` calls them. -/
def testStatements (request : Request) (test : SqlTest) : List Statement :=
  resetFixture
    (match test.fixture.schemaSql with
      | some s => if isBlank s then request.schemaSql else s
      | none => request.schemaSql)
    (test.fixture.seedSql.getD request.seedSql)
    test.fixture.setupSql

/-! ## The run -/

/-- `_candidate_error_category`, and the two limits on a result. -/
inductive QueryFailure where
  | timeout | permissionDenied | syntaxError | error | rowLimit | sizeLimit

def QueryFailure.category : QueryFailure → Str
  | .timeout => "timeout"
  | .permissionDenied => "sql_permission_denied"
  | .syntaxError => "sql_syntax_error"
  | .error => "sql_error"
  | .rowLimit => "result_row_limit"
  | .sizeLimit => "result_size_limit"

/-- `execute_candidate_query`: the columns and rows of the answer, or how it failed. -/
inductive QueryOutcome (F : Type) where
  | rows (actual : Json F) (h : actual.DistinctKeys)
  | failed (e : QueryFailure)

def testResult (test : SqlTest) : QueryOutcome F → TestResult F
  | .rows actual _ => ⟨test.id, test.visibility, true, actual, none⟩
  | .failed e => ⟨test.id, test.visibility, false, .null, some e.category⟩

theorem testResult_honest (test : SqlTest) (outcome : QueryOutcome F) :
    (testResult test outcome).Honest := by
  cases outcome with
  | rows actual h => exact ⟨test.id_ne, test.visibility_ok, nofun, h⟩
  | failed e =>
      refine ⟨test.id_ne, test.visibility_ok, fun h => ?_, trivial⟩
      cases e <;> cases h

/-- The loop over the tests: a statement timeout ends it. -/
def runTests (query : SqlTest → QueryOutcome F) : List SqlTest → List (TestResult F) × Bool
  | [] => ([], false)
  | test :: rest =>
      match query test with
      | .failed .timeout => ([testResult test (query test)], true)
      | _ =>
          ((testResult test (query test)) :: (runTests query rest).1, (runTests query rest).2)

theorem runTests_honest (query : SqlTest → QueryOutcome F) : ∀ tests : List SqlTest,
    ∀ t ∈ (runTests query tests).1, t.Honest
  | [] => nofun
  | test :: rest => by
      rw [runTests]
      split
      · exact List.forall_mem_singleton.mpr (testResult_honest test _)
      · exact List.forall_mem_cons.mpr ⟨testResult_honest test _, runTests_honest query rest⟩

/-- `run_request`: the record of a run that took `runtimeMs`. -/
def runRequest (request : Request) (query : SqlTest → QueryOutcome F) (runtimeMs : Nat) :
    RunnerRecord F :=
  let results := runTests query request.tests
  { attempt := request.attempt
    status := if results.2 then "TIMEOUT" else "COMPLETED"
    runtimeMs := runtimeMs
    exitCode := if results.2 then 124 else 0
    tests := results.1
    stdout := []
    stderr := []
    tail := .errorCategory (if results.2 then some "timeout" else none)
    tests_honest := runTests_honest query request.tests
    status_ok := by
      show (if _ then _ else _) = _ ∨ _
      split_ifs
      · exact .inr (.inr rfl)
      · exact .inl rfl
    runtime_ok := Int.natCast_nonneg runtimeMs
    category_ok := by
      show (if _ then _ else _) ≠ _
      split_ifs <;> nofun }

/-- `main`: the record it prints, if it does not raise. `infrastructure`
tells that the run met a `RunnerInfrastructureError` or a `psycopg.Error`. -/
def main [Runtime F] (raw executionId : Str) (query : SqlTest → QueryOutcome F) (runtimeMs : Nat)
    (infrastructure : Bool) : Option (RunnerRecord F) :=
  match parseRequest (F := F) raw executionId with
  | .error (.input _) => some (.failure 0 2 "RunnerInputError" RunnerRecord.inputError_ne)
  | .error _ => none
  | .ok request =>
      if infrastructure then
        some (.failure request.attempt 3 "runner_infrastructure_error" (by decide))
      else some (runRequest request query runtimeMs)

end Rigor.SqlRunner
