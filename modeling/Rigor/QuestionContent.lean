import Rigor.Results

/-!
# Question content

What the API reads out of the structured content of a published question:
the mode, the runtime and the tests (`practice.py`), and the execution
configuration it queues (`execution_api.py`). The names of the functions in
a starter program come from `ast.parse`, which is a parameter.
-/

namespace Rigor

open Py

variable {F : Type} [Runtime F]

inductive SubmissionRuntime where
  | python | postgresql
  deriving DecidableEq

def SubmissionRuntime.value : SubmissionRuntime → Str
  | .python => "python3.13"
  | .postgresql => "postgresql18"

/-- `SubmissionRuntime(value)`. -/
def SubmissionRuntime.ofValue (value : Str) : Option SubmissionRuntime :=
  if value = "python3.13" then some .python
  else if value = "postgresql18" then some .postgresql
  else none

/-- The top-level functions a program defines, in their order; `none` for a
`SyntaxError`. -/
abbrev FunctionNames := Str → Option (List Str)

/-! ## The mode -/

def asDict : Json F → Option (Dict F)
  | .obj d => some d
  | _ => none

/-- The first of the two mode keys that holds an object. -/
def modeSpecification (content : Dict F) : Option (Dict F) :=
  asDict (Json.get "mode_specification" content) <|> asDict (Json.get "type_specification" content)

/-- `question_mode`. -/
def questionMode (structured : Json F) : Dict F :=
  match structured with
  | .obj content => (modeSpecification content).getD []
  | _ => []

def questionRuntime (structured : Json F) : Except Failure SubmissionRuntime :=
  let content := (asDict structured).getD []
  let mode := questionMode structured
  let questionType := strOr (Json.get "question_type" content) []
  let dialect := strOr (Json.get "dialect" mode) []
  let runtime := strOr (Json.get "runtime" mode) []
  if questionType = "sql_coding" ∨ dialect = "postgresql" ∨ dialect = "postgresql18" then
    .ok .postgresql
  else if questionType = "python_coding" ∨ runtime = "3.13" ∨ runtime = "python3.13" then
    .ok .python
  else .error (.practiceTransition "Question does not define a supported executable runtime.")

/-! ## The tests -/

/-- `test.get("visibility") == "public"`. -/
def isPublic (test : Dict F) : Bool := (Json.get "visibility" test).eqStr "public"

/-- `question_tests`. -/
def questionTests (structured : Json F) (publicOnly : Bool) : List (Dict F) :=
  match (Json.lookup "tests" (questionMode structured)).getD (.arr []) with
  | .arr items => if publicOnly then (items.filterMap asDict).filter isPublic else items.filterMap asDict
  | _ => []

/-- `question_hints`. -/
def questionHints (structured : Json F) : List (Dict F) :=
  match structured with
  | .obj content =>
      match (Json.lookup "hints" content).getD (.arr []) with
      | .arr items => items.filterMap asDict
      | _ => []
  | _ => []

/-- `f"test-{index + 1}"`. -/
def testName (index : Nat) : Str := "test-" ++ natText (index + 1)

def visibilityOf (test : Dict F) : Str := if isPublic test then "public" else "hidden"

/-- One test as the sandbox sees it. -/
structure SentTest (F : Type) where
  id : Str
  visibility : Str
  input : Json F

def sentTest (index : Nat) (test : Dict F) : SentTest F where
  id := strOr (Json.get "id" test) (testName index)
  visibility := visibilityOf test
  input := Json.get "input" test

def SentTest.toJson (t : SentTest F) : Json F :=
  .obj [("id", .str t.id), ("visibility", .str t.visibility), ("input", t.input)]

/-- `_candidate_tests`. -/
def candidateTests (structured : Json F) (publicOnly : Bool) :
    Except Failure (List (SentTest F)) :=
  let sanitized := (questionTests structured publicOnly).mapIdx sentTest
  if sanitized = [] then .error (.http 409 "Question has no executable tests.") else .ok sanitized

/-! ## The execution configuration -/

def invocationModes : List Str :=
  ["auto", "keyword_arguments", "positional_arguments", "single_payload", "no_arguments"]

/-- The function of the starter program that is run, if it is unambiguous. -/
def starterEntrypoint (functionNames : FunctionNames) (starter : Json F) : Except Failure Str :=
  match starter with
  | .str source =>
      if isBlank source then
        .error (.http 409 "Python question is missing a persisted entrypoint and starter code.")
      else
        match functionNames source with
        | none => .error (.http 409 "Python starter code is invalid and cannot define an entrypoint.")
        | some names =>
            let candidates := names.filter fun name => name.head? != some 95
            if (Str.ofString "solve") ∈ candidates then .ok "solve"
            else
              match candidates with
              | [name] => .ok name
              | _ => .error (.http 409
                  "Python question must persist an unambiguous execution entrypoint.")
  | _ => .error (.http 409 "Python question is missing a persisted entrypoint and starter code.")

/-- `_entrypoint`. -/
def entrypoint (functionNames : FunctionNames) (structured : Json F) : Except Failure Str := do
  let mode := questionMode structured
  let explicit :=
    if (Json.get "entrypoint" mode).truthy then Json.get "entrypoint" mode
    else Json.get "function_name" mode
  let name ←
    match explicit with
    | .null => starterEntrypoint functionNames (Json.get "starter_code" mode)
    | v => .ok v.pyStr
  if Runtime.isIdentifier F name then .ok name
  else .error (.http 409 "Question execution entrypoint is invalid.")

/-- `_invocation_mode`. -/
def invocationMode (structured : Json F) : Except Failure Str :=
  let value := strOr (Json.get "invocation_mode" (questionMode structured)) "auto"
  if value ∈ invocationModes then .ok value
  else .error (.http 409 "Question invocation mode is invalid.")

/-- `_sql_input_payload`. -/
def sqlInputPayload (structured : Json F) (publicOnly : Bool) : Except Failure (Dict F) := do
  let mode := questionMode structured
  let schemaSql := (Json.lookup "schema_sql" mode).getD (Json.get "ddl" mode)
  let seedSql :=
    (Json.lookup "seed_sql" mode).getD ((Json.lookup "seed_data" mode).getD (.str []))
  match schemaSql with
  | .str schema =>
      if isBlank schema then .error (.http 409 "SQL question is missing trusted schema DDL.")
      else
        match seedSql with
        | .str seed =>
            match (Json.lookup "statement_timeout_ms" mode).getD (.int 5000) with
            | .int timeout =>
                if timeout < 100 ∨ timeout > 30000 then
                  .error (.http 409 "SQL statement timeout is invalid.")
                else do
                  let tests ← candidateTests structured publicOnly
                  .ok [("schema_version", .int 1), ("schema_sql", .str schema),
                    ("seed_sql", .str seed), ("statement_timeout_ms", .int timeout),
                    ("tests", .arr (tests.map SentTest.toJson))]
            | _ => .error (.http 409 "SQL statement timeout is invalid.")
        | _ => .error (.http 409 "SQL question seed data is invalid.")
  | _ => .error (.http 409 "SQL question is missing trusted schema DDL.")

/-- `_limits("python-small")` and `_limits("sql-small")`. -/
def limits (runtime : SubmissionRuntime) : Dict F :=
  match runtime with
  | .python =>
      [("profile", .str "python-small"), ("cpu_limit", .str "1000m"),
        ("memory_limit", .str "512Mi"), ("ephemeral_storage_limit", .str "32Mi"),
        ("execution_timeout_seconds", .int 10), ("job_deadline_seconds", .int 20)]
  | .postgresql =>
      [("profile", .str "sql-small"), ("cpu_limit", .str "1000m"),
        ("memory_limit", .str "768Mi"), ("ephemeral_storage_limit", .str "128Mi"),
        ("execution_timeout_seconds", .int 10), ("job_deadline_seconds", .int 30)]

def runtimeLanguage : SubmissionRuntime → Str
  | .python => "python"
  | .postgresql => "sql"

/-- `_runtime_execution_config`: the input payload of an execution. -/
def runtimeExecutionConfig (functionNames : FunctionNames) (structured : Json F)
    (runtime : SubmissionRuntime) (publicOnly : Bool) : Except Failure (Dict F) :=
  match runtime with
  | .python => do
      let name ← entrypoint functionNames structured
      let mode ← invocationMode structured
      let tests ← candidateTests structured publicOnly
      .ok [("schema_version", .int 1), ("entrypoint", .str name), ("invocation_mode", .str mode),
        ("tests", .arr (tests.map SentTest.toJson))]
  | .postgresql => sqlInputPayload structured publicOnly

/-- `starter_source`. -/
def starterSource (structured : Json F) (runtime : SubmissionRuntime) : Str :=
  let mode := questionMode structured
  match runtime with
  | .python => strOr (Json.get "starter_code" mode) []
  | .postgresql =>
      strOr (if (Json.get "starter_sql" mode).truthy then Json.get "starter_sql" mode
        else Json.get "starter_code" mode) "-- Write your PostgreSQL 18 query here.\n"

end Rigor
