import Rigor.PyCompare
import Rigor.QuestionContent
import Rigor.Tables

/-!
# Grading

`load_expected_tests` and `trusted_compare` (`execution_results.py`): the
expected answers of a question version, and the comparison of a runner's
result with them.
-/

namespace Rigor

open Py

variable {F : Type}

/-- What grading raises. -/
inductive GradingFailure where
  /-- what the parser and the field checks raise -/
  | runner (e : RunnerFailure)
  /-- `TypeError`: a list or an object is looked up in a set -/
  | typeError
  /-- `OverflowError`: an integer is too large for a float -/
  | overflow
  /-- `KeyError` -/
  | key
  deriving DecidableEq

abbrev GradingFailure.trusted (message : Str) : GradingFailure := .runner (.trusted message)

/-- `TrustedResultError` is the one error the controller handles. -/
def GradingFailure.IsTrusted : GradingFailure → Prop
  | .runner e => e.IsTrusted
  | _ => False

/-- The result of a check of the parser's, raised through here. -/
def checked {α : Type} (x : Except RunnerFailure α) : Except GradingFailure α :=
  x.mapError .runner

/-! ## `load_expected_tests` -/

/-- One value of the dictionary of expected tests. -/
structure ExpectedTest (F : Type) where
  id : Str
  name : Str
  name_ok : name ≠ []
  isPublic : Bool
  expectedOutput : Json F
  expectedColumns : Option (List Str)
  comparison : Dict F

def ExpectedTest.visibility (t : ExpectedTest F) : Str := if t.isPublic then "public" else "hidden"

/-- `expected_tests[test_id]`. -/
def findTest (testId : Str) (expected : List (ExpectedTest F)) : Option (ExpectedTest F) :=
  Tables.find ExpectedTest.id testId expected

def supportedComparisons : List Str :=
  ["exact", "normalized_text", "numeric_tolerance", "json", "unordered", "sql_ordered",
    "sql_unordered"]

/-- `_is_sql_mode`: a list or an object cannot be looked up in a set. -/
def isSqlMode (structured mode : Dict F) : Except GradingFailure Bool :=
  if (Json.get "question_type" structured).eqStr "sql_coding" then .ok true
  else
    match Json.get "dialect" mode with
    | .arr _ | .obj _ => .error .typeError
    | v => .ok (v.eqStr "postgresql" || v.eqStr "postgresql18")

def defaultStrategy (sqlMode : Bool) : Str := if sqlMode then "sql_ordered" else "exact"

/-- The short names of the two SQL strategies. -/
def resolveStrategy (default strategy : Str) : Str :=
  if (Str.ofString "sql_").isPrefixOf default then
    if strategy = "ordered" then "sql_ordered"
    else if strategy = "unordered" then "sql_unordered"
    else strategy
  else strategy

theorem optionalString_ne {value : Json F} {s : Str} (h : optionalString value = some s) :
    s ≠ [] := by
  cases value with
  | str t =>
      rw [optionalString] at h
      split_ifs at h with ht
      exact Option.some.inj h ▸ ht
  | _ => cases h

def expectedId (index : Nat) (item : Dict F) : Str :=
  (optionalString (Json.get "id" item)).getD (testName index)

theorem expectedId_ne (index : Nat) (item : Dict F) : expectedId index item ≠ [] := by
  rw [expectedId]
  cases h : optionalString (Json.get "id" item) with
  | none => exact List.cons_ne_nil _ _
  | some s => exact optionalString_ne h

/-- The name of a test, its identifier when it has none. -/
def expectedName (index : Nat) (item : Dict F) : Str :=
  (optionalString (Json.get "name" item)).getD (expectedId index item)

theorem expectedName_ne (index : Nat) (item : Dict F) : expectedName index item ≠ [] := by
  rw [expectedName]
  cases h : optionalString (Json.get "name" item) with
  | none => exact expectedId_ne index item
  | some s => exact optionalString_ne h

section Grading

variable [FloatArith F]

/-- The end of `_comparison_policy`: `{**policy, "strategy": strategy}`. -/
def supportedPolicy (policy : Dict F) (strategy : Str) : Except GradingFailure (Dict F) :=
  if strategy ∈ supportedComparisons then .ok (Json.insert "strategy" (.str strategy) policy)
  else .error (.trusted
    ("Unsupported trusted comparison strategy " ++ reprString F strategy ++ "."))

/-- `_comparison_policy`. -/
def comparisonPolicy (item : Dict F) (default : Str) : Except GradingFailure (Dict F) :=
  match Json.get "comparison" item with
  | .null => .ok [("strategy", .str default)]
  | .str raw => supportedPolicy [("strategy", .str raw)] (resolveStrategy default raw)
  | .obj policy =>
      supportedPolicy policy
        (resolveStrategy default (strOr (Json.get "strategy" policy) default))
  | _ => .error (.trusted "Question comparison policy is invalid.")

/-- What the expected tests of one question share. -/
structure TestDefaults (F : Type) where
  sqlMode : Bool
  topLevelExpected : Json F
  expectedColumns : Option (List Str)

def TestDefaults.ofMode (sqlMode : Bool) (mode : Dict F) : TestDefaults F where
  sqlMode := sqlMode
  topLevelExpected := Json.get "expected_result" mode
  expectedColumns :=
    match Json.get "expected_output_columns" mode with
    | .arr columns => some (columns.map Json.pyStr)
    | _ => none

/-- A SQL test without an answer of its own takes the question's. -/
def expectedOutput (defaults : TestDefaults F) (item : Dict F) : Json F :=
  match Json.get "expected_output" item with
  | .null => if defaults.sqlMode then defaults.topLevelExpected else .null
  | v => v

def expectedTest (defaults : TestDefaults F) (index : Nat) (item policy : Dict F) :
    ExpectedTest F where
  id := expectedId index item
  name := expectedName index item
  name_ok := expectedName_ne index item
  isPublic := isPublic item
  expectedOutput := expectedOutput defaults item
  expectedColumns := defaults.expectedColumns
  comparison := policy

/-- The loop of `load_expected_tests`; `seen` holds the identifiers so far. -/
def expectedTests (defaults : TestDefaults F) (seen : List Str) (index : Nat) :
    List (Json F) → Except GradingFailure (List (ExpectedTest F))
  | [] => .ok []
  | raw :: rest => do
      let item ← checked (objectDict raw "Question expected test")
      if expectedId index item ∈ seen then
        .error (.trusted "Question expected test identifiers must be unique.")
      else
        let policy ← comparisonPolicy item (defaultStrategy defaults.sqlMode)
        let rest ← expectedTests defaults (expectedId index item :: seen) (index + 1) rest
        .ok (expectedTest defaults index item policy :: rest)

/-- `load_expected_tests`, from the structured content of the version. -/
def loadExpectedTests (structured : Json F) : Except GradingFailure (List (ExpectedTest F)) := do
  let content ← checked (objectDict structured "Question structured content")
  match modeSpecification content with
  | none => .error (.trusted "Question execution mode is unavailable.")
  | some mode =>
      let tests ← checked (objectList (Json.get "tests" mode) "Question expected tests")
      if tests = [] ∨ tests.length > maxResultTests then
        .error (.trusted "Question expected test set is empty or too large.")
      else
        let sqlMode ← isSqlMode content mode
        expectedTests (.ofMode sqlMode mode) [] 0 tests

/-! ## `_compare_value` -/

/-- `_canonical_json`. -/
def canonicalJson (value : Json F) : Str := value.sortKeys.encode

/-- The columns and the rows `_sql_result` makes of a value. -/
structure SqlTable (F : Type) where
  columns : List Str
  rows : List (Json F)

/-- The columns of a bare list of rows. -/
def rowColumns (rows : List (Json F)) (expectedColumns : Option (List Str)) : Option (List Str) :=
  match expectedColumns, rows with
  | some columns, _ => some columns
  | none, .obj first :: _ => some (first.map Prod.fst)
  | none, _ => none

def sqlRow (columns : List Str) : Json F → Option (Json F)
  | .obj row => some (.arr (columns.map (Json.get · row)))
  | .arr row => some (.arr row)
  | _ => none

/-- `_sql_result`. -/
def sqlResult (value : Json F) (expectedColumns : Option (List Str)) : Option (SqlTable F) :=
  match value with
  | .obj result =>
      match Json.get "columns" result, Json.get "rows" result with
      | .arr columns, .arr rows => some ⟨columns.map Json.pyStr, rows⟩
      | _, _ => none
  | .arr raw => do
      let columns ← rowColumns raw expectedColumns
      let rows ← raw.mapM (sqlRow columns)
      some ⟨columns, rows⟩
  | _ => none

/-- Two lists with the same canonical texts, in any order. -/
def sameTexts (actual expected : List (Json F)) : Bool :=
  sortTexts (actual.map canonicalJson) = sortTexts (expected.map canonicalJson)

/-- `_compare_sql_result`. -/
def compareSqlResult (actual expected : Json F) (expectedColumns : Option (List Str))
    (unordered : Bool) : Bool :=
  match sqlResult actual none, sqlResult expected expectedColumns with
  | some a, some e =>
      if a.columns ≠ e.columns then false
      else if unordered then sameTexts a.rows e.rows
      else Json.pyEqElements a.rows e.rows
  | _, _ => false

def toleranceOf (policy : Dict F) : Json F :=
  (Json.lookup "tolerance" policy).getD (.float FloatArith.nano)

/-- `float(value)` of a number. -/
def floatOf (x : Option F) : Except GradingFailure F := x.elim (.error .overflow) .ok

/-- The branch `numeric_tolerance` of `_compare_value`. -/
def compareNumeric (actual expected : Json F) (policy : Dict F) : Except GradingFailure Bool :=
  match (toleranceOf policy).toFloat with
  | none => .error (.trusted "Numeric comparison tolerance must be numeric.")
  | some raw => do
      let tolerance ← floatOf raw
      if FloatArith.isFinite tolerance = false ∨ FloatArith.isNegative tolerance = true then
        .error (.trusted "Numeric comparison tolerance is invalid.")
      else
        match actual.toFloat, expected.toFloat with
        | some a, some e => do
            let a ← floatOf a
            let e ← floatOf e
            .ok (FloatArith.isClose a e tolerance)
        | _, _ => .ok false

/-- `_compare_value`. -/
def compareValue (actual expected : Json F) (policy : Dict F)
    (expectedColumns : Option (List Str)) : Except GradingFailure Bool :=
  let strategy := strOr (Json.get "strategy" policy) "exact"
  if strategy = "exact" ∨ strategy = "json" then .ok (Json.pyEq actual expected)
  else if strategy = "normalized_text" then
    .ok (normalizeSpace actual.pyStr == normalizeSpace expected.pyStr)
  else if strategy = "numeric_tolerance" then compareNumeric actual expected policy
  else if strategy = "unordered" then
    match actual, expected with
    | .arr a, .arr e => .ok (sameTexts a e)
    | _, _ => .ok false
  else if strategy = "sql_ordered" then
    .ok (compareSqlResult actual expected expectedColumns false)
  else if strategy = "sql_unordered" then
    .ok (compareSqlResult actual expected expectedColumns true)
  else .error (.trusted
    ("Unsupported trusted comparison strategy " ++ reprString F strategy ++ "."))

/-- The name of the error a test expects: its expected output ends with
`Error`. -/
def expectedError : Json F → Option Str
  | .str s => if endsWith "Error" s then some s else none
  | _ => none

/-- `_test_passed`. -/
def testPassed (actual : TestResult F) (expected : ExpectedTest F) :
    Except GradingFailure Bool :=
  match expectedError expected.expectedOutput with
  | some name => .ok (actual.errorCategory = some name)
  | none =>
      if actual.ok then
        compareValue actual.actual expected.expectedOutput expected.comparison
          expected.expectedColumns
      else .ok false

/-! ## `trusted_compare` -/

/-- The status a result ends its execution with. -/
def terminalStatus (status : Str) : ExecutionStatus :=
  if status = "TIMEOUT" then .timeout else if status = "FAILED" then .failed else .completed

theorem terminalStatus_ok (status : Str) : terminalStatus status = .completed
    ∨ terminalStatus status = .failed ∨ terminalStatus status = .timeout := by
  unfold terminalStatus
  split_ifs
  · exact .inr (.inr rfl)
  · exact .inr (.inl rfl)
  · exact .inl rfl

def publicResult (actual : TestResult F) (expected : ExpectedTest F) (passed : Bool) :
    PublicTestResult F where
  testId := actual.id
  name := expected.name
  passed := passed
  expected := expected.expectedOutput
  actual := actual.actual
  errorCategory := actual.errorCategory

/-- The loop of `trusted_compare`: the public results, and the number of
hidden tests that passed. -/
def gradeTests (expected : List (ExpectedTest F)) :
    List (TestResult F) → Except GradingFailure (List (PublicTestResult F) × Nat)
  | [] => .ok ([], 0)
  | actual :: rest =>
      match findTest actual.id expected with
      | none => .error .key
      | some test =>
          if actual.visibility ≠ test.visibility then
            .error (.trusted ("Runner changed visibility for test " ++ reprString F actual.id ++ "."))
          else do
            let passed ← testPassed actual test
            let (publicResults, hiddenPassed) ← gradeTests expected rest
            .ok (if test.isPublic then (publicResult actual test passed :: publicResults, hiddenPassed)
              else (publicResults, hiddenPassed + passed.toNat))

/-- What the loop did with its first entry. -/
theorem gradeTests_cons {expected : List (ExpectedTest F)} {t : TestResult F}
    {rest : List (TestResult F)} {publicResults : List (PublicTestResult F)} {count : Nat}
    (h : gradeTests expected (t :: rest) = .ok (publicResults, count)) :
    ∃ e passed publicResults' count', findTest t.id expected = some e
      ∧ t.visibility = e.visibility ∧ testPassed t e = .ok passed
      ∧ gradeTests expected rest = .ok (publicResults', count')
      ∧ ((e.isPublic = true ∧ publicResults = publicResult t e passed :: publicResults'
          ∧ count = count')
        ∨ (e.isPublic = false ∧ publicResults = publicResults'
          ∧ count = count' + passed.toNat)) := by
  rw [gradeTests] at h
  cases hfind : findTest t.id expected with
  | none => rw [hfind] at h; cases h
  | some e =>
      rw [hfind] at h
      dsimp only at h
      by_cases hvis : t.visibility = e.visibility
      · rw [if_neg (not_not_intro hvis)] at h
        obtain ⟨passed, hpassed, h⟩ := bind_eq_ok h
        obtain ⟨⟨publicResults', count'⟩, hrest, h⟩ := bind_eq_ok h
        refine ⟨e, passed, publicResults', count', rfl, hvis, hpassed, hrest, ?_⟩
        cases hpublic : e.isPublic with
        | true =>
            rw [hpublic, if_pos rfl] at h
            cases h
            exact .inl ⟨rfl, rfl, rfl⟩
        | false =>
            rw [hpublic, if_neg Bool.false_ne_true] at h
            cases h
            exact .inr ⟨rfl, rfl, rfl⟩
      · rw [if_pos hvis] at h
        cases h

/-- The public results are those of the public entries. -/
theorem gradeTests_mem {expected : List (ExpectedTest F)} :
    ∀ {tests : List (TestResult F)} {publicResults : List (PublicTestResult F)} {count : Nat},
      gradeTests expected tests = .ok (publicResults, count) → ∀ {x}, x ∈ publicResults ↔
        ∃ t ∈ tests, ∃ e passed, findTest t.id expected = some e ∧ e.isPublic = true
          ∧ testPassed t e = .ok passed ∧ x = publicResult t e passed
  | [], _, _, h, x => by
      cases h
      exact ⟨nofun, fun ⟨_, ht, _⟩ => nomatch ht⟩
  | t :: rest, publicResults, count, h, x => by
      obtain ⟨e, passed, publicResults', count', hfind, -, hpassed, hrest, hcase⟩ := gradeTests_cons h
      have ih := gradeTests_mem hrest (x := x)
      rcases hcase with ⟨hpublic, rfl, -⟩ | ⟨hhidden, rfl, -⟩
      · rw [List.mem_cons, ih]
        constructor
        · rintro (rfl | ⟨u, hu, hx⟩)
          · exact ⟨t, List.mem_cons_self .., e, passed, hfind, hpublic, hpassed, rfl⟩
          · exact ⟨u, List.mem_cons_of_mem _ hu, hx⟩
        · rintro ⟨u, hu, e', passed', hfind', hpublic', hpassed', hx⟩
          rcases List.mem_cons.mp hu with rfl | hu
          · obtain rfl := Option.some.inj (hfind.symm.trans hfind')
            obtain rfl := Except.ok.inj (hpassed.symm.trans hpassed')
            exact .inl hx
          · exact .inr ⟨u, hu, e', passed', hfind', hpublic', hpassed', hx⟩
      · rw [ih]
        constructor
        · rintro ⟨u, hu, hx⟩
          exact ⟨u, List.mem_cons_of_mem _ hu, hx⟩
        · rintro ⟨u, hu, e', passed', hfind', hpublic', hx⟩
          rcases List.mem_cons.mp hu with rfl | hu
          · obtain rfl := Option.some.inj (hfind.symm.trans hfind')
            rw [hhidden] at hpublic'
            cases hpublic'
          · exact ⟨u, hu, e', passed', hfind', hpublic', hx⟩

/-- No more hidden tests pass than there are hidden entries. -/
theorem gradeTests_count {expected : List (ExpectedTest F)} :
    ∀ {tests : List (TestResult F)} {publicResults : List (PublicTestResult F)} {count : Nat},
      gradeTests expected tests = .ok (publicResults, count) →
        count ≤ (tests.filter fun t => (findTest t.id expected).any fun e => !e.isPublic).length
  | [], _, _, h => by
      cases h
      exact Nat.le_refl 0
  | t :: rest, publicResults, count, h => by
      obtain ⟨e, passed, publicResults', count', hfind, -, -, hrest, hcase⟩ := gradeTests_cons h
      have ih := gradeTests_count hrest
      rcases hcase with ⟨hpublic, -, rfl⟩ | ⟨hhidden, -, rfl⟩
      · rw [List.filter_cons_of_neg (by simp [hfind, hpublic])]
        exact ih
      · rw [List.filter_cons_of_pos (by simp [hfind, hhidden]), List.length_cons]
        exact Nat.add_le_add ih (Bool.toNat_le passed)

def hiddenTotal (expected : List (ExpectedTest F)) : Nat := expected.countP fun t => !t.isPublic

/-- The message for the candidate. -/
def candidateMessage (terminal : ExecutionStatus) (passed total : Nat) : Str :=
  match terminal with
  | .completed =>
      if total ≠ 0 ∧ passed = total then "All evaluated tests passed."
      else if total ≠ 0 then
        natText passed ++ (" of " ++ (natText total ++ " evaluated tests passed.") : Str)
      else "Execution completed."
  | .timeout => "Execution exceeded the configured time limit."
  | _ => "Execution failed inside the isolated runner."

def trustedCompare (sandbox : SandboxExecutionResult F) (expected : List (ExpectedTest F)) :
    Except GradingFailure (TrustedExecutionProjection F) :=
  if ∃ t ∈ sandbox.tests, t.id ∉ expected.map ExpectedTest.id then
    .error (.trusted "Runner returned unknown test identifiers.")
  else if terminalStatus sandbox.status = .completed
      ∧ ∃ t ∈ expected, t.id ∉ sandbox.tests.map TestResult.id then
    .error (.trusted "Completed runner result omitted one or more expected tests.")
  else do
    let (publicResults, hiddenPassed) ← gradeTests expected sandbox.tests
    .ok {
      executionStatus := terminalStatus sandbox.status
      status_ok := terminalStatus_ok sandbox.status
      runtimeMs := sandbox.runtimeMs
      exitCode := sandbox.exitCode
      errorCategory := sandbox.errorCategory
      publicResults := publicResults
      hiddenTotal := hiddenTotal expected
      hiddenPassed := hiddenPassed
      stdout := sandbox.stdout
      stderr := sandbox.stderr
      candidateMessage := candidateMessage (terminalStatus sandbox.status)
        (publicResults.countP PublicTestResult.passed + hiddenPassed)
        (publicResults.length + hiddenTotal expected) }

theorem trustedCompare_ok {sandbox : SandboxExecutionResult F} {expected : List (ExpectedTest F)}
    {p : TrustedExecutionProjection F} (h : trustedCompare sandbox expected = .ok p) :
    gradeTests expected sandbox.tests = .ok (p.publicResults, p.hiddenPassed)
      ∧ p.executionStatus = terminalStatus sandbox.status ∧ p.runtimeMs = sandbox.runtimeMs
      ∧ p.exitCode = sandbox.exitCode ∧ p.errorCategory = sandbox.errorCategory
      ∧ p.hiddenTotal = hiddenTotal expected ∧ p.stdout = sandbox.stdout
      ∧ p.stderr = sandbox.stderr
      ∧ p.candidateMessage = candidateMessage (terminalStatus sandbox.status)
        (p.publicPassed + p.hiddenPassed) (p.publicResults.length + hiddenTotal expected) := by
  unfold trustedCompare at h
  split_ifs at h
  obtain ⟨⟨publicResults, count⟩, hgrades, h⟩ := bind_eq_ok h
  cases h
  exact ⟨hgrades, rfl, rfl, rfl, rfl, rfl, rfl, rfl, rfl⟩

/-- Among entries with distinct identifiers no more hidden tests pass than
there are. -/
theorem trustedCompare_hidden {sandbox : SandboxExecutionResult F}
    {expected : List (ExpectedTest F)} {p : TrustedExecutionProjection F}
    (h : trustedCompare sandbox expected = .ok p)
    (hids : (sandbox.tests.map TestResult.id).Nodup) : p.hiddenPassed ≤ p.hiddenTotal := by
  obtain ⟨hgrades, -, -, -, -, htotal, -⟩ := trustedCompare_ok h
  refine (gradeTests_count hgrades).trans ?_
  rw [htotal, hiddenTotal, List.countP_eq_length_filter,
    ← List.length_map TestResult.id, ← List.length_map ExpectedTest.id]
  refine (List.subperm_of_subset (hids.sublist (List.filter_sublist.map _)) fun x hx => ?_).length_le
  obtain ⟨t, ht, rfl⟩ := List.mem_map.mp hx
  obtain ⟨-, hhidden⟩ := List.mem_filter.mp ht
  cases hfind : findTest t.id expected with
  | none => rw [hfind] at hhidden; cases hhidden
  | some e =>
      rw [hfind] at hhidden
      exact List.mem_map.mpr ⟨e, List.mem_filter.mpr ⟨Tables.mem_of_find hfind, hhidden⟩,
        Tables.key_of_find hfind⟩

end Grading

end Rigor
