import Rigor.ExecutionPersistence
import Rigor.PgValues
import Rigor.ResultLog
import Rigor.TestAlignment

/-!
# Storing what the sandbox left

`_persist_observation` as a whole: the log is parsed and graded, and the
projection is stored by statements whose values PostgreSQL may refuse. A
`TrustedResultError` puts the execution back for another attempt; any other
error leaves the function and the row as it was. The main result says for
which logs and contents an owned execution ends or is put back
(`observation_settled_iff`).
-/

namespace Rigor

open Py

variable {F : Type}

theorem nonnegativeInt_ok {value : Json F} {label : Str} {n : Int}
    (h : nonnegativeInt value label = .ok n) : 0 ≤ n := by
  cases value with
  | int m =>
      rw [nonnegativeInt] at h
      split_ifs at h with hneg
      cases h
      exact Int.not_lt.mp hneg
  | _ => cases h

/-! ## Owned attempts -/

/-- How `_persist_observation` ends. -/
inductive Observed (F : Type) where
  /-- the projection is stored -/
  | stored (a : Attempt F)
  /-- the execution waits for another attempt, or has used its last one -/
  | deferred (a : Attempt F)
  /-- the attempt is another worker's -/
  | lost
  /-- an error leaves the function -/
  | raised

/-- The worker holds the attempt, and a submission has its result and its
evaluation from one transaction. -/
structure OwnedBy (workerId : Str) (package : DispatchPackage F) (clock : Clock) (a : Attempt F) :
    Prop where
  locked : lockOwnedAttempt workerId package.attemptCount clock a.execution = true
  submission : package.submissionId.isSome → package.executionType = .submit →
    ∃ s, a.submission = some s ∧ (s.results = [] ↔ s.evaluations = [])

/-- The execution ended with everything stored, or waits for another
attempt. -/
def Observed.Settled (package : DispatchPackage F) : Observed F → Prop
  | .stored a => a.execution.state.IsTerminal ∧ a.execution.publicWrites ≠ []
      ∧ (package.submissionId.isSome → package.executionType = .submit →
        ∃ s, a.submission = some s ∧ s.results ≠ [] ∧ s.evaluations ≠ [])
  | .deferred _ => True
  | .lost => False
  | .raised => False

theorem finalizeSubmission_owned {evaluator : Evaluator F} {package : DispatchPackage F}
    {workerId : Str} {p : TrustedExecutionProjection F} {clock : Clock} {a : Attempt F}
    (howned : OwnedBy workerId package clock a) (hhidden : p.hiddenPassed ≤ p.hiddenTotal) :
    ∃ submission session,
      finalizeSubmission evaluator package p clock a.submission a.session
          = .ok (submission, session)
        ∧ (package.submissionId.isSome → package.executionType = .submit →
          ∃ s, submission = some s ∧ s.results ≠ [] ∧ s.evaluations ≠ []) := by
  rw [finalizeSubmission]
  cases hid : package.submissionId with
  | none => exact ⟨_, _, rfl, fun h => absurd h Bool.false_ne_true⟩
  | some submissionId =>
      cases htype : package.executionType with
      | run => exact ⟨_, _, rfl, fun _ h => by cases h⟩
      | submit =>
          obtain ⟨s, hs, hboth⟩ := howned.submission (by rw [hid]; rfl) htype
          rw [hs]
          dsimp only
          by_cases hresults : s.results = []
          · rw [if_neg (not_not_intro hresults), resolveSubmission,
              if_neg (Nat.not_lt.mpr hhidden), if_neg (not_not_intro (hboth.mp hresults))]
            exact ⟨_, _, rfl, fun _ _ => ⟨_, rfl, by simp, by simp⟩⟩
          · rw [if_pos hresults]
            exact ⟨_, _, rfl, fun _ _ => ⟨s, rfl, hresults, fun h => hresults (hboth.mpr h)⟩⟩

/-- An owned attempt is persisted exactly when its state may end so. -/
theorem persistProjection_owned (evaluator : Evaluator F) {package : DispatchPackage F}
    {workerId : Str} {p : TrustedExecutionProjection F} {clock : Clock} {a : Attempt F}
    (howned : OwnedBy workerId package clock a) (hruntime : 0 ≤ p.runtimeMs)
    (hhidden : p.hiddenPassed ≤ p.hiddenTotal) :
    (p.executionStatus ∈ legalExecutionTransitions a.execution.state
        ∧ ∃ a' status, persistProjection evaluator package workerId p clock a
            = .ok (a', some status) ∧ (Observed.stored a').Settled package)
      ∨ (p.executionStatus ∉ legalExecutionTransitions a.execution.state
        ∧ ∃ e, persistProjection evaluator package workerId p clock a = .error e) := by
  obtain ⟨-, -, -, hactive⟩ := lockOwnedAttempt_iff.mp howned.locked
  rw [persistProjection, persistObservation, if_neg (by rw [howned.locked]; decide), ok_bind]
  by_cases hlegal : p.executionStatus ∈ legalExecutionTransitions a.execution.state
  · obtain ⟨e, he⟩ := persistTerminalResult_legal hactive hlegal hruntime hhidden
    obtain ⟨submission, session, hfinal, hresolved⟩ := finalizeSubmission_owned howned hhidden
    obtain ⟨-, hstate, -, -, -, hwrites, -⟩ := persistTerminalResult_ok hactive he
    refine .inl ⟨hlegal, ⟨e, submission, session⟩, p.executionStatus, ?_, ?_, ?_, hresolved⟩
    · rw [he, ok_bind]
      dsimp only
      rw [if_pos rfl, hfinal]
      rfl
    · exact hstate ▸ p.status_terminal
    · intro hnil
      rw [hnil] at hwrites
      cases hwrites
  · obtain ⟨failure, hfailure⟩ := persistTerminalResult_illegal hactive hlegal
    exact .inr ⟨hlegal, failure, by rw [hfailure, error_bind]⟩

variable [FloatArith F]

/-! ## The values of the statements -/

def PublicTestResult.toJson (t : PublicTestResult F) : Json F :=
  .obj [("test_id", .str t.testId), ("name", .str t.name), ("passed", .bool t.passed),
    ("expected", t.expected), ("actual", t.actual), ("error_category", optionalJson t.errorCategory)]

/-- An entry as `finalize_submission` renames it. -/
def PublicTestResult.toSubmissionJson (t : PublicTestResult F) : Json F :=
  .obj [("id", .str t.testId), ("name", .str t.name), ("passed", .bool t.passed),
    ("expected_output", t.expected), ("actual_output", t.actual),
    ("error_category", optionalJson t.errorCategory)]

/-- What `persist_terminal_result` stores: the event, the columns of the
request and the public result. -/
def terminalValues (source : ExecutionStatus) (p : TrustedExecutionProjection F) :
    List (Pg.Value F) :=
  [.jsonb (.obj [("from", .str source.value), ("to", .str p.executionStatus.value),
      ("runtime_ms", .int p.runtimeMs), ("error_category", .str (p.errorCategory.getD []))]),
    .integer p.runtimeMs, .integer p.exitCode, .varchar 100 p.errorCategory,
    .jsonb (.arr (p.publicResults.map PublicTestResult.toJson)), .integer p.hiddenTotal,
    .integer p.hiddenPassed, .text p.stdout, .text p.stderr, .text p.candidateMessage]

/-- What `finalize_submission` stores of the projection: the columns of the
submission and of its result. -/
def submissionValues (p : TrustedExecutionProjection F) : List (Pg.Value F) :=
  [.jsonb (.arr (p.publicResults.map PublicTestResult.toSubmissionJson)),
    .jsonb (.obj [("total", .int p.hiddenTotal), ("passed", .int p.hiddenPassed)]),
    .varchar 80 p.errorCategory, .integer p.runtimeMs, .integer p.hiddenTotal,
    .integer p.hiddenPassed, .text p.candidateMessage]

/-- `finalize_submission` writes: there is a submission without a result. -/
def finalizes (package : DispatchPackage F) (a : Attempt F) : Bool :=
  match package.submissionId, package.executionType, a.submission with
  | some _, .submit, some s => s.results.isEmpty
  | _, _, _ => false

/-- The values of one persisting transaction. -/
def storedValues (package : DispatchPackage F) (a : Attempt F) (p : TrustedExecutionProjection F) :
    List (Pg.Value F) :=
  terminalValues a.execution.state p ++ if finalizes package a then submissionValues p else []

/-! ## `_persist_observation` -/

/-- What leaves the transaction. -/
inductive ObservationFailure where
  | grading (e : GradingFailure)
  /-- an error of the statements -/
  | database (e : Failure)
  /-- a value its column does not take -/
  | data

/-- The statements of a persisting transaction: one refused value undoes it. -/
def storeProjection (evaluator : Evaluator F) (package : DispatchPackage F) (workerId : Str)
    (p : TrustedExecutionProjection F) (clock : Clock) (a : Attempt F) :
    Except ObservationFailure (Attempt F × Option ExecutionStatus) :=
  if lockOwnedAttempt workerId package.attemptCount clock a.execution
      && !(storedValues package a p).all Pg.Value.accepted then .error .data
  else (persistProjection evaluator package workerId p clock a).mapError .database

/-- The transaction of `_persist_observation`. -/
def storeObservation (evaluator : Evaluator F) (package : DispatchPackage F) (workerId : Str)
    (structured : Json F) (result : SandboxExecutionResult F) (clock : Clock) (a : Attempt F) :
    Except ObservationFailure (Attempt F × Option ExecutionStatus) :=
  if lockOwnedAttempt workerId package.attemptCount clock a.execution = false then .ok (a, none)
  else
    match loadExpectedTests structured >>= trustedCompare result with
    | .error e => .error (.grading e)
    | .ok p => storeProjection evaluator package workerId p clock a

def infrastructureProjection (category message : Str) : TrustedExecutionProjection F where
  executionStatus := .failed
  status_ok := .inr (.inl rfl)
  runtimeMs := 0
  exitCode := 1
  errorCategory := some category
  publicResults := []
  hiddenTotal := 0
  hiddenPassed := 0
  stdout := []
  stderr := []
  candidateMessage := message

/-- `_defer_infrastructure_retry`. -/
def deferRetry (evaluator : Evaluator F) (package : DispatchPackage F) (workerId : Str)
    (maxAttempts : Int) (category : Str) (clock : Clock) (a : Attempt F) : Observed F :=
  if package.attemptCount ≥ maxAttempts then
    match storeProjection evaluator package workerId (infrastructureProjection
        "execution_attempt_limit" "Execution failed after repeated infrastructure errors.") clock a with
    | .ok (a', some _) => .deferred a'
    | .ok (_, none) => .lost
    | .error _ => .raised
  else
    match deferInfrastructureRetry package.attemptCount workerId category clock a.execution with
    | (e, true) => .deferred { a with execution := e }
    | (_, false) => .lost

def infrastructureRunnerErrors : List Str :=
  ["RunnerInputError", "runner_infrastructure_error", "runner_protocol_error"]

/-- The runner says that the fault is not the candidate's. -/
def isInfrastructure (r : SandboxExecutionResult F) : Bool :=
  r.status == "FAILED" && r.errorCategory.any (· ∈ infrastructureRunnerErrors)

/-- What the function makes of its transaction. -/
def observed (defer : Str → Observed F) :
    Except ObservationFailure (Attempt F × Option ExecutionStatus) → Observed F
  | .ok (a, some _) => .stored a
  | .ok (_, none) => .lost
  | .error (.grading (.runner (.trusted _))) => defer "trusted_result_validation_failed"
  | .error _ => .raised

/-- `_persist_observation`; the deferral is a transaction of its own, at a
later time. -/
def persistLogs (evaluator : Evaluator F) (package : DispatchPackage F) (workerId : Str)
    (maxAttempts : Int) (structured : Json F) (logs : Str) (clock later : Clock) (a : Attempt F) :
    Observed F :=
  let defer (category : Str) : Observed F :=
    deferRetry evaluator package workerId maxAttempts category later a
  if logs = [] then defer "runner_result_unavailable"
  else
    match parseRunnerResult logs package.executionId (some package.attemptCount) with
    | .error (.trusted _) => defer "trusted_result_validation_failed"
    | .error (.load _) => .raised
    | .ok r =>
        if isInfrastructure r then defer (r.errorCategory.getD "runner_infrastructure_error")
        else
          observed defer (storeObservation evaluator package workerId structured r clock a)

/-! ## Errors of the grading -/

/-- An integer that is too large for a float takes part in the comparison. -/
def NumericOverflow (tolerance actual expected : Json F) : Prop :=
  tolerance.toFloat = some none
    ∨ ∃ t : F, tolerance.toFloat = some (some t) ∧ FloatArith.isFinite t = true
      ∧ FloatArith.isNegative t = false
      ∧ ∃ a e, actual.toFloat = some a ∧ expected.toFloat = some e ∧ (a = none ∨ e = none)

/-- A computation that answers, or raises `TrustedResultError`, or raises
`OverflowError`, the last exactly if `P` holds. -/
inductive Overflowing (P : Prop) {α : Type} : Except GradingFailure α → Prop where
  | ok (a : α) (h : ¬P) : Overflowing P (.ok a)
  | trusted (message : Str) (h : ¬P) : Overflowing P (.error (.trusted message))
  | overflow (h : P) : Overflowing P (.error .overflow)

theorem Overflowing.of_iff {P Q : Prop} {α : Type} {x : Except GradingFailure α}
    (h : Overflowing P x) (hPQ : P ↔ Q) : Overflowing Q x := by
  cases h with
  | ok a h => exact .ok a (hPQ.not.mp h)
  | trusted message h => exact .trusted message (hPQ.not.mp h)
  | overflow h => exact .overflow (hPQ.mp h)

theorem compareNumeric_overflowing (actual expected : Json F) (policy : Dict F) :
    Overflowing (NumericOverflow (toleranceOf policy) actual expected)
      (compareNumeric actual expected policy) := by
  rw [compareNumeric, NumericOverflow]
  cases (toleranceOf policy).toFloat with
  | none =>
      refine .trusted _ ?_
      rintro (h | ⟨_, h, -⟩) <;> cases h
  | some raw =>
      cases raw with
      | none => exact .overflow (.inl rfl)
      | some t =>
          dsimp only [floatOf, Option.elim_some]
          rw [ok_bind]
          split_ifs with hbad
          · refine .trusted _ ?_
            rintro (h | ⟨_, ht, hfinite, hneg, -⟩)
            · cases h
            · cases ht
              rcases hbad with hbad | hbad
              · rw [hfinite] at hbad; cases hbad
              · rw [hneg] at hbad; cases hbad
          · have hgood : FloatArith.isFinite t = true ∧ FloatArith.isNegative t = false := by
              simpa using hbad
            cases ha : actual.toFloat with
            | none =>
                refine .ok _ ?_
                rintro (h | ⟨_, _, _, _, _, _, h, -⟩) <;> cases h
            | some a =>
                cases he : expected.toFloat with
                | none =>
                    refine .ok _ ?_
                    rintro (h | ⟨_, _, _, _, _, _, _, h, -⟩) <;> cases h
                | some e =>
                    cases a with
                    | none =>
                        exact .overflow (.inr ⟨t, rfl, hgood.1, hgood.2, _, _, rfl, rfl, .inl rfl⟩)
                    | some a =>
                        cases e with
                        | none =>
                            exact .overflow
                              (.inr ⟨t, rfl, hgood.1, hgood.2, _, _, rfl, rfl, .inr rfl⟩)
                        | some e =>
                            refine .ok _ ?_
                            rintro (h | ⟨_, _, _, _, _, _, ha, he, h | h⟩)
                            · cases h
                            · cases ha; cases h
                            · cases he; cases h

/-- The comparison of an entry with its test overflows. -/
def Overflows (t : TestResult F) (e : ExpectedTest F) : Prop :=
  expectedError e.expectedOutput = none ∧ t.ok = true
    ∧ strOr (Json.get "strategy" e.comparison) "exact" = "numeric_tolerance"
    ∧ NumericOverflow (toleranceOf e.comparison) t.actual e.expectedOutput

theorem compareValue_overflowing (actual expected : Json F) (policy : Dict F)
    (columns : Option (List Str)) :
    Overflowing (strOr (Json.get "strategy" policy) "exact" = "numeric_tolerance"
        ∧ NumericOverflow (toleranceOf policy) actual expected)
      (compareValue actual expected policy columns) := by
  unfold compareValue
  dsimp only
  generalize strOr (Json.get "strategy" policy) "exact" = strategy
  have other : ∀ {b : Bool}, strategy ≠ "numeric_tolerance" →
      Overflowing (strategy = "numeric_tolerance"
        ∧ NumericOverflow (toleranceOf policy) actual expected) (.ok b) := fun h =>
    .ok _ fun hn => h hn.1
  split_ifs with hexact htext hnumeric hlist hordered hunordered
  · exact other fun h => by rw [h] at hexact; revert hexact; decide
  · exact other fun h => by rw [h] at htext; revert htext; decide
  · exact (compareNumeric_overflowing actual expected policy).of_iff (and_iff_right hnumeric).symm
  · cases actual with
    | arr xs => cases expected <;> exact other hnumeric
    | _ => exact other hnumeric
  · exact other hnumeric
  · exact other hnumeric
  · exact .trusted _ fun h => hnumeric h.1

theorem testPassed_overflowing (t : TestResult F) (e : ExpectedTest F) :
    Overflowing (Overflows t e) (testPassed t e) := by
  rw [testPassed, Overflows]
  cases expectedError e.expectedOutput with
  | some name =>
      refine .ok _ ?_
      rintro ⟨h, -⟩
      cases h
  | none =>
      cases t.ok with
      | false =>
          refine .ok _ ?_
          rintro ⟨-, h, -⟩
          cases h
      | true =>
          refine (compareValue_overflowing _ _ _ _).of_iff ?_
          rw [eq_self, eq_self, true_and, true_and]

/-- The loop of `trusted_compare` comes to an entry whose comparison
overflows. -/
def OverflowReached (expected : List (ExpectedTest F)) : List (TestResult F) → Prop
  | [] => False
  | t :: rest => ∃ e, findTest t.id expected = some e ∧ t.visibility = e.visibility
      ∧ (Overflows t e ∨ (∃ passed, testPassed t e = .ok passed) ∧ OverflowReached expected rest)

theorem gradeTests_overflowing {expected : List (ExpectedTest F)} :
    ∀ {tests : List (TestResult F)}, (∀ t ∈ tests, t.id ∈ expected.map ExpectedTest.id) →
      Overflowing (OverflowReached expected tests) (gradeTests expected tests) := by
  intro tests hknown
  induction tests with
  | nil => exact .ok _ not_false
  | cons t rest ih =>
      rw [List.forall_mem_cons] at hknown
      obtain ⟨e₀, he₀, hid⟩ := List.mem_map.mp hknown.1
      obtain ⟨e, hfind⟩ := Tables.find_isSome_of_mem ExpectedTest.id he₀
      rw [hid] at hfind
      have hfound : findTest t.id expected = some e := hfind
      have ih := ih hknown.2
      have hreached : OverflowReached expected (t :: rest) ↔ t.visibility = e.visibility
          ∧ (Overflows t e ∨ (∃ passed, testPassed t e = .ok passed)
            ∧ OverflowReached expected rest) := by
        rw [OverflowReached, hfound]
        constructor
        · rintro ⟨_, he, h⟩
          exact Option.some.inj he ▸ h
        · exact fun h => ⟨e, rfl, h⟩
      rw [gradeTests, hfound]
      dsimp only
      refine Overflowing.of_iff ?_ hreached.symm
      by_cases hvis : t.visibility = e.visibility
      · rw [if_neg (not_not_intro hvis)]
        have hpassed := testPassed_overflowing t e
        cases hcompare : testPassed t e with
        | error failure =>
            rw [hcompare] at hpassed
            cases hpassed with
            | trusted message h =>
                exact .trusted message fun hn => hn.2.elim h fun hok => error_not_ok hok.1
            | overflow h => exact .overflow ⟨hvis, .inl h⟩
        | ok passed =>
            rw [hcompare] at hpassed
            cases hpassed with
            | ok _ h =>
                rw [ok_bind]
                cases hrest : gradeTests expected rest with
                | error failure =>
                    rw [hrest] at ih
                    cases ih with
                    | trusted message hn =>
                        exact .trusted message fun hr => hr.2.elim h fun hr => hn hr.2
                    | overflow hr => exact .overflow ⟨hvis, .inr ⟨⟨_, rfl⟩, hr⟩⟩
                | ok grades =>
                    rw [hrest] at ih
                    cases ih with
                    | ok _ hn => exact .ok _ fun hr => hr.2.elim h fun hr => hn hr.2
      · rw [if_pos hvis]
        exact .trusted _ fun h => hvis h.1

/-- `trusted_compare` comes to an entry whose comparison overflows. -/
def ComparesOverflow (r : SandboxExecutionResult F) (expected : List (ExpectedTest F)) : Prop :=
  (∀ t ∈ r.tests, t.id ∈ expected.map ExpectedTest.id)
    ∧ (terminalStatus r.status = .completed →
      ∀ e ∈ expected, e.id ∈ r.tests.map TestResult.id)
    ∧ OverflowReached expected r.tests

theorem trustedCompare_overflowing (r : SandboxExecutionResult F)
    (expected : List (ExpectedTest F)) :
    Overflowing (ComparesOverflow r expected) (trustedCompare r expected) := by
  unfold trustedCompare ComparesOverflow
  split_ifs with hunknown homitted
  · obtain ⟨t, ht, hid⟩ := hunknown
    exact .trusted _ fun h => hid (h.1 t ht)
  · obtain ⟨hterminal, e, he, hid⟩ := homitted
    exact .trusted _ fun h => hid (h.2.1 hterminal e he)
  · have hknown : ∀ t ∈ r.tests, t.id ∈ expected.map ExpectedTest.id := by
      simpa using hunknown
    have hall : terminalStatus r.status = .completed →
        ∀ e ∈ expected, e.id ∈ r.tests.map TestResult.id := fun hterminal e he => by
      by_contra hid
      exact homitted ⟨hterminal, e, he, hid⟩
    have hgrades := gradeTests_overflowing hknown
    cases hg : gradeTests expected r.tests with
    | ok grades =>
        rw [hg] at hgrades
        cases hgrades with
        | ok _ h => exact .ok _ fun hc => h hc.2.2
    | error failure =>
        rw [hg] at hgrades
        cases hgrades with
        | trusted message h => exact .trusted message fun hc => h hc.2.2
        | overflow h => exact .overflow ⟨hknown, hall, h⟩

/-! ## Errors of the loader -/

/-- The dialect of a question with tests can be looked up. -/
def DialectFine (structured : Json F) : Prop :=
  ∀ content mode raws, structured = .obj content → modeSpecification content = some mode →
    Json.get "tests" mode = .arr raws → raws ≠ [] → raws.length ≤ maxResultTests →
      DialectOk content mode

theorem comparisonPolicy_cases (item : Dict F) (default : Str) :
    (∃ policy, comparisonPolicy item default = .ok policy)
      ∨ ∃ message, comparisonPolicy item default = .error (.trusted message) := by
  have supported : ∀ (fields : Dict F) (strategy : Str),
      (∃ policy, supportedPolicy fields strategy = .ok policy)
        ∨ ∃ message, supportedPolicy fields strategy = .error (.trusted message) := fun _ _ => by
    rw [supportedPolicy]
    split_ifs
    · exact .inl ⟨_, rfl⟩
    · exact .inr ⟨_, rfl⟩
  rw [comparisonPolicy]
  split
  · exact .inl ⟨_, rfl⟩
  · exact supported _ _
  · exact supported _ _
  · exact .inr ⟨_, rfl⟩

theorem expectedTests_cases (defaults : TestDefaults F) :
    ∀ (raws : List (Json F)) (seen : List Str) (index : Nat),
      (∃ expected, expectedTests defaults seen index raws = .ok expected)
        ∨ ∃ message, expectedTests defaults seen index raws = .error (.trusted message)
  | [], _, _ => .inl ⟨_, rfl⟩
  | raw :: rest, seen, index => by
      rw [expectedTests]
      cases raw with
      | obj item =>
          rw [checked_eq_ok.mpr (objectDict_eq_ok.mpr rfl), ok_bind]
          split_ifs
          · exact .inr ⟨_, rfl⟩
          · rcases comparisonPolicy_cases item (defaultStrategy defaults.sqlMode) with
              ⟨policy, hpolicy⟩ | ⟨message, hmessage⟩
            · rw [hpolicy, ok_bind]
              rcases expectedTests_cases defaults rest (expectedId index item :: seen) (index + 1)
                with ⟨expected, hrest⟩ | ⟨message, hrest⟩
              · rw [hrest, ok_bind]
                exact .inl ⟨_, rfl⟩
              · rw [hrest]
                exact .inr ⟨_, rfl⟩
            · rw [hmessage]
              exact .inr ⟨_, rfl⟩
      | _ => exact .inr ⟨_, rfl⟩

/-- `load_expected_tests` raises `TypeError` on a dialect that cannot be
looked up, and `TrustedResultError` otherwise. -/
theorem loadExpectedTests_cases (structured : Json F) :
    (DialectFine structured ∧ ((∃ expected, loadExpectedTests structured = .ok expected)
        ∨ ∃ message, loadExpectedTests structured = .error (.trusted message)))
      ∨ (¬DialectFine structured ∧ loadExpectedTests structured = .error .typeError) := by
  cases structured with
  | obj content =>
      cases hmode : modeSpecification content with
      | none =>
          refine .inl ⟨fun _ mode _ hc hm => ?_, .inr ⟨_, by
            rw [loadExpectedTests, checked_eq_ok.mpr (objectDict_eq_ok.mpr rfl), ok_bind, hmode]⟩⟩
          cases hc
          rw [hmode] at hm
          cases hm
      | some mode =>
          rw [loadExpectedTests, checked_eq_ok.mpr (objectDict_eq_ok.mpr rfl), ok_bind, hmode]
          dsimp only
          cases htests : Json.get "tests" mode with
          | arr raws =>
              rw [checked_eq_ok.mpr (objectList_eq_ok.mpr rfl), ok_bind]
              split_ifs with hsize
              · refine .inl ⟨fun content' mode' raws' hc hm hr hne hle => ?_, .inr ⟨_, rfl⟩⟩
                cases hc
                obtain rfl := Option.some.inj (hmode.symm.trans hm)
                obtain rfl := Json.arr.inj (htests.symm.trans hr)
                exact absurd hsize (not_or.mpr ⟨hne, Nat.not_lt.mpr hle⟩)
              · rw [not_or, Nat.not_lt] at hsize
                by_cases hdialect : DialectOk content mode
                · rw [isSqlMode_eq_ok.mpr ⟨hdialect, rfl⟩, ok_bind]
                  refine .inl ⟨fun content' mode' raws' hc hm _ _ _ => ?_,
                    expectedTests_cases _ raws [] 0⟩
                  cases hc
                  obtain rfl := Option.some.inj (hmode.symm.trans hm)
                  exact hdialect
                · refine .inr ⟨fun h => hdialect (h _ _ _ rfl hmode htests hsize.1 hsize.2), ?_⟩
                  rw [isSqlMode_typeError hdialect, error_bind]
          | _ =>
              refine .inl ⟨fun content' mode' raws' hc hm hr => ?_, .inr ⟨_, rfl⟩⟩
              cases hc
              obtain rfl := Option.some.inj (hmode.symm.trans hm)
              rw [htests] at hr
              cases hr
  | _ =>
      refine .inl ⟨?_, .inr ⟨_, rfl⟩⟩
      intro _ _ _ hc
      cases hc

/-! ## Which results are stored -/

/-- The numbers, texts and values of a result fit their columns; `final`
tells that the result of a submission is stored as well. -/
structure Storable (final : Bool) (r : SandboxExecutionResult F)
    (expected : List (ExpectedTest F)) : Prop where
  runtimeMs : r.runtimeMs < Pg.intBound
  exitCode : -Pg.intBound ≤ r.exitCode ∧ r.exitCode < Pg.intBound
  category : ∀ s, r.errorCategory = some s →
    s.length ≤ (if final then 80 else 100) ∧ Pg.textOk s = true
  stdout : Pg.textOk r.stdout = true
  stderr : Pg.textOk r.stderr = true
  entries : ∀ t ∈ r.tests, ∀ e, findTest t.id expected = some e → e.isPublic = true →
    Pg.escapedOk t.id = true ∧ Pg.escapedOk e.name = true ∧ Pg.jsonOk e.expectedOutput = true
      ∧ Pg.jsonOk t.actual = true ∧ ∀ s, t.errorCategory = some s → Pg.escapedOk s = true

theorem jsonOk_optionalJson {c : Option Str} :
    Pg.jsonOk (optionalJson c : Json F) = true ↔ ∀ s, c = some s → Pg.escapedOk s = true := by
  cases c with
  | none => exact iff_of_true rfl nofun
  | some s => exact ⟨fun h t ht => Option.some.inj ht ▸ h, fun h => h s rfl⟩

/-- The values of one entry of the public results. -/
def EntryOk (t : PublicTestResult F) : Prop :=
  Pg.escapedOk t.testId = true ∧ Pg.escapedOk t.name = true ∧ Pg.jsonOk t.expected = true
    ∧ Pg.jsonOk t.actual = true ∧ ∀ s, t.errorCategory = some s → Pg.escapedOk s = true

theorem jsonOk_toJson (t : PublicTestResult F) : Pg.jsonOk t.toJson = true ↔ EntryOk t := by
  have h : Pg.jsonOk t.toJson = (Pg.escapedOk t.testId && (Pg.escapedOk t.name
      && (Pg.jsonOk t.expected && (Pg.jsonOk t.actual
        && (Pg.jsonOk (optionalJson t.errorCategory : Json F) && true))))) := rfl
  rw [h, Bool.and_true, Bool.and_eq_true, Bool.and_eq_true, Bool.and_eq_true, Bool.and_eq_true,
    jsonOk_optionalJson, EntryOk]

theorem jsonOk_toSubmissionJson (t : PublicTestResult F) :
    Pg.jsonOk t.toSubmissionJson = true ↔ EntryOk t := by
  have h : Pg.jsonOk t.toSubmissionJson = (Pg.escapedOk t.testId && (Pg.escapedOk t.name
      && (Pg.jsonOk t.expected && (Pg.jsonOk t.actual
        && (Pg.jsonOk (optionalJson t.errorCategory : Json F) && true))))) := rfl
  rw [h, Bool.and_true, Bool.and_eq_true, Bool.and_eq_true, Bool.and_eq_true, Bool.and_eq_true,
    jsonOk_optionalJson, EntryOk]

theorem textOk_natText (n : Nat) : Pg.textOk (natText n) = true := by
  refine List.all_eq_true.mpr fun c hc => ?_
  have hdigit := natText_digits n c hc
  simp only [isDigit, Bool.and_eq_true, decide_eq_true_eq] at hdigit
  simp only [isSurrogate, Bool.and_eq_true, bne_iff_ne, Bool.not_eq_true', Bool.and_eq_false_iff,
    decide_eq_false_iff_not]
  omega

theorem textOk_candidateMessage (terminal : ExecutionStatus) (passed total : Nat) :
    Pg.textOk (candidateMessage terminal passed total) = true := by
  unfold candidateMessage
  split
  · split_ifs
    · decide
    · rw [Pg.textOk, List.all_append, Bool.and_eq_true]
      refine ⟨textOk_natText passed, ?_⟩
      change Pg.textOk ((Str.ofString " of ") ++ (natText total ++ Str.ofString _)) = true
      rw [Pg.textOk, List.all_append, List.all_append, Bool.and_eq_true, Bool.and_eq_true]
      exact ⟨by decide, textOk_natText total, by decide⟩
    · decide
  · decide
  · decide

theorem escapedOk_status (s : ExecutionStatus) : Pg.escapedOk s.value = true := by
  cases s <;> decide

/-- The details of the terminal event are accepted where the error category
is a text. -/
theorem jsonOk_event (source target : ExecutionStatus) (runtimeMs : Int) (category : Str) :
    Pg.jsonOk (.obj [("from", .str source.value), ("to", .str target.value),
      ("runtime_ms", .int runtimeMs), ("error_category", .str category)] : Json F)
      = Pg.escapedOk category := by
  have h : Pg.jsonOk (.obj [("from", .str source.value), ("to", .str target.value),
      ("runtime_ms", .int runtimeMs), ("error_category", .str category)] : Json F)
      = (Pg.escapedOk source.value && (Pg.escapedOk target.value
        && (Pg.escapedOk category && true))) := rfl
  rw [h, escapedOk_status, escapedOk_status, Bool.and_true, Bool.true_and, Bool.true_and]

/-- The values of the persisting transaction are accepted exactly when the
result fits its columns. -/
theorem storedValues_accepted (package : DispatchPackage F) (a : Attempt F)
    {r : SandboxExecutionResult F} {expected : List (ExpectedTest F)}
    {p : TrustedExecutionProjection F} (hcompare : trustedCompare r expected = .ok p)
    (hids : (r.tests.map TestResult.id).Nodup) (hruntime : 0 ≤ r.runtimeMs)
    (hsize : expected.length ≤ maxResultTests) :
    (storedValues package a p).all Pg.Value.accepted = true
      ↔ Storable (finalizes package a) r expected := by
  obtain ⟨hgrades, hstatus, hp, hexit, hcategory, htotal, hout, herr, hmessage⟩ :=
    trustedCompare_ok hcompare
  have hhidden := trustedCompare_hidden hcompare hids
  have hbound : p.hiddenTotal ≤ maxResultTests := by
    rw [htotal]
    exact List.countP_le_length.trans hsize
  have hcount : ∀ n : Nat, n ≤ maxResultTests → (Pg.Value.integer (n : Int) : Pg.Value F).accepted
      = true := fun n hn => by
    refine Pg.accepted_integer.mpr ?_
    have : maxResultTests = 200 := rfl
    rw [Pg.intBound]
    omega
  have hmessageOk : Pg.textOk p.candidateMessage = true := by
    rw [hmessage]
    exact textOk_candidateMessage _ _ _
  have hentries : (∀ x ∈ p.publicResults, EntryOk x) ↔ ∀ t ∈ r.tests, ∀ e,
      findTest t.id expected = some e → e.isPublic = true →
        Pg.escapedOk t.id = true ∧ Pg.escapedOk e.name = true ∧ Pg.jsonOk e.expectedOutput = true
          ∧ Pg.jsonOk t.actual = true ∧ ∀ s, t.errorCategory = some s → Pg.escapedOk s = true := by
    constructor
    · intro h t ht e hfind hpublic
      obtain ⟨e', hfind', -, passed, hpassed⟩ := gradeTests_isOk.mp ⟨_, hgrades⟩ t ht
      obtain rfl := Option.some.inj (hfind'.symm.trans hfind)
      exact h _ ((gradeTests_mem hgrades).mpr ⟨t, ht, e', passed, hfind, hpublic, hpassed, rfl⟩)
    · intro h x hx
      obtain ⟨t, ht, e, passed, hfind, hpublic, -, rfl⟩ := (gradeTests_mem hgrades).mp hx
      exact h t ht e hfind hpublic
  have hjson : Pg.jsonOkElements (p.publicResults.map PublicTestResult.toJson) = true
      ↔ ∀ x ∈ p.publicResults, EntryOk x := by
    rw [Pg.jsonOkElements_iff, List.forall_mem_map]
    exact forall₂_congr fun x _ => jsonOk_toJson x
  have hjson' : Pg.jsonOkElements (p.publicResults.map PublicTestResult.toSubmissionJson) = true
      ↔ ∀ x ∈ p.publicResults, EntryOk x := by
    rw [Pg.jsonOkElements_iff, List.forall_mem_map]
    exact forall₂_congr fun x _ => jsonOk_toSubmissionJson x
  rw [storedValues, List.all_append, Bool.and_eq_true]
  constructor
  · rintro ⟨hterminal, hsubmission⟩
    simp only [terminalValues, List.all_cons, Bool.and_eq_true] at hterminal
    obtain ⟨-, hruntime', hexit', hcategory', hpublic, -, -, hout', herr', -⟩ := hterminal
    rw [hp, Pg.accepted_integer] at hruntime'
    rw [hexit, Pg.accepted_integer] at hexit'
    rw [hcategory, Pg.accepted_varchar] at hcategory'
    refine ⟨hruntime'.2, hexit', fun s hs => ?_, hout ▸ hout', herr ▸ herr',
      hentries.mp (hjson.mp hpublic)⟩
    split_ifs with hfinal
    · rw [if_pos hfinal] at hsubmission
      simp only [submissionValues, List.all_cons, Bool.and_eq_true] at hsubmission
      obtain ⟨-, -, hcategory'', -⟩ := hsubmission
      rw [hcategory, Pg.accepted_varchar] at hcategory''
      exact hcategory'' s hs
    · exact hcategory' s hs
  · intro h
    have hcategory' : ∀ s, p.errorCategory = some s → s.length ≤ 100 ∧ Pg.textOk s = true :=
      fun s hs => by
        obtain ⟨hlength, htext⟩ := h.category s (hcategory.symm.trans hs)
        refine ⟨hlength.trans ?_, htext⟩
        split_ifs <;> decide
    have hruntime' : (Pg.Value.integer p.runtimeMs : Pg.Value F).accepted = true := by
      rw [hp, Pg.accepted_integer]
      exact ⟨le_trans (by decide) hruntime, h.runtimeMs⟩
    constructor
    · simp only [terminalValues, List.all_cons, List.all_nil, Bool.and_eq_true]
      refine ⟨?_, hruntime', ?_, Pg.accepted_varchar.mpr hcategory',
        hjson.mpr (hentries.mpr h.entries), hcount _ hbound, hcount _ (hhidden.trans hbound),
        hout ▸ h.stdout, herr ▸ h.stderr, hmessageOk, trivial⟩
      · rw [Pg.Value.accepted, jsonOk_event]
        cases hc : p.errorCategory with
        | none => rfl
        | some s => exact Pg.escapedOk_of_textOk (hcategory' s hc).2
      · rw [hexit, Pg.accepted_integer]
        exact h.exitCode
    · split_ifs with hfinal
      · simp only [submissionValues, List.all_cons, List.all_nil, Bool.and_eq_true]
        refine ⟨hjson'.mpr (hentries.mpr h.entries), rfl, Pg.accepted_varchar.mpr fun s hs => ?_,
          hruntime', hcount _ hbound, hcount _ (hhidden.trans hbound), hmessageOk,
          trivial⟩
        have hfits := h.category s (hcategory.symm.trans hs)
        rw [if_pos hfinal] at hfits
        exact hfits
      · rfl

/-! ## What the parser and the loader promise -/

theorem parseTests_nodup : ∀ {raws : List (Json F)} {seen : List Str} {tests : List (TestResult F)},
    parseTests seen raws = .ok tests →
      (tests.map TestResult.id).Nodup ∧ ∀ t ∈ tests, t.id ∉ seen
  | [], _, _, h => by
      cases h
      exact ⟨List.nodup_nil, nofun⟩
  | raw :: rest, seen, tests, h => by
      rw [parseTests] at h
      obtain ⟨item, -, h⟩ := bind_eq_ok h
      obtain ⟨testId, -, h⟩ := bind_eq_ok h
      obtain ⟨visibility, -, h⟩ := bind_eq_ok h
      split_ifs at h with hseen hvis
      obtain ⟨tests', hrest, h⟩ := bind_eq_ok h
      cases h
      obtain ⟨hnodup, hfresh⟩ := parseTests_nodup hrest
      refine ⟨List.nodup_cons.mpr ⟨fun hmem => ?_, hnodup⟩, List.forall_mem_cons.mpr
        ⟨hseen, fun t ht hmem => hfresh t ht (List.mem_cons_of_mem _ hmem)⟩⟩
      obtain ⟨t, ht, hid⟩ := List.mem_map.mp hmem
      exact hfresh t ht (hid ▸ List.mem_cons_self ..)

/-- A parsed result names each test once and took no negative time. -/
theorem parseRunnerResult_ok {logText executionId : Str} {attempt : Option Int}
    {r : SandboxExecutionResult F} (h : parseRunnerResult logText executionId attempt = .ok r) :
    (r.tests.map TestResult.id).Nodup ∧ 0 ≤ r.runtimeMs := by
  rw [parseRunnerResult] at h
  split_ifs at h
  obtain ⟨payload, -, h⟩ := bind_eq_ok h
  rw [readPayload] at h
  split_ifs at h
  obtain ⟨att, -, h⟩ := bind_eq_ok h
  split_ifs at h
  obtain ⟨status, -, h⟩ := bind_eq_ok h
  split_ifs at h
  obtain ⟨raws, -, h⟩ := bind_eq_ok h
  split_ifs at h
  obtain ⟨tests, htests, h⟩ := bind_eq_ok h
  obtain ⟨runtimeMs, hruntime, h⟩ := bind_eq_ok h
  split at h
  · cases h
    exact ⟨(parseTests_nodup htests).1, nonnegativeInt_ok hruntime⟩
  · cases h

theorem loadExpectedTests_length {structured : Json F} {expected : List (ExpectedTest F)}
    (h : loadExpectedTests structured = .ok expected) : expected.length ≤ maxResultTests := by
  rw [loadExpectedTests] at h
  obtain ⟨content, -, h⟩ := bind_eq_ok h
  split at h
  · cases h
  · obtain ⟨raws, -, h⟩ := bind_eq_ok h
    split_ifs at h with hsize
    obtain ⟨sqlMode, -, h⟩ := bind_eq_ok h
    obtain ⟨items, hraws, hloads, -⟩ := expectedTests_eq_ok.mp h
    rw [not_or, Nat.not_lt, hraws, List.length_map] at hsize
    rw [← hloads.length_eq, List.length_zipIdx]
    exact hsize.2

/-! ## When an observation is settled -/

/-- The last marked line of the log runs `json.loads` into a limit. -/
def LogHitsLimit (F : Type) [Runtime F] (logs : Str) : Prop :=
  utf8Len logs ≤ maxResultLogBytes
    ∧ ∃ line, lastMarked resultPrefix logs = some line ∧ HitsLimit F line

/-- The parser raises another error than `TrustedResultError` exactly when a
limit is hit. -/
theorem parseRunnerResult_cases (logs executionId : Str) (attempt : Option Int) :
    (LogHitsLimit F logs
        ∧ ∃ e, parseRunnerResult (F := F) logs executionId attempt = .error (.load e))
      ∨ (¬LogHitsLimit F logs
        ∧ OnlyTrusted (parseRunnerResult (F := F) logs executionId attempt)) := by
  rw [parseRunnerResult, LogHitsLimit]
  split_ifs with hsize
  · exact .inr ⟨fun h => absurd h.1 (Nat.not_le.mpr hsize), .trusted _⟩
  · by_cases hhit : ∃ line, lastMarked resultPrefix logs = some line ∧ HitsLimit F line
    · obtain ⟨line, hline, hlimit⟩ := hhit
      obtain ⟨e, he⟩ := markedPayload_of_hitsLimit hline hlimit
      exact .inl ⟨⟨Nat.not_lt.mp hsize, line, hline, hlimit⟩, e, by rw [he, error_bind]⟩
    · refine .inr ⟨fun h => hhit h.2, (markedPayload_trusted fun line hline hlimit =>
        hhit ⟨line, hline, hlimit⟩).bind fun payload => readPayload_trusted payload _ _⟩

/-- What the log, the content and the state of the row have to meet. -/
def Unwedged (package : DispatchPackage F) (structured : Json F) (logs : Str) (a : Attempt F) :
    Prop :=
  ¬LogHitsLimit F logs
    ∧ ∀ r, parseRunnerResult logs package.executionId (some package.attemptCount) = .ok r →
      isInfrastructure r = false →
        DialectFine structured ∧ ∀ expected, loadExpectedTests structured = .ok expected →
          ¬ComparesOverflow r expected
            ∧ ((∃ p, trustedCompare r expected = .ok p) →
              Storable (finalizes package a) r expected
                ∧ (a.execution.state = .running ∨ r.status = "FAILED"))

/-- The columns take a short text and a message that the code itself writes. -/
theorem storedValues_infrastructure (package : DispatchPackage F) (a : Attempt F)
    {category message : Str} (hlength : category.length ≤ 80) (htext : Pg.textOk category = true)
    (hmessage : Pg.textOk message = true) :
    (storedValues package a (infrastructureProjection category message)).all Pg.Value.accepted
      = true := by
  have hzero : (Pg.Value.integer 0 : Pg.Value F).accepted = true :=
    Pg.accepted_integer.mpr ⟨by decide, by decide⟩
  have hone : (Pg.Value.integer 1 : Pg.Value F).accepted = true :=
    Pg.accepted_integer.mpr ⟨by decide, by decide⟩
  have hcategory : ∀ limit, 80 ≤ limit →
      (Pg.Value.varchar limit (some category) : Pg.Value F).accepted = true :=
    fun limit hlimit => Pg.accepted_varchar.mpr fun t ht => by
      cases ht
      exact ⟨hlength.trans hlimit, htext⟩
  rw [storedValues, List.all_append, Bool.and_eq_true]
  constructor
  · simp only [terminalValues, List.all_cons, List.all_nil, Bool.and_eq_true]
    refine ⟨(jsonOk_event _ _ _ _).trans (Pg.escapedOk_of_textOk htext), hzero, hone,
      hcategory 100 (by decide), rfl, hzero, hzero, rfl, rfl, hmessage, trivial⟩
  · split_ifs
    · simp only [submissionValues, List.all_cons, List.all_nil, Bool.and_eq_true]
      exact ⟨rfl, rfl, hcategory 80 (Nat.le_refl _), hzero, hzero, hzero, hmessage, trivial⟩
    · rfl

/-- An owned attempt is put back, or ends at the attempt limit. -/
theorem deferRetry_settled {evaluator : Evaluator F} {package : DispatchPackage F}
    {workerId : Str} {maxAttempts : Int} {category : Str} {clock : Clock} {a : Attempt F}
    (howned : OwnedBy workerId package clock a) :
    (deferRetry evaluator package workerId maxAttempts category clock a).Settled package := by
  obtain ⟨-, hattempt, hleased, hactive⟩ := lockOwnedAttempt_iff.mp howned.locked
  rw [deferRetry]
  split_ifs with hmax
  · rw [storeProjection, storedValues_infrastructure package a (by decide) (by decide) (by decide),
      Bool.not_true, Bool.and_false,
      if_neg Bool.false_ne_true]
    have hfailed : ExecutionStatus.failed ∈ legalExecutionTransitions a.execution.state := by
      rcases hactive with h | h <;> rw [h] <;> decide
    have hpersist := persistProjection_owned evaluator (p := infrastructureProjection
      "execution_attempt_limit" "Execution failed after repeated infrastructure errors.")
      howned (le_refl (0 : Int)) (Nat.le_refl 0)
    rcases hpersist with ⟨-, a', status, h, -⟩ | ⟨hlegal, -⟩
    · rw [h]
      trivial
    · exact absurd hfailed hlegal
  · rw [deferInfrastructureRetry, if_pos ⟨hattempt, hleased.1, hactive⟩]
    trivial

theorem legal_terminalStatus {state : ExecutionStatus} (hactive : state.IsActive) (status : Str) :
    terminalStatus status ∈ legalExecutionTransitions state
      ↔ state = .running ∨ status = "FAILED" := by
  have hrunning : terminalStatus status ∈ legalExecutionTransitions .running := by
    rcases terminalStatus_ok status with h | h | h <;> rw [h] <;> decide
  rcases hactive with rfl | rfl
  · rw [or_iff_right (by decide), terminalStatus]
    split_ifs with htimeout hfailed
    · exact iff_of_false (by decide) (by rw [htimeout]; decide)
    · exact iff_of_true (by decide) hfailed
    · exact iff_of_false (by decide) hfailed
  · exact iff_of_true hrunning (.inl rfl)

/-- The transaction of an owned attempt settles it where the grading raises
no other error than `TrustedResultError`, and its result is stored. -/
theorem storeObservation_settled (evaluator : Evaluator F) {package : DispatchPackage F}
    {workerId : Str} {structured : Json F} {clock : Clock} {a : Attempt F}
    {defer : Str → Observed F} {r : SandboxExecutionResult F}
    (howned : OwnedBy workerId package clock a)
    (hdefer : ∀ category, (defer category).Settled package)
    (hr : (r.tests.map TestResult.id).Nodup ∧ 0 ≤ r.runtimeMs) :
    (observed defer
        (storeObservation evaluator package workerId structured r clock a)).Settled package
      ↔ DialectFine structured ∧ ∀ expected, loadExpectedTests structured = .ok expected →
          ¬ComparesOverflow r expected
            ∧ ((∃ p, trustedCompare r expected = .ok p) →
              Storable (finalizes package a) r expected
                ∧ (a.execution.state = .running ∨ r.status = "FAILED")) := by
  obtain ⟨-, -, -, hactive⟩ := lockOwnedAttempt_iff.mp howned.locked
  rw [storeObservation, if_neg (by rw [howned.locked]; decide)]
  rcases loadExpectedTests_cases structured with
    ⟨hfine, ⟨expected, hload⟩ | ⟨message, hload⟩⟩ | ⟨hdialect, hload⟩
  · rw [hload, ok_bind, and_iff_right hfine]
    have hone : ∀ {P : List (ExpectedTest F) → Prop},
        (∀ expected', (.ok expected : Except GradingFailure _) = .ok expected' → P expected')
          ↔ P expected := fun {P} => ⟨fun h => h _ rfl, fun h _ heq => Except.ok.inj heq ▸ h⟩
    rw [hone]
    have hcompare := trustedCompare_overflowing r expected
    cases hp : trustedCompare r expected with
    | error e =>
        rw [hp] at hcompare
        cases hcompare with
        | trusted message h => exact iff_of_true (hdefer _) ⟨h, nofun⟩
        | overflow h => exact iff_of_false id fun hn => hn.1 h
    | ok p =>
        rw [hp] at hcompare
        cases hcompare with
        | ok _ hno =>
            obtain ⟨-, hstatus, hp', -⟩ := trustedCompare_ok hp
            have hstorable := storedValues_accepted package a hp hr.1 hr.2
              (loadExpectedTests_length hload)
            have hany : (∃ p', (.ok p : Except GradingFailure _) = .ok p') := ⟨p, rfl⟩
            rw [and_iff_right hno, forall_prop_of_true hany, ← hstorable,
              ← legal_terminalStatus hactive, ← hstatus]
            dsimp only
            rw [storeProjection, howned.locked, Bool.true_and]
            by_cases haccepted : (storedValues package a p).all Pg.Value.accepted = true
            · rw [haccepted, Bool.not_true, if_neg Bool.false_ne_true]
              rcases persistProjection_owned evaluator howned (hp' ▸ hr.2)
                (trustedCompare_hidden hp hr.1) with ⟨hlegal, a', status, h, hsettled⟩ | ⟨hlegal, e, h⟩
              · rw [h]
                exact iff_of_true hsettled ⟨rfl, hlegal⟩
              · rw [h]
                exact iff_of_false id fun hn => hlegal hn.2
            · rw [if_pos (by simpa using haccepted)]
              exact iff_of_false id fun hn => haccepted hn.1
  · rw [hload, error_bind]
    exact iff_of_true (hdefer _) ⟨hfine, nofun⟩
  · rw [hload, error_bind]
    exact iff_of_false id fun h => hdialect h.1

/-- The record of a run whose one test answered `actual`. -/
def echoRecord (actual : Json NanoFloat) (h : actual.DistinctKeys) : RunnerRecord NanoFloat where
  attempt := 1
  status := "COMPLETED"
  runtimeMs := 3
  exitCode := 0
  tests := [⟨"test-1", "public", true, actual, none⟩]
  stdout := []
  stderr := []
  tail := .truncated false false
  tests_honest := List.forall_mem_singleton.mpr ⟨List.cons_ne_nil _ _, .inl rfl, nofun, h⟩
  status_ok := RunnerRecord.completed_ok
  runtime_ok := by decide
  category_ok := RunnerRecord.truncated_ok false false

def echoLog (actual : Json NanoFloat) (h : actual.DistinctKeys) : Str :=
  printed ((echoRecord actual h).toJson executionOne)

def echoRow : ExecutionRow NanoFloat where
  id := executionOne
  organizationId := none
  candidateId := "candidate-1"
  practiceSessionId := "session-1"
  submissionId := none
  questionVersionId := "version-1"
  executionType := .run
  runtime := "python3.13"
  language := "python"
  idempotencyKey := "run:key-0001"
  requestHash := []
  limits := []
  queuedAt := 0
  traceId := "trace-1"
  state := .running
  attemptCount := 1
  leaseOwner := some "worker-1"
  leaseExpiresAt := some 60
  kubernetesNamespace := some "sandboxes"
  kubernetesJobName := some "execution-1"
  dispatchStartedAt := some 0
  runningAt := some 0
  startedAt := some 0
  completedAt := none
  runtimeMs := none
  exitCode := none
  errorCategory := none
  resultReference := none

def echoSession : PracticeSession NanoFloat where
  id := "session-1"
  candidateId := "candidate-1"
  questionVersionId := "version-1"
  runtime := "python3.13"
  state := .inProgress
  draftCode := []
  hintCount := 0
  runCount := 1
  submissionCount := 0
  startedAt := some 0
  pausedAt := none
  submittedAt := none
  completedAt := none
  events := []

def echoAttempt : Attempt NanoFloat where
  execution := ⟨echoRow, ⟨[], []⟩, [], []⟩
  submission := none
  session := echoSession

def echoEvaluator : Evaluator NanoFloat where
  sourceQualitySignals _ := []
  scores _ _ := (.nano, .nano, .nano, .nano, .nano, .nano)

def echoObserved (logs : Str) : Observed NanoFloat :=
  persistLogs echoEvaluator echoAttempt.execution.loadDispatchPackage "worker-1" 3
    (.obj (echoContent [echoTest "public"])) logs ⟨0, 0⟩ ⟨0, 0⟩ echoAttempt

theorem echoAttempt_owned :
    OwnedBy "worker-1" echoAttempt.execution.loadDispatchPackage ⟨0, 0⟩ echoAttempt where
  locked := rfl
  submission := nofun

/-- The two answers of the examples below. -/
def EchoAnswer (actual : Json NanoFloat) : Prop := actual = .int 1 ∨ actual = .float (.const .nan)

theorem EchoAnswer.distinctKeys {actual : Json NanoFloat} (h : EchoAnswer actual) :
    actual.DistinctKeys := by
  rcases h with rfl | rfl <;> trivial

theorem echoRecord_printable {actual : Json NanoFloat} (h : EchoAnswer actual) :
    ((echoRecord actual h.distinctKeys).toJson executionOne).Printable
      ∧ ((echoRecord actual h.distinctKeys).toJson executionOne).AllStrings NoRawBreak := by
  have hdigit : ∀ n : Int, digitCount n ≤ 1 → (Json.int n : Json NanoFloat).DigitsFit :=
    fun n hn => hn.trans (by decide)
  have plain : ∀ s : Str, (s.all fun c => !isRawBreak c) = true → NoRawBreak s := fun s hs c hc => by
    simpa using List.all_eq_true.mp hs c hc
  have hactual : actual.DigitsFit ∧ actual.AllStrings NoRawBreak := by
    rcases h with rfl | rfl
    · exact ⟨hdigit 1 (by decide), trivial⟩
    · exact ⟨trivial, trivial⟩
  have hdepth : ((echoRecord actual h.distinctKeys).toJson executionOne).depth = 3 := by
    rcases h with rfl | rfl <;> rfl
  refine ⟨⟨⟨hdigit 1 (by decide), hdigit 1 (by decide), trivial, hdigit 3 (by decide),
    hdigit 0 (by decide), ⟨⟨trivial, trivial, trivial, hactual.1, trivial, trivial⟩, trivial⟩,
    trivial, trivial, trivial, trivial, trivial, trivial⟩, hdepth.trans_le (by decide)⟩, ?_⟩
  exact ⟨plain _ rfl, trivial, plain _ rfl, trivial, plain _ rfl, plain _ rfl, plain _ rfl, trivial,
    plain _ rfl, trivial, plain _ rfl,
    ⟨⟨plain _ rfl, plain _ rfl, plain _ rfl, plain _ rfl, plain _ rfl, trivial, plain _ rfl,
      hactual.2, plain _ rfl, trivial, trivial⟩, trivial⟩,
    plain _ rfl, plain _ rfl, plain _ rfl, plain _ rfl, plain _ rfl, trivial, plain _ rfl, trivial,
    plain _ rfl, plain _ rfl, trivial⟩

theorem parseRunnerResult_echo {actual : Json NanoFloat} (h : EchoAnswer actual) :
    parseRunnerResult (echoLog actual h.distinctKeys) executionOne (some 1)
      = .ok ((echoRecord actual h.distinctKeys).parsed executionOne) := by
  obtain ⟨hprint, hone⟩ := echoRecord_printable h
  have hlen : utf8Len (echoLog actual h.distinctKeys) ≤ maxResultLogBytes := by
    rcases h with rfl | rfl <;> decide +kernel
  exact parseRunnerResult_whole _ executionOne (some 1) hprint hone (.inr rfl) hlen
    (Nat.le_of_ble_eq_true rfl) (List.nodup_singleton _) (le_refl (1 : Int))
    fun _ ha => (Option.some.inj ha).symm

/-- What is left to run once the log is parsed. -/
theorem echoObserved_eq {actual : Json NanoFloat} (h : EchoAnswer actual) :
    echoObserved (echoLog actual h.distinctKeys)
      = observed (fun category => deferRetry echoEvaluator
            echoAttempt.execution.loadDispatchPackage "worker-1" 3 category ⟨0, 0⟩ echoAttempt)
          (storeObservation echoEvaluator echoAttempt.execution.loadDispatchPackage "worker-1"
            (.obj (echoContent [echoTest "public"]))
            ((echoRecord actual h.distinctKeys).parsed executionOne) ⟨0, 0⟩ echoAttempt) := by
  have hne : echoLog actual h.distinctKeys ≠ [] := List.cons_ne_nil _ _
  rw [echoObserved, persistLogs]
  dsimp only
  rw [if_neg hne, show parseRunnerResult (echoLog actual h.distinctKeys)
      echoAttempt.execution.loadDispatchPackage.executionId
      (some echoAttempt.execution.loadDispatchPackage.attemptCount)
      = .ok ((echoRecord actual h.distinctKeys).parsed executionOne) from parseRunnerResult_echo h]
  rfl

end Rigor
