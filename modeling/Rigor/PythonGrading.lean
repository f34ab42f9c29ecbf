import Rigor.PythonParity
import Rigor.ResultLog
import Rigor.SandboxCreation

/-!
# Grades and what the code did

What a candidate's code does with a test comes to the controller in the line of a
child, the record of the runner and the log of its container, and each of them may
lose it. A test that counts as passed was passed by the code itself, and where no
line of a child is lost the grades are those of the code's own endings
(`grades_earned`).
-/

namespace Rigor.PythonGrading

open Py PythonRunner VercelPython

variable {F : Type}

/-! ## What the code did -/

section Answers

variable [Runtime F]

/-- The entry of a test, by how the code ended on it. A value comes back as it is
read: of a key that is written twice, the last. -/
def endingResult (t : SentTest F) : PythonRunner.Ending F → TestResult F
  | .returns actual _ => ⟨t.id, t.visibility, true, actual.dedup, none⟩
  | .rejected e => ⟨t.id, t.visibility, false, .null, some e.category⟩
  | .raises name => ⟨t.id, t.visibility, false, .null, if name = [] then none else some name⟩
  | .exceeds => ⟨t.id, t.visibility, false, .null, some "timeout"⟩

/-- How the code ended on the test with this index. -/
def answer (sandbox : Sandbox F) (index : Nat) (t : SentTest F) : TestResult F :=
  endingResult t (sandbox.run index "auto" t.input).2.1

/-- How the code ends on every test. -/
def answers (sandbox : Sandbox F) (index : Nat) : List (SentTest F) → List (TestResult F)
  | [] => []
  | t :: rest => answer sandbox index t :: answers sandbox (index + 1) rest

/-- The line of the child, if it leaves one, is read back. -/
def LineFits (printed : Captured) (ending : PythonRunner.Ending F) : Prop :=
  ∀ members, ending.members DumpsError.category printed = some members → FitsLine members

def LinesFit (sandbox : Sandbox F) (index : Nat) : List (SentTest F) → Prop
  | [] => True
  | t :: rest =>
      LineFits (sandbox.run index "auto" t.input).2.2 (sandbox.run index "auto" t.input).2.1
        ∧ LinesFit sandbox (index + 1) rest

/-- An entry that no test is passed with. -/
structure Lost (r : TestResult F) : Prop where
  notOk : r.ok = false
  category : ∀ name, r.errorCategory = some name → endsWith "Error" name = false

/-- What is reported of an answer: itself, or that it was lost. -/
def Reports (r t : TestResult F) : Prop := r = t ∨ Lost r

/-! ## One test -/

variable {sandbox : Sandbox F} {index : Nat} {t : SentTest F}

theorem result_eq (call : Option (PythonRunner.Call F)) (protocol : Dict F) :
    TestRun.result ⟨t, call, protocol⟩
      = ⟨t.id, t.visibility, (outcome protocol).1, (outcome protocol).2.1,
        (outcome protocol).2.2⟩ := rfl

theorem lost_protocolError (call : Option (PythonRunner.Call F)) :
    Lost (TestRun.result ⟨t, call, protocolError⟩) where
  notOk := rfl
  category name h := by
    obtain rfl : ("runner_protocol_error" : Str) = name := Option.some.inj h
    decide

theorem lost_fragment {d : Dict F} (h : Fragment d) (call : Option (PythonRunner.Call F)) :
    Lost (TestRun.result ⟨t, call, d⟩) := by
  have hresult : TestRun.result ⟨t, call, d⟩ = ⟨t.id, t.visibility, false, .null, none⟩ := by
    rw [result_eq, outcome_fragment h]
  rw [hresult]
  refine ⟨rfl, fun name hname => ?_⟩
  cases hname

/-- The members that an ending leaves, and the entry of what is read back of them. -/
theorem members_result {printed : Captured} {ending : PythonRunner.Ending F} {members : Dict F}
    (t : SentTest F) (call : Option (PythonRunner.Call F))
    (h : ending.members DumpsError.category printed = some members) :
    ∃ ok actual category, actual.DigitsFit
      ∧ members = protocolMembers ok actual category printed
      ∧ TestRun.result ⟨t, call, protocolMembers ok actual.dedup category printed⟩
        = endingResult t ending := by
  cases ending with
  | returns actual fits => exact ⟨true, actual, none, fits, (Option.some.inj h).symm, rfl⟩
  | rejected e =>
      refine ⟨false, .null, some e.category, trivial, (Option.some.inj h).symm, ?_⟩
      cases e <;> rfl
  | raises name =>
      refine ⟨false, .null, some name, trivial, (Option.some.inj h).symm, ?_⟩
      show TestResult.mk _ _ _ _ (categoryOf (.str name : Json F)) = _
      rw [categoryOf_str]
      rfl
  | exceeds => cases h

/-- What the runner has of a test. -/
theorem executeTest_reports {call : Option (PythonRunner.Call F)} {protocol : Dict F}
    (h : PythonRunner.executeTest sandbox "auto" index t.input = (call, .ok protocol)) :
    Reports (TestRun.result ⟨t, call, protocol⟩) (answer sandbox index t)
      ∧ (LineFits (sandbox.run index "auto" t.input).2.2 (sandbox.run index "auto" t.input).2.1 →
        TestRun.result ⟨t, call, protocol⟩ = answer sandbox index t) := by
  rw [executeTest_cluster] at h
  obtain ⟨-, hrecord⟩ := Prod.mk.inj h
  unfold answer LineFits
  generalize (sandbox.run index "auto" t.input).2.1 = ending at hrecord
  generalize (sandbox.run index "auto" t.input).2.2 = printed at hrecord
  unfold clusterRecord at hrecord
  cases hmembers : ending.members DumpsError.category printed with
  | none =>
      rw [hmembers] at hrecord
      cases hrecord
      have hresult : TestRun.result ⟨t, call, timeoutProtocol⟩ = endingResult t ending := by
        cases ending with
        | exceeds => rfl
        | _ => cases hmembers
      exact ⟨.inl hresult, fun _ => hresult⟩
  | some members =>
      rw [hmembers] at hrecord
      obtain ⟨read, hread, hprotocol⟩ := map_eq_ok hrecord
      obtain ⟨ok, actual, category, hfits, rfl, hresult⟩ := members_result t call hmembers
      by_cases hline : FitsLine (protocolMembers ok actual category printed)
      · obtain ⟨hprint, hsurvives⟩ := fitsLine_iff.mp hline
        rw [readBack_written hfits hprint hsurvives] at hread
        cases hread
        cases hprotocol
        exact ⟨.inl hresult, fun _ => hresult⟩
      · refine ⟨.inr ?_, fun hall => absurd (hall _ rfl) hline⟩
        cases read with
        | none =>
            cases hprotocol
            exact lost_protocolError call
        | some d =>
            obtain rfl : d = protocol := hprotocol
            cases hprint : canPrint (protocolMembers ok actual category printed) with
            | false =>
                rw [readBack_unwritten hprint] at hread
                cases hread
            | true =>
                have hbroken : ¬Survives (protocolMembers ok actual category printed) :=
                  fun hsurvives => hline (fitsLine_iff.mpr ⟨hprint, hsurvives⟩)
                exact lost_fragment (readBack_broken hprint hbroken hread) call

/-! ## The loop -/

/-- The runs are of the first tests, each reports its answer, and a loop that is
finished has run them all. -/
theorem runLoop_reports (sandbox : Sandbox F) (index : Nat) (tests : List (SentTest F)) :
    ∃ front rest, answers sandbox index tests = front ++ rest
      ∧ List.Forall₂ Reports
        ((runLoop sandbox.late (PythonRunner.executeTest sandbox "auto") index tests).1.map
          TestRun.result) front
      ∧ (LinesFit sandbox index tests →
        (runLoop sandbox.late (PythonRunner.executeTest sandbox "auto") index tests).1.map
          TestRun.result = front)
      ∧ ((runLoop sandbox.late (PythonRunner.executeTest sandbox "auto") index tests).2
        = .finished → rest = []) := by
  induction tests generalizing index with
  | nil => exact ⟨[], [], rfl, .nil, fun _ => rfl, fun _ => rfl⟩
  | cons t tests ih =>
      rw [runLoop, answers]
      by_cases hlate : sandbox.late index = true
      · rw [if_pos hlate]
        exact ⟨[], _, rfl, .nil, fun _ => rfl, fun h => by cases h⟩
      · rw [if_neg hlate]
        cases hexecute : PythonRunner.executeTest sandbox "auto" index t.input with
        | mk call protocol =>
            cases protocol with
            | error e => exact ⟨[], _, rfl, .nil, fun _ => rfl, fun h => by cases h⟩
            | ok protocol =>
                obtain ⟨hreports, hsame⟩ := executeTest_reports (t := t) hexecute
                dsimp only
                by_cases htimed : (TestRun.mk t call protocol).timedOut = true
                · rw [if_pos htimed]
                  exact ⟨[answer sandbox index t], _, rfl, .cons hreports .nil,
                    fun hfit => congrArg (fun r => [r]) (hsame hfit.1), fun h => by cases h⟩
                · rw [if_neg htimed]
                  obtain ⟨front, rest, heq, hall, hfits, hdone⟩ := ih (index + 1)
                  exact ⟨answer sandbox index t :: front, rest, by rw [heq, List.cons_append],
                    .cons hreports hall, fun hfit => congrArg₂ List.cons (hsame hfit.1)
                      (hfits hfit.2), hdone⟩

end Answers

/-! ## The grades -/

section Grades

variable [FloatArith F] {expected : List (ExpectedTest F)}

/-- The entry passes the hidden test it is of. -/
def passesHidden (expected : List (ExpectedTest F)) (t : TestResult F) : Bool :=
  match findTest t.id expected with
  | some e => !e.isPublic && decide (testPassed t e = .ok true)
  | none => false

theorem not_passed_of_lost {r : TestResult F} (h : Lost r) (e : ExpectedTest F) :
    testPassed r e ≠ .ok true := by
  unfold testPassed
  cases hexpected : expectedError e.expectedOutput with
  | none =>
      dsimp only
      rw [h.notOk, if_neg Bool.false_ne_true]
      intro hpassed
      cases hpassed
  | some name =>
      dsimp only
      intro hpassed
      have hname : r.errorCategory = some name := of_decide_eq_true (Except.ok.inj hpassed)
      have hends : endsWith "Error" name = true := by
        unfold expectedError at hexpected
        split at hexpected
        · split_ifs at hexpected with hends
          exact Option.some.inj hexpected ▸ hends
        · cases hexpected
      rw [h.category name hname] at hends
      cases hends

/-- What passes is reported as it was. -/
theorem Reports.eq_of_passed {r t : TestResult F} (h : Reports r t) {e : ExpectedTest F}
    (hpassed : testPassed r e = .ok true) : r = t :=
  h.resolve_right fun hlost => not_passed_of_lost hlost e hpassed

theorem Reports.passesHidden {r t : TestResult F} (h : Reports r t)
    (hpasses : passesHidden expected r = true) : passesHidden expected t = true := by
  have hfind := hpasses
  unfold PythonGrading.passesHidden at hfind
  cases hr : findTest r.id expected with
  | none =>
      rw [hr] at hfind
      cases hfind
  | some e =>
      rw [hr] at hfind
      have hpassed := of_decide_eq_true ((Bool.and_eq_true ..).mp hfind).2
      exact h.eq_of_passed hpassed ▸ hpasses

/-- The hidden tests that are counted. -/
theorem gradeTests_hiddenPassed : ∀ {tests : List (TestResult F)}
    {publicResults : List (PublicTestResult F)} {count : Nat},
    gradeTests expected tests = .ok (publicResults, count) →
      count = tests.countP (passesHidden expected) := by
  intro tests
  induction tests with
  | nil =>
      intro publicResults count h
      cases h
      rfl
  | cons t tests ih =>
      intro publicResults count h
      obtain ⟨e, passed, publicResults', count', hfind, -, hpassed, hrest, hcase⟩ :=
        gradeTests_cons h
      have hcount := ih hrest
      have hpasses : passesHidden expected t = (!e.isPublic && passed) := by
        unfold passesHidden
        rw [hfind]
        dsimp only
        rw [hpassed]
        cases passed <;> simp
      rw [List.countP_cons, hpasses, ← hcount]
      rcases hcase with ⟨hpublic, -, rfl⟩ | ⟨hhidden, -, rfl⟩
      · rw [hpublic]
        rfl
      · rw [hhidden]
        cases passed <;> rfl

omit [FloatArith F] in
theorem exists_reports {rs ts : List (TestResult F)} (h : List.Forall₂ Reports rs ts)
    {r : TestResult F} (hr : r ∈ rs) : ∃ t ∈ ts, Reports r t := by
  induction h with
  | nil => cases hr
  | cons hhead _ ih =>
      rcases List.mem_cons.mp hr with rfl | hr
      · exact ⟨_, List.mem_cons_self, hhead⟩
      · obtain ⟨t, ht, hreports⟩ := ih hr
        exact ⟨t, List.mem_cons_of_mem _ ht, hreports⟩

theorem countP_reports {rs ts : List (TestResult F)} (h : List.Forall₂ Reports rs ts) :
    rs.countP (passesHidden expected) ≤ ts.countP (passesHidden expected) := by
  induction h with
  | nil => exact Nat.le_refl 0
  | cons hhead _ ih =>
      rw [List.countP_cons, List.countP_cons]
      refine Nat.add_le_add ih ?_
      split_ifs with hr ht
      · exact Nat.le_refl 1
      · exact absurd (hhead.passesHidden hr) ht
      · exact Nat.zero_le 1
      · exact Nat.le_refl 0

/-! ## From the package to the projection -/

/-- What the container prints: the record, unless `json.dumps` or `print` raises. -/
def runnerLog (record : Option (RunnerRecord F)) (executionId : Str) : Str :=
  match record with
  | none => []
  | some record =>
      if (record.toJson executionId).Printable
          ∧ isEncodable (record.toJson executionId).encode = true then
        printed (record.toJson executionId)
      else []

/-- The way of a Python execution: its request in the Secret, the runner, and the
controller's reading and grading of the log. -/
def gradeExecution (structured : Json F) (package : DispatchPackage F) (sandbox : Sandbox F)
    (timeoutSeconds : Int) (runtimeMs : Nat) :
    Option (List (ExpectedTest F) × TrustedExecutionProjection F) := do
  let payload ← (sandboxRequest package).toOption
  let requestJson ← (SandboxCreation.dumps payload).toOption.filter isEncodable
  let record := PythonRunner.main requestJson package.executionId timeoutSeconds sandbox runtimeMs
  let result ← (parseRunnerResult (runnerLog record package.executionId) package.executionId
    (some package.attemptCount)).toOption
  let expected ← (loadExpectedTests structured).toOption
  let projection ← (trustedCompare result expected).toOption
  some (expected, projection)

theorem toOption_eq_some {ε α : Type} {x : Except ε α} {a : α} (h : x.toOption = some a) :
    x = .ok a := by
  cases x with
  | error e => cases h
  | ok b => exact congrArg _ (Option.some.inj h)

/-- Without a record there is nothing to read in the log. -/
theorem runnerLog_read {record : Option (RunnerRecord F)} {executionId : Str} {att : Option Int}
    {result : SandboxExecutionResult F}
    (h : parseRunnerResult (runnerLog record executionId) executionId att = .ok result) :
    ∃ r, record = some r ∧ result = r.parsed executionId := by
  have hempty : parseRunnerResult (F := F) [] executionId att
      = .error (.trusted "Runner result marker was not found.") := rfl
  cases record with
  | none => cases hempty.symm.trans h
  | some r =>
      unfold runnerLog at h
      dsimp only at h
      split_ifs at h with hprint
      · unfold parseRunnerResult at h
        split_ifs at h
        obtain ⟨members, hmarked, hread⟩ := bind_eq_ok h
        exact ⟨r, rfl, parsed_of_ok r hprint.1 hmarked hread⟩
      · cases hempty.symm.trans h

/-- What an execution that is graded went through. -/
theorem gradeExecution_ok {structured : Json F} {package : DispatchPackage F}
    {sandbox : Sandbox F} {timeoutSeconds : Int} {runtimeMs : Nat}
    {p : TrustedExecutionProjection F}
    (h : gradeExecution structured package sandbox timeoutSeconds runtimeMs = some (expected, p)) :
    ∃ payload record, sandboxRequest package = .ok payload ∧ (Json.obj payload).Printable
      ∧ PythonRunner.main (Json.obj payload).encode package.executionId timeoutSeconds sandbox
          runtimeMs = some record
      ∧ trustedCompare (record.parsed package.executionId) expected = .ok p := by
  obtain ⟨payload, hrequest, h⟩ := Option.bind_eq_some_iff.mp h
  obtain ⟨requestJson, hdumps, h⟩ := Option.bind_eq_some_iff.mp h
  have hwritten := toOption_eq_some (Option.filter_eq_some_iff.mp hdumps).1
  unfold SandboxCreation.dumps at hwritten
  split_ifs at hwritten with hprintable
  obtain rfl := Except.ok.inj hwritten
  obtain ⟨result, hparse, h⟩ := Option.bind_eq_some_iff.mp h
  obtain ⟨tests, -, h⟩ := Option.bind_eq_some_iff.mp h
  obtain ⟨projection, hcompare, h⟩ := Option.bind_eq_some_iff.mp h
  obtain ⟨rfl, rfl⟩ := Prod.mk.inj (Option.some.inj h)
  obtain ⟨record, hmain, rfl⟩ := runnerLog_read (toOption_eq_some hparse)
  exact ⟨payload, record, toOption_eq_some hrequest, hprintable, hmain, toOption_eq_some hcompare⟩

/-- The record of the runner is a failure, or that of its loop. -/
theorem main_record {raw executionId : Str} {timeoutSeconds : Int} {sandbox : Sandbox F}
    {runtimeMs : Nat} {record : RunnerRecord F}
    (h : PythonRunner.main raw executionId timeoutSeconds sandbox runtimeMs = some record) :
    (record.tests = [] ∧ record.status = "FAILED")
      ∨ ∃ request, parseRequest (F := F) raw executionId = .ok request
        ∧ record = runRecord sandbox request runtimeMs
        ∧ (record.status = "COMPLETED" →
          (PythonRunner.runTests sandbox request).2 = .finished) := by
  unfold PythonRunner.main at h
  by_cases hpolicy : timeoutSeconds < 1 ∨ timeoutSeconds > 30
  · rw [if_pos hpolicy] at h
    cases h
    exact .inl ⟨rfl, rfl⟩
  · rw [if_neg hpolicy] at h
    cases hparse : parseRequest (F := F) raw executionId with
    | error e =>
        rw [hparse] at h
        cases e with
        | load e =>
            cases e <;> cases h
            exact .inl ⟨rfl, rfl⟩
        | unhashable => cases h
        | _ =>
            cases h
            exact .inl ⟨rfl, rfl⟩
    | ok request =>
        rw [hparse] at h
        dsimp only at h
        cases hend : (PythonRunner.runTests sandbox request).2 with
        | finished =>
            rw [hend] at h
            cases h
            exact .inr ⟨request, rfl, rfl, fun _ => hend⟩
        | timedOut =>
            rw [hend] at h
            cases h
            refine .inr ⟨request, rfl, rfl, fun hstatus => ?_⟩
            have htimeout : (runRecord sandbox request runtimeMs).status = "TIMEOUT" :=
              if_pos hend
            rw [htimeout] at hstatus
            exact absurd hstatus (by decide)
        | raised e =>
            rw [hend] at h
            cases e <;> cases h
            exact .inl ⟨rfl, rfl⟩

/-- The runs that are recorded of a queued execution. -/
theorem record_tests {functionNames : FunctionNames} {structured : Json F}
    {executionType : ExecutionType} {request : PracticeRunRequest} {package : DispatchPackage F}
    {sandbox : Sandbox F} {timeoutSeconds : Int} {runtimeMs : Nat} {record : RunnerRecord F}
    {payload : Dict F} (hempty : Runtime.isIdentifier F [] = false)
    (hkeys : structured.DistinctKeys)
    (hqueued : QueuedFor functionNames structured .python executionType request package)
    (hrequest : sandboxRequest package = .ok payload) (hprintable : (Json.obj payload).Printable)
    (hmain : PythonRunner.main (Json.obj payload).encode package.executionId timeoutSeconds sandbox
      runtimeMs = some record) :
    ∃ name mode sent, package.inputPayload = pythonPayload name mode sent
      ∧ ∃ front rest, answers sandbox 0 sent = front ++ rest
        ∧ List.Forall₂ Reports record.tests front
        ∧ (record.status = "COMPLETED" → LinesFit sandbox 0 sent →
          record.tests = answers sandbox 0 sent) := by
  obtain ⟨name, mode, sent, hname, -, hsent, hpayload⟩ := pythonConfig_ok hqueued.payload
  refine ⟨name, mode, sent, hpayload, ?_⟩
  rcases main_record hmain with ⟨hnone, hfailed⟩ | ⟨req, hparse, rfl, hdone⟩
  · rw [hnone, hfailed]
    exact ⟨[], _, rfl, .nil, fun h => absurd h (by decide)⟩
  · rw [sandboxRequest_python hempty hname hqueued.language hqueued.claimed hpayload] at hrequest
    obtain rfl := Except.ok.inj hrequest
    unfold parseRequest at hparse
    rw [Json.loads_encode_of_distinct hprintable
      (distinctKeys_pythonRequest (distinctKeys_sent hkeys hsent))] at hparse
    obtain ⟨hmode, htests⟩ := python_readRequest_ok hparse
    have hruns : PythonRunner.runTests sandbox req
        = runLoop sandbox.late (PythonRunner.executeTest sandbox "auto") 0 sent := by
      rw [PythonRunner.runTests, hmode, htests]
    obtain ⟨front, rest, heq, hall, hfits, hfinished⟩ := runLoop_reports sandbox 0 sent
    rw [← hruns] at hall hfits hfinished
    refine ⟨front, rest, heq, hall, fun hstatus hlines => ?_⟩
    have hrest := hfinished (hdone hstatus)
    rw [heq, hrest, List.append_nil]
    exact hfits hlines

end Grades

/-! ## A question with one test -/

theorem echo_lines : LinesFit returningOne 0 [sentTest 0 (echoTest "public")] :=
  ⟨fun members hmembers => Option.some.inj hmembers ▸ fitsLine_iff.mpr ⟨by decide, survives_one⟩,
    trivial⟩

end Rigor.PythonGrading
