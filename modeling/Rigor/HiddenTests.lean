import Rigor.TrustedCompare

/-!
# What the candidate learns about hidden tests

`trusted_compare` on two runs that a candidate must not tell apart. The
public part of the grading does not look at hidden tests
(`publicGrades_congr`), and of the hidden ones only the number that passed
is added (`gradeTests_eq`).
-/

namespace Rigor

open Py

variable {F : Type}

section Grades

variable [FloatArith F]

/-- How many entries of hidden tests pass. -/
def hiddenPassed (expected : List (ExpectedTest F)) :
    List (TestResult F) → Except GradingFailure Nat
  | [] => .ok 0
  | t :: rest =>
      match findTest t.id expected with
      | none => hiddenPassed expected rest
      | some e =>
          if e.isPublic then hiddenPassed expected rest
          else do
            let passed ← testPassed t e
            let count ← hiddenPassed expected rest
            .ok (count + passed.toNat)

/-- The loop of `trusted_compare` without its hidden comparisons. -/
def publicGrades (expected : List (ExpectedTest F)) :
    List (TestResult F) → Except GradingFailure (List (PublicTestResult F))
  | [] => .ok []
  | t :: rest =>
      match findTest t.id expected with
      | none => .error .key
      | some e =>
          if t.visibility ≠ e.visibility then
            .error (.trusted ("Runner changed visibility for test " ++ reprString F t.id ++ "."))
          else if e.isPublic then do
            let passed ← testPassed t e
            let rest ← publicGrades expected rest
            .ok (publicResult t e passed :: rest)
          else publicGrades expected rest

/-- Where the hidden comparisons are defined, only their count is added. -/
theorem gradeTests_eq {expected : List (ExpectedTest F)} :
    ∀ {tests : List (TestResult F)} {count : Nat}, hiddenPassed expected tests = .ok count →
      gradeTests expected tests = (publicGrades expected tests).map (·, count)
  | [], count, h => by
      cases h
      rfl
  | t :: rest, count, h => by
      rw [hiddenPassed] at h
      rw [gradeTests, publicGrades]
      cases hfind : findTest t.id expected with
      | none => rfl
      | some e =>
          rw [hfind] at h
          dsimp only at h ⊢
          by_cases hvis : t.visibility = e.visibility
          · rw [if_neg (not_not_intro hvis), if_neg (not_not_intro hvis)]
            cases hpublic : e.isPublic with
            | true =>
                rw [hpublic, if_pos rfl] at h
                rw [if_pos rfl, gradeTests_eq h]
                cases testPassed t e with
                | error err => rfl
                | ok passed => cases publicGrades expected rest <;> rfl
            | false =>
                rw [hpublic, if_neg Bool.false_ne_true] at h
                obtain ⟨passed, hpassed, h⟩ := bind_eq_ok h
                obtain ⟨n, hn, h⟩ := bind_eq_ok h
                cases h
                rw [if_neg Bool.false_ne_true, hpassed, ok_bind, gradeTests_eq hn]
                cases publicGrades expected rest <;> rfl
          · rw [if_pos hvis, if_pos hvis]
            rfl

end Grades

/-! ## Two runs -/

/-- Two entries of one test: those of a hidden test may differ in what the
candidate's program answered. -/
structure SameEntry (expected : List (ExpectedTest F)) (t t' : TestResult F) : Prop where
  id : t.id = t'.id
  visibility : t.visibility = t'.visibility
  ok : t.ok = t'.ok
  answer : (∃ e, findTest t.id expected = some e ∧ e.isPublic = false)
    ∨ (t.actual = t'.actual ∧ t.errorCategory = t'.errorCategory)

/-- Two results that differ in answers to hidden tests only. -/
structure SameView (expected : List (ExpectedTest F)) (r r' : SandboxExecutionResult F) : Prop where
  status : r.status = r'.status
  runtimeMs : r.runtimeMs = r'.runtimeMs
  stdout : r.stdout = r'.stdout
  stderr : r.stderr = r'.stderr
  errorCategory : r.errorCategory = r'.errorCategory
  tests : List.Forall₂ (SameEntry expected) r.tests r'.tests

/-- Two versions of one expected test: a hidden one may differ in its name,
its answer and the way it is compared. -/
structure SameTest (e e' : ExpectedTest F) : Prop where
  id : e.id = e'.id
  isPublic : e.isPublic = e'.isPublic
  expectedColumns : e.expectedColumns = e'.expectedColumns
  answer : e.isPublic = false
    ∨ (e.name = e'.name ∧ e.expectedOutput = e'.expectedOutput ∧ e.comparison = e'.comparison)

/-- Entries that are graded alike: the test is hidden, or nothing differs. -/
structure SameGrade (expected expected' : List (ExpectedTest F)) (t t' : TestResult F) : Prop where
  id : t.id = t'.id
  visibility : t.visibility = t'.visibility
  graded : (findTest t.id expected = none ∧ findTest t.id expected' = none)
    ∨ ∃ e e', findTest t.id expected = some e ∧ findTest t.id expected' = some e'
      ∧ e.isPublic = e'.isPublic ∧ (e.isPublic = true → t = t' ∧ e = e')

theorem SameEntry.sameGrade {expected : List (ExpectedTest F)} {t t' : TestResult F}
    (h : SameEntry expected t t') : SameGrade expected expected t t' := by
  refine ⟨h.id, h.visibility, ?_⟩
  cases hfind : findTest t.id expected with
  | none => exact .inl ⟨rfl, rfl⟩
  | some e =>
      refine .inr ⟨e, e, rfl, rfl, rfl, fun hpublic => ⟨?_, rfl⟩⟩
      rcases h.answer with ⟨e', he', hhidden⟩ | ⟨hactual, herror⟩
      · rw [hfind] at he'
        cases he'
        rw [hpublic] at hhidden
        cases hhidden
      · obtain ⟨id, visibility, ok, actual, error⟩ := t
        obtain ⟨id', visibility', ok', actual', error'⟩ := t'
        obtain rfl : id = id' := h.id
        obtain rfl : visibility = visibility' := h.visibility
        obtain rfl : ok = ok' := h.ok
        obtain rfl : actual = actual' := hactual
        obtain rfl : error = error' := herror
        rfl

theorem SameTest.eq_of_public {e e' : ExpectedTest F} (h : SameTest e e')
    (hpublic : e.isPublic = true) : e = e' := by
  rcases h.answer with hhidden | ⟨hname, houtput, hcomparison⟩
  · rw [hpublic] at hhidden
    cases hhidden
  · obtain ⟨id, name, _, isPublic, output, columns, comparison⟩ := e
    obtain ⟨id', name', _, isPublic', output', columns', comparison'⟩ := e'
    obtain rfl : id = id' := h.id
    obtain rfl : isPublic = isPublic' := h.isPublic
    obtain rfl : columns = columns' := h.expectedColumns
    obtain rfl : name = name' := hname
    obtain rfl : output = output' := houtput
    obtain rfl : comparison = comparison' := hcomparison
    rfl

theorem findTest_same {expected expected' : List (ExpectedTest F)} (k : Str)
    (h : List.Forall₂ SameTest expected expected') :
    (findTest k expected = none ∧ findTest k expected' = none)
      ∨ ∃ e e', findTest k expected = some e ∧ findTest k expected' = some e' ∧ SameTest e e' := by
  induction h with
  | nil => exact .inl ⟨rfl, rfl⟩
  | @cons e e' rest rest' he _ ih =>
      by_cases hk : e.id = k
      · exact .inr ⟨e, e', Tables.find_cons_of_eq hk, Tables.find_cons_of_eq (he.id ▸ hk), he⟩
      · rw [findTest, findTest, Tables.find_cons_of_ne hk, Tables.find_cons_of_ne (he.id ▸ hk)]
        exact ih

theorem sameGrade_of_sameTests {expected expected' : List (ExpectedTest F)}
    (h : List.Forall₂ SameTest expected expected') (t : TestResult F) :
    SameGrade expected expected' t t := by
  refine ⟨rfl, rfl, (findTest_same t.id h).imp_right ?_⟩
  rintro ⟨e, e', he, he', hsame⟩
  exact ⟨e, e', he, he', hsame.isPublic, fun hpublic => ⟨rfl, hsame.eq_of_public hpublic⟩⟩

section TwoRuns

variable [FloatArith F]

/-- The public part of the grading does not look at hidden tests. -/
theorem publicGrades_congr {expected expected' : List (ExpectedTest F)}
    {tests tests' : List (TestResult F)}
    (h : List.Forall₂ (SameGrade expected expected') tests tests') :
    publicGrades expected tests = publicGrades expected' tests' := by
  induction h with
  | nil => rfl
  | @cons t t' rest rest' ht _ ih =>
      rw [publicGrades, publicGrades, ← ht.id, ← ht.visibility]
      rcases ht.graded with ⟨hnone, hnone'⟩ | ⟨e, e', he, he', hpublic, hsame⟩
      · rw [hnone, hnone']
      · rw [he, he', ih]
        dsimp only
        have hvisibility : e.visibility = e'.visibility := by
          rw [ExpectedTest.visibility, ExpectedTest.visibility, hpublic]
        rw [hvisibility, ← hpublic]
        cases hp : e.isPublic with
        | false => rfl
        | true =>
            obtain ⟨rfl, rfl⟩ := hsame hp
            rfl

/-- `trusted_compare` reads nothing else of a result and of the expected
tests. -/
theorem trustedCompare_congr {r r' : SandboxExecutionResult F}
    {expected expected' : List (ExpectedTest F)} (hstatus : r.status = r'.status)
    (hruntime : r.runtimeMs = r'.runtimeMs) (hexit : r.exitCode = r'.exitCode)
    (hstdout : r.stdout = r'.stdout) (hstderr : r.stderr = r'.stderr)
    (herror : r.errorCategory = r'.errorCategory)
    (hids : r.tests.map TestResult.id = r'.tests.map TestResult.id)
    (hexpected : expected.map ExpectedTest.id = expected'.map ExpectedTest.id)
    (htotal : hiddenTotal expected = hiddenTotal expected')
    (hgrades : gradeTests expected r.tests = gradeTests expected' r'.tests) :
    trustedCompare r expected = trustedCompare r' expected' := by
  -- both checks are about the sets of identifiers
  have exists_map : ∀ {α : Type} (f : α → Str) (xs : List α) (ids : List Str),
      (∃ x ∈ xs, f x ∉ ids) ↔ ∃ i ∈ xs.map f, i ∉ ids := fun f xs ids => by simp
  have hunknown : (∃ t ∈ r.tests, t.id ∉ expected.map ExpectedTest.id)
      ↔ ∃ t ∈ r'.tests, t.id ∉ expected'.map ExpectedTest.id := by
    rw [exists_map, hids, hexpected, ← exists_map]
  have homitted : (∃ e ∈ expected, e.id ∉ r.tests.map TestResult.id)
      ↔ ∃ e ∈ expected', e.id ∉ r'.tests.map TestResult.id := by
    rw [exists_map, hids, hexpected, ← exists_map]
  unfold trustedCompare
  simp only [hunknown, homitted, hstatus, hruntime, hexit, hstdout, hstderr, herror, htotal,
    hgrades]

theorem sameView_trustedCompare {expected : List (ExpectedTest F)}
    {r r' : SandboxExecutionResult F} (hview : SameView expected r r')
    (hexit : r.exitCode = r'.exitCode) {count : Nat}
    (hcount : hiddenPassed expected r.tests = .ok count)
    (hcount' : hiddenPassed expected r'.tests = .ok count) :
    trustedCompare r expected = trustedCompare r' expected := by
  have hgrade : List.Forall₂ (SameGrade expected expected) r.tests r'.tests :=
    hview.tests.imp fun _ _ h => h.sameGrade
  have hids : r.tests.map TestResult.id = r'.tests.map TestResult.id := by
    rw [← List.forall₂_eq_eq_eq, List.forall₂_map_left_iff, List.forall₂_map_right_iff]
    exact hview.tests.imp fun _ _ h => h.id
  refine trustedCompare_congr hview.status hview.runtimeMs hexit hview.stdout hview.stderr
    hview.errorCategory hids rfl rfl ?_
  rw [gradeTests_eq hcount, gradeTests_eq hcount', publicGrades_congr hgrade]

theorem sameTests_trustedCompare {expected expected' : List (ExpectedTest F)}
    (hsame : List.Forall₂ SameTest expected expected') {r : SandboxExecutionResult F} {count : Nat}
    (hcount : hiddenPassed expected r.tests = .ok count)
    (hcount' : hiddenPassed expected' r.tests = .ok count) :
    trustedCompare r expected = trustedCompare r expected' := by
  have hgrade : List.Forall₂ (SameGrade expected expected') r.tests r.tests :=
    List.forall₂_same.mpr fun t _ => sameGrade_of_sameTests hsame t
  have hids : expected.map ExpectedTest.id = expected'.map ExpectedTest.id := by
    rw [← List.forall₂_eq_eq_eq, List.forall₂_map_left_iff, List.forall₂_map_right_iff]
    exact hsame.imp fun _ _ h => h.id
  have htotal : hiddenTotal expected = hiddenTotal expected' := by
    clear hcount hcount' hgrade hids
    induction hsame with
    | nil => rfl
    | cons he _ ih =>
        rw [hiddenTotal, hiddenTotal] at ih ⊢
        rw [List.countP_cons, List.countP_cons, ih, he.isPublic]
  refine trustedCompare_congr rfl rfl rfl rfl rfl rfl rfl hids htotal ?_
  rw [gradeTests_eq hcount, gradeTests_eq hcount', publicGrades_congr hgrade]

theorem trustedCompare_public {r : SandboxExecutionResult F} {expected : List (ExpectedTest F)}
    {projection : TrustedExecutionProjection F} (h : trustedCompare r expected = .ok projection) :
    ∀ x ∈ projection.publicResults,
      ∃ e, findTest x.testId expected = some e ∧ e.isPublic = true := by
  intro x hx
  obtain ⟨t, -, e, passed, hfind, hpublic, -, rfl⟩ := (gradeTests_mem (trustedCompare_ok h).1).mp hx
  exact ⟨e, hfind, hpublic⟩

/-- What a candidate sees does not depend on hidden tests beyond how many of
them pass: not on what was answered to them, not on their names, answers and
policies; and only public tests are listed. -/
theorem hidden_tests_do_not_leak :
    (∀ (expected : List (ExpectedTest F)) (r r' : SandboxExecutionResult F) (count : Nat),
      SameView expected r r' → r.exitCode = r'.exitCode →
        hiddenPassed expected r.tests = .ok count → hiddenPassed expected r'.tests = .ok count →
          trustedCompare r expected = trustedCompare r' expected)
    ∧ (∀ (expected expected' : List (ExpectedTest F)) (r : SandboxExecutionResult F) (count : Nat),
      List.Forall₂ SameTest expected expected' →
        hiddenPassed expected r.tests = .ok count → hiddenPassed expected' r.tests = .ok count →
          trustedCompare r expected = trustedCompare r expected')
    ∧ ∀ (expected : List (ExpectedTest F)) (r : SandboxExecutionResult F)
        (projection : TrustedExecutionProjection F), trustedCompare r expected = .ok projection →
      ∀ x ∈ projection.publicResults,
        ∃ e, findTest x.testId expected = some e ∧ e.isPublic = true :=
  ⟨fun _ _ _ _ hview hexit hcount hcount' => sameView_trustedCompare hview hexit hcount hcount',
    fun _ _ _ _ hsame hcount hcount' => sameTests_trustedCompare hsame hcount hcount',
    fun _ _ _ h => trustedCompare_public h⟩

end TwoRuns

/-! ## One public and one hidden test -/

def secretTests (name : Str) (answer : Int) : List (ExpectedTest NanoFloat) :=
  [expectedTest ⟨false, .null, none⟩ 0 [("visibility", .str "public"), ("expected_output", .int 1)]
      [("strategy", .str "exact")],
    expectedTest ⟨false, .null, none⟩ 1 [("name", .str name), ("expected_output", .int answer)]
      [("strategy", .str "exact")]]

def secretResult (actual : Int) (exitCode : Int) : SandboxExecutionResult NanoFloat where
  executionId := "execution"
  attempt := 1
  status := "COMPLETED"
  runtimeMs := 3
  exitCode := exitCode
  tests := [⟨"test-1", "public", true, .int 1, none⟩, ⟨"test-2", "hidden", true, .int actual, none⟩]
  stdout := []
  stderr := []
  errorCategory := none

theorem sameView_secret (actual actual' exitCode exitCode' : Int) :
    SameView (secretTests "secret" 7) (secretResult actual exitCode)
      (secretResult actual' exitCode') where
  status := rfl
  runtimeMs := rfl
  stdout := rfl
  stderr := rfl
  errorCategory := rfl
  tests := .cons ⟨rfl, rfl, rfl, .inr ⟨rfl, rfl⟩⟩ (.cons ⟨rfl, rfl, rfl, .inl ⟨_, rfl, rfl⟩⟩ .nil)

/-- Two wrong answers to a hidden test, and two hidden tests that a result
fails, look the same. -/
theorem hidden_tests_do_not_leak_secret :
    trustedCompare (secretResult 5 0) (secretTests "secret" 7)
        = trustedCompare (secretResult 6 0) (secretTests "secret" 7)
      ∧ trustedCompare (secretResult 5 0) (secretTests "secret" 7)
        = trustedCompare (secretResult 5 0) (secretTests "other" 8)
      ∧ ∃ projection, trustedCompare (secretResult 5 0) (secretTests "secret" 7) = .ok projection
        ∧ ∀ x ∈ projection.publicResults,
          ∃ e, findTest x.testId (secretTests "secret" 7) = some e ∧ e.isPublic = true := by
  obtain ⟨hresults, hanswers, hpublic⟩ := hidden_tests_do_not_leak (F := NanoFloat)
  obtain ⟨projection, hprojection⟩ : ∃ projection,
      trustedCompare (secretResult 5 0) (secretTests "secret" 7) = .ok projection := ⟨_, rfl⟩
  refine ⟨hresults _ _ _ 0 (sameView_secret 5 6 0 0) rfl rfl rfl, hanswers _ _ _ 0 ?_ rfl rfl,
    projection, hprojection, hpublic _ _ _ hprojection⟩
  exact .cons ⟨rfl, rfl, rfl, .inr ⟨rfl, rfl, rfl⟩⟩ (.cons ⟨rfl, rfl, rfl, .inl rfl⟩ .nil)

/-- The exit code is part of the view: results that agree on everything but
their exit code are told apart. -/
theorem exitCode_told_apart :
    SameView (secretTests "secret" 7) (secretResult 5 0) (secretResult 5 1)
      ∧ hiddenPassed (secretTests "secret" 7) (secretResult 5 0).tests = .ok 0
      ∧ hiddenPassed (secretTests "secret" 7) (secretResult 5 1).tests = .ok 0
      ∧ ∃ p p', trustedCompare (secretResult 5 0) (secretTests "secret" 7) = .ok p
        ∧ trustedCompare (secretResult 5 1) (secretTests "secret" 7) = .ok p' ∧ p ≠ p' :=
  ⟨sameView_secret 5 5 0 1, rfl, rfl, _, _, rfl, rfl, fun h =>
    absurd (congrArg TrustedExecutionProjection.exitCode h) (by decide)⟩

end Rigor
