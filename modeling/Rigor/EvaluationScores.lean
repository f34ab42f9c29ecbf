import Mathlib.Algebra.Order.Floor.Ring
import Mathlib.Data.List.Perm.Subperm
import Mathlib.Data.Rat.Floor
import Mathlib.Tactic.GCongr
import Mathlib.Tactic.Linarith
import Rigor.TrustedCompare

/-!
# The scores of a submission

`_evaluation` divides the passed tests by the tests of the projection. The
hidden ones are counted in the expected set and the public ones in the
result, so a result that stops early is measured by the public tests it got
to. Every expected test counts exactly when all public ones are reported
(`every_test_counts_iff`).
-/

namespace Rigor

open Py

variable {F : Type}

/-! ## Rounding -/

/-- `round(x)`, half to even. -/
def roundHalfEven (x : Rat) : Int :=
  if x - ⌊x⌋ < 1 / 2 then ⌊x⌋
  else if 1 / 2 < x - ⌊x⌋ then ⌊x⌋ + 1
  else if ⌊x⌋ % 2 = 0 then ⌊x⌋
  else ⌊x⌋ + 1

/-- `round(x, 5)`, of an exact number. -/
def roundFive (x : Rat) : Rat := roundHalfEven (x * 100000) / 100000

theorem roundHalfEven_bounds (x : Rat) : ⌊x⌋ ≤ roundHalfEven x ∧ roundHalfEven x ≤ ⌊x⌋ + 1 := by
  unfold roundHalfEven
  split_ifs <;> omega

theorem roundHalfEven_mono {x y : Rat} (h : x ≤ y) : roundHalfEven x ≤ roundHalfEven y := by
  rcases (Int.floor_mono h).lt_or_eq with hfloor | hfloor
  · have hx := (roundHalfEven_bounds x).2
    have hy := (roundHalfEven_bounds y).1
    omega
  · unfold roundHalfEven
    rw [hfloor]
    have hsub : x - ⌊y⌋ ≤ y - ⌊y⌋ := sub_le_sub_right h _
    split_ifs <;> first | omega | linarith

theorem roundFive_mono {x y : Rat} (h : x ≤ y) : roundFive x ≤ roundFive y := by
  have hround : roundHalfEven (x * 100000) ≤ roundHalfEven (y * 100000) :=
    roundHalfEven_mono (mul_le_mul_of_nonneg_right h (by norm_num))
  unfold roundFive
  exact div_le_div_of_nonneg_right (by exact_mod_cast hround) (by norm_num)

/-! ## `_evaluation` -/

/-- What `_evaluation` reads of the quality signals. -/
structure SourceQuality where
  syntaxValid : Bool
  containsTodo : Bool
  debugPrintCount : Nat
  functionCount : Nat

structure Scores where
  correctness : Rat
  complexity : Rat
  codeQuality : Rat
  testing : Rat
  robustness : Rat
  overall : Rat

def boolScore (b : Bool) : Rat := if b then 1 else 0

/-- `passed / total if total else default`. -/
def ratio (passed total : Nat) (default : Rat) : Rat :=
  if total = 0 then default else passed / total

/-- The scores of `_evaluation`, with floats read as exact numbers. -/
def evaluationScores (quality : SourceQuality) (p : TrustedExecutionProjection F) : Scores :=
  let publicTotal := p.publicResults.length
  let total := publicTotal + p.hiddenTotal
  let passed := p.publicPassed + p.hiddenPassed
  let correctness := ratio passed total 0
  let testing := ratio p.publicPassed publicTotal correctness
  let robustness := ratio p.hiddenPassed p.hiddenTotal correctness
  let codeQuality := 55 / 100 * boolScore quality.syntaxValid
    + 20 / 100 * boolScore (!quality.containsTodo)
    + 15 / 100 * boolScore (quality.debugPrintCount ≤ 1)
    + 10 / 100 * boolScore (quality.functionCount ≥ 1)
  let complexity :=
    if p.executionStatus = .completed then if p.allTestsPassed then 1 else 1 / 2 else 0
  let overall := 60 / 100 * correctness + 15 / 100 * codeQuality + 10 / 100 * complexity
    + 10 / 100 * robustness + 5 / 100 * testing
  { correctness := roundFive correctness
    complexity := roundFive complexity
    codeQuality := roundFive codeQuality
    testing := roundFive testing
    robustness := roundFive robustness
    overall := roundFive overall }

theorem ratio_mono {passed passed' total total' : Nat} {default default' : Rat}
    (htotal : total = total') (h : passed ≤ passed') (hdefault : default ≤ default') :
    ratio passed total default ≤ ratio passed' total' default' := by
  subst htotal
  unfold ratio
  split_ifs
  · exact hdefault
  · exact div_le_div_of_nonneg_right (by exact_mod_cast h) (Nat.cast_nonneg total)

/-! ## Counting the reported tests -/

section

variable [FloatArith F] {expected : List (ExpectedTest F)} {r r' : SandboxExecutionResult F}
  {p p' : TrustedExecutionProjection F}

/-- A reported test that is public. -/
def reportsPublic (expected : List (ExpectedTest F)) (t : TestResult F) : Bool :=
  (findTest t.id expected).any ExpectedTest.isPublic

/-- A reported test that passes. -/
def reportPasses (expected : List (ExpectedTest F)) (t : TestResult F) : Bool :=
  match findTest t.id expected with
  | none => false
  | some e =>
      match testPassed t e with
      | .ok passed => passed
      | .error _ => false

/-- The three counts that the loop makes. -/
theorem gradeTests_counts : ∀ {tests : List (TestResult F)}
    {publicResults : List (PublicTestResult F)} {count : Nat},
    gradeTests expected tests = .ok (publicResults, count) →
      publicResults.length = tests.countP (reportsPublic expected)
        ∧ publicResults.countP PublicTestResult.passed
          = tests.countP (fun t => reportsPublic expected t && reportPasses expected t)
        ∧ count = tests.countP (fun t => !reportsPublic expected t && reportPasses expected t)
  | [], _, _, h => by
      cases h
      exact ⟨rfl, rfl, rfl⟩
  | t :: rest, publicResults, count, h => by
      obtain ⟨e, passed, publicResults', count', hfind, -, hpassed, hrest, hcase⟩ := gradeTests_cons h
      obtain ⟨hlength, hpublic, hhidden⟩ := gradeTests_counts hrest
      have hreports : reportsPublic expected t = e.isPublic := by
        rw [reportsPublic, hfind]
        rfl
      have hpasses : reportPasses expected t = passed := by
        rw [reportPasses, hfind]
        dsimp only
        rw [hpassed]
      rw [List.countP_cons, List.countP_cons, List.countP_cons, hreports, hpasses]
      rcases hcase with ⟨hvisible, rfl, rfl⟩ | ⟨hvisible, rfl, rfl⟩
      · rw [hvisible, List.length_cons, List.countP_cons, hlength, hpublic, hhidden]
        exact ⟨rfl, rfl, rfl⟩
      · rw [hvisible, hlength, hpublic, hhidden]
        cases passed <;> exact ⟨rfl, rfl, rfl⟩

/-- What the projection counts. -/
structure Counted (expected : List (ExpectedTest F)) (tests : List (TestResult F))
    (p : TrustedExecutionProjection F) : Prop where
  publicTotal : p.publicResults.length = tests.countP (reportsPublic expected)
  publicPassed : p.publicPassed
    = tests.countP fun t => reportsPublic expected t && reportPasses expected t
  hiddenPassed : p.hiddenPassed
    = tests.countP fun t => !reportsPublic expected t && reportPasses expected t
  hiddenTotal : p.hiddenTotal = Rigor.hiddenTotal expected

theorem trustedCompare_counted (h : trustedCompare r expected = .ok p) :
    Counted expected r.tests p := by
  obtain ⟨hgrades, -, -, -, -, htotal, -⟩ := trustedCompare_ok h
  obtain ⟨hlength, hpublic, hhidden⟩ := gradeTests_counts hgrades
  exact ⟨hlength, hpublic, hhidden, htotal⟩

theorem countP_and_add {α : Type} (f g : α → Bool) (xs : List α) :
    (xs.countP fun x => f x && g x) + (xs.countP fun x => !f x && g x) = xs.countP g := by
  induction xs with
  | nil => rfl
  | cons x xs ih =>
      rw [List.countP_cons, List.countP_cons, List.countP_cons, ← ih]
      cases f x <;> cases g x <;> simp <;> omega

omit [FloatArith F] in
theorem expected_length (expected : List (ExpectedTest F)) :
    expected.length = expected.countP ExpectedTest.isPublic + hiddenTotal expected := by
  rw [List.length_eq_countP_add_countP ExpectedTest.isPublic, hiddenTotal]
  congr 1
  refine List.countP_congr fun e _ => ?_
  cases e.isPublic <;> decide

omit [FloatArith F] in
/-- Of tests with distinct identifiers no more public ones are reported than
are expected. -/
theorem countP_reportsPublic_le {tests : List (TestResult F)}
    (hids : (tests.map TestResult.id).Nodup) :
    tests.countP (reportsPublic expected) ≤ expected.countP ExpectedTest.isPublic := by
  rw [List.countP_eq_length_filter, List.countP_eq_length_filter, ← List.length_map TestResult.id,
    ← List.length_map ExpectedTest.id]
  refine (List.subperm_of_subset (hids.sublist (List.filter_sublist.map _)) fun x hx => ?_).length_le
  obtain ⟨t, ht, rfl⟩ := List.mem_map.mp hx
  obtain ⟨e, hfind, hpublic⟩ := Option.any_eq_true _ _ |>.mp (List.mem_filter.mp ht).2
  exact List.mem_map.mpr ⟨e, List.mem_filter.mpr ⟨Tables.mem_of_find hfind, hpublic⟩,
    Tables.key_of_find hfind⟩

/-- All public tests are reported. -/
def ReportsAllPublic (expected : List (ExpectedTest F)) (r : SandboxExecutionResult F) : Prop :=
  r.tests.countP (reportsPublic expected) = expected.countP ExpectedTest.isPublic

/-- Every expected test counts, and a result that reports more tests has no
smaller score. -/
structure EveryTestCounts (quality : SourceQuality) (expected : List (ExpectedTest F))
    (r : SandboxExecutionResult F) (p : TrustedExecutionProjection F) : Prop where
  total : p.totalTests = expected.length
  passed : p.passedTests = r.tests.countP (reportPasses expected)
  correctness : (evaluationScores quality p).correctness
    = roundFive (ratio p.passedTests expected.length 0)
  fewer : ∀ r' p', trustedCompare r' expected = .ok p' → (r'.tests.map TestResult.id).Nodup →
    r.tests.Subperm r'.tests →
      (evaluationScores quality p).correctness ≤ (evaluationScores quality p').correctness
        ∧ (evaluationScores quality p).testing ≤ (evaluationScores quality p').testing
        ∧ (evaluationScores quality p).robustness ≤ (evaluationScores quality p').robustness

theorem Counted.passedTests (h : Counted expected r.tests p) :
    p.passedTests = r.tests.countP (reportPasses expected) := by
  rw [TrustedExecutionProjection.passedTests, h.publicPassed, h.hiddenPassed, countP_and_add]

theorem Counted.totalTests_iff (h : Counted expected r.tests p) :
    p.totalTests = expected.length ↔ ReportsAllPublic expected r := by
  rw [TrustedExecutionProjection.totalTests, h.publicTotal, h.hiddenTotal, expected_length,
    ReportsAllPublic, Nat.add_right_cancel_iff]

omit [FloatArith F] in
/-- All public tests are reported by a result that reports more. -/
theorem ReportsAllPublic.mono (h : ReportsAllPublic expected r)
    (hids : (r'.tests.map TestResult.id).Nodup) (hsub : r.tests.Subperm r'.tests) :
    ReportsAllPublic expected r' :=
  Nat.le_antisymm (countP_reportsPublic_le hids) (h ▸ hsub.countP_le _)

/-- Of two results that report all public tests the one that reports more
has no smaller score. -/
theorem scores_mono (quality : SourceQuality) (h : Counted expected r.tests p)
    (h' : Counted expected r'.tests p') (hall : ReportsAllPublic expected r)
    (hall' : ReportsAllPublic expected r') (hsub : r.tests.Subperm r'.tests) :
    (evaluationScores quality p).correctness ≤ (evaluationScores quality p').correctness
      ∧ (evaluationScores quality p).testing ≤ (evaluationScores quality p').testing
      ∧ (evaluationScores quality p).robustness ≤ (evaluationScores quality p').robustness := by
  have hpublicTotal : p.publicResults.length = p'.publicResults.length := by
    rw [h.publicTotal, h'.publicTotal, hall, hall']
  have hhiddenTotal : p.hiddenTotal = p'.hiddenTotal := by rw [h.hiddenTotal, h'.hiddenTotal]
  have hpublic : p.publicPassed ≤ p'.publicPassed := by
    rw [h.publicPassed, h'.publicPassed]
    exact hsub.countP_le _
  have hhidden : p.hiddenPassed ≤ p'.hiddenPassed := by
    rw [h.hiddenPassed, h'.hiddenPassed]
    exact hsub.countP_le _
  have hcorrectness : ratio (p.publicPassed + p.hiddenPassed)
        (p.publicResults.length + p.hiddenTotal) 0
      ≤ ratio (p'.publicPassed + p'.hiddenPassed) (p'.publicResults.length + p'.hiddenTotal) 0 :=
    ratio_mono (by rw [hpublicTotal, hhiddenTotal]) (Nat.add_le_add hpublic hhidden) (le_refl 0)
  exact ⟨roundFive_mono hcorrectness, roundFive_mono (ratio_mono hpublicTotal hpublic hcorrectness),
    roundFive_mono (ratio_mono hhiddenTotal hhidden hcorrectness)⟩

end

/-- Of an accepted result every expected test counts exactly when it reports
all public ones. -/
theorem every_test_counts_iff [FloatArith F] (quality : SourceQuality)
    (expected : List (ExpectedTest F)) (r : SandboxExecutionResult F)
    (p : TrustedExecutionProjection F) (h : trustedCompare r expected = .ok p) :
    EveryTestCounts quality expected r p ↔ ReportsAllPublic expected r := by
  have hcounted := trustedCompare_counted h
  constructor
  · intro hcounts
    exact hcounted.totalTests_iff.mp hcounts.total
  · intro hall
    have htotal := hcounted.totalTests_iff.mpr hall
    refine ⟨htotal, hcounted.passedTests, ?_, fun r' p' h' hids hsub => ?_⟩
    · rw [← htotal]
      rfl
    · exact scores_mono quality hcounted (trustedCompare_counted h') hall (hall.mono hids hsub) hsub

/-! ## A time limit after the first test -/

section

def expectedOne (id : Str) (h : id ≠ []) : ExpectedTest NanoFloat where
  id := id
  name := id
  name_ok := h
  isPublic := true
  expectedOutput := .int 1
  expectedColumns := none
  comparison := [("strategy", .str "exact")]

def expectedTwo : List (ExpectedTest NanoFloat) :=
  [expectedOne "a" (by decide), expectedOne "b" (by decide)]

def reportedTest (id : Str) (actual : Int) : TestResult NanoFloat := ⟨id, "public", true, .int actual, none⟩

/-- The first test passes, the second one does not. -/
def timedOut (tests : List (TestResult NanoFloat)) : SandboxExecutionResult NanoFloat where
  executionId := "e"
  attempt := 1
  status := "TIMEOUT"
  runtimeMs := 10000
  exitCode := 124
  tests := tests
  stdout := []
  stderr := []
  errorCategory := some "timeout"

def anyQuality : SourceQuality := ⟨true, false, 0, 1⟩

/-- The projection of a result that reports both tests, or only the first. -/
def timedOutProjection (results : List (PublicTestResult NanoFloat)) :
    TrustedExecutionProjection NanoFloat where
  executionStatus := .timeout
  status_ok := TrustedExecutionProjection.timeout_ok
  runtimeMs := 10000
  exitCode := 124
  errorCategory := some "timeout"
  publicResults := results
  hiddenTotal := 0
  hiddenPassed := 0
  stdout := []
  stderr := []
  candidateMessage := "Execution exceeded the configured time limit."

def gradedTest (id : Str) (passed : Bool) (actual : Int) : PublicTestResult NanoFloat :=
  ⟨id, id, passed, .int 1, .int actual, none⟩

theorem timedOut_both : trustedCompare (timedOut [reportedTest "a" 1, reportedTest "b" 2]) expectedTwo
    = .ok (timedOutProjection [gradedTest "a" true 1, gradedTest "b" false 2]) := by
  rfl

theorem timedOut_first : trustedCompare (timedOut [reportedTest "a" 1]) expectedTwo
    = .ok (timedOutProjection [gradedTest "a" true 1]) := by
  rfl

theorem every_test_counts_both :
    EveryTestCounts anyQuality expectedTwo (timedOut [reportedTest "a" 1, reportedTest "b" 2])
      (timedOutProjection [gradedTest "a" true 1, gradedTest "b" false 2]) :=
  (every_test_counts_iff anyQuality expectedTwo _ _ timedOut_both).mpr rfl

/-- The test that was not reached is not counted, and the score is higher. -/
theorem first_test_alone :
    trustedCompare (timedOut [reportedTest "a" 1]) expectedTwo
        = .ok (timedOutProjection [gradedTest "a" true 1])
      ∧ (timedOutProjection [gradedTest "a" true 1]).totalTests = 1 ∧ expectedTwo.length = 2
      ∧ (evaluationScores anyQuality (timedOutProjection [gradedTest "a" true 1])).correctness = 1
      ∧ (evaluationScores anyQuality
          (timedOutProjection [gradedTest "a" true 1, gradedTest "b" false 2])).correctness = 1 / 2
      ∧ ¬EveryTestCounts anyQuality expectedTwo (timedOut [reportedTest "a" 1])
        (timedOutProjection [gradedTest "a" true 1]) := by
  refine ⟨timedOut_first, rfl, rfl, by decide +kernel, by decide +kernel, fun h => ?_⟩
  have htotal := h.total
  revert htotal
  decide

end

end Rigor
