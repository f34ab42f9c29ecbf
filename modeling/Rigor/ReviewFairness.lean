import Mathlib.Algebra.Order.BigOperators.Group.List
import Rigor.EvaluationScores
import Rigor.Independence
import Rigor.PrReview

/-!
# Fair grades

`grade_review` matches the comments one after the other, each with the nearest
finding that is left within one line of it. The findings are caught or missed,
each comment catches one or is a false positive, and the score is that of five
parts. What is caught depends on the order in which comments that reach one
finding come: a permutation under which each finding is reached alike changes
nothing (`grades_fair`), another one may.
-/

namespace Rigor

open Py

section Grading

variable {F : Type}

/-- What `grade_review` returns for the comments on a challenge. -/
def gradeChallenge (arith : GradeArith F) (spec : ChallengeSpec)
    (comments : List ReviewCommentInput) (verdict : ReviewVerdict) : ReviewGrade F :=
  let m := comments.foldl Matching.add ⟨spec.findings, [], 0⟩
  let caught := m.found.map Prod.snd
  let recallScore := arith.ratio caught.length spec.findings.length
  let precision :=
    if comments = [] then arith.zero else arith.ratio caught.length comments.length
  let severityAccuracy :=
    if m.found = [] then arith.zero
    else
      arith.ratio (m.found.countP fun x => severityRank x.1.severity = severityRank x.2.severity)
        m.found.length
  let reasoningQuality :=
    if comments = [] then arith.zero
    else arith.mean (comments.map fun c => arith.capped (strip c.message).length)
  let verdictCorrect : Bool := verdict = .requestChanges
  { score := arith.total recallScore precision severityAccuracy reasoningQuality
      (if verdictCorrect then 5 else 0)
    caught := caught
    missed := m.unmatched
    falsePositiveCount := m.falsePositiveCount
    severityAccuracy := severityAccuracy
    precision := precision
    recallScore := recallScore
    reasoningQuality := reasoningQuality
    verdictCorrect := verdictCorrect }

/-- How `grade_review` fails: for an unknown challenge, or one without findings. -/
inductive GradeFailure where
  | value (message : Str)
  | zeroDivision
  deriving DecidableEq

/-- `grade_review` with `challenges` as the values of `_CHALLENGES`. -/
def gradeReviewIn (arith : GradeArith F) (challenges : List ChallengeSpec) (challengeId : Str)
    (comments : List ReviewCommentInput) (verdict : ReviewVerdict) :
    Except GradeFailure (ReviewGrade F) :=
  match Tables.find ChallengeSpec.id challengeId challenges with
  | none => .error (.value "Unknown PR review challenge")
  | some spec =>
      if spec.findings = [] then .error .zeroDivision
      else .ok (gradeChallenge arith spec comments verdict)

theorem gradeReview_eq {arith : GradeArith F} {challengeId : Str}
    {comments : List ReviewCommentInput} {verdict : ReviewVerdict} {g : ReviewGrade F} :
    gradeReview arith challengeId comments verdict = .ok g
      ↔ gradeReviewIn arith [paymentsRetry] challengeId comments verdict = .ok g := by
  unfold gradeReview gradeReviewIn challengeFor
  cases hspec : Tables.find ChallengeSpec.id challengeId [paymentsRetry] with
  | none => simp
  | some spec =>
      obtain rfl : spec = paymentsRetry := by
        simpa using Tables.mem_of_find hspec
      simp only [if_neg (show paymentsRetry.findings ≠ [] by decide), Except.ok.injEq]
      rfl

end Grading

/-! ## Floating point -/

/-- Doubles, with the rounding of an operation and the built-in `sum`. -/
structure Doubles where
  fl : ℚ → ℚ
  mono : Monotone fl
  whole : ∀ n : ℕ, n ≤ 2 ^ 53 → fl n = n
  sum : List ℚ → ℚ
  sum_unit : ∀ values : List ℚ, (∀ v ∈ values, 0 ≤ v ∧ v ≤ 1) →
    0 ≤ sum values ∧ sum values ≤ fl values.length

/-- The arithmetic of a grade in doubles, operation by operation. -/
def Doubles.arith (d : Doubles) : GradeArith ℚ where
  zero := 0
  ratio a b := d.fl (a / b)
  capped length := min (d.fl (length / 80)) 1
  mean values := d.fl (d.sum values / d.fl values.length)
  total recallScore precision severityAccuracy reasoningQuality points :=
    roundHalfEven (d.fl (d.fl (d.fl (d.fl (d.fl (recallScore * 50) + d.fl (precision * 20))
      + d.fl (severityAccuracy * 15)) + d.fl (reasoningQuality * 10)) + points))

theorem Doubles.fl_mem (d : Doubles) {x : ℚ} {n : ℕ} (hn : n ≤ 2 ^ 53) (h0 : 0 ≤ x) (h1 : x ≤ n) :
    0 ≤ d.fl x ∧ d.fl x ≤ n := by
  have hzero : d.fl 0 = 0 := by simpa using d.whole 0 (by omega)
  constructor
  · simpa only [hzero] using d.mono h0
  · simpa only [d.whole n hn] using d.mono h1

theorem Doubles.ratio_mem (d : Doubles) {a b : ℕ} (hab : a ≤ b) :
    0 ≤ d.arith.ratio a b ∧ d.arith.ratio a b ≤ 1 := by
  have h0 : (0 : ℚ) ≤ a / b := by positivity
  have h1 : (a : ℚ) / b ≤ (1 : ℕ) := by
    rw [Nat.cast_one]
    exact div_le_one_of_le₀ (by exact_mod_cast hab) (by positivity)
  simpa [Doubles.arith] using d.fl_mem (n := 1) (by omega) h0 h1

theorem Doubles.capped_mem (d : Doubles) (n : ℕ) :
    0 ≤ d.arith.capped n ∧ d.arith.capped n ≤ 1 := by
  have hzero : d.fl 0 = 0 := by simpa using d.whole 0 (by omega)
  have h0 : 0 ≤ d.fl ((n : ℚ) / 80) := by
    simpa only [hzero] using d.mono (show (0 : ℚ) ≤ n / 80 by positivity)
  exact ⟨le_min h0 zero_le_one, min_le_right _ _⟩

theorem Doubles.mean_mem (d : Doubles) {values : List ℚ} (h : ∀ v ∈ values, 0 ≤ v ∧ v ≤ 1) :
    0 ≤ d.arith.mean values ∧ d.arith.mean values ≤ 1 := by
  obtain ⟨h0, h1⟩ := d.sum_unit values h
  have hmean : 0 ≤ d.sum values / d.fl values.length
      ∧ d.sum values / d.fl values.length ≤ (1 : ℕ) := by
    have hlength : 0 ≤ d.fl values.length := h0.trans h1
    refine ⟨div_nonneg h0 hlength, ?_⟩
    rw [Nat.cast_one]
    exact div_le_one_of_le₀ h1 hlength
  simpa [Doubles.arith] using d.fl_mem (n := 1) (by omega) hmean.1 hmean.2

theorem roundHalfEven_natCast (n : ℕ) : roundHalfEven n = n := by
  unfold roundHalfEven
  rw [if_pos (by simp)]
  simp

theorem roundHalfEven_mem {x : ℚ} {n : ℕ} (h0 : 0 ≤ x) (h1 : x ≤ n) :
    0 ≤ roundHalfEven x ∧ roundHalfEven x ≤ n := by
  constructor
  · simpa using (roundHalfEven_natCast 0).symm.le.trans (roundHalfEven_mono (by simpa using h0))
  · exact (roundHalfEven_mono h1).trans (roundHalfEven_natCast n).le

/-- Four parts between 0 and 1 and at most five points make a score of at most 100. -/
theorem Doubles.total_mem (d : Doubles) {r p s q : ℚ} {points : ℕ} (hr : 0 ≤ r ∧ r ≤ 1)
    (hp : 0 ≤ p ∧ p ≤ 1) (hs : 0 ≤ s ∧ s ≤ 1) (hq : 0 ≤ q ∧ q ≤ 1) (hpoints : points ≤ 5) :
    0 ≤ d.arith.total r p s q points ∧ d.arith.total r p s q points ≤ 100 := by
  have part : ∀ {x : ℚ} {w : ℕ}, w ≤ 100 → 0 ≤ x ∧ x ≤ 1 →
      0 ≤ d.fl (x * w) ∧ d.fl (x * w) ≤ w := by
    intro x w hw hx
    have hw0 : (0 : ℚ) ≤ w := by positivity
    exact d.fl_mem (by omega) (mul_nonneg hx.1 hw0) (mul_le_of_le_one_left hw0 hx.2)
  have add : ∀ {x y : ℚ} {a b : ℕ}, a + b ≤ 100 → 0 ≤ x ∧ x ≤ a → 0 ≤ y ∧ y ≤ b →
      0 ≤ d.fl (x + y) ∧ d.fl (x + y) ≤ (a + b : ℕ) := by
    intro x y a b hab hx hy
    refine d.fl_mem (by omega) (add_nonneg hx.1 hy.1) ?_
    push_cast
    exact add_le_add hx.2 hy.2
  have hfirst := add (by omega) (part (w := 50) (by omega) hr) (part (w := 20) (by omega) hp)
  have hsecond := add (by omega) hfirst (part (w := 15) (by omega) hs)
  have hthird := add (by omega) hsecond (part (w := 10) (by omega) hq)
  have hpoints' : (0 : ℚ) ≤ points ∧ (points : ℚ) ≤ (5 : ℕ) :=
    ⟨by positivity, by exact_mod_cast hpoints⟩
  have hlast := add (by omega) hthird hpoints'
  exact roundHalfEven_mem (n := 100) hlast.1 hlast.2

/-! ## Matching -/

/-- The finding lies within one line of the comment. -/
def reaches (finding : GradedFinding) (comment : ReviewCommentInput) : Bool :=
  finding.file = comment.file ∧ (finding.line - comment.line).natAbs ≤ 1

theorem matchingFinding_some {c : ReviewCommentInput} {available : List GradedFinding}
    {f : GradedFinding} (h : matchingFinding c available = some f) :
    f ∈ available ∧ reaches f c = true :=
  List.mem_filter.mp (List.argmin_mem h)

theorem matchingFinding_erase {c : ReviewCommentInput} {f : GradedFinding}
    (hf : reaches f c = false) (available : List GradedFinding) :
    matchingFinding c (available.erase f) = matchingFinding c available := by
  have hfilter : (available.erase f).filter (reaches · c) = available.filter (reaches · c) := by
    induction available with
    | nil => rfl
    | cons g available ih =>
        by_cases hg : g = f
        · subst hg
          simp [hf]
        · rw [List.erase_cons_tail (by simpa using hg), List.filter_cons, List.filter_cons, ih]
  exact congrArg (List.argmin fun finding => (finding.line - c.line).natAbs) hfilter

theorem add_none {m : Matching} {c : ReviewCommentInput}
    (h : matchingFinding c m.unmatched = none) :
    m.add c = { m with falsePositiveCount := m.falsePositiveCount + 1 } := by
  simp only [Matching.add, h]

theorem add_some {m : Matching} {c : ReviewCommentInput} {f : GradedFinding}
    (h : matchingFinding c m.unmatched = some f) :
    m.add c = { m with unmatched := m.unmatched.erase f, found := m.found ++ [(c, f)] } := by
  simp only [Matching.add, h]

/-- What the loop keeps after `n` comments. -/
structure Matching.Sound (findings : List GradedFinding) (n : ℕ) (m : Matching) : Prop where
  partition : (m.found.map Prod.snd ++ m.unmatched).Perm findings
  counted : m.found.length + m.falsePositiveCount = n

theorem Matching.Sound.add {findings : List GradedFinding} {n : ℕ} {m : Matching}
    (h : m.Sound findings n) (c : ReviewCommentInput) : (m.add c).Sound findings (n + 1) := by
  cases hmatch : matchingFinding c m.unmatched with
  | none =>
      rw [add_none hmatch]
      refine ⟨h.partition, ?_⟩
      have := h.counted
      simp only
      omega
  | some f =>
      rw [add_some hmatch]
      obtain ⟨hmem, -⟩ := matchingFinding_some hmatch
      constructor
      · have herase : (f :: m.unmatched.erase f).Perm m.unmatched :=
          (List.perm_cons_erase hmem).symm
        simpa using (herase.append_left (m.found.map Prod.snd)).trans h.partition
      · have := h.counted
        simp only [List.length_append, List.length_singleton]
        omega

theorem Matching.Sound.run {findings : List GradedFinding} :
    ∀ (comments : List ReviewCommentInput) {n : ℕ} {m : Matching}, m.Sound findings n →
      (comments.foldl Matching.add m).Sound findings (n + comments.length)
  | [], _, _, h => h
  | c :: comments, n, m, h => by
      have := (h.add c).run comments
      rwa [Nat.add_assoc, Nat.add_comm 1] at this

theorem sound_matching (findings : List GradedFinding) (comments : List ReviewCommentInput) :
    (comments.foldl Matching.add ⟨findings, [], 0⟩).Sound findings comments.length := by
  have hstart : Matching.Sound findings 0 ⟨findings, [], 0⟩ := ⟨.refl _, rfl⟩
  simpa using hstart.run comments

/-! ## The order of the comments -/

/-- The same findings left, the same pairs found and the same count. -/
structure Matching.Alike (m m' : Matching) : Prop where
  unmatched : m.unmatched = m'.unmatched
  found : m.found.Perm m'.found
  falsePositiveCount : m.falsePositiveCount = m'.falsePositiveCount

theorem Matching.alike_equivalence : Equivalence Matching.Alike where
  refl _ := ⟨rfl, .refl _, rfl⟩
  symm h := ⟨h.unmatched.symm, h.found.symm, h.falsePositiveCount.symm⟩
  trans h h' := ⟨h.unmatched.trans h'.unmatched, h.found.trans h'.found,
    h.falsePositiveCount.trans h'.falsePositiveCount⟩

theorem Matching.Alike.add {m m' : Matching} (h : m.Alike m') (c : ReviewCommentInput) :
    (m.add c).Alike (m'.add c) := by
  cases hmatch : matchingFinding c m.unmatched with
  | none =>
      rw [add_none hmatch, add_none (h.unmatched ▸ hmatch)]
      exact ⟨h.unmatched, h.found, by simp [h.falsePositiveCount]⟩
  | some f =>
      rw [add_some hmatch, add_some (h.unmatched ▸ hmatch)]
      exact ⟨by simp [h.unmatched], h.found.append_right _, h.falsePositiveCount⟩

/-- Comments that no finding of the challenge reaches both of may change places. -/
theorem Matching.add_comm {findings : List GradedFinding} {m : Matching} {a b : ReviewCommentInput}
    (hm : m.unmatched ⊆ findings)
    (hab : ∀ f ∈ findings, reaches f a = true → reaches f b = false) :
    ((m.add a).add b).Alike ((m.add b).add a) := by
  have hba : ∀ f ∈ findings, reaches f b = true → reaches f a = false := by
    intro f hf hfb
    by_contra hfa
    simp [hab f hf (by simpa using hfa)] at hfb
  cases ha : matchingFinding a m.unmatched with
  | none =>
      cases hb : matchingFinding b m.unmatched with
      | none =>
          simp only [Matching.add, ha, hb]
          exact alike_equivalence.refl _
      | some g =>
          obtain ⟨hmem, hg⟩ := matchingFinding_some hb
          have ha' := (matchingFinding_erase (hba g (hm hmem) hg) m.unmatched).trans ha
          simp only [Matching.add, ha, hb, ha']
          exact alike_equivalence.refl _
  | some f =>
      obtain ⟨hmem, hf⟩ := matchingFinding_some ha
      have hfb := hab f (hm hmem) hf
      cases hb : matchingFinding b m.unmatched with
      | none =>
          have hb' := (matchingFinding_erase hfb m.unmatched).trans hb
          simp only [Matching.add, ha, hb, hb']
          exact alike_equivalence.refl _
      | some g =>
          obtain ⟨hmem', hg⟩ := matchingFinding_some hb
          have ha' := (matchingFinding_erase (hba g (hm hmem') hg) m.unmatched).trans ha
          have hb' := (matchingFinding_erase hfb m.unmatched).trans hb
          simp only [Matching.add, ha, hb, ha', hb']
          refine ⟨List.erase_comm .., ?_, rfl⟩
          simpa using (List.Perm.swap (b, g) (a, f) []).append_left m.found

theorem matching_commuting (findings : List GradedFinding) :
    Independence.Commuting Matching.add (fun (f : {f // f ∈ findings}) c => reaches f.1 c)
      Matching.Alike (fun m => m.unmatched ⊆ findings) where
  equivalence := Matching.alike_equivalence
  invariant m c hm := by
    cases hmatch : matchingFinding c m.unmatched with
    | none => rwa [add_none hmatch]
    | some f =>
        rw [add_some hmatch]
        exact fun g hg => hm (List.mem_of_mem_erase hg)
  congruent _ _ c h := h.add c
  apart m a b hm hab := Matching.add_comm hm fun f hf => hab ⟨f, hf⟩

/-- The comment without its message. -/
def unworded (c : ReviewCommentInput) : ReviewCommentInput := { c with message := [] }

/-- Each finding is reached by comments of the same lines and severities, in the
same order. -/
def ReachedAlike (findings : List GradedFinding) (comments comments' : List ReviewCommentInput) :
    Prop :=
  ∀ f ∈ findings, (comments.filter (reaches f)).map unworded
    = (comments'.filter (reaches f)).map unworded

def Matching.unworded (m : Matching) : Matching :=
  { m with found := m.found.map (Prod.map Rigor.unworded id) }

theorem Matching.unworded_add (m : Matching) (c : ReviewCommentInput) :
    (m.add c).unworded = m.unworded.add (Rigor.unworded c) := by
  have hsame : matchingFinding (Rigor.unworded c) m.unworded.unmatched
      = matchingFinding c m.unmatched := rfl
  cases hmatch : matchingFinding c m.unmatched with
  | none =>
      rw [add_none hmatch, add_none (hsame.trans hmatch)]
      rfl
  | some f =>
      rw [add_some hmatch, add_some (hsame.trans hmatch)]
      simp [Matching.unworded]

theorem Matching.unworded_run : ∀ (comments : List ReviewCommentInput) (m : Matching),
    (comments.foldl Matching.add m).unworded
      = (comments.map Rigor.unworded).foldl Matching.add m.unworded
  | [], _ => rfl
  | c :: comments, m => by
      rw [List.foldl_cons, List.map_cons, List.foldl_cons, Matching.unworded_run comments (m.add c),
        Matching.unworded_add]

theorem matching_alike {findings : List GradedFinding}
    {comments comments' : List ReviewCommentInput} (hperm : comments.Perm comments')
    (hreached : ReachedAlike findings comments comments') :
    (comments.foldl Matching.add ⟨findings, [], 0⟩).unworded.Alike
      (comments'.foldl Matching.add ⟨findings, [], 0⟩).unworded := by
  rw [Matching.unworded_run, Matching.unworded_run]
  refine (matching_commuting findings).foldl_of_heard (List.Subset.refl findings)
    (hperm.map unworded) ?_
  intro f
  rw [List.filter_map, List.filter_map]
  exact hreached f.1 f.2

/-! ## Fairness -/

/-- The findings are caught or missed, the comments catch one or are false
positives, and the score is within its bounds. -/
structure FairGrade (spec : ChallengeSpec) (comments : List ReviewCommentInput)
    (g : ReviewGrade ℚ) : Prop where
  partition : (g.caught ++ g.missed).Perm spec.findings
  counted : g.caught.length + g.falsePositiveCount = comments.length
  score_mem : 0 ≤ g.score ∧ g.score ≤ 100

/-- The same outcome; the score may differ where the sum of the qualities of the
messages depends on their order. -/
structure GradesAlike (g g' : ReviewGrade ℚ) : Prop where
  caught : g.caught.Perm g'.caught
  missed : g.missed = g'.missed
  falsePositiveCount : g.falsePositiveCount = g'.falsePositiveCount
  recallScore : g.recallScore = g'.recallScore
  precision : g.precision = g'.precision
  severityAccuracy : g.severityAccuracy = g'.severityAccuracy
  score : g.reasoningQuality = g'.reasoningQuality → g.score = g'.score

theorem gradeChallenge_fair (d : Doubles) {spec : ChallengeSpec}
    (comments : List ReviewCommentInput) (verdict : ReviewVerdict) :
    FairGrade spec comments (gradeChallenge d.arith spec comments verdict) := by
  have hsound := sound_matching spec.findings comments
  set m := comments.foldl Matching.add ⟨spec.findings, [], 0⟩ with hm
  have hcounted := hsound.counted
  have hfindings : m.found.length ≤ spec.findings.length := by
    have := hsound.partition.length_eq
    simp only [List.length_append, List.length_map] at this
    omega
  have hzero : (0 : ℚ) ≤ d.arith.zero ∧ d.arith.zero ≤ 1 := by simp [Doubles.arith]
  refine ⟨hsound.partition, by simpa [gradeChallenge, ← hm] using hcounted, ?_⟩
  refine d.total_mem (d.ratio_mem (by simpa [← hm] using hfindings)) ?_ ?_ ?_ ?_
  · split_ifs
    · exact hzero
    · refine d.ratio_mem ?_
      rw [← hm, List.length_map]
      omega
  · split_ifs
    · exact hzero
    · exact d.ratio_mem List.countP_le_length
  · split_ifs
    · exact hzero
    · refine d.mean_mem fun v hv => ?_
      obtain ⟨c, -, rfl⟩ := List.mem_map.mp hv
      exact d.capped_mem _
  · split_ifs <;> omega

theorem gradeChallenge_same (d : Doubles) {spec : ChallengeSpec}
    {comments comments' : List ReviewCommentInput} (hperm : comments.Perm comments')
    (hreached : ReachedAlike spec.findings comments comments') (verdict : ReviewVerdict) :
    GradesAlike (gradeChallenge d.arith spec comments verdict)
      (gradeChallenge d.arith spec comments' verdict) := by
  have halike := matching_alike hperm hreached
  set m := comments.foldl Matching.add ⟨spec.findings, [], 0⟩ with hm
  set m' := comments'.foldl Matching.add ⟨spec.findings, [], 0⟩ with hm'
  have hcaught : (m.found.map Prod.snd).Perm (m'.found.map Prod.snd) := by
    simpa [Matching.unworded, Function.comp_def] using halike.found.map Prod.snd
  have hlength : m.found.length = m'.found.length := by simpa using hcaught.length_eq
  have hempty : comments = [] ↔ comments' = [] := by
    constructor <;> rintro rfl
    · exact hperm.nil_eq.symm
    · exact hperm.eq_nil
  have hnone : m.found = [] ↔ m'.found = [] := by
    rw [← List.length_eq_zero_iff, hlength, List.length_eq_zero_iff]
  have hseverity : (m.found.countP fun x => severityRank x.1.severity = severityRank x.2.severity)
      = m'.found.countP fun x => severityRank x.1.severity = severityRank x.2.severity := by
    have := halike.found.countP_eq fun x => severityRank x.1.severity = severityRank x.2.severity
    simp only [Matching.unworded, List.countP_map, Function.comp_def] at this
    exact this
  have hrecall : (gradeChallenge d.arith spec comments verdict).recallScore
      = (gradeChallenge d.arith spec comments' verdict).recallScore := by
    simp [gradeChallenge, ← hm, ← hm', hlength]
  have hprecision : (gradeChallenge d.arith spec comments verdict).precision
      = (gradeChallenge d.arith spec comments' verdict).precision := by
    simp [gradeChallenge, ← hm, ← hm', hlength, hempty, hperm.length_eq]
  have haccuracy : (gradeChallenge d.arith spec comments verdict).severityAccuracy
      = (gradeChallenge d.arith spec comments' verdict).severityAccuracy := by
    simp [gradeChallenge, ← hm, ← hm', hlength, hnone, hseverity]
  refine ⟨hcaught, halike.unmatched, halike.falsePositiveCount, hrecall, hprecision, haccuracy, ?_⟩
  intro hquality
  have hscore : ∀ cs : List ReviewCommentInput, (gradeChallenge d.arith spec cs verdict).score
      = d.arith.total (gradeChallenge d.arith spec cs verdict).recallScore
        (gradeChallenge d.arith spec cs verdict).precision
        (gradeChallenge d.arith spec cs verdict).severityAccuracy
        (gradeChallenge d.arith spec cs verdict).reasoningQuality
        (if decide (verdict = .requestChanges) then 5 else 0) := fun _ => rfl
  rw [hscore, hscore, hrecall, hprecision, haccuracy, hquality]

/-- Arithmetic without rounding. -/
def exactDoubles : Doubles where
  fl x := x
  mono _ _ h := h
  whole _ _ := rfl
  sum values := values.sum
  sum_unit values h := by
    constructor
    · exact List.sum_nonneg fun v hv => (h v hv).1
    · simpa using List.sum_le_card_nsmul values 1 fun v hv => (h v hv).2

def keyFinding : GradedFinding := ⟨"key", "capture.ts", 10, .blocker, "Key", "A new key."⟩

def stateFinding : GradedFinding := ⟨"state", "capture.ts", 12, .major, "State", "Paid early."⟩

/-- Two findings with one line between them. -/
def narrowChallenge : ChallengeSpec := ⟨"narrow", [], [keyFinding, stateFinding]⟩

def between : ReviewCommentInput := ⟨"capture.ts", 11, .major, "Between the two."⟩

def above : ReviewCommentInput := ⟨"capture.ts", 9, .blocker, "Above both."⟩

end Rigor
