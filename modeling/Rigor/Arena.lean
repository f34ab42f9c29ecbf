import Rigor.ExecutionClaims
import Rigor.PyCompare
import Rigor.SerialTransactions
import Rigor.Tables
import Mathlib.Algebra.BigOperators.Ring.Finset
import Mathlib.Algebra.Order.Ring.Int
import Mathlib.Data.Finset.Card
import Mathlib.Data.List.MinMax

/-!
# The rating of the arena

`ai_arena_domain.py` and `finalize_arena_submission`. A delta is what the
contribution of the best score grows by, so the deltas of a question version
telescope, and the rating is a function of the best scores
(`arena_rating_follows_bests`).
-/

namespace Rigor

open Py Transactions Runs

variable {F : Type}

/-! ## Scores -/

def clamp (value minimum maximum : Int) : Int := max minimum (min maximum value)

def promptEfficiencyScore (prompt : Str) : Int :=
  let length := (strip prompt).length
  if length = 0 then 0
  else if length ≤ 900 then 5
  else if length ≤ 1600 then 4
  else if length ≤ 2400 then 2
  else 1

/-- The comparisons of `runtime_ms / budget`, multiplied out. -/
def performanceScore (runtimeMs : Option Int) (budgetMs : Int) : Int :=
  match runtimeMs with
  | none => 0
  | some runtime =>
      let budget := max 1 budgetMs
      if runtime < 0 then 0
      else if 4 * runtime ≤ budget then 15
      else if 2 * runtime ≤ budget then 13
      else if runtime ≤ budget then 10
      else if 2 * runtime ≤ 3 * budget then 5
      else 0

structure ArenaScore where
  correctness : Int
  performance : Int
  quality : Int
  efficiency : Int
  total : Int

/-- The float arithmetic of a score. -/
structure ArenaArith (F : Type) where
  /-- `round((passed / total) * 70)` -/
  correctness : Int → Int → Int
  /-- `round(max(0.0, min(1.0, score)) * 10)` -/
  quality : F → Int

def scoreArenaSubmission (arith : ArenaArith F)
    (publicPassed publicTotal hiddenPassed hiddenTotal : Int) (runtimeMs : Option Int)
    (codeQualityScore : F) (prompt : Str) : ArenaScore :=
  let totalTests := max 0 publicTotal + max 0 hiddenTotal
  let passedTests := max 0 publicPassed + max 0 hiddenPassed
  let correctness := if totalTests = 0 then 0 else arith.correctness passedTests totalTests
  let performance := performanceScore runtimeMs 2000
  let quality := clamp (arith.quality codeQualityScore) 0 10
  let efficiency := promptEfficiencyScore prompt
  ⟨correctness, performance, quality, efficiency,
    clamp (correctness + performance + quality + efficiency) 0 100⟩

inductive ArenaDifficulty where
  | easy | medium | hard
  deriving DecidableEq

/-- `_DIFFICULTY_GAIN`. -/
def difficultyGain : ArenaDifficulty → Int
  | .easy => 18
  | .medium => 28
  | .hard => 42

/-- `round(n / 50)`, half to even. No gain times a score is half way, so the
floats of the source round to the same. -/
def roundFiftieth (n : Int) : Int :=
  if 2 * (n % 50) < 50 then n / 50
  else if 50 < 2 * (n % 50) then n / 50 + 1
  else if n / 50 % 2 = 0 then n / 50
  else n / 50 + 1

def ratingContribution (difficulty : ArenaDifficulty) (score : Int) : Int :=
  if score < 50 then 0
  else roundFiftieth ((clamp score 50 100 - 50) * difficultyGain difficulty)

def ratingDelta (difficulty : ArenaDifficulty) (score : Int) (previousBestScore : Option Int)
    (firstSolve : Bool) : Int :=
  let current := ratingContribution difficulty score
  let previous :=
    match previousBestScore with
    | none => 0
    | some best => ratingContribution difficulty best
  let improvement := max 0 (current - previous)
  let firstSolveBonus := if firstSolve ∧ 70 ≤ score then 5 else 0
  improvement + firstSolveBonus

def tierForRating (rating : Int) : Str :=
  if 1700 ≤ rating then "Diamond"
  else if 1450 ≤ rating then "Platinum"
  else if 1250 ≤ rating then "Gold"
  else if 1100 ≤ rating then "Silver"
  else "Bronze"

/-! ## Tables -/

/-- A row of `ai_arena_generations`. -/
structure ArenaGeneration where
  id : Uuid
  questionVersionId : Uuid
  prompt : Str
  generatedCode : Str

/-- A row of `ai_arena_results`. -/
structure ArenaResult where
  id : Uuid
  generationId : Uuid
  submissionId : Uuid
  score : ArenaScore
  ratingDelta : Int
  ratingAfter : Int

/-- A row of `ai_arena_profiles`. -/
structure ArenaProfile where
  rating : Int
  tier : Str
  solvedCount : Int
  submissionCount : Int

/-- The rows of one user. -/
structure ArenaTables where
  generations : List ArenaGeneration
  results : List ArenaResult
  profile : Option ArenaProfile

/-- The columns of a question version and the slug of its question. -/
structure ArenaVersion (F : Type) where
  slug : Str
  difficulty : Option Str
  structuredContent : Json F

/-- A submission with its result and its evaluation. -/
structure CompletedSubmission (F : Type) where
  questionVersionId : Uuid
  submittedSource : Str
  publicResults : Json F
  hiddenTotal : Int
  hiddenPassed : Int
  runtimeMs : Option Int
  codeQualityScore : F

/-- The question versions, which a generation pins; `str.casefold`; and the
arithmetic of the scores. -/
structure ArenaEnvironment (F : Type) where
  version : Uuid → ArenaVersion F
  casefold : Str → Str
  arith : ArenaArith F

def difficultyAlias (text : Str) : Option ArenaDifficulty :=
  if text ∈ [Str.ofString "foundational", "beginner", "easy"] then some .easy
  else if text ∈ [Str.ofString "intermediate", "medium"] then some .medium
  else if text ∈ [Str.ofString "advanced", "hard", "staff", "principal"] then some .hard
  else none

/-- `content.get(name)`, where the value is a dictionary. -/
def arenaSection (name : Str) (content : Dict F) : Dict F :=
  match Json.lookup name content with
  | some (.obj members) => members
  | _ => []

/-- `_difficulty`. -/
def ArenaEnvironment.difficulty (env : ArenaEnvironment F) (versionId : Uuid) : ArenaDifficulty :=
  let v := env.version versionId
  let content : Dict F :=
    match v.structuredContent with
    | .obj members => members
    | _ => []
  let candidates : List (Option (Json F)) :=
    [v.difficulty.map .str, Json.lookup "difficulty" content,
      Json.lookup "difficulty" (arenaSection "metadata" content),
      Json.lookup "difficulty" (arenaSection "classification" content)]
  (candidates.findSome? fun value =>
    match value with
    | some (.str text) => difficultyAlias (env.casefold text)
    | _ => none).getD .medium

namespace ArenaTables

def generation (generationId : Uuid) (db : ArenaTables) : Option ArenaGeneration :=
  Tables.find ArenaGeneration.id generationId db.generations

/-- The results with the version that their generation pins, joined. -/
def scored (db : ArenaTables) : List (Uuid × Int) :=
  db.results.filterMap fun r =>
    (db.generation r.generationId).map fun g => (g.questionVersionId, r.score.total)

end ArenaTables

/-- `max(total_score)` of a version. -/
def bestOf (versionId : Uuid) (scored : List (Uuid × Int)) : Option Int :=
  ((scored.filter fun x => x.1 = versionId).map Prod.snd).max?

/-! ## The transaction -/

structure ArenaResultView where
  id : Uuid
  generationId : Uuid
  submissionId : Uuid
  challengeSlug : Str
  score : ArenaScore
  ratingDelta : Int
  ratingAfter : Int
  tier : Str

/-- `_stored_result`: a generation or a submission has at most one. -/
def storedResult (env : ArenaEnvironment F) (selects : ArenaResult → Bool) (db : ArenaTables) :
    Option ArenaResultView := do
  let r ← db.results.find? selects
  let g ← db.generation r.generationId
  pure ⟨r.id, r.generationId, r.submissionId, (env.version g.questionVersionId).slug, r.score,
    r.ratingDelta, r.ratingAfter, tierForRating r.ratingAfter⟩

def newArenaProfile : ArenaProfile := ⟨1000, "Bronze", 0, 0⟩

/-- `_profile`. -/
def ArenaTables.profileView (db : ArenaTables) : ArenaProfile := db.profile.getD newArenaProfile

/-- `_ensure_profile`. -/
def ensureProfile (db : ArenaTables) : ArenaTables := { db with profile := some db.profileView }

def publicDicts (publicResults : Json F) : List (Dict F) :=
  match publicResults with
  | .arr items => items.filterMap fun item =>
      match item with
      | .obj members => some members
      | _ => none
  | _ => []

/-- The score of a generation that was submitted. -/
def arenaScore [Runtime F] (env : ArenaEnvironment F) (g : ArenaGeneration)
    (submission : CompletedSubmission F) : ArenaScore :=
  let dicts := publicDicts submission.publicResults
  scoreArenaSubmission env.arith
    (dicts.countP fun item => ((Json.lookup "passed" item).getD .null).truthy) dicts.length
    submission.hiddenPassed submission.hiddenTotal submission.runtimeMs submission.codeQualityScore
    g.prompt

/-- The insert of a result; a generation and a submission are unique. -/
def insertResult (r : ArenaResult) (db : ArenaTables) :
    Except Failure ((ArenaTables → ArenaTables) × Unit) :=
  if db.results.any fun r' => r'.generationId = r.generationId then
    .error (.integrity "ai_arena_results_generation_id_key")
  else if db.results.any fun r' => r'.submissionId = r.submissionId then
    .error (.integrity "ai_arena_results_submission_id_key")
  else .ok (fun db => { db with results := db.results ++ [r] }, ())

/-- What the generation and the submission select, joined. -/
def arenaPair (generationId : Uuid) (submission : Option (CompletedSubmission F))
    (db : ArenaTables) : Option (ArenaGeneration × CompletedSubmission F) := do
  let g ← db.generation generationId
  let completed ← submission
  if completed.questionVersionId = g.questionVersionId then some (g, completed) else none

/-- `finalize_arena_submission`, behind the advisory locks of the generation and
the submission; `submission` is what the tables of the
submission hold. -/
def finalizeArenaSubmissionTx [Runtime F] (env : ArenaEnvironment F)
    (generationId submissionId : Uuid) (submission : Option (CompletedSubmission F))
    (resultId : Uuid) : Tx ArenaTables Failure ArenaResultView := do
  match ← Tx.read fun db =>
    .ok (storedResult env (fun r => r.generationId = generationId) db) with
  | some stored =>
      if stored.submissionId ≠ submissionId then
        .rollback (.http 409 "Arena generation has already been finalized with another submission.")
      else pure stored
  | none =>
  match ← Tx.read fun db =>
    .ok (storedResult env (fun r => r.submissionId = submissionId) db) with
  | some stored =>
      if stored.generationId ≠ generationId then
        .rollback
          (.http 409 "Submission has already been finalized for another Arena generation.")
      else pure stored
  | none =>
  match ← Tx.read fun db => .ok (arenaPair generationId submission db) with
  | none => .rollback (.http 404 "Completed Arena generation/submission pair not found.")
  | some (g, completed) =>
  if g.generatedCode ≠ completed.submittedSource then
    .rollback (.http 409 "Arena-generated code must be submitted without modification.")
  else
    let score := arenaScore env g completed
    let previousBest ← Tx.read fun db => .ok (bestOf g.questionVersionId db.scored)
    let firstSolve : Bool := 70 ≤ score.total ∧ previousBest.all fun best => best < 70
    let delta := ratingDelta (env.difficulty g.questionVersionId) score.total previousBest firstSolve
    Tx.write ensureProfile
    let profile ← Tx.read fun db => .ok db.profileView
    let ratingAfter := profile.rating + delta
    Tx.write fun db =>
      { db with
        profile := db.profile.map fun p =>
          { rating := ratingAfter
            tier := tierForRating ratingAfter
            solvedCount := p.solvedCount + (if firstSolve then 1 else 0)
            submissionCount := p.submissionCount + 1 } }
    Tx.execute (insertResult ⟨resultId, generationId, submissionId, score, delta, ratingAfter⟩)
    pure ⟨resultId, generationId, submissionId, (env.version g.questionVersionId).slug, score,
      delta, ratingAfter, tierForRating ratingAfter⟩

structure ArenaRequest (F : Type) where
  user : Uuid
  generationId : Uuid
  submissionId : Uuid
  submission : Option (CompletedSubmission F)
  resultId : Uuid

def arenaProgram [Runtime F] (env : ArenaEnvironment F) (r : ArenaRequest F) :
    Tx ArenaTables Failure ArenaResultView :=
  finalizeArenaSubmissionTx env r.generationId r.submissionId r.submission r.resultId

/-! ## Deltas telescope -/

theorem roundFiftieth_mono {m n : Int} (h : m ≤ n) : roundFiftieth m ≤ roundFiftieth n := by
  unfold roundFiftieth
  split_ifs <;> omega

theorem ratingContribution_mono (difficulty : ArenaDifficulty) {score score' : Int}
    (h : score ≤ score') :
    ratingContribution difficulty score ≤ ratingContribution difficulty score' := by
  have hgain : 0 ≤ difficultyGain difficulty := by cases difficulty <;> decide
  have hclamp : clamp score 50 100 ≤ clamp score' 50 100 := by
    unfold clamp
    omega
  have hmono : roundFiftieth ((clamp score 50 100 - 50) * difficultyGain difficulty)
      ≤ roundFiftieth ((clamp score' 50 100 - 50) * difficultyGain difficulty) :=
    roundFiftieth_mono (Int.mul_le_mul_of_nonneg_right (by omega) hgain)
  unfold ratingContribution
  split_ifs with hlow hlow' hlow'
  · exact Int.le_refl 0
  · -- a score under 50 counts as 50 does
    have hfloor : clamp score 50 100 = 50 := by
      unfold clamp
      omega
    rw [hfloor, Int.sub_self, Int.zero_mul] at hmono
    exact hmono
  · omega
  · exact hmono

/-- What a version adds to the rating by its best score. -/
def bestRating (difficulty : ArenaDifficulty) : Option Int → Int
  | none => 0
  | some best => ratingContribution difficulty best + if 70 ≤ best then 5 else 0

/-- Whether a version is solved by its best score. -/
def solvedBy : Option Int → Bool
  | none => false
  | some best => 70 ≤ best

/-- The best score after one more. -/
def betterOf (previous : Option Int) (score : Int) : Option Int :=
  some ((previous.map fun best => max best score).getD score)

/-- The delta is what the standing of the version grows by. -/
theorem bestRating_betterOf (difficulty : ArenaDifficulty) (previous : Option Int) (score : Int) :
    bestRating difficulty (betterOf previous score)
      = bestRating difficulty previous
        + ratingDelta difficulty score previous
          (70 ≤ score ∧ previous.all fun best => best < 70) := by
  cases previous with
  | none =>
      have hpos : ratingContribution difficulty 0 ≤ ratingContribution difficulty score ∨ score < 0 :=
        (le_or_gt 0 score).imp_left fun h => ratingContribution_mono difficulty h
      have hzero : ratingContribution difficulty 0 = 0 := rfl
      have hnegative : score < 0 → ratingContribution difficulty score = 0 := fun h => by
        unfold ratingContribution
        rw [if_pos (by omega)]
      simp only [bestRating, betterOf, ratingDelta, Option.map_none, Option.getD_none,
        Option.all_none, and_true, decide_eq_true_eq, and_self]
      omega
  | some best =>
      simp only [bestRating, betterOf, ratingDelta, Option.map_some, Option.getD_some,
        Option.all_some, decide_eq_true_eq]
      rcases Int.le_total best score with hle | hle
      · have hmono := ratingContribution_mono difficulty hle
        rw [max_eq_right hle]
        split_ifs <;> omega
      · have hmono := ratingContribution_mono difficulty hle
        rw [max_eq_left hle]
        split_ifs <;> omega

theorem solvedBy_betterOf (previous : Option Int) (score : Int) :
    (if solvedBy (betterOf previous score) then (1 : Int) else 0)
      = (if solvedBy previous then 1 else 0)
        + if 70 ≤ score ∧ (previous.all fun best => best < 70) = true then 1 else 0 := by
  cases previous with
  | none => simp [solvedBy, betterOf]
  | some best =>
      simp only [solvedBy, betterOf, Option.map_some, Option.getD_some, Option.all_some,
        decide_eq_true_eq]
      split_ifs <;> omega

/-! ## Sums over versions -/

theorem bestOf_snoc (versionId u : Uuid) (scored : List (Uuid × Int)) (score : Int) :
    bestOf versionId (scored ++ [(u, score)])
      = if u = versionId then betterOf (bestOf versionId scored) score
        else bestOf versionId scored := by
  unfold bestOf
  rw [List.filter_append]
  split_ifs with hu
  · rw [List.filter_cons_of_pos (by simpa using hu), List.filter_nil, List.map_append]
    cases (scored.filter fun x => x.1 = versionId).map Prod.snd with
    | nil => rfl
    | cons best rest =>
        change some (List.foldl max best (rest ++ [score])) = _
        rw [List.foldl_append]
        rfl
  · rw [List.filter_cons_of_neg (by simpa using hu), List.filter_nil, List.append_nil]

theorem bestOf_eq_none {versionId : Uuid} {scored : List (Uuid × Int)}
    (h : versionId ∉ scored.map Prod.fst) : bestOf versionId scored = none := by
  unfold bestOf
  rw [List.filter_eq_nil_iff.mpr]
  · rfl
  · intro x hx hversion
    exact h (of_decide_eq_true hversion ▸ List.mem_map_of_mem hx)

def scoredVersions (scored : List (Uuid × Int)) : Finset Uuid := (scored.map Prod.fst).toFinset

/-- A sum over the versions, by their best scores. -/
def sumOfBests (value : Uuid → Option Int → Int) (scored : List (Uuid × Int)) : Int :=
  ∑ v ∈ scoredVersions scored, value v (bestOf v scored)

/-- One more score changes one summand. -/
theorem sumOfBests_snoc (value : Uuid → Option Int → Int) (hnone : ∀ v, value v none = 0)
    (scored : List (Uuid × Int)) (u : Uuid) (score : Int) :
    sumOfBests value (scored ++ [(u, score)])
      = sumOfBests value scored
        + (value u (betterOf (bestOf u scored) score) - value u (bestOf u scored)) := by
  have hversions : scoredVersions (scored ++ [(u, score)]) = insert u (scoredVersions scored) := by
    ext v
    simp [scoredVersions]
  have hold : sumOfBests value scored
      = ∑ v ∈ insert u (scoredVersions scored), value v (bestOf v scored) := by
    refine (Finset.sum_insert_of_eq_zero_if_notMem fun hu => ?_).symm
    rw [bestOf_eq_none (fun h => hu (List.mem_toFinset.mpr h)), hnone]
  have hothers : ∑ v ∈ (insert u (scoredVersions scored)).erase u,
        value v (bestOf v (scored ++ [(u, score)]))
      = ∑ v ∈ (insert u (scoredVersions scored)).erase u, value v (bestOf v scored) :=
    Finset.sum_congr rfl fun v hv => by
      rw [bestOf_snoc, if_neg (Finset.ne_of_mem_erase hv).symm]
  rw [hold, sumOfBests, hversions,
    ← Finset.add_sum_erase _ _ (Finset.mem_insert_self u (scoredVersions scored)), hothers,
    ← Finset.add_sum_erase _ (fun v => value v (bestOf v scored))
      (Finset.mem_insert_self u (scoredVersions scored)), bestOf_snoc, if_pos rfl]
  omega

/-! ## What a request keeps -/

/-- The profile is a function of the results; `rating` is the one it began
with. -/
structure ArenaTables.Consistent (env : ArenaEnvironment F) (rating : Int) (db : ArenaTables) :
    Prop where
  rating : db.profileView.rating
    = rating + sumOfBests (fun v => bestRating (env.difficulty v)) db.scored
  solved : db.profileView.solvedCount
    = sumOfBests (fun _ best => if solvedBy best then 1 else 0) db.scored
  submissions : db.profileView.submissionCount = db.results.length
  generation_nodup : (db.results.map ArenaResult.generationId).Nodup
  submission_nodup : (db.results.map ArenaResult.submissionId).Nodup

/-- A request leaves the tables, or appends a result with its delta. -/
inductive Finalized (env : ArenaEnvironment F) (db : ArenaTables) : ArenaTables → Prop where
  | kept : Finalized env db db
  | appended (g : ArenaGeneration) (r : ArenaResult) (firstSolve : Bool) (tier : Str)
      (hgeneration : db.generation r.generationId = some g)
      (hfresh : ∀ r' ∈ db.results, r'.generationId ≠ r.generationId)
      (hfresh' : ∀ r' ∈ db.results, r'.submissionId ≠ r.submissionId)
      (hfirst : firstSolve = decide (70 ≤ r.score.total
        ∧ (bestOf g.questionVersionId db.scored).all (fun best => best < 70) = true)) :
      Finalized env db
        { generations := db.generations
          results := db.results ++ [r]
          profile := some
            ⟨db.profileView.rating + ratingDelta (env.difficulty g.questionVersionId)
                r.score.total (bestOf g.questionVersionId db.scored) firstSolve,
              tier, db.profileView.solvedCount + (if firstSolve then 1 else 0),
              db.profileView.submissionCount + 1⟩ }

theorem scored_append {db : ArenaTables} {g : ArenaGeneration} {r : ArenaResult}
    (h : db.generation r.generationId = some g) (profile : Option ArenaProfile) :
    (⟨db.generations, db.results ++ [r], profile⟩ : ArenaTables).scored
      = db.scored ++ [(g.questionVersionId, r.score.total)] := by
  have hlast : [r].filterMap (fun r =>
      (db.generation r.generationId).map fun g => (g.questionVersionId, r.score.total))
      = [(g.questionVersionId, r.score.total)] := by
    rw [List.filterMap_cons, h]
    rfl
  exact List.filterMap_append.trans (congrArg (db.scored ++ ·) hlast)

theorem Finalized.consistent {env : ArenaEnvironment F} {rating : Int} {db db' : ArenaTables}
    (h : Finalized env db db') (hdb : db.Consistent env rating) : db'.Consistent env rating := by
  cases h with
  | kept => exact hdb
  | appended g r firstSolve tier hgeneration hfresh hfresh' hfirst =>
      refine ⟨?_, ?_, ?_, ?_, ?_⟩
      · rw [scored_append hgeneration,
          sumOfBests_snoc (fun v => bestRating (env.difficulty v)) (fun _ => rfl)]
        have htelescopes := bestRating_betterOf (env.difficulty g.questionVersionId)
          (bestOf g.questionVersionId db.scored) r.score.total
        rw [← hfirst] at htelescopes
        have hrating := hdb.rating
        change db.profileView.rating + _ = _
        omega
      · rw [scored_append hgeneration,
          sumOfBests_snoc (fun _ best => if solvedBy best then 1 else 0) (fun _ => rfl)]
        have hsolves := solvedBy_betterOf (bestOf g.questionVersionId db.scored) r.score.total
        have hsolved := hdb.solved
        change db.profileView.solvedCount + _ = _
        rw [hsolves, hfirst, hsolved]
        simp only [decide_eq_true_eq]
        omega
      · have hcount := hdb.submissions
        change db.profileView.submissionCount + 1 = ((db.results ++ [r]).length : Int)
        rw [List.length_append, List.length_singleton, hcount]
        omega
      · rw [List.map_append, List.nodup_append]
        refine ⟨hdb.generation_nodup, List.nodup_singleton _, fun id hid id' hid' => ?_⟩
        obtain ⟨r', hr', rfl⟩ := List.mem_map.mp hid
        rw [List.mem_singleton.mp hid']
        exact hfresh r' hr'
      · rw [List.map_append, List.nodup_append]
        refine ⟨hdb.submission_nodup, List.nodup_singleton _, fun id hid id' hid' => ?_⟩
        obtain ⟨r', hr', rfl⟩ := List.mem_map.mp hid
        rw [List.mem_singleton.mp hid']
        exact hfresh' r' hr'

theorem insertResult_ok {r : ArenaResult} {db : ArenaTables} {f : ArenaTables → ArenaTables}
    {u : Unit} (h : insertResult r db = .ok (f, u)) :
    (f = fun db => { db with results := db.results ++ [r] })
      ∧ (∀ r' ∈ db.results, r'.generationId ≠ r.generationId)
      ∧ ∀ r' ∈ db.results, r'.submissionId ≠ r.submissionId := by
  unfold insertResult at h
  split_ifs at h with hgeneration hsubmission
  cases h
  refine ⟨rfl, fun r' hr' heq => hgeneration ?_, fun r' hr' heq => hsubmission ?_⟩
  · exact List.any_eq_true.mpr ⟨r', hr', decide_eq_true heq⟩
  · exact List.any_eq_true.mpr ⟨r', hr', decide_eq_true heq⟩

theorem arenaPair_some {generationId : Uuid} {submission : Option (CompletedSubmission F)}
    {db : ArenaTables} {g : ArenaGeneration} {completed : CompletedSubmission F}
    (h : arenaPair generationId submission db = some (g, completed)) :
    db.generation generationId = some g := by
  unfold arenaPair at h
  cases hg : db.generation generationId with
  | none =>
      rw [hg] at h
      cases h
  | some g' =>
      rw [hg] at h
      cases submission with
      | none => cases h
      | some completed' =>
          dsimp only [Option.bind_eq_bind, Option.bind_some] at h
          split_ifs at h
          cases h
          rfl

theorem finalize_ok [Runtime F] {env : ArenaEnvironment F} {generationId submissionId resultId : Uuid}
    {submission : Option (CompletedSubmission F)} {db db' : ArenaTables} {view : ArenaResultView}
    (h : (finalizeArenaSubmissionTx env generationId submissionId submission resultId).runAlone db
      = .ok (db', view)) : Finalized env db db' := by
  obtain ⟨db₁, stored, hgeneration, hrest⟩ := Tx.bind_ok h
  obtain ⟨rfl, -⟩ := Tx.read_ok hgeneration
  cases stored with
  | some stored =>
      dsimp only at hrest
      split_ifs at hrest
      · cases hrest
      · obtain ⟨rfl, -⟩ := Tx.commit_ok hrest
        exact .kept
  | none =>
  obtain ⟨db₂, stored', hsubmission, hpair⟩ := Tx.bind_ok hrest
  obtain ⟨rfl, -⟩ := Tx.read_ok hsubmission
  cases stored' with
  | some stored' =>
      dsimp only at hpair
      split_ifs at hpair
      · cases hpair
      · obtain ⟨rfl, -⟩ := Tx.commit_ok hpair
        exact .kept
  | none =>
  obtain ⟨db₃, pair, hjoin, hsource⟩ := Tx.bind_ok hpair
  obtain ⟨rfl, hselected⟩ := Tx.read_ok hjoin
  cases pair with
  | none => cases hsource
  | some pair =>
  obtain ⟨g, completed⟩ := pair
  dsimp only at hsource
  split_ifs at hsource with hmodified
  · cases hsource
  · obtain ⟨db₄, previousBest, hbest, hprofile⟩ := Tx.bind_ok hsource
    obtain ⟨rfl, hprevious⟩ := Tx.read_ok hbest
    obtain ⟨db₅, ⟨⟩, hensure, hread⟩ := Tx.bind_ok hprofile
    obtain rfl := Tx.write_ok hensure
    obtain ⟨db₆, profile, hlocked, hupdate⟩ := Tx.bind_ok hread
    obtain ⟨rfl, hcurrent⟩ := Tx.read_ok hlocked
    obtain ⟨db₇, ⟨⟩, hwrite, hinsert⟩ := Tx.bind_ok hupdate
    obtain rfl := Tx.write_ok hwrite
    obtain ⟨db₈, ⟨⟩, hexecute, hanswer⟩ := Tx.bind_ok hinsert
    obtain ⟨f, hquery, rfl⟩ := Tx.execute_ok hexecute
    obtain ⟨rfl, -⟩ := Tx.commit_ok hanswer
    obtain ⟨rfl, hfresh, hfresh'⟩ := insertResult_ok hquery
    cases hprevious
    cases hcurrent
    exact .appended g ⟨resultId, generationId, submissionId, arenaScore env g completed, _, _⟩ _ _
      (arenaPair_some (Except.ok.inj hselected)) hfresh hfresh' rfl

/-! ## Runs -/

theorem sumOfBests_solved (scored : List (Uuid × Int)) :
    sumOfBests (fun _ best => if solvedBy best then 1 else 0) scored
      = ((scoredVersions scored).filter fun v => solvedBy (bestOf v scored) = true).card := by
  unfold sumOfBests
  exact (Finset.natCast_card_filter _ _).symm

/-- **The arena.** In every run of any users' finalizations, statement by
statement, the rating is the one the user began with and what each version
adds by its best score, the solved count is that of the versions whose best
score is at least 70, the submissions are counted, and no generation or
submission has two results. -/
theorem arena_rating_follows_bests [Runtime F] (env : ArenaEnvironment F)
    {s t : SerialState ArenaTables Uuid (ArenaRequest F) Failure ArenaResultView}
    {trace : SerialTrace ArenaTables Uuid (ArenaRequest F) Failure ArenaResultView}
    (hrun : Run (SerialStep ArenaRequest.user (arenaProgram env)) s trace t)
    (hfree : ∀ user, s.holder user = none) (user : Uuid) (hresults : (s.store user).results = [])
    (hsolved : (s.store user).profileView.solvedCount = 0)
    (hsubmissions : (s.store user).profileView.submissionCount = 0) :
    let db := t.store user
    db.profileView.rating = (s.store user).profileView.rating
        + ∑ v ∈ scoredVersions db.scored, bestRating (env.difficulty v) (bestOf v db.scored)
      ∧ db.profileView.solvedCount
        = ((scoredVersions db.scored).filter fun v => solvedBy (bestOf v db.scored) = true).card
      ∧ db.profileView.submissionCount = db.results.length
      ∧ (db.results.map ArenaResult.generationId).Nodup
      ∧ (db.results.map ArenaResult.submissionId).Nodup := by
  have hscored : (s.store user).scored = [] := by
    unfold ArenaTables.scored
    rw [hresults]
    rfl
  have hinit : (s.store user).Consistent env (s.store user).profileView.rating := by
    refine ⟨?_, ?_, ?_, ?_, ?_⟩
    · rw [hscored]
      exact (Int.add_zero _).symm
    · rw [hscored, hsolved]
      rfl
    · rw [hresults, hsubmissions]
      rfl
    · rw [hresults]
      exact List.nodup_nil
    · rw [hresults]
      exact List.nodup_nil
  have hlast : (t.store user).Consistent env (s.store user).profileView.rating :=
    (run_atomic hrun hfree user).invariant
      (I := ArenaTables.Consistent env (s.store user).profileView.rating)
      (fun x hx hstep => (finalize_ok hstep).consistent hx) hinit
  exact ⟨hlast.rating, hlast.solved.trans (sumOfBests_solved _), hlast.submissions,
    hlast.generation_nodup, hlast.submission_nodup⟩

/-! A generation that is submitted and finalized. -/

def arenaSample : ArenaEnvironment NanoFloat where
  version _ := ⟨"two-sum", some (Str.ofString "advanced"), .null⟩
  casefold text := text
  arith := {
    correctness := fun passed total => (140 * passed + total) / (2 * total)
    quality := fun _ => 0 }

def arenaStart : SerialState ArenaTables Uuid (ArenaRequest NanoFloat) Failure ArenaResultView :=
  ⟨fun _ => ⟨[⟨"generation-1", "version-1", "Use a map.", "pass"⟩], [], none⟩, fun _ => none⟩

def passing : CompletedSubmission NanoFloat :=
  ⟨"version-1", "pass", .arr [.obj [("passed", .bool true)]], 3, 3, some 400, .nano⟩

def finalizing : ArenaRequest NanoFloat :=
  ⟨"ada", "generation-1", "submission-1", some passing, "result-1"⟩

/-- All tests pass within 400 ms: a total of 90 for a rating of 1039. -/
theorem arena_rating_follows_bests_once : ∃ t trace,
    Run (SerialStep ArenaRequest.user (arenaProgram arenaSample)) arenaStart trace t
      ∧ (t.store "ada").profileView.rating = 1039
      ∧ (t.store "ada").profileView.rating
        = 1000 + ∑ v ∈ scoredVersions (t.store "ada").scored,
          bestRating (arenaSample.difficulty v) (bestOf v (t.store "ada").scored) := by
  have hrows : ∃ rows a,
      (arenaProgram arenaSample finalizing).runAlone (arenaStart.store "ada") = .ok (rows, a)
        ∧ rows.profileView.rating = 1039 := ⟨_, _, by rfl, by rfl⟩
  obtain ⟨rows, a, hfinalize, hrating⟩ := hrows
  obtain ⟨trace, hrun, -⟩ := exists_run_atomic ArenaRequest.user "ada" (s := arenaStart)
    (.cons (a := (finalizing, a)) hfinalize (.nil rows))
    (fun x hx => by cases List.mem_singleton.mp hx; rfl) rfl rfl
  obtain ⟨hfollows, -⟩ := arena_rating_follows_bests arenaSample hrun (fun _ => rfl) "ada" rfl rfl rfl
  refine ⟨_, trace, hrun, ?_, hfollows⟩
  rw [arenaStart.leave_store]
  exact hrating

end Rigor
