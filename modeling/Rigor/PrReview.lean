import Rigor.ExecutionClaims
import Rigor.SerialTransactions
import Rigor.Tables
import Mathlib.Data.List.MinMax
import Mathlib.Data.List.Sort

/-!
# Reviews of pull requests

`pr_review_domain.py` and the requests of `pr_review_routes.py`. A session that
was submitted is final: its columns are the grade of its comments, and neither
changes again (`submitted_reviews_final`). The arithmetic of the grade is a
parameter.
-/

namespace Rigor

open Py Transactions Runs

variable {F : Type}

/-! ## Grading -/

inductive ReviewSeverity where
  | info | minor | major | blocker
  deriving DecidableEq

/-- `_SEVERITY_RANK`. -/
def severityRank : ReviewSeverity → Nat
  | .info => 0
  | .minor => 1
  | .major => 2
  | .blocker => 3

inductive ReviewVerdict where
  | approve | comment | requestChanges
  deriving DecidableEq

structure DiffLine where
  oldLine : Option Nat
  newLine : Option Nat

structure ReviewFile where
  path : Str
  lines : List DiffLine

structure ReviewCommentInput where
  file : Str
  line : Int
  severity : ReviewSeverity
  message : Str

structure GradedFinding where
  id : Str
  file : Str
  line : Int
  severity : ReviewSeverity
  title : Str
  explanation : Str
  deriving DecidableEq

structure ChallengeSpec where
  id : Str
  files : List ReviewFile
  findings : List GradedFinding

structure ReviewGrade (F : Type) where
  score : Int
  caught : List GradedFinding
  missed : List GradedFinding
  falsePositiveCount : Nat
  severityAccuracy : F
  precision : F
  recallScore : F
  reasoningQuality : F
  verdictCorrect : Bool

/-- The float arithmetic of a grade. -/
structure GradeArith (F : Type) where
  zero : F
  /-- `a / b` -/
  ratio : Nat → Nat → F
  /-- `min(length / 80, 1.0)` -/
  capped : Nat → F
  /-- `sum(values) / len(values)` -/
  mean : List F → F
  /-- `round` of the weighted recall, precision, severity accuracy and
  reasoning quality with the points for the verdict -/
  total : F → F → F → F → Nat → Int

def capturePath : Str := "apps/api/src/payments/capture.ts"

def finalizePath : Str := "apps/api/src/orders/finalize.ts"

def stripePath : Str := "apps/api/src/webhooks/stripe.ts"

/-- `_PAYMENTS_RETRY`. -/
def paymentsRetry : ChallengeSpec where
  id := "payments-retry-001"
  files := [
    ⟨capturePath, [⟨some 8, some 8⟩, ⟨some 9, some 9⟩, ⟨none, some 10⟩, ⟨some 10, some 11⟩,
      ⟨some 11, none⟩, ⟨none, some 12⟩, ⟨some 12, some 13⟩, ⟨some 13, some 14⟩,
      ⟨some 14, some 15⟩]⟩,
    ⟨finalizePath, [⟨some 4, some 4⟩, ⟨none, some 5⟩, ⟨some 5, some 6⟩, ⟨some 6, some 7⟩,
      ⟨some 7, none⟩, ⟨none, some 8⟩]⟩,
    ⟨stripePath, [⟨some 5, some 5⟩, ⟨some 6, none⟩, ⟨none, some 6⟩, ⟨some 7, some 7⟩,
      ⟨some 8, some 8⟩, ⟨some 9, some 9⟩]⟩]
  findings := [
    { id := "unstable-idempotency-key"
      file := capturePath
      line := 12
      severity := .blocker
      title := "Retry idempotency is broken"
      explanation :=
        ("Appending the current timestamp creates a new idempotency key for every " : Str)
          ++ "retry, so the provider can process duplicate captures." },
    { id := "paid-before-capture"
      file := finalizePath
      line := 5
      severity := .major
      title := "Order state commits before payment succeeds"
      explanation :=
        ("The order is marked paid before capture returns. A provider failure leaves " : Str)
          ++ "internal state claiming payment succeeded." },
    { id := "unsigned-webhook"
      file := stripePath
      line := 6
      severity := .blocker
      title := "Webhook signature verification was removed"
      explanation :=
        ("Parsing request JSON directly allows an unauthenticated caller to forge " : Str)
          ++ "payment success events." }]

/-- `_CHALLENGES.get`. -/
def challengeFor (challengeId : Str) : Option ChallengeSpec :=
  Tables.find ChallengeSpec.id challengeId [paymentsRetry]

def reviewLocationIsValid (challengeId filePath : Str) (lineNumber : Nat) : Bool :=
  match challengeFor challengeId with
  | none => false
  | some spec =>
      match Tables.find ReviewFile.path filePath spec.files with
      | none => false
      | some file => file.lines.any fun line => (line.newLine <|> line.oldLine) = some lineNumber

/-- `_matching_finding`: the nearest one, the first of equals. -/
def matchingFinding (comment : ReviewCommentInput) (available : List GradedFinding) :
    Option GradedFinding :=
  (available.filter fun finding =>
    finding.file = comment.file ∧ (finding.line - comment.line).natAbs ≤ 1).argmin
      fun finding => (finding.line - comment.line).natAbs

/-- What the loop over the comments has matched. -/
structure Matching where
  unmatched : List GradedFinding
  found : List (ReviewCommentInput × GradedFinding)
  falsePositiveCount : Nat

def Matching.add (m : Matching) (comment : ReviewCommentInput) : Matching :=
  match matchingFinding comment m.unmatched with
  | none => { m with falsePositiveCount := m.falsePositiveCount + 1 }
  | some finding =>
      { m with
        unmatched := m.unmatched.erase finding
        found := m.found ++ [(comment, finding)] }

def gradeReview (arith : GradeArith F) (challengeId : Str) (comments : List ReviewCommentInput)
    (verdict : ReviewVerdict) : Except Failure (ReviewGrade F) :=
  match challengeFor challengeId with
  | none => .error (.value "Unknown PR review challenge")
  | some spec =>
      let m := comments.foldl Matching.add ⟨spec.findings, [], 0⟩
      let caught := m.found.map Prod.snd
      let recallScore := arith.ratio caught.length spec.findings.length
      let precision :=
        if comments = [] then arith.zero else arith.ratio caught.length comments.length
      let severityAccuracy :=
        if m.found = [] then arith.zero
        else
          arith.ratio (m.found.countP fun x => severityRank x.1.severity = severityRank x.2.severity)
            m.found.length
      let reasoningQuality :=
        if comments = [] then arith.zero
        else arith.mean (comments.map fun c => arith.capped (strip c.message).length)
      let verdictCorrect : Bool := verdict = .requestChanges
      .ok {
        score := arith.total recallScore precision severityAccuracy reasoningQuality
          (if verdictCorrect then 5 else 0)
        caught := caught
        missed := m.unmatched
        falsePositiveCount := m.falsePositiveCount
        severityAccuracy := severityAccuracy
        precision := precision
        recallScore := recallScore
        reasoningQuality := reasoningQuality
        verdictCorrect := verdictCorrect }

/-! ## Tables -/

inductive ReviewStatus where
  | active | submitted
  deriving DecidableEq

/-- A row of `pr_review_sessions`. -/
structure ReviewSession (F : Type) where
  id : Uuid
  challengeId : Str
  status : ReviewStatus
  verdict : Option ReviewVerdict
  score : Option Int
  recallScore : Option F
  precision : Option F
  severityAccuracy : Option F
  reasoningQuality : Option F
  verdictCorrect : Option Bool
  startedAt : Time
  updatedAt : Time
  submittedAt : Option Time

/-- A row of `pr_review_comments`. -/
structure ReviewComment where
  id : Uuid
  sessionId : Uuid
  filePath : Str
  lineNumber : Nat
  severity : ReviewSeverity
  message : Str
  createdAt : Time

/-- The rows of one user. -/
structure ReviewTables (F : Type) where
  sessions : List (ReviewSession F)
  comments : List ReviewComment

/-- `ORDER BY created_at, id`. -/
def ReviewComment.Before (a b : ReviewComment) : Prop :=
  a.createdAt < b.createdAt ∨ (a.createdAt = b.createdAt ∧ ¬b.id < a.id)

instance : DecidableRel ReviewComment.Before := fun _ _ => inferInstanceAs (Decidable (_ ∨ _))

namespace ReviewTables

def session (sessionId : Uuid) (db : ReviewTables F) : Option (ReviewSession F) :=
  Tables.find ReviewSession.id sessionId db.sessions

/-- The comments of a session, as stored. -/
def commentsOf (sessionId : Uuid) (db : ReviewTables F) : List ReviewComment :=
  db.comments.filter fun c => c.sessionId = sessionId

/-- `_comment_rows`. -/
def commentRows (sessionId : Uuid) (db : ReviewTables F) : List ReviewComment :=
  (db.commentsOf sessionId).insertionSort ReviewComment.Before

def updateSession (sessionId : Uuid) (f : ReviewSession F → ReviewSession F)
    (db : ReviewTables F) : ReviewTables F :=
  { db with sessions := Tables.update ReviewSession.id sessionId f db.sessions }

end ReviewTables

/-! ## The transactions -/

def newReviewSession (sessionId : Uuid) (challengeId : Str) (clock : Clock) :
    ReviewSession F where
  id := sessionId
  challengeId := challengeId
  status := .active
  verdict := none
  score := none
  recallScore := none
  precision := none
  severityAccuracy := none
  reasoningQuality := none
  verdictCorrect := none
  startedAt := clock.database
  updatedAt := clock.database
  submittedAt := none

/-- `_session_row`. -/
def reviewSessionRow (sessionId : Uuid) (db : ReviewTables F) :
    Except Failure (ReviewSession F) :=
  match db.session sessionId with
  | none => .error (.http 404 "PR review session not found")
  | some s => .ok s

/-- `_require_active_session`. -/
def requireActiveReview (sessionId : Uuid) (db : ReviewTables F) :
    Except Failure (ReviewSession F) :=
  match reviewSessionRow sessionId db with
  | .error e => .error e
  | .ok s =>
      if s.status ≠ .active then
        .error (.http 409 "PR review session has already been submitted")
      else .ok s

/-- `create_review_session`. -/
def createReviewSessionTx (challengeId : Str) (sessionId : Uuid) (clock : Clock) :
    Tx (ReviewTables F) Failure (ReviewSession F) :=
  if (challengeFor challengeId).isNone then
    .rollback (.http 404 "PR review challenge not found")
  else do
    Tx.execute fun db =>
      if (db.session sessionId).isSome then .error (.integrity "pr_review_sessions")
      else .ok (fun db =>
        { db with sessions := db.sessions ++ [newReviewSession sessionId challengeId clock] }, ())
    Tx.read (reviewSessionRow sessionId)

structure ReviewCommentCreate where
  file : Str
  line : Nat
  severity : ReviewSeverity
  message : Str

def touchReview (sessionId : Uuid) (clock : Clock) : ReviewTables F → ReviewTables F :=
  ReviewTables.updateSession sessionId fun s => { s with updatedAt := clock.database }

/-- `create_review_comment`. -/
def createReviewCommentTx (sessionId : Uuid) (payload : ReviewCommentCreate) (commentId : Uuid)
    (clock : Clock) : Tx (ReviewTables F) Failure ReviewComment := do
  let s ← Tx.read (requireActiveReview sessionId)
  if reviewLocationIsValid s.challengeId payload.file payload.line = false then
    .rollback (.http 422 "Review comment targets an unknown diff line")
  else
    let c : ReviewComment := ⟨commentId, sessionId, payload.file, payload.line, payload.severity,
      payload.message, clock.database⟩
    Tx.write fun db => { db with comments := db.comments ++ [c] }
    Tx.write (touchReview sessionId clock)
    pure c

/-- The row that a delete removes. -/
def ReviewComment.Deletes (sessionId commentId : Uuid) (c : ReviewComment) : Prop :=
  c.id = commentId ∧ c.sessionId = sessionId

instance (sessionId commentId : Uuid) (c : ReviewComment) :
    Decidable (c.Deletes sessionId commentId) :=
  inferInstanceAs (Decidable (_ ∧ _))

/-- `delete_review_comment`. -/
def deleteReviewCommentTx (sessionId commentId : Uuid) (clock : Clock) :
    Tx (ReviewTables F) Failure Unit := do
  let _ ← Tx.read (requireActiveReview sessionId)
  let deleted ← Tx.execute fun db =>
    .ok (fun db : ReviewTables F =>
        { db with comments := db.comments.filter fun c => ¬c.Deletes sessionId commentId },
      db.comments.any fun c => c.Deletes sessionId commentId)
  if deleted = false then .rollback (.http 404 "PR review comment not found")
  else Tx.write (touchReview sessionId clock)

def ReviewComment.toInput (c : ReviewComment) : ReviewCommentInput :=
  ⟨c.filePath, c.lineNumber, c.severity, c.message⟩

/-- The columns that a submission sets. -/
def ReviewSession.submit (verdict : ReviewVerdict) (grade : ReviewGrade F) (clock : Clock)
    (s : ReviewSession F) : ReviewSession F :=
  { s with
    status := .submitted
    verdict := some verdict
    score := some grade.score
    recallScore := some grade.recallScore
    precision := some grade.precision
    severityAccuracy := some grade.severityAccuracy
    reasoningQuality := some grade.reasoningQuality
    verdictCorrect := some grade.verdictCorrect
    updatedAt := clock.database
    submittedAt := some clock.database }

/-- `submit_review_session`. -/
def submitReviewSessionTx (arith : GradeArith F) (sessionId : Uuid) (verdict : ReviewVerdict)
    (clock : Clock) : Tx (ReviewTables F) Failure (ReviewSession F × ReviewGrade F) := do
  let s ← Tx.read (requireActiveReview sessionId)
  let rows ← Tx.read fun db => .ok (db.commentRows sessionId)
  if rows = [] then
    .rollback (.http 422 "Add at least one review comment before submitting")
  else
    let grade ← Tx.ofExcept
      (gradeReview arith s.challengeId (rows.map ReviewComment.toInput) verdict)
    Tx.write (ReviewTables.updateSession sessionId (ReviewSession.submit verdict grade clock))
    let s' ← Tx.read (reviewSessionRow sessionId)
    pure (s', grade)

/-- The comments are those of the payload that its validators leave. -/
inductive ReviewRequest where
  | create (user : Uuid) (challengeId : Str) (sessionId : Uuid) (clock : Clock)
  | comment (user sessionId : Uuid) (payload : ReviewCommentCreate) (commentId : Uuid)
      (clock : Clock)
  | delete (user sessionId commentId : Uuid) (clock : Clock)
  | submit (user sessionId : Uuid) (verdict : ReviewVerdict) (clock : Clock)

def ReviewRequest.user : ReviewRequest → Uuid
  | create user .. => user
  | comment user .. => user
  | delete user .. => user
  | submit user .. => user

/-- What the requests answer. -/
inductive ReviewAnswer (F : Type) where
  | session (s : ReviewSession F)
  | comment (c : ReviewComment)
  | deleted
  | graded (s : ReviewSession F) (grade : ReviewGrade F)

def reviewProgram (arith : GradeArith F) :
    ReviewRequest → Tx (ReviewTables F) Failure (ReviewAnswer F)
  | .create _ challengeId sessionId clock => do
      let s ← createReviewSessionTx challengeId sessionId clock
      pure (.session s)
  | .comment _ sessionId payload commentId clock => do
      let c ← createReviewCommentTx sessionId payload commentId clock
      pure (.comment c)
  | .delete _ sessionId commentId clock => do
      deleteReviewCommentTx sessionId commentId clock
      pure .deleted
  | .submit _ sessionId verdict clock => do
      let graded ← submitReviewSessionTx arith sessionId verdict clock
      pure (.graded graded.1 graded.2)

/-! ## Finality -/

/-- The columns of a submitted session are the grade of its comments. -/
def ReviewSession.Graded (arith : GradeArith F) (db : ReviewTables F) (s : ReviewSession F) :
    Prop :=
  ∃ verdict grade,
    gradeReview arith s.challengeId ((db.commentRows s.id).map ReviewComment.toInput) verdict
        = .ok grade
      ∧ s.verdict = some verdict ∧ s.score = some grade.score ∧ s.recallScore = some grade.recallScore
      ∧ s.precision = some grade.precision ∧ s.severityAccuracy = some grade.severityAccuracy
      ∧ s.reasoningQuality = some grade.reasoningQuality
      ∧ s.verdictCorrect = some grade.verdictCorrect

/-- Every submitted session is graded. -/
def ReviewTables.AllGraded (arith : GradeArith F) (db : ReviewTables F) : Prop :=
  ∀ sessionId s, db.session sessionId = some s → s.status = .submitted → s.Graded arith db

/-- What one request does: it leaves the other sessions, its own was not
submitted, and is graded if it is now. -/
structure ReviewKeeps (arith : GradeArith F) (sessionId : Uuid) (db db' : ReviewTables F) :
    Prop where
  others : ∀ id ≠ sessionId,
    db'.session id = db.session id ∧ db'.commentsOf id = db.commentsOf id
  open' : ∀ s, db.session sessionId = some s → s.status = .active
  graded : ∀ s, db'.session sessionId = some s → s.status = .submitted → s.Graded arith db'

section Request

variable {arith : GradeArith F} {sessionId : Uuid} {clock : Clock} {db db' : ReviewTables F}

theorem ReviewSession.Graded.congr {s : ReviewSession F} (h : s.Graded arith db)
    (hcomments : db'.commentsOf s.id = db.commentsOf s.id) : s.Graded arith db' := by
  unfold Graded ReviewTables.commentRows at h ⊢
  rwa [hcomments]

/-- A submitted session and its comments stay as they are. -/
theorem ReviewKeeps.final (h : ReviewKeeps arith sessionId db db') {id : Uuid}
    {s : ReviewSession F} (hs : db.session id = some s) (hsubmitted : s.status = .submitted) :
    db'.session id = some s ∧ db'.commentsOf id = db.commentsOf id := by
  have hne : id ≠ sessionId := by
    rintro rfl
    cases (h.open' s hs).symm.trans hsubmitted
  obtain ⟨hsession, hcomments⟩ := h.others id hne
  exact ⟨hsession.trans hs, hcomments⟩

theorem ReviewKeeps.allGraded (h : ReviewKeeps arith sessionId db db')
    (hdb : db.AllGraded arith) : db'.AllGraded arith := by
  intro id s hs hsubmitted
  by_cases hid : id = sessionId
  · subst hid
    exact h.graded s hs hsubmitted
  · obtain ⟨hsession, hcomments⟩ := h.others id hid
    rw [hsession] at hs
    have hkey : s.id = id := Tables.key_of_find hs
    exact (hdb id s hs hsubmitted).congr (hkey ▸ hcomments)

theorem requireActiveReview_ok {s : ReviewSession F}
    (h : requireActiveReview sessionId db = .ok s) :
    db.session sessionId = some s ∧ s.status = .active := by
  unfold requireActiveReview reviewSessionRow at h
  cases hsession : db.session sessionId with
  | none =>
      rw [hsession] at h
      cases h
  | some s' =>
      rw [hsession] at h
      dsimp only at h
      split_ifs at h with hstatus
      cases h
      exact ⟨rfl, not_not.mp hstatus⟩

theorem session_updateSession {f : ReviewSession F → ReviewSession F} (hf : ∀ s, (f s).id = s.id)
    (id : Uuid) :
    (db.updateSession sessionId f).session id
      = (db.session id).map fun s => if s.id = sessionId then f s else s :=
  Tables.find_update hf

theorem session_updateSession_ne {f : ReviewSession F → ReviewSession F}
    (hf : ∀ s, (f s).id = s.id) {id : Uuid} (hid : id ≠ sessionId) :
    (db.updateSession sessionId f).session id = db.session id := by
  rw [session_updateSession hf]
  cases hs : db.session id with
  | none => rfl
  | some s =>
      have hkey : s.id = id := Tables.key_of_find hs
      exact congrArg some (if_neg (hkey ▸ hid))

theorem session_updateSession_eq {f : ReviewSession F → ReviewSession F}
    (hf : ∀ s, (f s).id = s.id) :
    (db.updateSession sessionId f).session sessionId = (db.session sessionId).map f := by
  rw [session_updateSession hf]
  cases hs : db.session sessionId with
  | none => rfl
  | some s =>
      have hkey : s.id = sessionId := Tables.key_of_find hs
      exact congrArg some (if_pos hkey)

theorem commentsOf_append_ne {c : ReviewComment} {id : Uuid} (hid : c.sessionId ≠ id) :
    ({ db with comments := db.comments ++ [c] } : ReviewTables F).commentsOf id
      = db.commentsOf id := by
  unfold ReviewTables.commentsOf
  have hnone : [c].filter (fun c => decide (c.sessionId = id)) = [] :=
    List.filter_eq_nil_iff.mpr fun c' hc' => by
      rw [List.mem_singleton.mp hc']
      simpa using hid
  rw [List.filter_append, hnone, List.append_nil]

theorem commentsOf_delete_ne {commentId id : Uuid} (hid : id ≠ sessionId) :
    ({ db with comments := db.comments.filter fun c => ¬c.Deletes sessionId commentId } :
      ReviewTables F).commentsOf id = db.commentsOf id := by
  unfold ReviewTables.commentsOf
  rw [List.filter_filter]
  refine List.filter_congr fun c _ => ?_
  by_cases hc : c.sessionId = id
  · have hkept : ¬c.Deletes sessionId commentId := fun h => hid (hc.symm.trans h.2)
    simp [hc, hkept]
  · simp [hc]

/-- A request that leaves the session active, with other comments. -/
theorem ReviewKeeps.touched {s : ReviewSession F} (hs : db.session sessionId = some s)
    (hactive : s.status = .active) {comments : List ReviewComment}
    (hothers : ∀ id ≠ sessionId,
      (⟨db.sessions, comments⟩ : ReviewTables F).commentsOf id = db.commentsOf id) :
    ReviewKeeps arith sessionId db (touchReview sessionId clock ⟨db.sessions, comments⟩) := by
  refine ⟨fun id hid => ⟨?_, hothers id hid⟩, fun s' hs' => ?_, fun s' hs' hsubmitted => ?_⟩
  · exact session_updateSession_ne (by exact fun _ => rfl) hid
  · cases hs.symm.trans hs'
    exact hactive
  · have hfound : (touchReview sessionId clock ⟨db.sessions, comments⟩).session sessionId
        = (db.session sessionId).map fun s => { s with updatedAt := clock.database } :=
      session_updateSession_eq (by exact fun _ => rfl)
    rw [hfound, hs] at hs'
    cases hs'
    cases hactive.symm.trans hsubmitted

theorem createReview_ok {challengeId : Str} {s : ReviewSession F}
    (h : (createReviewSessionTx challengeId sessionId clock).runAlone db = .ok (db', s)) :
    ReviewKeeps arith sessionId db db' := by
  unfold createReviewSessionTx at h
  split_ifs at h with hchallenge
  · cases h
  · obtain ⟨db₁, ⟨⟩, hinsert, hread⟩ := Tx.bind_ok h
    obtain ⟨f, hquery, rfl⟩ := Tx.execute_ok hinsert
    obtain ⟨rfl, -⟩ := Tx.read_ok hread
    split_ifs at hquery with hexists
    cases hquery
    have hnone : db.session sessionId = none := Option.not_isSome_iff_eq_none.mp hexists
    refine ⟨fun id hid => ⟨?_, rfl⟩, fun s' hs' => ?_, fun s' hs' hsubmitted => ?_⟩
    · unfold ReviewTables.session Tables.find
      rw [List.find?_append, List.find?_cons_of_neg (by simp [newReviewSession, Ne.symm hid]),
        List.find?_nil, Option.or_none]
    · cases hnone.symm.trans hs'
    · unfold ReviewTables.session Tables.find at hs' hnone
      rw [List.find?_append, hnone, List.find?_cons_of_pos (by simp [newReviewSession])] at hs'
      cases hs'
      cases hsubmitted

theorem comment_ok {payload : ReviewCommentCreate} {commentId : Uuid} {c : ReviewComment}
    (h : (createReviewCommentTx sessionId payload commentId clock).runAlone db = .ok (db', c)) :
    ReviewKeeps arith sessionId db db' := by
  obtain ⟨db₁, s, hcheck, hvalid⟩ := Tx.bind_ok h
  obtain ⟨rfl, hquery⟩ := Tx.read_ok hcheck
  obtain ⟨hs, hactive⟩ := requireActiveReview_ok hquery
  split_ifs at hvalid with hlocation
  · cases hvalid
  · obtain ⟨db₂, ⟨⟩, hinsert, htouch⟩ := Tx.bind_ok hvalid
    obtain rfl := Tx.write_ok hinsert
    obtain ⟨db₃, ⟨⟩, hupdate, hanswer⟩ := Tx.bind_ok htouch
    obtain rfl := Tx.write_ok hupdate
    obtain ⟨rfl, -⟩ := Tx.commit_ok hanswer
    exact .touched hs hactive fun id hid => commentsOf_append_ne (Ne.symm hid)

theorem delete_ok {commentId : Uuid} {u : Unit}
    (h : (deleteReviewCommentTx sessionId commentId clock).runAlone db = .ok (db', u)) :
    ReviewKeeps arith sessionId db db' := by
  obtain ⟨db₁, s, hcheck, hdelete⟩ := Tx.bind_ok h
  obtain ⟨rfl, hquery⟩ := Tx.read_ok hcheck
  obtain ⟨hs, hactive⟩ := requireActiveReview_ok hquery
  obtain ⟨db₂, deleted, hexecute, htouch⟩ := Tx.bind_ok hdelete
  obtain ⟨f, hrows, rfl⟩ := Tx.execute_ok hexecute
  cases hrows
  split_ifs at htouch with hdeleted
  · cases htouch
  · obtain rfl := Tx.write_ok htouch
    exact .touched hs hactive fun id hid => commentsOf_delete_ne hid

theorem submit_ok {verdict : ReviewVerdict} {answer : ReviewSession F × ReviewGrade F}
    (h : (submitReviewSessionTx arith sessionId verdict clock).runAlone db = .ok (db', answer)) :
    ReviewKeeps arith sessionId db db' := by
  obtain ⟨db₁, s, hcheck, hcomments⟩ := Tx.bind_ok h
  obtain ⟨rfl, hquery⟩ := Tx.read_ok hcheck
  obtain ⟨hs, hactive⟩ := requireActiveReview_ok hquery
  obtain ⟨db₂, rows, hread, hgrade⟩ := Tx.bind_ok hcomments
  obtain ⟨rfl, hrows⟩ := Tx.read_ok hread
  cases hrows
  split_ifs at hgrade with hnone
  · cases hgrade
  · obtain ⟨db₃, grade, hgraded, hwrite⟩ := Tx.bind_ok hgrade
    obtain ⟨rfl, hgrading⟩ := Tx.ofExcept_ok hgraded
    obtain ⟨db₄, ⟨⟩, hupdate, hview⟩ := Tx.bind_ok hwrite
    obtain rfl := Tx.write_ok hupdate
    obtain ⟨db₅, s', hreturning, hanswer⟩ := Tx.bind_ok hview
    obtain ⟨rfl, -⟩ := Tx.read_ok hreturning
    obtain ⟨rfl, -⟩ := Tx.commit_ok hanswer
    have hid : ∀ s : ReviewSession F, (s.submit verdict grade clock).id = s.id := fun _ => rfl
    refine ⟨fun id hne => ⟨session_updateSession_ne hid hne, rfl⟩, fun s' hs' => ?_,
      fun s' hs' _ => ?_⟩
    · cases hs.symm.trans hs'
      exact hactive
    · rw [session_updateSession_eq hid, hs] at hs'
      cases hs'
      have hkey : s.id = sessionId := Tables.key_of_find hs
      refine ⟨verdict, grade, ?_, rfl, rfl, rfl, rfl, rfl, rfl, rfl⟩
      rw [← hkey] at hgrading
      exact hgrading

theorem review_ok {r : ReviewRequest} {a : ReviewAnswer F}
    (h : (reviewProgram arith r).runAlone db = .ok (db', a)) :
    ∃ sessionId, ReviewKeeps arith sessionId db db' := by
  cases r with
  | create user challengeId sessionId clock =>
      obtain ⟨db₁, s, hcreate, hanswer⟩ := Tx.bind_ok h
      obtain ⟨rfl, -⟩ := Tx.commit_ok hanswer
      exact ⟨sessionId, createReview_ok hcreate⟩
  | comment user sessionId payload commentId clock =>
      obtain ⟨db₁, c, hcomment, hanswer⟩ := Tx.bind_ok h
      obtain ⟨rfl, -⟩ := Tx.commit_ok hanswer
      exact ⟨sessionId, comment_ok hcomment⟩
  | delete user sessionId commentId clock =>
      obtain ⟨db₁, u, hdelete, hanswer⟩ := Tx.bind_ok h
      obtain ⟨rfl, -⟩ := Tx.commit_ok hanswer
      exact ⟨sessionId, delete_ok hdelete⟩
  | submit user sessionId verdict clock =>
      obtain ⟨db₁, graded, hsubmit, hanswer⟩ := Tx.bind_ok h
      obtain ⟨rfl, -⟩ := Tx.commit_ok hanswer
      exact ⟨sessionId, submit_ok hsubmit⟩

end Request

/-! ## Runs -/

/-- **Reviews are final.** In every run of any users' requests, statement by
statement, every submitted session is graded by exactly its comments, and once
a session is submitted its row and its comments stay as they are. -/
theorem submitted_reviews_final (arith : GradeArith F)
    {s t : SerialState (ReviewTables F) Uuid ReviewRequest Failure (ReviewAnswer F)}
    {trace : SerialTrace (ReviewTables F) Uuid ReviewRequest Failure (ReviewAnswer F)}
    (hrun : Run (SerialStep ReviewRequest.user (reviewProgram arith)) s trace t)
    (hfree : ∀ user, s.holder user = none) (user : Uuid)
    (hempty : (s.store user).sessions = []) :
    (∀ sessionId row, (t.store user).session sessionId = some row → row.status = .submitted →
      row.Graded arith (t.store user))
      ∧ ∃ log : List (Taken (ReviewTables F) (ReviewRequest × ReviewAnswer F)),
        log = trace.filterMap (answered ReviewRequest.user user)
          ∧ Run (Atomic (reviewProgram arith)) (s.store user) log (t.store user)
          ∧ ∀ x ∈ log, ∀ sessionId row, x.target.session sessionId = some row →
            row.status = .submitted →
            (t.store user).session sessionId = some row
              ∧ (t.store user).commentsOf sessionId = x.target.commentsOf sessionId := by
  have hatomic := run_atomic hrun hfree user
  have hinit : (s.store user).AllGraded arith := by
    intro sessionId row hrow
    unfold ReviewTables.session at hrow
    rw [hempty] at hrow
    cases hrow
  have hkeeps : ∀ x : Taken (ReviewTables F) (ReviewRequest × ReviewAnswer F),
      Atomic (reviewProgram arith) x.source x.label x.target →
      ∃ sessionId, ReviewKeeps arith sessionId x.source x.target := fun x hx => review_ok hx
  refine ⟨hatomic.invariant (I := ReviewTables.AllGraded arith) (fun x hx hstep => ?_) hinit, _,
    rfl, hatomic, fun x hx sessionId row hrow hsubmitted => ?_⟩
  · obtain ⟨sessionId, hkeep⟩ := hkeeps x hstep
    exact hkeep.allGraded hx
  · have hlast := hatomic.kept (I := fun _ => True)
      (Q := fun (_ : ReviewRequest × ReviewAnswer F) (db : ReviewTables F) =>
        db.session sessionId = some row
          ∧ db.commentsOf sessionId = x.target.commentsOf sessionId)
      (fun _ _ _ => trivial) ?_ trivial x hx ⟨hrow, rfl⟩
    · exact hlast
    · rintro _ y - hstep ⟨hsession, hcomments⟩
      obtain ⟨id, hkeep⟩ := hkeeps y hstep
      obtain ⟨hsession', hcomments'⟩ := hkeep.final hsession hsubmitted
      exact ⟨hsession', hcomments'.trans hcomments⟩

/-! A session with one comment, submitted. -/

/-- The arithmetic over the rationals, where `round` meets no half. -/
def exactArith : GradeArith Rat where
  zero := 0
  ratio a b := a / b
  capped length := min (length / 80) 1
  mean values := values.sum / values.length
  total recallScore precision severityAccuracy reasoningQuality points :=
    (recallScore * 50 + precision * 20 + severityAccuracy * 15 + reasoningQuality * 10 + points
      + 1 / 2).floor

def reviewStart : SerialState (ReviewTables Rat) Uuid ReviewRequest Failure (ReviewAnswer Rat) :=
  ⟨fun _ => ⟨[], []⟩, fun _ => none⟩

def unstableKey : ReviewCommentCreate :=
  ⟨capturePath, 12, .blocker, "The key changes with every retry."⟩

theorem submitted_reviews_final_once : ∃ t trace,
    Run (SerialStep ReviewRequest.user (reviewProgram exactArith)) reviewStart trace t
      ∧ ∃ row, (t.store "ada").session "session-1" = some row ∧ row.status = .submitted
        ∧ row.Graded exactArith (t.store "ada") := by
  have hrows : ∃ created commented submitted a b c,
      Atomic (reviewProgram exactArith) ⟨[], []⟩
        (.create "ada" "payments-retry-001" "session-1" ⟨1, 1⟩, a) created
      ∧ Atomic (reviewProgram exactArith) created
        (.comment "ada" "session-1" unstableKey "comment-1" ⟨2, 2⟩, b) commented
      ∧ Atomic (reviewProgram exactArith) commented
        (.submit "ada" "session-1" .requestChanges ⟨3, 3⟩, c) submitted
      ∧ ∃ row, submitted.session "session-1" = some row ∧ row.status = .submitted :=
    ⟨_, _, _, _, _, _, rfl, rfl, rfl, _, rfl, rfl⟩
  obtain ⟨created, commented, submitted, a, b, c, hcreate, hcomment, hsubmit, row, hrow, hstatus⟩ :=
    hrows
  obtain ⟨trace, hrun, -⟩ := exists_run_atomic ReviewRequest.user "ada" (s := reviewStart)
    (.cons hcreate (.cons hcomment (.cons hsubmit (.nil submitted))))
    (fun x hx => by
      simp only [List.mem_cons, List.not_mem_nil, or_false] at hx
      rcases hx with rfl | rfl | rfl <;> rfl) rfl rfl
  obtain ⟨hgraded, -⟩ := submitted_reviews_final exactArith hrun (fun _ => rfl) "ada" rfl
  have hrow' : ((reviewStart.leave "ada" submitted).store "ada").session "session-1" = some row := by
    rw [reviewStart.leave_store]
    exact hrow
  exact ⟨_, trace, hrun, row, hrow', hstatus, hgraded "session-1" row hrow' hstatus⟩

end Rigor
